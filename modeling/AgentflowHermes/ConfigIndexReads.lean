import AgentflowHermes.ConfigIndices

namespace AgentflowHermes.Config

open CursorLoops

variable {r : Reader} {lines : List (List Char)}

/-- What a run over the rest of the lines gives, against one that keeps the index where the rest begins. -/
inductive Reads (lines : List (List Char)) {α : Type} : Parsed α → ParsedAt α → Prop
  | value (value : α) {n : Nat} (inside : n ≤ lines.length) : Reads lines (.ok (value, lines.drop n)) (.ok (value, n))
  | refused : Reads lines (.error .valueError) (.error .valueError)
  | deep : Reads lines (.error .recursionError) (.error .recursionError)

theorem Reads.map {α β : Type} {f : α → β} {parsed : Parsed α} {parsedAt : ParsedAt α} (reads : Reads lines parsed parsedAt) :
    Reads lines (parsed.map fun p => (f p.1, p.2)) (parsedAt.map fun p => (f p.1, p.2)) := by
  cases reads with
  | value value inside => exact .value (f value) inside
  | refused => exact .refused
  | deep => exact .deep

theorem parseList_reads {indent steps n : Nat} (result : List Json) (inside : n ≤ lines.length)
    (enough : lines.length - n < steps) : Reads lines (parseList r indent result (lines.drop n))
      (scan .outOfSteps lines.length (listEntryAt r lines indent) steps result n) := by
  induction steps generalizing result n with
  | zero => omega
  | succ steps ih =>
    by_cases further : n < lines.length
    · have below : (n : Int) < lines.length := by omega
      rw [List.drop_eq_getElem_cons further]
      unfold parseList
      split
      next apart =>
        have body : listEntryAt r lines indent result n = .ok none := by
          rw [listEntryAt, lineAt_get further]
          exact if_pos (by omega)
        rw [scan_break body, ← List.drop_eq_getElem_cons further]
        exact .value result inside
      next same =>
        have same : ¬ (indentOf lines[n] : Int) ≠ indent := by omega
        split
        next refused =>
          have body : listEntryAt r lines indent result n = .error .valueError := by
            rw [listEntryAt, lineAt_get further]
            dsimp only
            rw [if_neg same, refused]
          rw [scan_fail below body]
          exact .refused
        next item taken =>
          have body : listEntryAt r lines indent result n = .ok (some (result ++ [item], n + 1)) := by
            rw [listEntryAt, lineAt_get further]
            dsimp only
            rw [if_neg same, taken]
          rw [scan_step below body]
          exact ih (result ++ [item]) (by omega) (by omega)
    · have ended : n = lines.length := by omega
      rw [scan_past (by omega), List.drop_of_length_le (by omega)]
      unfold parseList
      simpa [ended] using @Reads.value lines _ result n inside

theorem parseBlock_reads {steps room indent n : Nat} {mapping : Nat → List (List Char) → Parsed (List (String × Json))}
    (inside : n < lines.length) (enough : lines.length - n < steps)
    (nested : ∀ indent : Nat, Reads lines (mapping indent (lines.drop n)) (parseMappingAt r lines steps (room - 1) indent n)) :
    Reads lines (parseBlock r room indent mapping (lines.drop n)) (parseBlockAt r lines steps room indent n) := by
  have below : (n : Int) < lines.length := by omega
  cases room with
  | zero => exact .deep
  | succ room =>
    unfold parseBlockAt
    rw [if_pos below, lineAt_get inside]
    rw [List.drop_eq_getElem_cons inside] at nested ⊢
    unfold parseBlock
    dsimp only
    by_cases shallow : indentOf lines[n] < indent
    · have shallow' : (indentOf lines[n] : Int) < indent := by omega
      rw [if_pos shallow, if_pos shallow', ← List.drop_eq_getElem_cons inside]
      exact .value _ (Nat.le_of_lt inside)
    · have shallow' : ¬ (indentOf lines[n] : Int) < indent := by omega
      rw [if_neg shallow, if_neg shallow']
      by_cases item : (itemOf r lines[n]).isSome
      · rw [if_pos item, if_pos item, ← List.drop_eq_getElem_cons inside]
        exact (parseList_reads [] (Nat.le_of_lt inside) enough).map
      · rw [if_neg item, if_neg item]
        exact (nested (indentOf lines[n])).map

/-- The parser over the rest of the lines reads what the parser over an index does. -/
theorem parseMapping_reads {fuel room indent loops steps n : Nat} (result : List (String × Json)) (inside : n ≤ lines.length)
    (fuelled : lines.length - n ≤ fuel) (looped : lines.length - n < loops) (enough : lines.length - n < steps) :
    Reads lines (parseMapping r fuel room indent result (lines.drop n))
      (scan .outOfSteps lines.length (mappingEntryAt r lines (parseBlockAt r lines loops room) indent) steps result n) := by
  induction fuel generalizing room indent result n steps with
  | zero =>
    have ended : n = lines.length := by omega
    obtain ⟨steps, rfl⟩ : ∃ m, steps = m + 1 := ⟨steps - 1, by omega⟩
    rw [scan_past (by omega)]
    exact .value result inside
  | succ fuel ih =>
    obtain ⟨steps, rfl⟩ : ∃ m, steps = m + 1 := ⟨steps - 1, by omega⟩
    by_cases further : n < lines.length
    · have below : (n : Int) < lines.length := by omega
      have goesOn := fun value => @ih room indent steps (n + 1) value further (by omega) (by omega) (by omega)
      rw [List.drop_eq_getElem_cons further]
      unfold parseMapping
      by_cases same : indentOf lines[n] = indent
      · subst same
        rw [if_neg (not_not.mpr rfl)]
        have body := @mappingEntryAt_entry r lines (parseBlockAt r lines loops room) result n further
        cases entry : entryOf r lines[n] with
        | none =>
          rw [entry] at body
          rw [scan_fail below body]
          exact .refused
        | some parts =>
          obtain ⟨key, after⟩ := parts
          rw [entry] at body
          dsimp only at body ⊢
          by_cases bare : after = []
          · rw [if_neg (not_not.mpr bare)] at body ⊢
            cases rest : lines.drop (n + 1) with
            | nil =>
              rw [List.getElem?_eq_none (List.drop_eq_nil_iff.mp rest)] at body
              have next := goesOn (Dicts.set key .null result)
              rw [rest] at next
              rw [scan_step below body]
              exact next
            | cons next later =>
              have more : n + 1 < lines.length := by
                have shown := congrArg List.length rest
                rw [List.length_drop, List.length_cons] at shown
                omega
              have first : lines[n + 1]? = some next := by
                rw [← List.head?_drop, rest]
                rfl
              rw [first] at body
              dsimp only at body ⊢
              rw [← rest]
              by_cases deeper : indentOf next > indentOf lines[n]
              · have block := @parseBlock_reads r lines loops room (indentOf next) (n + 1)
                  (fun indent => parseMapping r fuel (room - 1) indent []) more (by omega)
                  fun indent => ih [] (by omega) (by omega) (by omega) (by omega)
                have within := @parseBlockAt_within r lines loops room (indentOf next) (n + 1 : Nat) (by omega)
                rw [if_pos deeper] at body ⊢
                generalize parseBlock r room (indentOf next) (fun indent => parseMapping r fuel (room - 1) indent [])
                  (lines.drop (n + 1)) = parsed at block ⊢
                generalize parseBlockAt r lines loops room (indentOf next) (n + 1 : Nat) = parsedAt at block within body
                cases block with
                | refused =>
                  rw [scan_fail below body]
                  exact .refused
                | deep =>
                  rw [scan_fail below body]
                  exact .deep
                | @value value m inside' =>
                  have forth : n + 1 ≤ m := Int.ofNat_le.mp within.1
                  rw [scan_step below body]
                  exact @ih room _ steps m _ inside' (by omega) (by omega) (by omega)
              · rw [if_neg deeper] at body ⊢
                rw [scan_step below body]
                exact goesOn _
          · rw [if_pos bare] at body ⊢
            cases scalar : parseScalar r after with
            | none =>
              rw [scalar] at body
              rw [scan_fail below body]
              exact .refused
            | some value =>
              rw [scalar] at body
              rw [scan_step below body]
              exact goesOn _
      · have body : mappingEntryAt r lines (parseBlockAt r lines loops room) indent result n = .ok none := by
          rw [mappingEntryAt, lineAt_get further]
          exact if_pos (by omega)
        rw [scan_break body, if_pos same, ← List.drop_eq_getElem_cons further]
        exact .value result inside
    · rw [scan_past (by omega), List.drop_of_length_le (by omega)]
      have ended : n = lines.length := by omega
      unfold parseMapping
      simpa [ended] using @Reads.value lines _ result n inside

/-- The parser of a config, which starts at the first line. -/
theorem parseLines_reads {first : List Char} {rest : List (List Char)} (given : lines = first :: rest) {steps : Nat}
    (enough : lines.length < steps) : Reads lines (parseLines r lines) (parseBlockAt r lines steps r.room (indentOf first) 0) := by
  have inside : 0 < lines.length := by
    rw [given]
    exact Nat.succ_pos _
  have block := @parseBlock_reads r lines steps r.room (indentOf first) 0
    (fun indent => parseMapping r lines.length (r.room - 1) indent []) inside enough
    fun indent => parseMapping_reads [] (Nat.zero_le _) (Nat.le_refl _) enough enough
  rw [List.drop_zero] at block
  subst given
  exact block

end AgentflowHermes.Config
