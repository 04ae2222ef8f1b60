import AgentflowHermes.ConfigRoundTrip

namespace AgentflowHermes.Config

open TextLines

/-- A text of one line. -/
def Unbroken (s : String) : Prop := ∀ c ∈ s.toList, lineBreak c = false

theorem unbroken_literal {cs : List Char} (plain : (cs.all fun c => !lineBreak c) = true) : Unbroken (String.ofList cs) := by
  intro c mem
  rw [String.toList_ofList] at mem
  simpa using List.all_eq_true.mp plain c mem

theorem unbroken_append {s t : String} : Unbroken (s ++ t) ↔ Unbroken s ∧ Unbroken t := by
  unfold Unbroken
  rw [String.toList_append]
  exact List.forall_mem_append

theorem seen_unbroken {c : Char} (visible : seen c = true) : lineBreak c = false := by
  cases broken : lineBreak c with
  | false => rfl
  | true =>
    have known : c = '\n' ∨ c = '\r' ∨ c = '\x0b' ∨ c = '\x0c' ∨ c = '\x1c' ∨ c = '\x1d' ∨ c = '\x1e' ∨ c = '\x85' ∨
        c = '\u2028' ∨ c = '\u2029' := by simpa [lineBreak] using broken
    rcases known with rfl | rfl | rfl | rfl | rfl | rfl | rfl | rfl | rfl | rfl
    all_goals exact absurd visible (by decide)

theorem NameLike.unbroken {s : String} (name : NameLike s.toList) : Unbroken s :=
  fun c mem => seen_unbroken (isIdentChar_seen (name.all c mem)).1

section

variable {r : Reader} (doc : Documented r) (v : ConfigValues r.text)

/-- The texts in quotes are of one line each. -/
structure ConfigValues.OneLine {T : PyText} (v : ConfigValues T) : Prop where
  origin : Unbroken v.origin.1
  returnTo : Unbroken v.returnTo.1
  goalAnchor : ∀ anchor ∈ v.goalAnchor, Unbroken anchor.1

variable {v} (plain : v.OneLine)

include plain

theorem head_unbroken : ∀ line ∈ v.head, Unbroken line := by
  have mode : Unbroken (if v.applyMode then "true" else "false") := by
    split
    · exact unbroken_literal rfl
    · exact unbroken_literal rfl
  simp only [ConfigValues.head, List.forall_mem_cons, unbroken_append, mode, plain.origin, plain.returnTo,
    v.board.nameLike.unbroken, v.implAssignee.nameLike.unbroken, v.reviewAssignee.nameLike.unbroken,
    v.transition.nameLike.unbroken, and_true]
  repeat' apply And.intro
  all_goals first
    | exact unbroken_literal rfl
    | exact fun _ none' => absurd none' List.not_mem_nil

theorem tail_unbroken : ∀ line ∈ v.tail, Unbroken line := by
  have steps : ∀ line ∈ v.template.steps.map (fun step => "      - " ++ step.kind), Unbroken line := by
    intro line mem
    obtain ⟨step, given, rfl⟩ := List.mem_map.mp mem
    exact unbroken_append.mpr ⟨unbroken_literal rfl,
      (key_nameLike (kinds_ident v.resolved _ (List.mem_map_of_mem given))).unbroken⟩
  have anchors : ∀ line ∈ v.goalAnchor.toList.map (fun anchor => "    goal_anchor: \"" ++ anchor.1 ++ "\""), Unbroken line := by
    intro line mem
    obtain ⟨anchor, given, rfl⟩ := List.mem_map.mp mem
    exact unbroken_append.mpr ⟨unbroken_append.mpr ⟨unbroken_literal rfl, plain.goalAnchor anchor (Option.mem_toList.mp given)⟩,
      unbroken_literal rfl⟩
  have presets : ∀ line ∈ v.templatePreset.toList.map (fun preset => "    template_preset: " ++ preset.1), Unbroken line := by
    intro line mem
    obtain ⟨preset, _, rfl⟩ := List.mem_map.mp mem
    exact unbroken_append.mpr ⟨unbroken_literal rfl, preset.nameLike.unbroken⟩
  simp only [ConfigValues.tail, List.forall_mem_append, List.forall_mem_cons, unbroken_append, (roadmap_nameLike v).unbroken,
    v.fromSlice.nameLike.unbroken, v.toSlice.nameLike.unbroken, (key_nameLike (version_ident v)).unbroken, and_true]
  refine ⟨⟨⟨⟨⟨?_, presets⟩, anchors⟩, ?_⟩, steps⟩, ?_⟩
  all_goals
    repeat' apply And.intro
    all_goals first
      | exact unbroken_literal rfl
      | exact fun _ none' => absurd none' List.not_mem_nil

include doc in
/-- The lines of a config that is rendered. -/
theorem render_cleaned : cleanLines r v.render = v.cleaned r := by
  have joined : v.render.toList = ['\n'].intercalate ((v.head ++ v.tail).map String.toList ++ [[]]) := by
    rw [ConfigValues.render, String.toList_intercalate, @List.map_append _ _ String.toList (v.head ++ v.tail) [""]]
    rfl
  have unbroken : ∀ line ∈ (v.head ++ v.tail).map String.toList, ∀ c ∈ line, lineBreak c = false := by
    intro line mem
    obtain ⟨text, given, rfl⟩ := List.mem_map.mp mem
    rcases List.mem_append.mp given with given | given
    · exact head_unbroken plain text given
    · exact tail_unbroken plain text given
  have cleaned := (head_cleans doc v).append (tail_cleans doc v)
  unfold cleanLines
  rw [joined, splitlines_intercalate unbroken, cleaned]
  simp [ConfigValues.cleaned]

end

/-! What the lines are read as. -/

/-- The fields of the transition. -/
def ConfigValues.fields (r : Reader) (v : ConfigValues r.text) : List (String × Json) :=
  withEntries (Dicts.set "policy_refs" (.arr ((refItems r).map Prod.snd))
    (Dicts.set "slice_template" (.arr ((v.kindItems r).map Prod.snd)) (withEntries [] (v.transitionEntries r))))
    (v.transitionEnd r)

/-- The fields of the config, with what its transitions are read as. -/
def ConfigValues.payload (r : Reader) (v : ConfigValues r.text) (transitions : Json) : List (String × Json) :=
  Dicts.set "transitions" transitions (withEntries (Dicts.set "allowed_transitions" (.arr [nameValue r v.transition.1.toList])
    (Dicts.set "trusted_assignees" (.arr [nameValue r v.reviewAssignee.1.toList]) (withEntries [] (v.before r))))
    (ConfigValues.after r))

section

variable {r : Reader} (doc : Documented r) (v : ConfigValues r.text)

include doc

theorem ident_item (x : Ident) : Tidy r (nameItem r x.1).1 ∧ parseScalar r (nameItem r x.1).1 = some (nameItem r x.1).2 :=
  ⟨x.nameLike.tidy doc, parseScalar_name doc x.nameLike x.short⟩

theorem parseMapping_key {n m room fuel : Nat} (deeper : n < m) {key : String} (ident : isIdent key = true)
    (whole : ':' ∉ key.toList) {xs : List (List Char × Json)} (given : xs ≠ []) {rest : List (List Char)}
    {fields : List (String × Json)} (read : ∀ i ∈ xs, Tidy r i.1 ∧ parseScalar r i.1 = some i.2)
    (stop : ∀ line ∈ rest.head?, indentOf line ≠ m) :
    parseMapping r (fuel + 1) (room + 1) n fields (headLine n key.toList :: (items m xs ++ rest)) =
      parseMapping r fuel (room + 1) n (Dicts.set key (.arr (xs.map Prod.snd)) fields) rest := by
  obtain ⟨first, others, rfl⟩ := List.exists_cons_of_ne_nil given
  have step := @parseMapping_list r doc n m room fuel deeper key.toList (key_nameLike ident) whole first others rest fields read stop
  rw [String.ofList_toList] at step
  exact step

omit doc in
theorem head_apart {n m : Nat} {key : List Char} {rest : List (List Char)} (name : NameLike key) (apart : n ≠ m) :
    ∀ line ∈ (headLine n key :: rest).head?, indentOf line ≠ m := by
  intro line mem
  cases mem
  rw [indentOf_head n name]
  exact apart

omit doc in
theorem entries_apart {n m : Nat} {es : List Entry} {rest : List (List Char)} (good : ∀ e ∈ es, e.Good r) (apart : n ≠ m)
    (stop : ∀ line ∈ rest.head?, indentOf line ≠ m) : ∀ line ∈ (es.map (Entry.line n) ++ rest).head?, indentOf line ≠ m := by
  cases es with
  | nil => exact stop
  | cons e es =>
    intro line mem
    cases mem
    rw [Entry.line, indentOf_entry n (good e List.mem_cons_self).name]
    exact apart

theorem parse_fields {fuel room : Nat} (enough : (v.transitionEntries r).length + 4 ≤ fuel) :
    parseMapping r fuel (room + 1) 4 [] (v.transitionLines r) = .ok (v.fields r, []) := by
  have ends := transitionEnd_good doc v
  have kindsGiven : v.kindItems r ≠ [] := fun empty => v.template.nonempty (List.map_eq_nil_iff.mp empty)
  have kindsRead : ∀ i ∈ v.kindItems r, Tidy r i.1 ∧ parseScalar r i.1 = some i.2 := by
    intro i mem
    obtain ⟨step, given, rfl⟩ := List.mem_map.mp mem
    exact ident_item doc ⟨step.kind, kinds_ident v.resolved step.kind (List.mem_map_of_mem given)⟩
  have refsRead : ∀ i ∈ refItems r, Tidy r i.1 ∧ parseScalar r i.1 = some i.2 := by
    intro i mem
    simp only [refItems, List.mem_cons, List.not_mem_nil, or_false] at mem
    rcases mem with rfl | rfl
    · exact ident_item doc ⟨"design_opus", by decide⟩
    · exact ident_item doc ⟨"implementation_default", by decide⟩
  obtain ⟨spare, rfl⟩ : ∃ spare, fuel = (v.transitionEntries r).length + ((spare + 2 + 1) + 1) :=
    ⟨fuel - ((v.transitionEntries r).length + 4), by omega⟩
  have refsGiven : refItems r ≠ [] := List.cons_ne_nil _ _
  have none' : ∀ line ∈ ([] : List (List Char)).head?, indentOf line ≠ 6 := fun _ none' => absurd none' (Option.not_mem_none _)
  have last := entries_apart (n := 4) ends (by decide) none'
  rw [List.append_nil] at last
  unfold ConfigValues.transitionLines ConfigValues.fields
  rw [parseMapping_entries doc (transitionEntries_good doc v) (by omega), Nat.add_sub_cancel_left,
    parseMapping_key doc (by decide) (by decide) (by decide) kindsGiven kindsRead (head_apart (key_nameLike (by decide)) (by decide)),
    parseMapping_key doc (by decide) (by decide) (by decide) refsGiven refsRead last,
    ← List.append_nil ((v.transitionEnd r).map (Entry.line 4)), parseMapping_entries doc ends (Nat.le_add_left 2 spare : (v.transitionEnd r).length ≤ spare + 2),
    parseMapping_stop fun _ none' => absurd none' (Option.not_mem_none _)]

omit doc in
theorem before_length : (v.before r).length = 10 := rfl

/-- What a config is read as, up to its transitions. -/
theorem parse_payload {fuel room : Nat} (enough : 23 ≤ fuel) :
    parseMapping r fuel (room + 1) 0 [] (v.cleaned r) =
      parseMapping r (fuel - 20) (room + 1) 0
        (withEntries (Dicts.set "allowed_transitions" (.arr [nameValue r v.transition.1.toList])
          (Dicts.set "trusted_assignees" (.arr [nameValue r v.reviewAssignee.1.toList]) (withEntries [] (v.before r))))
          (ConfigValues.after r))
        (headLine 0 "transitions".toList :: headLine 2 v.transition.1.toList :: v.transitionLines r) := by
  obtain ⟨spare, rfl⟩ : ∃ spare, fuel = 10 + ((8 + spare + 1) + 1) := ⟨fuel - 20, by omega⟩
  have reviewRead : ∀ i ∈ [nameItem r v.reviewAssignee.1], Tidy r i.1 ∧ parseScalar r i.1 = some i.2 := by
    intro i mem
    rw [List.mem_singleton.mp mem]
    exact ident_item doc v.reviewAssignee
  have transitionRead : ∀ i ∈ [nameItem r v.transition.1], Tidy r i.1 ∧ parseScalar r i.1 = some i.2 := by
    intro i mem
    rw [List.mem_singleton.mp mem]
    exact ident_item doc v.transition
  have after := after_good doc
  unfold ConfigValues.cleaned
  rw [parseMapping_entries doc (before_good doc v) (by rw [before_length]; omega), before_length, Nat.add_sub_cancel_left,
    parseMapping_key doc (by decide) (by decide) (by decide) (List.cons_ne_nil _ _) reviewRead
      (head_apart (key_nameLike (by decide)) (by decide)),
    parseMapping_key doc (by decide) (by decide) (by decide) (List.cons_ne_nil _ _) transitionRead
      (entries_apart after (by decide) (head_apart (key_nameLike (by decide)) (by decide))),
    parseMapping_entries doc after (Nat.le_add_right 8 spare)]
  have left : 8 + spare - (ConfigValues.after r).length = 10 + (8 + spare + 1 + 1) - 20 := by
    have eight : (ConfigValues.after r).length = 8 := rfl
    omega
  rw [left]
  rfl

theorem parseMapping_block {n m room fuel : Nat} (deeper : n < m) {key : List Char} (name : NameLike key) (whole : ':' ∉ key)
    {line : List Char} {lines rest : List (List Char)} {fields inner : List (String × Json)} (indented : indentOf line = m)
    (entry : itemOf r line = none) (read : parseMapping r fuel room m [] (line :: lines) = .ok (inner, rest)) :
    parseMapping r (fuel + 1) (room + 1) n fields (headLine n key :: line :: lines) =
      parseMapping r fuel (room + 1) n (Dicts.set (String.ofList key) (.obj inner) fields) rest := by
  rw [parseMapping_nested doc deeper name whole indented entry, read]

/-- The blocks that are open where the transition is read. -/
theorem room_spare : ∃ room, r.room = room + 4 := ⟨r.room - 4, by have deep := doc.deep; omega⟩

theorem parse_cleaned : parseLines r (v.cleaned r) =
    (parseMapping r (v.cleaned r).length (r.room - 1) 0 [] (v.cleaned r)).map fun p => (.obj p.1, p.2) := by
  obtain ⟨room, deep⟩ := room_spare doc
  obtain ⟨others, lines⟩ : ∃ others, v.cleaned r = (nameEntry r "enabled" "true").line 0 :: others := ⟨_, rfl⟩
  have good := before_good doc v _ List.mem_cons_self
  have entry : itemOf r ((nameEntry r "enabled" "true").line 0) = none := itemOf_entry doc 0 good.name good.tidy
  have indent : indentOf ((nameEntry r "enabled" "true").line 0) = 0 := indentOf_entry 0 good.name
  rw [lines]
  unfold parseLines
  dsimp only
  rw [deep, parseBlock]
  rw [indent, entry, if_neg (Nat.lt_irrefl 0), if_neg (by decide)]

theorem first_transition_line : ∃ line rest, v.transitionLines r = line :: rest ∧ indentOf line = 4 ∧ itemOf r line = none := by
  have good := transitionEntries_good doc v (nameEntry r "roadmap_id" v.roadmap) List.mem_cons_self
  exact ⟨(nameEntry r "roadmap_id" v.roadmap).line 4, _, rfl, indentOf_entry 4 good.name, itemOf_entry doc 4 good.name good.tidy⟩

omit doc in
theorem cleaned_length : 23 + (v.transitionLines r).length ≤ (v.cleaned r).length := by
  simp only [ConfigValues.cleaned, List.length_append, List.length_map, List.length_cons, items, List.length_nil]
  have ten : (v.before r).length = 10 := rfl
  have eight : (ConfigValues.after r).length = 8 := rfl
  omega

theorem parse_whole (plain : v.OneLine) (whole : ':' ∉ v.transition.1.toList) :
    parseMinimalYaml r v.render = .ok (.obj (v.payload r (.obj [(v.transition.1, .obj (v.fields r))]))) := by
  obtain ⟨room, deep⟩ := room_spare doc
  obtain ⟨line, rest, lines, indent, entry⟩ := first_transition_line doc v
  have long := cleaned_length v
  have fieldsLong : (v.transitionEntries r).length + 4 ≤ (v.transitionLines r).length := by
    simp only [ConfigValues.transitionLines, List.length_append, List.length_map, List.length_cons, items]
    have two : (v.transitionEnd r).length = 2 := rfl
    omega
  obtain ⟨spare, enough⟩ : ∃ spare, (v.cleaned r).length = 20 + (spare + 1 + 1) := ⟨(v.cleaned r).length - 22, by omega⟩
  have fields : parseMapping r spare (room + 1) 4 [] (v.transitionLines r) = .ok (v.fields r, []) :=
    parse_fields doc v (by omega)
  have stop {n : Nat} : ∀ line ∈ ([] : List (List Char)).head?, indentOf line ≠ n := fun _ none' =>
    absurd none' (Option.not_mem_none _)
  have transition : parseMapping r (spare + 1) (room + 2) 2 [] (headLine 2 v.transition.1.toList :: v.transitionLines r) =
      .ok ([(v.transition.1, .obj (v.fields r))], []) := by
    rw [lines] at fields ⊢
    rw [parseMapping_block doc (by decide) v.transition.nameLike whole indent entry fields, parseMapping_stop stop,
      String.ofList_toList]
    rfl
  have read : parseMapping r (v.cleaned r).length (r.room - 1) 0 [] (v.cleaned r) =
      .ok (v.payload r (.obj [(v.transition.1, .obj (v.fields r))]), []) := by
    have less : r.room - 1 = room + 3 := by omega
    rw [less, enough, parse_payload doc v (by omega), Nat.add_sub_cancel_left,
      parseMapping_block doc (by decide) (key_nameLike (by decide)) (by decide) (indentOf_head 2 v.transition.nameLike)
        (itemOf_head doc 2 v.transition.nameLike) transition, parseMapping_stop stop, String.ofList_toList]
    rfl
  unfold parseMinimalYaml
  rw [render_cleaned doc plain, parse_cleaned doc v, read, Except.map, Except.map]

omit doc in
theorem parseScalar_scalar {cs : List Char} {value : Json} (read : parseScalar r cs = some value) :
    ∀ fields, value ≠ .obj fields := by
  rintro fields rfl
  unfold parseScalar at read
  dsimp only at read
  repeat' split at read
  all_goals first
    | cases read
    | (obtain ⟨n, _, other⟩ := Option.map_eq_some_iff.mp read; cases other)

omit doc in
theorem NameLike.front {key after : List Char} (name : NameLike (key ++ ':' :: after)) : NameLike key := by
  obtain ⟨c, rest, chars, letter, others⟩ := name
  cases key with
  | nil =>
    rw [List.nil_append] at chars
    rw [← (List.cons.inj chars).1] at letter
    exact absurd letter (by decide)
  | cons k ks =>
    rw [List.cons_append] at chars
    obtain ⟨same, tail⟩ := List.cons.inj chars
    refine ⟨k, ks, rfl, same ▸ letter, fun d mem => others d ?_⟩
    rw [← tail]
    exact List.mem_append_left _ mem

/-- A key before a colon, with the rest of the line as its value. -/
theorem parse_scalarLine {n fuel room : Nat} {key after : List Char} {rest : List (List Char)} {fields : List (String × Json)}
    (name : NameLike key) (whole : ':' ∉ key) (tight : Tight r after) (given : after ≠ []) :
    parseMapping r (fuel + 1) room n fields ((List.replicate n ' ' ++ (key ++ ':' :: after)) :: rest) =
      match parseScalar r after with
      | none => .error .valueError
      | some value => parseMapping r fuel room n (Dicts.set (String.ofList key) value fields) rest := by
  have last : ∀ d ∈ (key ++ ':' :: after).getLast?, r.text.isSpace d = false := by
    intro d mem
    obtain ⟨c, cs, rfl⟩ := List.exists_cons_of_ne_nil given
    rw [List.getLast?_append_cons, List.getLast?_cons_cons] at mem
    exact tight.2 d mem
  have indented : indentOf (List.replicate n ' ' ++ (key ++ ':' :: after)) = n := by
    obtain ⟨c, cs, rfl, solid, _⟩ := name.solid
    exact indentOf_core n _ solid
  rw [parseMapping, indented, if_neg (not_not.mpr rfl), entryOf_named doc n name whole last, strip_tight tight.1 tight.2]
  dsimp only
  exact if_pos given

/-- A transition with a colon is read as an entry of the part before it. -/
theorem parse_split (plain : v.OneLine) (colon : ':' ∈ v.transition.1.toList) :
    (∃ e, parseMinimalYaml r v.render = .error e) ∨ ∃ key value, (∀ fields, value ≠ .obj fields) ∧
      parseMinimalYaml r v.render = .ok (.obj (v.payload r (.obj [(key, value)]))) := by
  obtain ⟨room, deep⟩ := room_spare doc
  obtain ⟨line, rest, lines, indent, entry⟩ := first_transition_line doc v
  have long := cleaned_length v
  obtain ⟨key, after, split, whole⟩ := List.eq_append_cons_of_mem colon
  have name := v.transition.nameLike
  rw [split] at name
  have tight : Tight r (after ++ [':']) := by
    have solid : ∀ c ∈ after ++ [':'], r.text.isSpace c = false := by
      intro c mem
      rcases List.mem_append.mp mem with mem | mem
      · exact doc.solid c (isIdentChar_seen (name.all c (List.mem_append_right _ (List.mem_cons_of_mem _ mem)))).1
      · rw [List.mem_singleton.mp mem]
        exact doc.solid ':' (by decide)
    exact ⟨fun c mem => solid c (List.mem_of_mem_head? mem), fun c mem => solid c (List.mem_of_mem_getLast? mem)⟩
  have title : headLine 2 v.transition.1.toList = List.replicate 2 ' ' ++ (key ++ ':' :: (after ++ [':'])) := by
    rw [headLine, split, List.append_assoc]
    rfl
  obtain ⟨spare, enough⟩ : ∃ spare, (v.cleaned r).length = 20 + (spare + 1 + 1) := ⟨(v.cleaned r).length - 22, by omega⟩
  have stop {n : Nat} (apart : 4 ≠ n) : ∀ l ∈ (v.transitionLines r).head?, indentOf l ≠ n := by
    intro l mem
    rw [lines] at mem
    cases mem
    rw [indent]
    exact apart
  have less : r.room - 1 = room + 3 := by omega
  have transition := @parse_scalarLine r doc 2 spare (room + 2) key (after ++ [':']) (v.transitionLines r) [] name.front whole
    tight (by simp)
  rw [← title] at transition
  have read : parseMapping r (v.cleaned r).length (r.room - 1) 0 [] (v.cleaned r) =
      match parseScalar r (after ++ [':']) with
      | none => .error .valueError
      | some value => .ok (v.payload r (.obj [(String.ofList key, value)]), v.transitionLines r) := by
    rw [less, enough, parse_payload doc v (by omega), Nat.add_sub_cancel_left,
      parseMapping_nested doc (by decide) (key_nameLike (by decide)) (by decide) (indentOf_head 2 v.transition.nameLike)
        (itemOf_head doc 2 v.transition.nameLike), transition]
    cases scalar : parseScalar r (after ++ [':']) with
    | none => rfl
    | some value =>
      dsimp only
      rw [parseMapping_stop (stop (by decide))]
      dsimp only
      rw [parseMapping_stop (stop (by decide)), String.ofList_toList]
      rfl
  unfold parseMinimalYaml
  rw [render_cleaned doc plain, parse_cleaned doc v, read]
  clear read transition title
  cases scalar : parseScalar r (after ++ [':']) with
  | none =>
    dsimp only [Except.map]
    exact .inl ⟨_, rfl⟩
  | some value =>
    dsimp only [Except.map]
    exact .inr ⟨String.ofList key, value, parseScalar_scalar scalar, rfl⟩

end

end AgentflowHermes.Config
