namespace ScriptRuns

variable {σ ι ε : Type}

/-- Statements executed one after the other, each of which commits on its own; the first that fails stops the script. -/
def runScript (exec : ι → σ → Except ε σ) : List ι → σ → Except ε σ
  | [], s => .ok s
  | i :: rest, s =>
    match exec i s with
    | .error e => .error e
    | .ok s' => runScript exec rest s'

variable {exec : ι → σ → Except ε σ} {p q : List ι} {s s' : σ}

theorem runScript_append (p q : List ι) (s : σ) :
    runScript exec (p ++ q) s =
      match runScript exec p s with
      | .error e => .error e
      | .ok s' => runScript exec q s' := by
  induction p generalizing s with
  | nil => rfl
  | cons i rest ih =>
    dsimp only [List.cons_append, runScript]
    cases exec i s with
    | error e => rfl
    | ok s' => exact ih s'

theorem runScript_append_ok (h : runScript exec p s = .ok s') : runScript exec (p ++ q) s = runScript exec q s' := by
  rw [runScript_append, h]

/-- A script that has run has run up to each of its statements. -/
theorem runScript_split {s'' : σ} (h : runScript exec (p ++ q) s = .ok s'') :
    ∃ s', runScript exec p s = .ok s' ∧ runScript exec q s' = .ok s'' := by
  rw [runScript_append] at h
  cases hp : runScript exec p s with
  | error e =>
    rw [hp] at h
    cases h
  | ok s' =>
    rw [hp] at h
    exact ⟨s', rfl, h⟩

/-- What every statement of a script preserves, the script preserves. -/
theorem runScript_keeps {P : σ → Prop} (step : ∀ i ∈ p, ∀ s s', exec i s = .ok s' → P s → P s')
    (h : runScript exec p s = .ok s') (hs : P s) : P s' := by
  induction p generalizing s with
  | nil =>
    cases h
    exact hs
  | cons i rest ih =>
    unfold runScript at h
    cases hi : exec i s with
    | error e =>
      rw [hi] at h
      cases h
    | ok t =>
      rw [hi] at h
      have ht := step i List.mem_cons_self s t hi hs
      exact ih (fun j mem => step j (List.mem_cons_of_mem _ mem)) h ht

/-- A script of statements that never fail does not fail. -/
theorem runScript_total (total : ∀ i ∈ p, ∀ s, ∃ s', exec i s = .ok s') : ∃ s', runScript exec p s = .ok s' := by
  induction p generalizing s with
  | nil => exact ⟨s, rfl⟩
  | cons i rest ih =>
    obtain ⟨t, first⟩ := total i List.mem_cons_self s
    obtain ⟨s', later⟩ := ih (s := t) fun j mem => total j (List.mem_cons_of_mem _ mem)
    refine ⟨s', ?_⟩
    unfold runScript
    rw [first]
    exact later

/-- Where every statement that the abstract script executes can be executed, the script runs as the abstract one does. -/
theorem runScript_refines {τ : Type} {abstract : σ → τ} {execA : ι → τ → Except ε τ} {P : σ → Prop}
    (step : ∀ i ∈ p, ∀ s t, P s → execA i (abstract s) = .ok t → ∃ s', exec i s = .ok s' ∧ abstract s' = t ∧ P s')
    {t : τ} (run : runScript execA p (abstract s) = .ok t) (hs : P s) :
    ∃ s', runScript exec p s = .ok s' ∧ abstract s' = t ∧ P s' := by
  induction p generalizing s with
  | nil =>
    cases run
    exact ⟨s, rfl, rfl, hs⟩
  | cons i rest ih =>
    unfold runScript at run
    cases hi : execA i (abstract s) with
    | error e =>
      rw [hi] at run
      cases run
    | ok u =>
      rw [hi] at run
      obtain ⟨s₁, executed, rfl, h₁⟩ := step i List.mem_cons_self s u hs hi
      obtain ⟨s', later, same, hs'⟩ := ih (fun j mem => step j (List.mem_cons_of_mem _ mem)) run h₁
      refine ⟨s', ?_, same, hs'⟩
      unfold runScript
      rw [executed]
      exact later

/-- Where a statement has been executed it has no effect any more, and no statement of the script undoes that. -/
structure Settles (exec : ι → σ → Except ε σ) (p : List ι) (Settled : ι → σ → Prop) : Prop where
  idle : ∀ i ∈ p, ∀ s, Settled i s → exec i s = .ok s
  reached : ∀ i ∈ p, ∀ s s', exec i s = .ok s' → Settled i s'
  kept : ∀ i ∈ p, ∀ j ∈ p, ∀ s s', exec j s = .ok s' → Settled i s → Settled i s'

/-- Statements that settle can be executed again where they have been executed. -/
theorem Settles.rerun {Settled : ι → σ → Prop} (h : Settles exec p Settled) (run : runScript exec p s = .ok s') :
    runScript exec p s' = .ok s' := by
  have settled : ∀ q r, q ++ r = p → ∀ s, runScript exec r s = .ok s' → (∀ i ∈ q, Settled i s) → ∀ i ∈ p, Settled i s' := by
    intro q r
    induction r generalizing q with
    | nil =>
      intro whole s ran before i mem
      cases ran
      rw [List.append_nil] at whole
      exact before i (whole ▸ mem)
    | cons j rest ih =>
      intro whole s ran before
      have inside : j ∈ p := by
        rw [← whole]
        exact List.mem_append_right _ List.mem_cons_self
      unfold runScript at ran
      cases hj : exec j s with
      | error e =>
        rw [hj] at ran
        cases ran
      | ok t =>
        rw [hj] at ran
        refine ih (q ++ [j]) (by rw [← whole, List.append_assoc]; rfl) t ran fun i mem => ?_
        rcases List.mem_append.mp mem with earlier | last
        · have mem : i ∈ p := by
            rw [← whole]
            exact List.mem_append_left _ earlier
          exact h.kept i mem j inside s t hj (before i earlier)
        · rw [List.mem_singleton.mp last]
          exact h.reached j inside s t hj
  have all := settled [] p rfl s run fun i mem => nomatch mem
  have again : ∀ r, (∀ i ∈ r, i ∈ p) → runScript exec r s' = .ok s' := by
    intro r
    induction r with
    | nil => exact fun _ => rfl
    | cons i rest ih =>
      intro sub
      have mem := sub i List.mem_cons_self
      unfold runScript
      rw [h.idle i mem s' (all i mem)]
      exact ih fun j later => sub j (List.mem_cons_of_mem _ later)
  exact again p fun i mem => mem

/-- A script that was cut short where its statements settle ends, run again, as if it had not been. -/
theorem Settles.resume {Settled : ι → σ → Prop} (h : Settles exec p Settled) (run : runScript exec p s = .ok s') :
    runScript exec (p ++ q) s' = runScript exec (p ++ q) s := by
  rw [runScript_append_ok (h.rerun run), runScript_append_ok run]

/-- A statement that fails wherever `Spent` holds, which no statement of the script undoes, stops the script. -/
theorem runScript_spent {Spent : σ → Prop} {i : ι} (mem : i ∈ q) (fails : ∀ s, Spent s → ∃ e, exec i s = .error e)
    (kept : ∀ j ∈ q, ∀ s s', exec j s = .ok s' → Spent s → Spent s') (hs : Spent s) : ∃ e, runScript exec q s = .error e := by
  induction q generalizing s with
  | nil => cases mem
  | cons j rest ih =>
    unfold runScript
    rcases List.mem_cons.mp mem with rfl | later
    · obtain ⟨e, failed⟩ := fails s hs
      rw [failed]
      exact ⟨e, rfl⟩
    · cases hj : exec j s with
      | error e => exact ⟨e, rfl⟩
      | ok t =>
        have ht := kept j List.mem_cons_self s t hj hs
        exact ih later (fun k mem => kept k (List.mem_cons_of_mem _ mem)) ht

end ScriptRuns
