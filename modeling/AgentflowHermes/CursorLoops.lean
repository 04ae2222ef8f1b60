namespace CursorLoops

/-- A loop while a cursor is below a bound. Its body breaks off, or gives the next state and cursor; `out` is the error of a
loop that is cut off after a number of steps. -/
def scan {σ ε : Type} (out : ε) (bound : Int) (body : σ → Int → Except ε (Option (σ × Int))) : Nat → σ → Int → Except ε (σ × Int)
  | 0, _, _ => .error out
  | steps + 1, s, cursor =>
    if cursor < bound then match body s cursor with
      | .error e => .error e
      | .ok none => .ok (s, cursor)
      | .ok (some (s', next)) => scan out bound body steps s' next
    else .ok (s, cursor)

section

variable {σ ε : Type} {out : ε} {bound start : Int} {body : σ → Int → Except ε (Option (σ × Int))}

/-- From a start on, the body moves the cursor towards the bound and not across it. -/
def Moves (bound start : Int) (body : σ → Int → Except ε (Option (σ × Int))) : Prop :=
  ∀ s cursor s' next, start ≤ cursor → cursor < bound → body s cursor = .ok (some (s', next)) → cursor < next ∧ next ≤ bound

theorem Moves.later (moves : Moves bound start body) {cursor : Int} (later : start ≤ cursor) : Moves bound cursor body :=
  fun s at' s' next below => moves s at' s' next (Int.le_trans later below)

theorem scan_past {steps : Nat} {s : σ} (past : bound ≤ start) : scan out bound body (steps + 1) s start = .ok (s, start) := by
  unfold scan
  rw [if_neg (by omega)]

theorem scan_break {steps : Nat} {s : σ} (broken : body s start = .ok none) :
    scan out bound body (steps + 1) s start = .ok (s, start) := by
  unfold scan
  split
  next => rw [broken]
  next => rfl

theorem scan_fail {steps : Nat} {s : σ} (inside : start < bound) {e : ε} (failed : body s start = .error e) :
    scan out bound body (steps + 1) s start = .error e := by
  unfold scan
  rw [if_pos inside, failed]

theorem scan_step {steps : Nat} {s s' : σ} (inside : start < bound) {next : Int} (moved : body s start = .ok (some (s', next))) :
    scan out bound body (steps + 1) s start = scan out bound body steps s' next := by
  rw [scan, if_pos inside, moved]

theorem scan_range (moves : Moves bound start body) {steps : Nat} {s s' : σ} {stop : Int}
    (ended : scan out bound body steps s start = .ok (s', stop)) : start ≤ stop ∧ stop ≤ max start bound := by
  induction steps generalizing s start with
  | zero => cases ended
  | succ steps ih =>
    by_cases inside : start < bound
    · cases read : body s start with
      | error e =>
        rw [scan_fail inside read] at ended
        cases ended
      | ok outcome =>
        cases outcome with
        | none =>
          rw [scan_break read] at ended
          cases ended
          omega
        | some moved =>
          have step := moves s start _ _ (Int.le_refl _) inside read
          rw [scan_step inside read] at ended
          have rest := ih (moves.later (Int.le_of_lt step.1)) ended
          omega
    · rw [scan_past (by omega)] at ended
      cases ended
      omega

/-- A loop whose body does not break off at its start ends behind it. -/
theorem scan_moved (moves : Moves bound start body) {steps : Nat} {s s' : σ} (inside : start < bound)
    (going : body s start ≠ .ok none) {stop : Int} (ended : scan out bound body steps s start = .ok (s', stop)) :
    start < stop := by
  cases steps with
  | zero => cases ended
  | succ steps =>
    cases read : body s start with
    | error e =>
      rw [scan_fail inside read] at ended
      cases ended
    | ok outcome =>
      cases outcome with
      | none => exact absurd read going
      | some moved =>
        have step := moves s start _ _ (Int.le_refl _) inside read
        rw [scan_step inside read] at ended
        have rest := scan_range (moves.later (Int.le_of_lt step.1)) ended
        omega

/-- With more steps than there are places before the bound, a loop fails only where its body does. -/
theorem scan_fails (moves : Moves bound start body) {P : ε → Prop}
    (fails : ∀ s cursor e, start ≤ cursor → cursor < bound → body s cursor = .error e → P e) {steps : Nat} {s : σ}
    (enough : (bound - start).toNat < steps) {e : ε} (failed : scan out bound body steps s start = .error e) : P e := by
  induction steps generalizing s start with
  | zero => omega
  | succ steps ih =>
    by_cases inside : start < bound
    · cases read : body s start with
      | error e' =>
        rw [scan_fail inside read] at failed
        cases failed
        exact fails s start e (Int.le_refl _) inside read
      | ok outcome =>
        cases outcome with
        | none =>
          rw [scan_break read] at failed
          cases failed
        | some moved =>
          have step := moves s start _ _ (Int.le_refl _) inside read
          rw [scan_step inside read] at failed
          refine ih (moves.later (Int.le_of_lt step.1)) (fun s cursor e below => ?_) (by omega) failed
          exact fails s cursor e (by omega)
    · rw [scan_past (by omega)] at failed
      cases failed

/-- Two loops with enough steps end alike if their bodies do, up to an error that one of them may give instead. -/
theorem scan_alike {body' : σ → Int → Except ε (Option (σ × Int))} (moves : Moves bound start body) {Q : Prop} {e : ε}
    (alike : ∀ s cursor, start ≤ cursor → cursor < bound → body' s cursor = body s cursor ∨ (Q ∧ body' s cursor = .error e))
    {steps steps' : Nat} {s : σ} (enough : (bound - start).toNat < steps) (enough' : (bound - start).toNat < steps') :
    scan out bound body' steps' s start = scan out bound body steps s start ∨
      (Q ∧ scan out bound body' steps' s start = .error e) := by
  induction steps generalizing s start steps' with
  | zero => omega
  | succ steps ih =>
    obtain ⟨steps', rfl⟩ : ∃ n, steps' = n + 1 := ⟨steps' - 1, by omega⟩
    by_cases inside : start < bound
    · rcases alike s start (Int.le_refl _) inside with same | ⟨given, failed⟩
      · cases read : body s start with
        | error e' => exact .inl (by rw [scan_fail inside (same.trans read), scan_fail inside read])
        | ok outcome =>
          cases outcome with
          | none => exact .inl (by rw [scan_break (same.trans read), scan_break read])
          | some moved =>
            have step := moves s start _ _ (Int.le_refl _) inside read
            rw [scan_step inside (same.trans read), scan_step inside read]
            refine ih (moves.later (Int.le_of_lt step.1)) (fun s cursor below => ?_) (by omega) (by omega)
            exact alike s cursor (by omega)
      · exact .inr ⟨given, scan_fail inside failed⟩
    · exact .inl (by rw [scan_past (by omega), scan_past (by omega)])

end

end CursorLoops
