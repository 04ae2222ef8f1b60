import Mathlib.Algebra.Order.Group.Defs

namespace AttemptGate

/-- An attempt that was made, and whether it was a success. -/
structure Attempt (κ τ : Type) where
  key : κ
  time : τ
  done : Bool

variable {κ τ : Type} [AddCommGroup τ] [LinearOrder τ]

/-- What a history lets a key do at a time: no key again after a success, no attempt inside the cooldown of
another. -/
structure LeavesRoom (cooldown : τ) (history : List (Attempt κ τ)) (key : κ) (time : τ) : Prop where
  fresh : ∀ a ∈ history, a.done = true → a.key ≠ key
  cooled : 0 < cooldown → ∀ a ∈ history, a.time + cooldown ≤ time

/-- A history, the latest attempt first, in which every attempt was let by those before it. -/
def Lawful (cooldown : τ) : List (Attempt κ τ) → Prop
  | [] => True
  | a :: earlier => LeavesRoom cooldown earlier a.key a.time ∧ Lawful cooldown earlier

/-- What a gate has to remember of a history: the keys with a success and the time of the latest attempt. -/
structure Remembers (done : κ → Prop) (last : Option τ) (history : List (Attempt κ τ)) : Prop where
  done_iff : ∀ key, done key ↔ ∃ a ∈ history, a.done = true ∧ a.key = key
  last_eq : last = history.head?.map Attempt.time

/-- The check of a gate with that memory. -/
def Admits (cooldown : τ) (done : κ → Prop) (last : Option τ) (key : κ) (time : τ) : Prop :=
  ¬ done key ∧ ¬ (0 < cooldown ∧ ∃ latest ∈ last, time - latest < cooldown)

section

variable {cooldown : τ} {history : List (Attempt κ τ)} {done : κ → Prop} {last : Option τ} {key : κ} {time : τ}

theorem remembers_nil (none_done : ∀ key, ¬ done key) : Remembers (τ := τ) done none [] :=
  ⟨fun key => by simp [none_done key], rfl⟩

/-- An attempt that the gate lets pass and remembers. -/
theorem Remembers.record {done' : κ → Prop} {a : Attempt κ τ} (r : Remembers done last history)
    (h : ∀ key, done' key ↔ done key ∨ (a.done = true ∧ a.key = key)) :
    Remembers done' (some a.time) (a :: history) := by
  refine ⟨fun key => ?_, rfl⟩
  rw [h, r.done_iff, or_comm]
  simp

theorem Lawful.fresh (lawful : Lawful cooldown history) :
    history.Pairwise fun late early => early.done = true → early.key ≠ late.key := by
  induction history with
  | nil => exact .nil
  | cons a earlier ih => exact .cons (fun b mem => lawful.1.fresh b mem) (ih lawful.2)

/-- Two attempts of a lawful history are a cooldown apart, not only neighbours. -/
theorem Lawful.spaced (lawful : Lawful cooldown history) (pos : 0 < cooldown) :
    history.Pairwise fun late early => early.time + cooldown ≤ late.time := by
  induction history with
  | nil => exact .nil
  | cons a earlier ih => exact .cons (fun b mem => lawful.1.cooled pos b mem) (ih lawful.2)

variable [IsOrderedAddMonoid τ]

/-- The latest attempt stands for all of them. -/
theorem Lawful.cooled_iff {a : Attempt κ τ} {earlier : List (Attempt κ τ)} (lawful : Lawful cooldown (a :: earlier))
    (pos : 0 < cooldown) :
    (∀ b ∈ a :: earlier, b.time + cooldown ≤ time) ↔ a.time + cooldown ≤ time := by
  refine ⟨fun h => h a List.mem_cons_self, fun h b mem => ?_⟩
  rcases List.mem_cons.mp mem with rfl | mem
  · exact h
  · have before := lawful.1.cooled pos b mem
    have later : a.time ≤ a.time + cooldown := le_add_of_nonneg_right pos.le
    exact before.trans (later.trans h)

/-- With that little memory the gate lets pass what the whole history lets. -/
theorem Remembers.admits_iff (r : Remembers done last history) (lawful : Lawful cooldown history) :
    Admits cooldown done last key time ↔ LeavesRoom cooldown history key time := by
  have cooled : ¬ (0 < cooldown ∧ ∃ latest ∈ last, time - latest < cooldown) ↔
      (0 < cooldown → ∀ a ∈ history, a.time + cooldown ≤ time) := by
    rw [r.last_eq, not_and]
    refine imp_congr_right fun pos => ?_
    cases history with
    | nil => simp
    | cons a earlier =>
      rw [lawful.cooled_iff pos]
      simp [sub_lt_iff_lt_add']
  have fresh : ¬ done key ↔ ∀ a ∈ history, a.done = true → a.key ≠ key := by
    rw [r.done_iff]
    simp
  rw [Admits, cooled, fresh]
  exact ⟨fun ⟨h, h'⟩ => ⟨h, h'⟩, fun h => ⟨h.fresh, h.cooled⟩⟩

end

end AttemptGate
