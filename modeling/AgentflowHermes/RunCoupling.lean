import AgentflowHermes.CrashProgram
import Mathlib.Data.List.Forall2

namespace CrashProgram

variable {σ τ Req : Type} {Resp : Req → Type} {α β γ δ ι : Type}

/-- Related results, or the same exception. -/
inductive Outcomes (V : α → β → Prop) : Except String α → Except String β → Prop
  | ok {a b} : V a b → Outcomes V (.ok a) (.ok b)
  | error {e} : Outcomes V (.error e) (.error e)

theorem Outcomes.mono {V V' : α → β → Prop} {r : Except String α} {r' : Except String β} (h : Outcomes V r r')
    (weaker : ∀ a b, V a b → V' a b) : Outcomes V' r r' := by
  cases h with
  | ok hv => exact .ok (weaker _ _ hv)
  | error => exact .error

/-- From related states two programs get related results out of an environment, and leave it and
their states alike. -/
structure Coupled (E : Env Resp ι) (S : σ → τ → Prop) (V : α → β → Prop) (p : Prog σ Resp α) (q : Prog τ Resp β) : Prop where
  runs : ∀ i s t, S s t → Outcomes V (run E p i s).1 (run E q i t).1 ∧ (run E p i s).2.1 = (run E q i t).2.1 ∧
    S (run E p i s).2.2 (run E q i t).2.2

variable {E : Env Resp ι} {S : σ → τ → Prop} {V : α → β → Prop} {W : γ → δ → Prop}

theorem coupled_pure {a : α} {b : β} (h : V a b) : Coupled E S V (.pure a) (.pure b) :=
  ⟨fun _ _ _ hs => ⟨.ok h, rfl, hs⟩⟩

theorem coupled_raise (e : String) : Coupled E S V (.raise e) (.raise e) :=
  ⟨fun _ _ _ hs => ⟨.error, rfl, hs⟩⟩

theorem Coupled.mono {V' : α → β → Prop} {p : Prog σ Resp α} {q : Prog τ Resp β} (h : Coupled E S V p q)
    (weaker : ∀ a b, V a b → V' a b) : Coupled E S V' p q := by
  refine ⟨fun i s t hs => ?_⟩
  obtain ⟨outcomes, env, states⟩ := h.runs i s t hs
  exact ⟨outcomes.mono weaker, env, states⟩

theorem coupled_bind {p : Prog σ Resp α} {q : Prog τ Resp β} {f : α → Prog σ Resp γ} {g : β → Prog τ Resp δ}
    (h : Coupled E S V p q) (next : ∀ a b, V a b → Coupled E S W (f a) (g b)) : Coupled E S W (p >>= f) (q >>= g) := by
  refine ⟨fun i s t hs => ?_⟩
  have first := h.runs i s t hs
  rw [run_bind, run_bind]
  revert first
  generalize run E p i s = left
  generalize run E q i t = right
  rintro ⟨outcomes, env, states⟩
  obtain ⟨a, j, s'⟩ := left
  obtain ⟨b, j', t'⟩ := right
  obtain rfl : j = j' := env
  cases outcomes with
  | ok hv => exact (next _ _ hv).runs j s' t' states
  | error => exact ⟨.error, rfl, states⟩

theorem coupled_get {f : σ → α} {g : τ → β} (h : ∀ s t, S s t → V (f s) (g t)) :
    Coupled E S V (Prog.get f) (Prog.get g) := ⟨fun _ _ _ hs => ⟨.ok (h _ _ hs), rfl, hs⟩⟩

theorem coupled_write {f : σ → σ} {g : τ → τ} {p : σ → Prog σ Resp α} {q : τ → Prog τ Resp β}
    (keeps : ∀ s t, S s t → S (f s) (g t)) (next : ∀ s t, Coupled E S V (p s) (q t)) :
    Coupled E S V (.write f p) (.write g q) :=
  ⟨fun i s t hs => (next s t).runs i (f s) (g t) (keeps s t hs)⟩

/-- A transaction that the other side need not make. -/
theorem coupled_write_left {f : σ → σ} {p : σ → Prog σ Resp α} {q : Prog τ Resp β}
    (keeps : ∀ s t, S s t → S (f s) t) (next : ∀ s, Coupled E S V (p s) q) : Coupled E S V (.write f p) q :=
  ⟨fun i s t hs => (next s).runs i (f s) t (keeps s t hs)⟩

theorem coupled_call (q : Req) {k : Resp q → Prog σ Resp α} {l : Resp q → Prog τ Resp β}
    (next : ∀ r, Coupled E S V (k r) (l r)) : Coupled E S V (.call q k) (.call q l) :=
  ⟨fun i s t hs => (next (E q i).1).runs (E q i).2 s t hs⟩

theorem coupled_ite {c d : Prop} [Decidable c] [Decidable d] {p p' : Prog σ Resp α} {q q' : Prog τ Resp β} (same : c ↔ d)
    (yes : c → Coupled E S V p q) (no : ¬c → Coupled E S V p' q') :
    Coupled E S V (if c then p else p') (if d then q else q') := by
  by_cases hc : c
  · rw [if_pos hc, if_pos (same.mp hc)]
    exact yes hc
  · rw [if_neg hc, if_neg fun hd => hc (same.mpr hd)]
    exact no hc

theorem coupled_forEach {body : α → Prog σ Resp γ} {body' : β → Prog τ Resp δ} {xs : List α} {ys : List β}
    (items : List.Forall₂ V xs ys) (each : ∀ x y, V x y → Coupled E S W (body x) (body' y)) :
    Coupled E S (List.Forall₂ W) (Prog.forEach body xs) (Prog.forEach body' ys) := by
  induction items with
  | nil => exact coupled_pure .nil
  | cons hxy _ ih =>
    exact coupled_bind (each _ _ hxy) fun _ _ hw => coupled_bind ih fun _ _ hws => coupled_pure (.cons hw hws)

end CrashProgram

namespace CrashProgram

variable {σ Req : Type} {Resp : Req → Type} {α β ι : Type}

/-- What a run ends in: `Q` with its result, or `X` after an exception. -/
def Ends (Q : α → ι → σ → Prop) (X : ι → σ → Prop) : Except String α × ι × σ → Prop
  | (.ok a, i, s) => Q a i s
  | (.error _, i, s) => X i s

/-- Against `E`, wherever `P` holds of the environment and the store, the program ends in `Q` or `X`. -/
structure Triple (E : Env Resp ι) (P : ι → σ → Prop) (p : Prog σ Resp α) (Q : α → ι → σ → Prop) (X : ι → σ → Prop) :
    Prop where
  ends : ∀ i s, P i s → Ends Q X (run E p i s)

variable {E : Env Resp ι} {P M : ι → σ → Prop} {Q Q' : α → ι → σ → Prop} {R : β → ι → σ → Prop} {X : ι → σ → Prop}

theorem Triple.of_imp {p : Prog σ Resp α} (h : Triple E M p Q X) (pre : ∀ i s, P i s → M i s) : Triple E P p Q X :=
  ⟨fun i s hp => h.ends i s (pre i s hp)⟩

theorem Ends.mono {r : Except String α × ι × σ} (h : Ends Q X r) (weaker : ∀ a i s, Q a i s → Q' a i s) : Ends Q' X r := by
  obtain ⟨_ | a, i, s⟩ := r
  · exact h
  · exact weaker a i s h

theorem Triple.mono {p : Prog σ Resp α} (h : Triple E P p Q X) (weaker : ∀ a i s, Q a i s → Q' a i s) : Triple E P p Q' X :=
  ⟨fun i s hp => (h.ends i s hp).mono weaker⟩

theorem triple_pure {a : α} (h : ∀ i s, P i s → Q a i s) : Triple E P (.pure a) Q X := ⟨h⟩

theorem triple_return (a : α) : Triple E P (pure a) (fun _ => P) X := ⟨fun _ _ h => h⟩

theorem triple_raise {e : String} (h : ∀ i s, P i s → X i s) : Triple E P (.raise e) Q X := ⟨h⟩

theorem triple_bind {p : Prog σ Resp β} {g : β → Prog σ Resp α} (h : Triple E P p R X) (next : ∀ b, Triple E (R b) (g b) Q X) :
    Triple E P (p >>= g) Q X := by
  refine ⟨fun i s hp => ?_⟩
  have first := h.ends i s hp
  rw [run_bind]
  revert first
  generalize run E p i s = r
  obtain ⟨_ | b, j, t⟩ := r
  · exact fun hx => hx
  · exact fun hr => (next b).ends j t hr

theorem triple_read {k : σ → Prog σ Resp α} (h : ∀ s, Triple E (fun i t => P i t ∧ t = s) (k s) Q X) :
    Triple E P (.read k) Q X := ⟨fun i s hp => (h s).ends i s ⟨hp, rfl⟩⟩

theorem triple_get {f : σ → β} {g : β → Prog σ Resp α} (h : ∀ s, Triple E (fun i t => P i t ∧ t = s) (g (f s)) Q X) :
    Triple E P (Prog.get f >>= g) Q X := ⟨fun i s hp => (h s).ends i s ⟨hp, rfl⟩⟩

theorem triple_write {f : σ → σ} {k : σ → Prog σ Resp α} (step : ∀ i s, P i s → M i (f s))
    (next : ∀ s, Triple E M (k s) Q X) : Triple E P (.write f k) Q X :=
  ⟨fun i s hp => (next s).ends i (f s) (step i s hp)⟩

theorem triple_txn {op : σ → β × σ} {g : β → Prog σ Resp α} (step : ∀ i s, P i s → R (op s).1 i (op s).2)
    (next : ∀ b, Triple E (R b) (g b) Q X) : Triple E P (Prog.txn op >>= g) Q X :=
  ⟨fun i s hp => (next (op s).1).ends i (op s).2 (step i s hp)⟩

theorem triple_call {q : Req} {k : Resp q → Prog σ Resp α} {R : Resp q → ι → σ → Prop}
    (step : ∀ i s, P i s → R (E q i).1 (E q i).2 s) (next : ∀ r, Triple E (R r) (k r) Q X) : Triple E P (.call q k) Q X :=
  ⟨fun i s hp => (next (E q i).1).ends (E q i).2 s (step i s hp)⟩

theorem triple_ite {c : Prop} [Decidable c] {p q : Prog σ Resp α} (yes : c → Triple E P p Q X) (no : ¬c → Triple E P q Q X) :
    Triple E P (if c then p else q) Q X := by
  split
  next h => exact yes h
  next h => exact no h

/-- A loop keeps what each round makes of it; `I` is about the items that are left. -/
theorem triple_forEach {I : List β → ι → σ → Prop} {body : β → Prog σ Resp α} {xs : List β}
    (step : ∀ x xs, Triple E (I (x :: xs)) (body x) (fun _ => I xs) X) :
    Triple E (I xs) (Prog.forEach body xs) (fun _ => I []) X := by
  induction xs with
  | nil => exact triple_pure fun _ _ h => h
  | cons x xs ih => exact triple_bind (step x xs) fun _ => triple_bind ih fun _ => triple_pure fun _ _ h => h

end CrashProgram
