import AgentflowHermes.CrashProgram
import Mathlib.Logic.Function.Basic

namespace CrashProgram

variable {σ Req : Type} {Resp : Req → Type} {α β ι : Type}

/-- What a program is verified against: the responses it may get, the invariant that holds
wherever it may be cut off, the calls it may make, the transactions it may commit and the
exceptions it may raise. -/
structure Contract (σ : Type) {Req : Type} (Resp : Req → Type) where
  ok : ∀ q, Resp q → Prop
  inv : σ → Prop
  may : Req → σ → Prop
  guar : σ → σ → Prop := fun _ _ => True
  raises : String → Prop := fun _ => True

/-- `wp K p Q s`: from `s` every execution of `p` under `K.ok` keeps to the contract and ends in `Q`
when it returns. -/
def wp (K : Contract σ Resp) : Prog σ Resp α → (α → σ → Prop) → σ → Prop
  | .pure a, Q, s => K.inv s ∧ Q a s
  | .raise e, _, s => K.inv s ∧ K.raises e
  | .read k, Q, s => wp K (k s) Q s
  | .write f k, Q, s => K.inv s ∧ K.guar s (f s) ∧ wp K (k s) Q (f s)
  | .call q k, Q, s => K.inv s ∧ K.may q s ∧ ∀ r, K.ok q r → wp K (k r) Q s

variable {K : Contract σ Resp} {Q R : α → σ → Prop} {s : σ}

theorem wp_inv {p : Prog σ Resp α} (h : wp K p Q s) : K.inv s := by
  induction p with
  | pure a => exact h.1
  | raise e => exact h.1
  | read k ih => exact ih s h
  | write f k ih => exact h.1
  | call q k ih => exact h.1

theorem wp_mono {p : Prog σ Resp α} (h : wp K p Q s) (hq : ∀ a t, K.inv t → Q a t → R a t) :
    wp K p R s := by
  induction p generalizing s with
  | pure a => exact ⟨h.1, hq a s h.1 h.2⟩
  | raise e => exact h
  | read k ih => exact ih s h
  | write f k ih => exact ⟨h.1, h.2.1, ih s h.2.2⟩
  | call q k ih => exact ⟨h.1, h.2.1, fun r hr => ih r (h.2.2 r hr)⟩

@[simp] theorem wp_pure (a : α) : wp K (.pure a) Q s ↔ K.inv s ∧ Q a s := Iff.rfl

@[simp] theorem wp_pure' (a : α) : wp K (Pure.pure a : Prog σ Resp α) Q s ↔ K.inv s ∧ Q a s := Iff.rfl

@[simp] theorem wp_raise (e : String) : wp K (.raise e) Q s ↔ K.inv s ∧ K.raises e := Iff.rfl

@[simp] theorem wp_read (k : σ → Prog σ Resp α) : wp K (.read k) Q s ↔ wp K (k s) Q s := Iff.rfl

@[simp] theorem wp_write (f : σ → σ) (k : σ → Prog σ Resp α) :
    wp K (.write f k) Q s ↔ K.inv s ∧ K.guar s (f s) ∧ wp K (k s) Q (f s) := Iff.rfl

@[simp] theorem wp_call (q : Req) (k : Resp q → Prog σ Resp α) :
    wp K (.call q k) Q s ↔ K.inv s ∧ K.may q s ∧ ∀ r, K.ok q r → wp K (k r) Q s := Iff.rfl

theorem wp_bind {p : Prog σ Resp β} {g : β → Prog σ Resp α} :
    wp K (p >>= g) Q s ↔ wp K p (fun b t => wp K (g b) Q t) s := by
  induction p generalizing s with
  | pure a => exact ⟨fun h => ⟨wp_inv h, h⟩, fun h => h.2⟩
  | raise e => exact Iff.rfl
  | read k ih => exact ih s
  | write f k ih => exact and_congr_right fun _ => and_congr_right fun _ => ih s
  | call q k ih =>
    exact and_congr_right fun _ => and_congr_right fun _ => forall_congr' fun r => imp_congr_right fun _ => ih r

@[simp] theorem wp_get {f : σ → α} : wp K (Prog.get f) Q s ↔ K.inv s ∧ Q (f s) s := Iff.rfl

@[simp] theorem wp_txn {op : σ → α × σ} :
    wp K (Prog.txn op) Q s ↔ K.inv s ∧ K.guar s (op s).2 ∧ K.inv (op s).2 ∧ Q (op s).1 (op s).2 := Iff.rfl

theorem wp_get_bind {f : σ → β} {g : β → Prog σ Resp α} : wp K (Prog.get f >>= g) Q s ↔ wp K (g (f s)) Q s := Iff.rfl

theorem wp_txn_bind {op : σ → β × σ} {g : β → Prog σ Resp α} :
    wp K (Prog.txn op >>= g) Q s ↔ K.inv s ∧ K.guar s (op s).2 ∧ wp K (g (op s).1) Q (op s).2 := Iff.rfl

@[simp] theorem wp_ask {q : Req} {Q : Resp q → σ → Prop} :
    wp K (Prog.ask q) Q s ↔ K.inv s ∧ K.may q s ∧ ∀ r, K.ok q r → K.inv s ∧ Q r s := Iff.rfl

/-- The loop rule: `I` speaks about the elements still to come. -/
theorem wp_forEach {body : β → Prog σ Resp α} {I : List β → σ → Prop}
    (step : ∀ x xs s, I (x :: xs) s → wp K (body x) (fun _ t => I xs t) s)
    (stop : ∀ s, I [] s → K.inv s) {xs : List β} (start : I xs s) :
    wp K (Prog.forEach body xs) (fun _ t => I [] t) s := by
  induction xs generalizing s with
  | nil => exact ⟨stop s start, start⟩
  | cons x xs ih =>
    refine wp_bind.mpr (wp_mono (step x xs s start) fun y t _ h => ?_)
    exact wp_bind.mpr (wp_mono (ih h) fun ys u hu hi => ⟨hu, hi⟩)

/-- What the permitted calls keep of an environment, a run keeps. -/
theorem run_keeps_env {E : Env Resp ι} {I : ι → Prop} (allowed : E.Allowed K.ok)
    (kept : ∀ q i s, K.may q s → I i → I (E q i).2) {p : Prog σ Resp α} (h : wp K p Q s) {i : ι} (hi : I i) :
    I (run E p i s).2.1 := by
  induction p generalizing i s with
  | pure a => exact hi
  | raise e => exact hi
  | read k ih => exact ih s h hi
  | write f k ih => exact ih s h.2.2 hi
  | call q k ih => exact ih _ (h.2.2 _ (allowed q i)) (kept q i s h.2.1 hi)

/-- What every call keeps of an environment, any run keeps. -/
theorem run_keeps {E : Env Resp ι} {I : ι → Prop} (kept : ∀ q i, I i → I (E q i).2) (p : Prog σ Resp α) {i : ι} (s : σ)
    (hi : I i) : I (run E p i s).2.1 := by
  induction p generalizing i s with
  | pure a => exact hi
  | raise e => exact hi
  | read k ih => exact ih s s hi
  | write f k ih => exact ih s (f s) hi
  | call q k ih => exact ih _ s (kept q i hi)

/-- `p` returns nothing but values in `R`. -/
def Returns (R : α → Prop) : Prog σ Resp α → Prop
  | .pure a => R a
  | .raise _ => True
  | .read k => ∀ s, Returns R (k s)
  | .write _ k => ∀ s, Returns R (k s)
  | .call _ k => ∀ r, Returns R (k r)

@[simp] theorem returns_pure {R : α → Prop} {a : α} : Returns R (Pure.pure a : Prog σ Resp α) ↔ R a := Iff.rfl

theorem returns_bind {R : α → Prop} {p : Prog σ Resp β} {g : β → Prog σ Resp α} (hg : ∀ b, Returns R (g b)) :
    Returns R (p >>= g) := by
  induction p with
  | pure a => exact hg a
  | raise e => trivial
  | read k ih => exact fun s => ih s
  | write f k ih => exact fun s => ih s
  | call q k ih => exact fun r => ih r

/-- What the first program returns is known to the second. -/
theorem Returns.bind {R : β → Prop} {R' : α → Prop} {p : Prog σ Resp β} {g : β → Prog σ Resp α} (hp : Returns R p)
    (hg : ∀ b, R b → Returns R' (g b)) : Returns R' (p >>= g) := by
  induction p with
  | pure a => exact hg a hp
  | raise e => trivial
  | read k ih => exact fun s => ih s (hp s)
  | write f k ih => exact fun s => ih s (hp s)
  | call q k ih => exact fun r => ih r (hp r)

theorem Returns.run {E : Env Resp ι} {R : α → Prop} {p : Prog σ Resp α} (hp : Returns R p) {i j : ι} {s t : σ} {a : α}
    (h : run E p i s = (.ok a, j, t)) : R a := by
  induction p generalizing i s with
  | pure b => cases h; exact hp
  | raise e => cases h
  | read k ih => exact ih s (hp s) h
  | write f k ih => exact ih s (hp s) h
  | call q k ih => exact ih _ (hp _) h

theorem Returns.exec {ok : ∀ q, Resp q → Prop} {R : α → Prop} {p : Prog σ Resp α} (hp : Returns R p)
    {tr : List (Act Req σ)} {a : α} {t : σ} (e : Exec ok p s tr (some (.ok a)) t) : R a := by
  induction p generalizing s tr with
  | pure b => cases e; exact hp
  | raise e => cases e
  | read k ih => cases e with | read e => exact ih s (hp s) e
  | write f k ih => cases e with | write e => exact ih s (hp s) e
  | call q k ih => cases e with | call _ e => exact ih _ (hp _) e

theorem wp_returns {R : α → Prop} {p : Prog σ Resp α} (h : wp K p Q s) (hr : Returns R p) :
    wp K p (fun a t => Q a t ∧ R a) s := by
  induction p generalizing s with
  | pure a => exact ⟨h.1, h.2, hr⟩
  | raise e => exact h
  | read k ih => exact ih s h (hr s)
  | write f k ih => exact ⟨h.1, h.2.1, ih s h.2.2 (hr s)⟩
  | call q k ih => exact ⟨h.1, h.2.1, fun r ho => ih r (h.2.2 r ho) (hr r)⟩

/-- The contract that asks for nothing: what is left of `wp` is the result. -/
def anything (ok : ∀ q, Resp q → Prop) : Contract σ Resp where
  ok := ok
  inv _ := True
  may _ _ := True

/-- What the commits of a verified program relate holds between its first and its last state. -/
theorem wp_relates {p : Prog σ Resp α} (h : wp K p Q s) {R : σ → σ → Prop} (refl : ∀ s, R s s)
    (trans : ∀ s t u, R s t → R t u → R s u) (commits : ∀ s t, K.guar s t → R s t) :
    wp (anything K.ok) p (fun a t => Q a t ∧ R s t) s := by
  induction p generalizing s with
  | pure a => exact ⟨trivial, h.2, refl s⟩
  | raise e => exact ⟨trivial, trivial⟩
  | read k ih => exact ih s h
  | write f k ih =>
    have first := commits _ _ h.2.1
    exact ⟨trivial, trivial, wp_mono (ih s h.2.2) fun a t _ hq => ⟨hq.1, trans _ _ _ first hq.2⟩⟩
  | call q k ih => exact ⟨trivial, trivial, fun r hr => ih r (h.2.2 r hr)⟩

/-- The contract that asks for nothing but the exceptions. -/
def Contract.raising (K : Contract σ Resp) : Contract σ Resp where
  ok := K.ok
  inv _ := True
  may _ _ := True
  raises := K.raises

/-- What the commits relate, with what may be raised. -/
theorem wp_related {p : Prog σ Resp α} (h : wp K p Q s) {R : σ → σ → Prop} (refl : ∀ s, R s s)
    (trans : ∀ s t u, R s t → R t u → R s u) (commits : ∀ s t, K.guar s t → R s t) :
    wp K.raising p (fun a t => Q a t ∧ R s t) s := by
  induction p generalizing s with
  | pure a => exact ⟨trivial, h.2, refl s⟩
  | raise e => exact ⟨trivial, h.2⟩
  | read k ih => exact ih s h
  | write f k ih =>
    have first := commits _ _ h.2.1
    exact ⟨trivial, trivial, wp_mono (ih s h.2.2) fun a t _ hq => ⟨hq.1, trans _ _ _ first hq.2⟩⟩
  | call q k ih => exact ⟨trivial, trivial, fun r hr => ih r (h.2.2 r hr)⟩

/-- What is known of the result apart from the contract. -/
theorem wp_also {p : Prog σ Resp α} (h : wp K p Q s) (h' : wp (anything K.ok) p R s) :
    wp K p (fun a t => Q a t ∧ R a t) s := by
  induction p generalizing s with
  | pure a => exact ⟨h.1, h.2, h'.2⟩
  | raise e => exact h
  | read k ih => exact ih s h h'
  | write f k ih => exact ⟨h.1, h.2.1, ih s h.2.2 h'.2.2⟩
  | call q k ih => exact ⟨h.1, h.2.1, fun r hr => ih r (h.2.2 r hr) (h'.2.2 r hr)⟩

/-- A property that no transaction of the contract takes away. -/
structure Stable (K : Contract σ Resp) (P : σ → Prop) : Prop where
  step : ∀ s t, K.inv s → K.guar s t → K.inv t → P s → P t

theorem stable_true : Stable K fun _ => True := ⟨fun _ _ _ _ _ _ => trivial⟩

/-- The frame rule: a stable property holds on at the end. -/
theorem wp_stable {P : σ → Prop} (stable : Stable K P) {p : Prog σ Resp α} (h : wp K p Q s) (hp : P s) :
    wp K p (fun a t => Q a t ∧ P t) s := by
  induction p generalizing s with
  | pure a => exact ⟨h.1, h.2, hp⟩
  | raise e => exact h
  | read k ih => exact ih s h hp
  | write f k ih => exact ⟨h.1, h.2.1, ih s h.2.2 (stable.step s (f s) h.1 h.2.1 (wp_inv h.2.2) hp)⟩
  | call q k ih => exact ⟨h.1, h.2.1, fun r hr => ih r (h.2.2 r hr) hp⟩

/-- A program that keeps to the contract from every state of the invariant in which `P` holds. -/
structure Safe (K : Contract σ Resp) (P : σ → Prop) (p : Prog σ Resp α) : Prop where
  wp : ∀ s, K.inv s → P s → wp K p (fun _ _ => True) s

variable {P : σ → Prop}

theorem safe_pure (a : α) : Safe K P (.pure a : Prog σ Resp α) := ⟨fun _ h _ => ⟨h, trivial⟩⟩

theorem safe_raise {e : String} (h : K.raises e) : Safe K P (.raise e : Prog σ Resp α) := ⟨fun _ hs _ => ⟨hs, h⟩⟩

theorem safe_bind (stable : Stable K P) {p : Prog σ Resp β} {g : β → Prog σ Resp α} (hp : Safe K P p)
    (hg : ∀ b, Safe K P (g b)) : Safe K P (p >>= g) := by
  refine ⟨fun s h hs => wp_bind.mpr ?_⟩
  exact wp_mono (wp_stable stable (hp.wp s h hs) hs) fun b t ht hpost => (hg b).wp t ht hpost.2

/-- The values the first program returns are known to be in `R`. -/
theorem safe_bind_returns (stable : Stable K P) {R : β → Prop} {p : Prog σ Resp β} {g : β → Prog σ Resp α}
    (hp : Safe K P p) (hr : Returns R p) (hg : ∀ b, R b → Safe K P (g b)) : Safe K P (p >>= g) := by
  refine ⟨fun s h hs => wp_bind.mpr ?_⟩
  have first := wp_returns (wp_stable stable (hp.wp s h hs) hs) hr
  exact wp_mono first fun b t ht hpost => (hg b hpost.2).wp t ht hpost.1.2

theorem safe_get (f : σ → α) : Safe K P (Prog.get f : Prog σ Resp α) := ⟨fun _ h _ => ⟨h, trivial⟩⟩

theorem safe_write (stable : Stable K P) {f : σ → σ} {k : σ → Prog σ Resp α}
    (hf : ∀ s, K.inv s → P s → K.guar s (f s) ∧ K.inv (f s)) (hk : ∀ s, Safe K P (k s)) : Safe K P (.write f k) := by
  refine ⟨fun s h hs => ?_⟩
  obtain ⟨guar, inv⟩ := hf s h hs
  exact ⟨h, guar, (hk s).wp _ inv (stable.step _ _ h guar inv hs)⟩

theorem safe_txn {op : σ → α × σ} (h : ∀ s, K.inv s → P s → K.guar s (op s).2 ∧ K.inv (op s).2) :
    Safe K P (Prog.txn op : Prog σ Resp α) :=
  ⟨fun s hs hp => ⟨hs, (h s hs hp).1, (h s hs hp).2, trivial⟩⟩

theorem safe_call {q : Req} {k : Resp q → Prog σ Resp α} (h : ∀ s, K.inv s → P s → K.may q s) (hk : ∀ r, Safe K P (k r)) :
    Safe K P (.call q k) := ⟨fun s hs hp => ⟨hs, h s hs hp, fun r _ => (hk r).wp s hs hp⟩⟩

theorem safe_ite {c : Prop} [Decidable c] {p q : Prog σ Resp α} (hp : Safe K P p) (hq : Safe K P q) :
    Safe K P (if c then p else q) := by
  split
  · exact hp
  · exact hq

theorem safe_forEach (stable : Stable K P) {body : β → Prog σ Resp α} {xs : List β}
    (h : ∀ x ∈ xs, Safe K P (body x)) : Safe K P (Prog.forEach body xs) := by
  induction xs with
  | nil => exact safe_pure _
  | cons x xs ih =>
    have rest := ih fun z hz => h z (List.mem_cons_of_mem _ hz)
    exact safe_bind stable (h x (by simp)) fun y => safe_bind stable rest fun ys => safe_pure _

theorem Safe.weaken {R : σ → Prop} {p : Prog σ Resp α} (h : Safe K P p) (hr : ∀ s, R s → P s) : Safe K R p :=
  ⟨fun s hs hp => h.wp s hs (hr s hp)⟩

/-- The actions from one state to another when each is one the contract allows. -/
inductive Obeys (K : Contract σ Resp) : σ → List (Act Req σ) → σ → Prop
  | nil {u : σ} (h : K.inv u) : Obeys K u [] u
  | call {q : Req} {u v : σ} {tr} (h : K.inv u) (hm : K.may q u) (hr : Obeys K u tr v) : Obeys K u (.call q u :: tr) v
  | commit {u u' v : σ} {tr} (h : K.inv u) (hg : K.guar u u') (hr : Obeys K u' tr v) : Obeys K u (.commit u' :: tr) v

theorem Obeys.append {t u : σ} {tr tr' : List (Act Req σ)} (h : Obeys K s tr t) (h' : Obeys K t tr' u) :
    Obeys K s (tr ++ tr') u := by
  induction h with
  | nil => exact h'
  | call hi hm _ ih => exact .call hi hm (ih h')
  | commit hi hg _ ih => exact .commit hi hg (ih h')

theorem Obeys.may {t : σ} {tr : List (Act Req σ)} (h : Obeys K s tr t) {q : Req} {u : σ} (mem : .call q u ∈ tr) :
    K.may q u := by
  induction h with
  | nil => cases mem
  | call _ hm _ ih =>
    rcases List.mem_cons.mp mem with heq | mem
    · cases heq
      exact hm
    · exact ih mem
  | commit _ _ _ ih =>
    rcases List.mem_cons.mp mem with heq | mem
    · cases heq
    · exact ih mem

/-- The state the actions lead to. -/
def reached (s : σ) : List (Act Req σ) → σ
  | [] => s
  | .call _ _ :: tr => reached s tr
  | .commit u :: tr => reached u tr

theorem reached_append (s : σ) (tr tr' : List (Act Req σ)) : reached s (tr ++ tr') = reached (reached s tr) tr' := by
  induction tr generalizing s with
  | nil => rfl
  | cons act tr ih =>
    cases act with
    | call q u => exact ih s
    | commit u => exact ih u

theorem reached_mem (s : σ) (tr : List (Act Req σ)) : reached s tr = s ∨ .commit (reached s tr) ∈ tr := by
  induction tr generalizing s with
  | nil => exact .inl rfl
  | cons act tr ih =>
    cases act with
    | call q u => exact (ih s).imp (fun h => h) fun h => List.mem_cons_of_mem _ h
    | commit u =>
      refine .inr ?_
      rcases ih u with h | h
      · exact List.mem_cons.mpr (.inl (by rw [← h]; simp [reached, h]))
      · exact List.mem_cons_of_mem _ h

theorem exec_reached {ok : ∀ q, Resp q → Prop} {p : Prog σ Resp α} {tr : List (Act Req σ)}
    {o : Option (Except String α)} {t : σ} (e : Exec ok p s tr o t) : reached s tr = t := by
  induction e with
  | cut => rfl
  | pure => rfl
  | raise => rfl
  | read _ ih => exact ih
  | write _ ih => exact ih
  | call _ _ ih => exact ih

theorem Obeys.split {t : σ} {tr tr' : List (Act Req σ)} (h : Obeys K s (tr ++ tr') t) :
    Obeys K s tr (reached s tr) ∧ Obeys K (reached s tr) tr' t := by
  induction tr generalizing s with
  | nil =>
    have start : K.inv s := by cases h <;> assumption
    exact ⟨.nil start, h⟩
  | cons act tr ih =>
    cases h with
    | call hi hm hr => exact ⟨.call hi hm (ih hr).1, (ih hr).2⟩
    | commit hi hg hr => exact ⟨.commit hi hg (ih hr).1, (ih hr).2⟩

/-- Soundness: an execution, complete or cut, stays inside what `wp` promises. -/
theorem wp_sound {p : Prog σ Resp α} {tr : List (Act Req σ)} {o : Option (Except String α)} {t : σ}
    (h : wp K p Q s) (e : Exec K.ok p s tr o t) :
    Obeys K s tr t ∧ K.inv t ∧ (∀ a, o = some (.ok a) → Q a t) ∧ ∀ e, o = some (.error e) → K.raises e := by
  induction e with
  | cut => exact ⟨.nil (wp_inv h), wp_inv h, by simp, by simp⟩
  | pure => exact ⟨.nil h.1, h.1, by rintro a ⟨⟩; exact h.2, by simp⟩
  | raise => exact ⟨.nil h.1, h.1, by simp, by rintro e ⟨⟩; exact h.2⟩
  | read _ ih => exact ih h
  | write _ ih =>
    obtain ⟨ho, hi, hq⟩ := ih h.2.2
    exact ⟨.commit h.1 h.2.1 ho, hi, hq⟩
  | call hr _ ih =>
    obtain ⟨ho, hi, hq⟩ := ih (h.2.2 _ hr)
    exact ⟨.call h.1 h.2.1 ho, hi, hq⟩

/-- A program that reads first does nothing before it goes on with what it has read. -/
theorem exec_get_bind {ok : ∀ q, Resp q → Prop} {f : σ → β} {g : β → Prog σ Resp α} {tr : List (Act Req σ)}
    {o : Option (Except String α)} {t : σ} (e : Exec ok (Prog.get f >>= g) s tr o t) :
    Exec ok (g (f s)) s tr o t := by
  cases e with
  | cut => exact .cut
  | read h => exact h

/-- An execution of a sequence is cut off or fails in its first part, or goes through it. -/
theorem exec_seq {ok : ∀ q, Resp q → Prop} {p : Prog σ Resp β} {g : β → Prog σ Resp α} {tr : List (Act Req σ)}
    {o : Option (Except String α)} {t : σ} (e : Exec ok (p >>= g) s tr o t) :
    (o = none ∧ Exec ok p s tr none t) ∨
      (∃ error, o = some (.error error) ∧ Exec ok p s tr (some (.error error)) t) ∨
      ∃ b u tr' tr'', tr = tr' ++ tr'' ∧ Exec ok p s tr' (some (.ok b)) u ∧ Exec ok (g b) u tr'' o t := by
  induction p generalizing s tr with
  | pure b => exact .inr (.inr ⟨b, s, [], tr, rfl, .pure, e⟩)
  | raise error =>
    cases e with
    | cut => exact .inl ⟨rfl, .cut⟩
    | raise => exact .inr (.inl ⟨error, rfl, .raise⟩)
  | read k ih =>
    cases e with
    | cut => exact .inl ⟨rfl, .cut⟩
    | read e =>
      rcases ih s e with ⟨ho, e⟩ | ⟨error, ho, e⟩ | ⟨b, u, tr', tr'', rfl, first, rest⟩
      · exact .inl ⟨ho, .read e⟩
      · exact .inr (.inl ⟨error, ho, .read e⟩)
      · exact .inr (.inr ⟨b, u, tr', tr'', rfl, .read first, rest⟩)
  | write f k ih =>
    cases e with
    | cut => exact .inl ⟨rfl, .cut⟩
    | write e =>
      rcases ih s e with ⟨ho, e⟩ | ⟨error, ho, e⟩ | ⟨b, u, tr', tr'', rfl, first, rest⟩
      · exact .inl ⟨ho, .write e⟩
      · exact .inr (.inl ⟨error, ho, .write e⟩)
      · exact .inr (.inr ⟨b, u, _, tr'', rfl, .write first, rest⟩)
  | call q k ih =>
    cases e with
    | cut => exact .inl ⟨rfl, .cut⟩
    | call hr e =>
      rcases ih _ e with ⟨ho, e⟩ | ⟨error, ho, e⟩ | ⟨b, u, tr', tr'', rfl, first, rest⟩
      · exact .inl ⟨ho, .call hr e⟩
      · exact .inr (.inl ⟨error, ho, .call hr e⟩)
      · exact .inr (.inr ⟨b, u, _, tr'', rfl, .call hr first, rest⟩)

/-- A complete execution of a sequence ends in its first part with an exception, or goes through it. -/
theorem exec_bind {ok : ∀ q, Resp q → Prop} {p : Prog σ Resp β} {g : β → Prog σ Resp α} {tr : List (Act Req σ)}
    {o : Except String α} {t : σ} (e : Exec ok (p >>= g) s tr (some o) t) :
    (∃ error tr', o = .error error ∧ Exec ok p s tr' (some (.error error)) t) ∨
      ∃ b u tr' tr'', Exec ok p s tr' (some (.ok b)) u ∧ Exec ok (g b) u tr'' (some o) t := by
  rcases exec_seq e with ⟨cut, _⟩ | ⟨error, raised, e⟩ | ⟨b, u, tr', tr'', _, first, rest⟩
  · cases cut
  · exact .inl ⟨error, tr, Option.some.inj raised, e⟩
  · exact .inr ⟨b, u, tr', tr'', first, rest⟩

theorem exec_pure {ok : ∀ q, Resp q → Prop} {a : α} {tr : List (Act Req σ)} {o : Option (Except String α)} {t : σ}
    (e : Exec ok (.pure a : Prog σ Resp α) s tr o t) : tr = [] ∧ ∀ r, o = some r → r = .ok a := by
  cases e with
  | cut => exact ⟨rfl, by simp⟩
  | pure => exact ⟨rfl, by rintro r ⟨⟩; rfl⟩

/-- What every commit of a contract relates is related over the whole execution. -/
theorem Obeys.relates {R : σ → σ → Prop} (refl : ∀ s, R s s) (trans : ∀ s t u, R s t → R t u → R s u)
    (commits : ∀ s t, K.guar s t → R s t) {t : σ} {tr : List (Act Req σ)} (h : Obeys K s tr t) : R s t := by
  induction h with
  | nil => exact refl _
  | call _ _ _ ih => exact ih
  | commit _ guar _ ih => exact trans _ _ _ (commits _ _ guar) ih

theorem Safe.exec {p : Prog σ Resp α} (h : Safe K P p) (hs : K.inv s) (hp : P s) {tr : List (Act Req σ)}
    {o : Option (Except String α)} {t : σ} (e : Exec K.ok p s tr o t) : Obeys K s tr t ∧ K.inv t :=
  have sound := wp_sound (h.wp s hs hp) e
  ⟨sound.1, sound.2.1⟩

theorem wp_run {E : Env Resp ι} {p : Prog σ Resp α} (allowed : E.Allowed K.ok)
    (h : wp K p Q s) (i : ι) :
    K.inv (run E p i s).2.2 ∧ ∀ a, (run E p i s).1 = .ok a → Q a (run E p i s).2.2 := by
  obtain ⟨tr, e⟩ := run_exec allowed p i s
  obtain ⟨_, hi, hq, _⟩ := wp_sound h e
  exact ⟨hi, fun a ha => hq a (by rw [ha])⟩

theorem wp_crash {E : Env Resp ι} {p : Prog σ Resp α} (allowed : E.Allowed K.ok)
    (h : wp K p Q s) (n : Nat) (i : ι) : K.inv (crash E n p i s).2 := by
  obtain ⟨tr, e⟩ := crash_exec allowed n p i s
  exact (wp_sound h e).2.1

/-- Every transaction of the program preserves `P`, whatever state it starts from. -/
inductive Keeps (P : σ → Prop) : Prog σ Resp α → Prop
  | pure {a : α} : Keeps P (.pure a)
  | raise {e : String} : Keeps P (.raise e)
  | read {k : σ → Prog σ Resp α} (h : ∀ s, Keeps P (k s)) : Keeps P (.read k)
  | write {f : σ → σ} {k : σ → Prog σ Resp α} (hf : ∀ s, P s → P (f s)) (h : ∀ s, Keeps P (k s)) : Keeps P (.write f k)
  | call {q : Req} {k : Resp q → Prog σ Resp α} (h : ∀ r, Keeps P (k r)) : Keeps P (.call q k)

theorem keeps_bind {p : Prog σ Resp β} {g : β → Prog σ Resp α} (hp : Keeps P p) (hg : ∀ b, Keeps P (g b)) :
    Keeps P (p >>= g) := by
  induction hp with
  | pure => exact hg _
  | raise => exact .raise
  | read _ ih => exact .read ih
  | write hf _ ih => exact .write hf ih
  | call _ ih => exact .call ih

theorem keeps_get (f : σ → α) : Keeps P (Prog.get f : Prog σ Resp α) := .read fun _ => .pure

theorem keeps_txn {op : σ → α × σ} (h : ∀ s, P s → P (op s).2) : Keeps P (Prog.txn op : Prog σ Resp α) :=
  .write h fun _ => .pure

theorem keeps_forEach {body : β → Prog σ Resp α} {xs : List β} (h : ∀ x ∈ xs, Keeps P (body x)) :
    Keeps P (Prog.forEach body xs) := by
  induction xs with
  | nil => exact .pure
  | cons x xs ih =>
    exact keeps_bind (h x (by simp)) fun y => keeps_bind (ih fun z hz => h z (by simp [hz])) fun ys => .pure

theorem Keeps.run {E : Env Resp ι} {p : Prog σ Resp α} (hp : Keeps P p) (i : ι) (hs : P s) :
    P (run E p i s).2.2 := by
  induction hp generalizing i s with
  | pure => exact hs
  | raise => exact hs
  | read _ ih => exact ih s i hs
  | write hf _ ih => exact ih s i (hf s hs)
  | call _ ih => exact ih _ _ hs

theorem Keeps.exec {ok : ∀ q, Resp q → Prop} {p : Prog σ Resp α} {tr : List (Act Req σ)}
    {o : Option (Except String α)} {t : σ} (hp : Keeps P p) (e : Exec ok p s tr o t) (hs : P s) : P t := by
  induction e with
  | cut => exact hs
  | pure => exact hs
  | raise => exact hs
  | read _ ih =>
    cases hp with
    | read h => exact ih (h _) hs
  | write _ ih =>
    cases hp with
    | write hf h => exact ih (h _) (hf _ hs)
  | call _ _ ih =>
    cases hp with
    | call h => exact ih (h _) hs

/-- One step of a program: a read, a transaction, or a call under an allowed response. -/
inductive Small (ok : ∀ q, Resp q → Prop) : Prog σ Resp α → σ → Prog σ Resp α → σ → Prop
  | read {k s} : Small ok (.read k) s (k s) s
  | write {f k s} : Small ok (.write f k) s (k s) (f s)
  | call {q k r s} (h : ok q r) : Small ok (.call q k) s (k r) s

/-- What `wp` promises of a program it promises of what is left of it. -/
theorem wp_small {p p' : Prog σ Resp α} {t : σ} (h : wp K p Q s) (step : Small K.ok p s p' t) : wp K p' Q t := by
  cases step with
  | read => exact h
  | write => exact h.2.2
  | call hr => exact h.2.2 _ hr

end CrashProgram
