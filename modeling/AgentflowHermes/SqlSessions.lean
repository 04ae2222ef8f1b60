import Mathlib.Data.List.Basic

namespace SqlSessions

variable {σ α β : Type}

/-- A connection: what is committed, what its open transaction has made of that, and how many statements are still
executed before one is refused. -/
structure Session (σ : Type) where
  committed : σ
  working : Option σ := none
  patience : Option Nat := none

namespace Session

def current (s : Session σ) : σ := s.working.getD s.committed

/-- The next `n` statements are executed. -/
def Lasts (s : Session σ) (n : Nat) : Prop := ∀ k, s.patience = some k → n ≤ k

def spend (s : Session σ) (n : Nat) : Session σ := { s with patience := s.patience.map (· - n) }

end Session

/-- A program on a connection; its answer is `none` where a statement is refused. -/
def Db (σ α : Type) := Session σ → Option α × Session σ

namespace Db

instance : Monad (Db σ) where
  pure a := fun s => (some a, s)
  bind p g := fun s =>
    match p s with
    | (some a, s') => g a s'
    | (none, s') => (none, s')

/-- One statement: it is refused, or it does its work. -/
def statement (work : Session σ → α × Session σ) : Db σ α := fun s =>
  match s.patience with
  | some 0 => (none, s)
  | _ => (some (work s).1, (work s).2.spend 1)

def query (f : σ → α) : Db σ α := statement fun s => (f s.current, s)

/-- A question that the database may find no sense in. -/
def ask (f : σ → Option α) : Db σ α := do
  match ← query f with
  | some a => pure a
  | none => fun s => (none, s)

/-- A change within the open transaction, which it opens where there is none. -/
def exec (f : σ → σ) : Db σ Unit := statement fun s => ((), { s with working := some (f s.current) })

/-- A change that the database may find no sense in, with what it answers. -/
def attempt (f : σ → Option (α × σ)) : Db σ α := do
  let (a, t) ← ask f
  fun s => (some a, { s with working := some t })

/-- A script of one statement commits what is open and then itself. -/
def script (f : σ → σ) : Db σ Unit := statement fun s => ((), { s with committed := f s.current, working := none })

def commit : Db σ Unit := statement fun s => ((), { s with committed := s.current, working := none })

/-- What is changed in the body is committed, and taken back where anything is refused. -/
def transaction (body : Db σ Unit) : Db σ Unit := fun s =>
  match (body >>= fun _ => commit) s with
  | (none, s') => (none, { s' with working := none })
  | done => done

def forEach (body : α → Db σ β) : List α → Db σ (List β)
  | [] => pure []
  | a :: rest => do
    let b ← body a
    let bs ← forEach body rest
    return b :: bs

def each (body : α → Db σ Unit) : List α → Db σ Unit
  | [] => pure ()
  | a :: rest => do
    body a
    each body rest

end Db

open Db

def total : List Nat → Nat
  | [] => 0
  | n :: rest => n + total rest

theorem total_ones (xs : List α) : total (xs.map fun _ => 1) = xs.length := by
  induction xs with
  | nil => rfl
  | cons x rest ih => rw [List.map_cons, total, ih, List.length_cons, Nat.add_comm]

/-- The program answers a question about what it sees, in so many statements, and changes nothing. -/
structure Queries (p : Db σ α) (cost : σ → Nat) (answer : σ → α) : Prop where
  through : ∀ s, s.Lasts (cost s.current) → p s = (some (answer s.current), s.spend (cost s.current))
  stopped : ∀ s, ¬s.Lasts (cost s.current) → ∃ s', p s = (none, s') ∧ s'.committed = s.committed ∧ s'.working = s.working

/-- The program makes its changes in the open transaction, in so many statements. -/
structure Alters (p : Db σ Unit) (cost : σ → Nat) (effect : σ → σ) : Prop where
  through : ∀ s, s.Lasts (cost s.current) → ∃ s', p s = (some (), s') ∧ s'.committed = s.committed ∧
    s'.current = effect s.current ∧ s'.patience = (s.spend (cost s.current)).patience
  stopped : ∀ s, ¬s.Lasts (cost s.current) → ∃ s', p s = (none, s') ∧ s'.committed = s.committed

section

variable {s : Session σ}

theorem current_spend (n : Nat) : (s.spend n).current = s.current := rfl

theorem lasts_none (h : s.patience = none) (n : Nat) : s.Lasts n := by
  intro k is
  rw [h] at is
  cases is

theorem lasts_some {k : Nat} (h : s.patience = some k) (n : Nat) : s.Lasts n ↔ n ≤ k := by
  constructor
  · exact fun lasts => lasts k h
  · intro le j is
    rw [h] at is
    cases is
    exact le

theorem lasts_zero : s.Lasts 0 := fun _ _ => Nat.zero_le _

/-- What lasts for two programs lasts for the first one, and then for the second. -/
theorem lasts_add {m n : Nat} : s.Lasts (m + n) ↔ s.Lasts m ∧ (s.spend m).Lasts n := by
  cases h : s.patience with
  | none =>
    have spent : (s.spend m).patience = none := by simp [Session.spend, h]
    exact ⟨fun _ => ⟨lasts_none h m, lasts_none spent n⟩, fun _ => lasts_none h _⟩
  | some k =>
    have spent : (s.spend m).patience = some (k - m) := by simp [Session.spend, h]
    rw [lasts_some h, lasts_some h, lasts_some spent]
    omega

theorem spend_add (m n : Nat) : (s.spend m).spend n = s.spend (m + n) := by
  unfold Session.spend
  cases h : s.patience with
  | none => rfl
  | some k => simp [Nat.sub_sub]

theorem spend_zero : s.spend 0 = s := by
  unfold Session.spend
  cases h : s.patience <;> simp [← h]

theorem statement_through (work : Session σ → α × Session σ) (h : s.Lasts 1) :
    statement work s = (some (work s).1, (work s).2.spend 1) := by
  unfold statement
  split
  next refused =>
    have := h 0 refused
    omega
  next => rfl

theorem statement_stopped (work : Session σ → α × Session σ) (h : ¬s.Lasts 1) : statement work s = (none, s) := by
  unfold statement
  split
  next => rfl
  next other =>
    refine absurd (fun k is => ?_) h
    have nonzero : k ≠ 0 := fun zero => other (by rw [is, zero])
    omega

end

theorem reads_pure (a : α) : Queries (pure a : Db σ α) (fun _ => 0) fun _ => a where
  through _ _ := by rw [spend_zero]; rfl
  stopped _ h := absurd lasts_zero h

theorem reads_query (f : σ → α) : Queries (query f) (fun _ => 1) f where
  through _ h := statement_through _ h
  stopped s h := ⟨s, statement_stopped _ h, rfl, rfl⟩

theorem writes_exec (f : σ → σ) : Alters (exec f) (fun _ => 1) f where
  through _ h := ⟨_, statement_through _ h, rfl, rfl, rfl⟩
  stopped s h := ⟨s, statement_stopped _ h, rfl⟩

theorem script_through (f : σ → σ) {s : Session σ} (h : s.Lasts 1) :
    script f s = (some (), { s.spend 1 with committed := f s.current, working := none }) := statement_through _ h

theorem script_stopped (f : σ → σ) {s : Session σ} (h : ¬s.Lasts 1) : script f s = (none, s) := statement_stopped _ h

theorem writes_pure : Alters (pure () : Db σ Unit) (fun _ => 0) id where
  through s _ := ⟨s, rfl, rfl, rfl, by rw [spend_zero]⟩
  stopped _ h := absurd lasts_zero h

theorem bind_some {p : Db σ α} {g : α → Db σ β} {s s' : Session σ} {a : α} (h : p s = (some a, s')) :
    (p >>= g) s = g a s' := by
  show (match p s with | (some a, s') => g a s' | (none, s') => (none, s')) = _
  rw [h]

theorem bind_none {p : Db σ α} {g : α → Db σ β} {s s' : Session σ} (h : p s = (none, s')) :
    (p >>= g) s = (none, s') := by
  show (match p s with | (some a, s') => g a s' | (none, s') => (none, s')) = _
  rw [h]

section

variable {p : Db σ α} {g : α → Db σ β} {m : σ → Nat} {a : σ → α}

/-- Two questions one after the other. -/
theorem Queries.bind {n : α → σ → Nat} {b : α → σ → β} (hp : Queries p m a) (hg : ∀ x, Queries (g x) (n x) (b x)) :
    Queries (p >>= g) (fun s => m s + n (a s) s) fun s => b (a s) s where
  through s h := by
    obtain ⟨first, later⟩ := lasts_add.mp h
    rw [bind_some (hp.through s first), (hg _).through _ later, current_spend, spend_add]
  stopped s h := by
    by_cases first : s.Lasts (m s.current)
    · have later : ¬(s.spend (m s.current)).Lasts (n (a s.current) s.current) := fun later => h (lasts_add.mpr ⟨first, later⟩)
      obtain ⟨s', stops, committed, working⟩ := (hg (a s.current)).stopped (s.spend (m s.current)) later
      exact ⟨s', (bind_some (hp.through s first)).trans stops, committed, working⟩
    · obtain ⟨s', stops, committed, working⟩ := hp.stopped s first
      exact ⟨s', bind_none stops, committed, working⟩

theorem Queries.keeps (hp : Queries p m a) (s : Session σ) : (p s).2.committed = s.committed ∧ (p s).2.working = s.working := by
  by_cases h : s.Lasts (m s.current)
  · rw [hp.through s h]
    exact ⟨rfl, rfl⟩
  · obtain ⟨s', stops, kept⟩ := hp.stopped s h
    rw [stops]
    exact kept

theorem Queries.answers (hp : Queries p m a) (s : Session σ) : (p s).1.isSome ↔ s.Lasts (m s.current) := by
  by_cases h : s.Lasts (m s.current)
  · rw [hp.through s h]
    exact iff_of_true rfl h
  · obtain ⟨s', stops, _⟩ := hp.stopped s h
    rw [stops]
    exact iff_of_false (by simp) h

theorem Queries.congr {n : σ → Nat} {b : σ → α} (hp : Queries p m a) (cost : ∀ s, m s = n s) (answer : ∀ s, a s = b s) :
    Queries p n b := by
  rw [← funext cost, ← funext answer]
  exact hp

theorem Queries.map {f : α → β} (hp : Queries p m a) : Queries (p >>= fun x => pure (f x)) m fun s => f (a s) :=
  hp.bind fun x => reads_pure (f x)

theorem Queries.ite {c : Prop} [Decidable c] {p q : Db σ α} {m n : σ → Nat} {a b : σ → α} (hp : Queries p m a)
    (hq : Queries q n b) : Queries (if c then p else q) (if c then m else n) (if c then a else b) := by
  split
  · exact hp
  · exact hq

theorem Queries.forEach {body : β → Db σ α} {n : β → σ → Nat} {b : β → σ → α} (h : ∀ x, Queries (body x) (n x) (b x))
    (xs : List β) : Queries (forEach body xs) (fun s => total (xs.map fun x => n x s)) fun s => xs.map fun x => b x s := by
  induction xs with
  | nil => exact reads_pure []
  | cons x rest ih => exact (h x).bind fun y => ih.map

/-- A question decides about a change. -/
theorem Queries.writes {q : α → Db σ Unit} {n : α → σ → Nat} {f : α → σ → σ} (hp : Queries p m a)
    (hq : ∀ x, Alters (q x) (n x) (f x)) : Alters (p >>= q) (fun s => m s + n (a s) s) fun s => f (a s) s where
  through s h := by
    obtain ⟨first, later⟩ := lasts_add.mp h
    obtain ⟨s', done, committed, current, patience⟩ := (hq (a s.current)).through (s.spend (m s.current)) later
    refine ⟨s', (bind_some (hp.through s first)).trans done, committed, current, patience.trans ?_⟩
    rw [current_spend, spend_add]
  stopped s h := by
    by_cases first : s.Lasts (m s.current)
    · have later : ¬(s.spend (m s.current)).Lasts (n (a s.current) s.current) := fun later => h (lasts_add.mpr ⟨first, later⟩)
      obtain ⟨s', stops, committed⟩ := (hq (a s.current)).stopped (s.spend (m s.current)) later
      exact ⟨s', (bind_some (hp.through s first)).trans stops, committed⟩
    · obtain ⟨s', stops, committed, _⟩ := hp.stopped s first
      exact ⟨s', bind_none stops, committed⟩

end

section

variable {p q : Db σ Unit} {m n : σ → Nat} {f g : σ → σ}

/-- Two changes one after the other. -/
theorem Alters.andThen (hp : Alters p m f) (hq : Alters q n g) :
    Alters (p >>= fun _ => q) (fun s => m s + n (f s)) fun s => g (f s) where
  through s h := by
    obtain ⟨first, later⟩ := lasts_add.mp h
    obtain ⟨s', done, committed, current, patience⟩ := hp.through s first
    have lasts : s'.Lasts (n s'.current) := by
      intro k is
      rw [current]
      exact later k (patience.symm.trans is)
    obtain ⟨t, done', committed', current', patience'⟩ := hq.through s' lasts
    refine ⟨t, (bind_some done).trans done', committed'.trans committed, by rw [current', current], patience'.trans ?_⟩
    rw [current, ← spend_add]
    exact congrArg (fun left => left.map (· - n (f s.current))) patience
  stopped s h := by
    by_cases first : s.Lasts (m s.current)
    · obtain ⟨s', done, committed, current, patience⟩ := hp.through s first
      have later : ¬s'.Lasts (n s'.current) := by
        intro later
        refine h (lasts_add.mpr ⟨first, fun k is => ?_⟩)
        rw [← current]
        exact later k (patience.trans is)
      obtain ⟨t, stops, committed'⟩ := hq.stopped s' later
      exact ⟨t, (bind_some done).trans stops, committed'.trans committed⟩
    · obtain ⟨s', stops, committed⟩ := hp.stopped s first
      exact ⟨s', bind_none stops, committed⟩

theorem Alters.congr {n : σ → Nat} (hp : Alters p m f) (cost : ∀ s, m s = n s) (effect : ∀ s, f s = g s) : Alters p n g := by
  rw [← funext cost, ← funext effect]
  exact hp

theorem Alters.ite {c : Prop} [Decidable c] (hp : Alters p m f) (hq : Alters q n g) :
    Alters (if c then p else q) (if c then m else n) (if c then f else g) := by
  split
  · exact hp
  · exact hq

/-- Changes for one element after the other; they take as many statements wherever they come. -/
theorem Alters.each {body : β → Db σ Unit} {n : β → σ → Nat} {f : β → σ → σ} (h : ∀ x, Alters (body x) (n x) (f x))
    (same : ∀ x y s, n x (f y s) = n x s) (xs : List β) :
    Alters (each body xs) (fun s => total (xs.map fun x => n x s)) fun s => xs.foldl (fun s x => f x s) s := by
  induction xs with
  | nil => exact writes_pure
  | cons x rest ih =>
    have both := (h x).andThen ih
    have cost : (fun s => n x s + total (rest.map fun y => n y (f x s))) = fun s => total ((x :: rest).map fun y => n y s) := by
      funext s
      simp only [same, List.map_cons, total]
    rw [cost] at both
    exact both

/-- A transaction commits the whole change, or nothing of it. -/
theorem Alters.transaction (hp : Alters p m f) {s : Session σ} (closed : s.working = none) :
    (s.Lasts (m s.committed + 1) →
      Db.transaction p s = (some (), { s.spend (m s.committed + 1) with committed := f s.committed })) ∧
    (¬s.Lasts (m s.committed + 1) →
      ∃ s', Db.transaction p s = (none, s') ∧ s'.committed = s.committed ∧ s'.working = none) := by
  have current : s.current = s.committed := by
    unfold Session.current
    rw [closed]
    rfl
  have undone {s' : Session σ} (h : (p >>= fun _ => commit) s = (none, s')) :
      Db.transaction p s = (none, { s' with working := none }) := by
    unfold Db.transaction
    rw [h]
  constructor
  · intro lasts
    obtain ⟨first, last⟩ := lasts_add.mp lasts
    rw [← current] at first
    obtain ⟨t, done, committed, effect, patience⟩ := hp.through s first
    have commits : t.Lasts 1 := by
      intro k is
      rw [current] at patience
      exact last k (patience.symm.trans is)
    have whole : (p >>= fun _ => commit) s = _ := (bind_some done).trans (statement_through _ commits)
    unfold Db.transaction
    rw [whole]
    have left : t.patience.map (· - 1) = (s.spend (m s.committed + 1)).patience := by
      rw [patience, current]
      exact congrArg Session.patience (spend_add (m s.committed) 1)
    show (some (), Session.mk t.current none (t.patience.map (· - 1))) =
      (some (), Session.mk (f s.committed) s.working (s.spend (m s.committed + 1)).patience)
    rw [effect, current, left, closed]
  · intro short
    by_cases first : s.Lasts (m s.current)
    · obtain ⟨t, done, committed, effect, patience⟩ := hp.through s first
      have refused : ¬t.Lasts 1 := by
        intro commits
        refine short (lasts_add.mpr ⟨current ▸ first, fun k is => ?_⟩)
        rw [← current] at is
        exact commits k (patience.trans is)
      have whole : (p >>= fun _ => commit) s = _ := (bind_some done).trans (statement_stopped _ refused)
      exact ⟨_, undone whole, committed, rfl⟩
    · obtain ⟨t, stops, committed⟩ := hp.stopped s first
      exact ⟨_, undone (bind_none stops), committed, rfl⟩

end

/-- Whatever the program does is still to be committed. -/
def Uncommitted (p : Db σ α) : Prop := ∀ c, (p c).2.committed = c.committed

/-- From a state with `P` the program gets, where it runs through, to an answer and a state with `Q`. -/
def Triple (P : σ → Prop) (p : Db σ α) (Q : α → σ → Prop) : Prop :=
  ∀ c a c', P c.current → p c = (some a, c') → Q a c'.current

section

variable {P : σ → Prop} {p : Db σ α} {Q : α → σ → Prop}

theorem Uncommitted.pure (a : α) : Uncommitted (Pure.pure a : Db σ α) := fun _ => rfl

theorem Uncommitted.bind {g : α → Db σ β} (first : Uncommitted p) (later : ∀ a, Uncommitted (g a)) :
    Uncommitted (p >>= g) := by
  intro c
  have kept := first c
  rcases ran : p c with ⟨_ | a, d⟩
  · rw [ran] at kept
    rw [bind_none ran]
    exact kept
  · rw [ran] at kept
    rw [bind_some ran]
    exact (later a d).trans kept

theorem Uncommitted.query (f : σ → α) : Uncommitted (Db.query f) := by
  intro c
  unfold Db.query Db.statement
  split <;> rfl

theorem Uncommitted.ask (f : σ → Option α) : Uncommitted (Db.ask f) :=
  .bind (.query f) fun answer => by
    cases answer with
    | none => exact fun _ => rfl
    | some a => exact fun _ => rfl

theorem Uncommitted.attempt (f : σ → Option (α × σ)) : Uncommitted (Db.attempt f) :=
  .bind (.ask f) fun _ _ => rfl

theorem Triple.pure {a : α} (h : ∀ s, P s → Q a s) : Triple P (Pure.pure a : Db σ α) Q := by
  intro c b c' holds is
  cases is
  exact h _ holds

theorem Triple.bind {g : α → Db σ β} {R : β → σ → Prop} (first : Triple P p Q) (later : ∀ a, Triple (Q a) (g a) R) :
    Triple P (p >>= g) R := by
  intro c b c' holds is
  rcases ran : p c with ⟨_ | a, d⟩
  · rw [bind_none ran] at is
    cases is
  · rw [bind_some ran] at is
    exact later a d b c' (first c a d holds ran) is

theorem Triple.weaken {P' : σ → Prop} {Q' : α → σ → Prop} (h : Triple P p Q) (pre : ∀ s, P' s → P s)
    (post : ∀ a s, Q a s → Q' a s) : Triple P' p Q' :=
  fun c a c' holds is => post a _ (h c a c' (pre _ holds) is)

theorem Triple.query {f : σ → α} (h : ∀ s, P s → Q (f s) s) : Triple P (Db.query f) Q := by
  intro c a c' holds is
  unfold Db.query Db.statement at is
  split at is
  · cases is
  · cases is
    exact h _ holds

theorem Triple.ask {f : σ → Option α} (h : ∀ s a, P s → f s = some a → Q a s) : Triple P (Db.ask f) Q := by
  refine Triple.bind (Triple.query fun s holds => ⟨holds, rfl⟩ : Triple P _ fun r s => P s ∧ f s = r) fun answer => ?_
  cases answer with
  | none =>
    intro c a c' _ is
    cases is
  | some a => exact Triple.pure fun s holds => h s a holds.1 holds.2

theorem Triple.attempt {f : σ → Option (α × σ)} (h : ∀ s a t, P s → f s = some (a, t) → Q a t) :
    Triple P (Db.attempt f) Q := by
  refine Triple.bind (Triple.ask fun s r holds is => ⟨s, holds, is⟩ :
    Triple P _ fun r _ => ∃ s, P s ∧ f s = some r) fun r => ?_
  intro c a c' holds is
  obtain ⟨s, before, found⟩ := holds
  cases is
  exact h s r.1 r.2 before found

/-- What a transaction whose body is right leaves committed. -/
theorem Triple.transaction {body : Db σ Unit} {Q : Unit → σ → Prop} (h : Triple P body Q) (kept : Uncommitted body)
    {c c' : Session σ} {answer : Option Unit} (closed : c.working = none) (holds : P c.committed)
    (is : Db.transaction body c = (answer, c')) :
    c'.working = none ∧ match answer with
      | some _ => Q () c'.committed
      | none => c'.committed = c.committed := by
  have current : c.current = c.committed := by
    unfold Session.current
    rw [closed]
    rfl
  have same := kept c
  unfold Db.transaction at is
  rcases ran : body c with ⟨_ | a, d⟩
  · rw [ran] at same
    rw [bind_none ran] at is
    cases is
    exact ⟨rfl, same⟩
  · rw [ran] at same
    rw [bind_some ran] at is
    have reached := h c a d (current ▸ holds) ran
    by_cases more : d.Lasts 1
    · have commits : Db.commit d = _ := statement_through _ more
      rw [commits] at is
      cases is
      exact ⟨rfl, reached⟩
    · have refused : Db.commit d = _ := statement_stopped _ more
      rw [refused] at is
      cases is
      exact ⟨rfl, same⟩

end

end SqlSessions
