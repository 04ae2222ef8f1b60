namespace BacktrackRegex

/-- A place in a text: the characters already passed (last one first) and those to come. -/
structure Cursor where
  before : List Char
  after : List Char
  deriving DecidableEq

/-- Patterns of a backtracking matcher. Alternatives and repetitions are tried in the order
they are written, so the first match found is the one such an engine reports. -/
inductive Pattern
  | empty
  | char (p : Char → Bool)
  | seq (a b : Pattern)
  | alt (a b : Pattern)
  | star (a : Pattern)
  | lazyStar (a : Pattern)
  | group (a : Pattern)
  | test (p : Cursor → Bool)

namespace Pattern

/-- Repeat a matcher at most `n` times; an iteration that reads nothing is not repeated. -/
def repeatMatch {β : Type} (greedy : Bool) (m : (Cursor → Option β) → Cursor → Option β)
    (k : Cursor → Option β) : Nat → Cursor → Option β
  | 0, c => k c
  | n + 1, c =>
    let more := fun _ : Unit => m (fun d =>
      if d.after.length < c.after.length then repeatMatch greedy m k n d else none) c
    if greedy then (more ()).or (k c) else (k c).or (more ())

/-- Match at a cursor and hand the end, with the text of the last group closed, to `k`. -/
def run {β : Type} : Pattern → (List Char → Cursor → Option β) → List Char → Cursor → Option β
  | empty, k, g, c => k g c
  | char p, k, g, c =>
    match c.after with
    | [] => none
    | x :: xs => if p x then k g ⟨x :: c.before, xs⟩ else none
  | seq a b, k, g, c => a.run (fun g' d => b.run k g' d) g c
  | alt a b, k, g, c => (a.run k g c).or (b.run k g c)
  | star a, k, g, c => repeatMatch true (fun k' d => a.run (fun _ e => k' e) g d) (k g) c.after.length c
  | lazyStar a, k, g, c => repeatMatch false (fun k' d => a.run (fun _ e => k' e) g d) (k g) c.after.length c
  | group a, k, g, c => a.run (fun _ d => k (c.after.take (c.after.length - d.after.length)) d) g c
  | test p, k, g, c => if p c then k g c else none

theorem repeatMatch_some {β : Type} {greedy : Bool} {m : (Cursor → Option β) → Cursor → Option β} {k : Cursor → Option β}
    (hm : ∀ k' d x, m k' d = some x → ∃ e, e.after <:+ d.after ∧ k' e = some x) {n : Nat} {c : Cursor} {x : β}
    (h : repeatMatch greedy m k n c = some x) : ∃ d, d.after <:+ c.after ∧ k d = some x := by
  induction n generalizing c with
  | zero => exact ⟨c, List.suffix_refl _, h⟩
  | succ n ih =>
    have again : m (fun d => if d.after.length < c.after.length then repeatMatch greedy m k n d else none) c = some x →
        ∃ d, d.after <:+ c.after ∧ k d = some x := by
      intro hx
      obtain ⟨e, hec, he⟩ := hm _ _ _ hx
      split at he
      next =>
        obtain ⟨d, hd, hk⟩ := ih he
        exact ⟨d, hd.trans hec, hk⟩
      next => cases he
    unfold repeatMatch at h
    split at h
    · rcases Option.or_eq_some_iff.mp h with hx | ⟨_, hk⟩
      · exact again hx
      · exact ⟨c, List.suffix_refl _, hk⟩
    · rcases Option.or_eq_some_iff.mp h with hk | ⟨_, hx⟩
      · exact ⟨c, List.suffix_refl _, hk⟩
      · exact again hx

/-- What is still to come is the end of what was. -/
theorem run_some {β : Type} {p : Pattern} {k : List Char → Cursor → Option β} {g : List Char} {c : Cursor} {x : β}
    (h : p.run k g c = some x) : ∃ g' d, d.after <:+ c.after ∧ k g' d = some x := by
  induction p generalizing β k g c with
  | empty => exact ⟨g, c, List.suffix_refl _, h⟩
  | char p =>
    unfold run at h
    split at h
    next => cases h
    next y ys hc =>
      split at h
      next => exact ⟨g, _, by rw [hc]; exact List.suffix_cons y ys, h⟩
      next => cases h
  | seq a b iha ihb =>
    obtain ⟨g', d, hd, hb⟩ := iha h
    obtain ⟨g'', e, he, hk⟩ := ihb hb
    exact ⟨g'', e, he.trans hd, hk⟩
  | alt a b iha ihb =>
    rcases Option.or_eq_some_iff.mp h with ha | ⟨_, hb⟩
    · exact iha ha
    · exact ihb hb
  | star a ih =>
    obtain ⟨d, hd, hk⟩ := repeatMatch_some (fun k' d y hy => (ih (k := fun _ e => k' e) hy).elim fun _ he => he) h
    exact ⟨g, d, hd, hk⟩
  | lazyStar a ih =>
    obtain ⟨d, hd, hk⟩ := repeatMatch_some (fun k' d y hy => (ih (k := fun _ e => k' e) hy).elim fun _ he => he) h
    exact ⟨g, d, hd, hk⟩
  | group a ih =>
    obtain ⟨_, d, hd, hk⟩ := ih h
    exact ⟨_, d, hd, hk⟩
  | test p =>
    unfold run at h
    split at h
    · exact ⟨g, c, List.suffix_refl _, h⟩
    · cases h

def one (x : Char) : Pattern := char (· == x)

def opt (a : Pattern) : Pattern := alt a empty

def plus (a : Pattern) : Pattern := seq a (star a)

def lazyPlus (a : Pattern) : Pattern := seq a (lazyStar a)

def all : List Pattern → Pattern
  | [] => empty
  | [a] => a
  | a :: as => seq a (all as)

def any : List Pattern → Pattern
  | [] => test fun _ => false
  | [a] => a
  | a :: as => alt a (any as)

end Pattern

/-- A match: its group and the cursor where it ends. -/
def matchAt (r : Pattern) (c : Cursor) : Option (List Char × Cursor) :=
  r.run (fun g d => some (g, d)) [] c

/-- A pattern whose matches all end with a group that is not empty. -/
structure EndsInGroup (r : Pattern) : Prop where
  filled : ∀ {β : Type} (k : List Char → Cursor → Option β) g c x, r.run k g c = some x → ∃ g' d, g' ≠ [] ∧ k g' d = some x

theorem EndsInGroup.seq {a b : Pattern} (hb : EndsInGroup b) : EndsInGroup (.seq a b) := by
  refine ⟨fun k g c x h => ?_⟩
  obtain ⟨g', d, _, h⟩ := Pattern.run_some (show a.run (fun g' d => b.run k g' d) g c = some x from h)
  exact hb.filled k g' d x h

/-- `((?:..)+)`. -/
theorem endsInGroup_plus (p : Char → Bool) : EndsInGroup (.group (.plus (.char p))) := by
  refine ⟨fun k g c x h => ?_⟩
  have step : (Pattern.char p).run (fun g' d => (Pattern.star (.char p)).run
      (fun _ d => k (c.after.take (c.after.length - d.after.length)) d) g' d) g c = some x := h
  unfold Pattern.run at step
  split at step
  next => cases step
  next y ys hc =>
    split at step
    next =>
      obtain ⟨_, d, hd, hk⟩ := Pattern.run_some step
      refine ⟨_, d, ?_, hk⟩
      have longer : d.after.length < c.after.length := by
        rw [hc]
        exact Nat.lt_succ_of_le hd.length_le
      intro empty
      have len := congrArg List.length empty
      simp only [List.length_take, List.length_nil] at len
      omega
    next => cases step

/-- The leftmost match from a cursor on, with the cursor where it starts. -/
def searchFrom (r : Pattern) : List Char → List Char → Option (Cursor × List Char × Cursor)
  | before, [] => (matchAt r ⟨before, []⟩).map fun m => (⟨before, []⟩, m)
  | before, x :: xs =>
    match matchAt r ⟨before, x :: xs⟩ with
    | some m => some (⟨before, x :: xs⟩, m)
    | none => searchFrom r (x :: before) xs

def search (r : Pattern) (text : List Char) : Bool := (searchFrom r [] text).isSome

/-- The group of the leftmost match. -/
def searchGroup (r : Pattern) (text : List Char) : Option (List Char) :=
  (searchFrom r [] text).map fun m => m.2.1

theorem searchFrom_some {r : Pattern} {before after : List Char} {m : Cursor × List Char × Cursor}
    (h : searchFrom r before after = some m) : ∃ c, matchAt r c = some m.2 := by
  induction after generalizing before with
  | nil =>
    obtain ⟨found, hm, rfl⟩ := Option.map_eq_some_iff.mp h
    exact ⟨_, hm⟩
  | cons y ys ih =>
    unfold searchFrom at h
    split at h
    next found hm =>
      cases h
      exact ⟨_, hm⟩
    next => exact ih h

theorem searchGroup_ne_nil {r : Pattern} (hr : EndsInGroup r) {text g : List Char} (h : searchGroup r text = some g) :
    g ≠ [] := by
  obtain ⟨m, hm, rfl⟩ := Option.map_eq_some_iff.mp h
  obtain ⟨c, hc⟩ := searchFrom_some hm
  obtain ⟨g', d, hne, hk⟩ := hr.filled _ _ _ _ hc
  rw [← Option.some.inj hk]
  exact hne

/-- A pattern that matches nowhere in a text. -/
structure Absent (r : Pattern) (text : List Char) : Prop where
  missed : ∀ {β : Type} (k : List Char → Cursor → Option β) g c, c.after <:+ text → r.run k g c = none

namespace Absent

variable {a b r : Pattern} {p : Char → Bool} {text : List Char}

theorem char (h : ∀ x ∈ text, p x = false) : Absent (.char p) text := by
  refine ⟨fun k g c hc => ?_⟩
  unfold Pattern.run
  split
  next => rfl
  next x xs hx =>
    have mem : x ∈ text := hc.subset (by rw [hx]; exact List.mem_cons_self)
    rw [h x mem]
    rfl

theorem seq_left (h : Absent a text) : Absent (.seq a b) text := ⟨fun _ g c hc => h.missed _ g c hc⟩

theorem seq_right (h : Absent b text) : Absent (.seq a b) text := by
  refine ⟨fun k g c hc => ?_⟩
  rw [Option.eq_none_iff_forall_ne_some]
  intro x hx
  obtain ⟨g', d, hd, hb⟩ := Pattern.run_some (show a.run (fun g' d => b.run k g' d) g c = some x from hx)
  rw [h.missed k g' d (hd.trans hc)] at hb
  cases hb

/-- The character read first is not there for the rest to be read from. -/
theorem after_char (h : Absent b text.tail) : Absent (.seq (.char p) b) text := by
  refine ⟨fun k g c hc => ?_⟩
  show (Pattern.char p).run (fun g' d => b.run k g' d) g c = none
  unfold Pattern.run
  split
  next => rfl
  next x xs hx =>
    rw [hx] at hc
    have rest : xs <:+ text.tail := by
      obtain ⟨passed, rfl⟩ := hc
      cases passed with
      | nil => exact List.suffix_refl _
      | cons y ys => exact (List.suffix_cons x xs).trans (List.suffix_append ys (x :: xs))
    split
    · exact h.missed k g _ rest
    · rfl

theorem alt (ha : Absent a text) (hb : Absent b text) : Absent (.alt a b) text := by
  refine ⟨fun k g c hc => ?_⟩
  show (a.run k g c).or (b.run k g c) = none
  rw [ha.missed k g c hc, hb.missed k g c hc]
  rfl

theorem group (h : Absent a text) : Absent (.group a) text := ⟨fun _ g c hc => h.missed _ g c hc⟩

theorem all {as : List Pattern} (mem : a ∈ as) (h : Absent a text) : Absent (.all as) text := by
  induction as with
  | nil => cases mem
  | cons x xs ih =>
    cases xs with
    | nil =>
      obtain rfl := List.mem_singleton.mp mem
      exact h
    | cons y ys =>
      rcases List.mem_cons.mp mem with rfl | later
      · exact h.seq_left
      · exact (ih later).seq_right

theorem any {as : List Pattern} (h : ∀ a ∈ as, Absent a text) : Absent (.any as) text := by
  induction as with
  | nil => exact ⟨fun _ _ _ _ => rfl⟩
  | cons x xs ih =>
    cases xs with
    | nil => exact h x List.mem_cons_self
    | cons y ys =>
      exact (h x List.mem_cons_self).alt (ih fun a ha => h a (List.mem_cons_of_mem x ha))

theorem searchFrom (h : Absent r text) {before after : List Char} (hs : after <:+ text) :
    BacktrackRegex.searchFrom r before after = none := by
  induction after generalizing before with
  | nil =>
    have missed : matchAt r ⟨before, []⟩ = none := h.missed _ [] ⟨before, []⟩ hs
    unfold BacktrackRegex.searchFrom
    rw [missed]
    rfl
  | cons x xs ih =>
    have missed : matchAt r ⟨before, x :: xs⟩ = none := h.missed _ [] ⟨before, x :: xs⟩ hs
    unfold BacktrackRegex.searchFrom
    rw [missed]
    exact ih ((List.suffix_cons x xs).trans hs)

theorem search (h : Absent r text) : BacktrackRegex.search r text = false := by
  unfold BacktrackRegex.search
  rw [h.searchFrom (List.suffix_refl _)]
  rfl

end Absent

def fullMatch (r : Pattern) (text : List Char) : Bool :=
  (matchAt (.seq r (.test fun c => c.after.isEmpty)) ⟨[], text⟩).isSome

/-- Successive non-overlapping matches of a pattern that never matches the empty text, each
with the cursor where it starts and its group. -/
def findAll (r : Pattern) : Nat → Cursor → List (Cursor × List Char × Cursor)
  | 0, _ => []
  | n + 1, c =>
    match searchFrom r c.before c.after with
    | none => []
    | some (start, g, stop) => (start, g, stop) :: findAll r n stop

def findIter (r : Pattern) (text : List Char) : List (Cursor × List Char × Cursor) :=
  findAll r (text.length + 1) ⟨[], text⟩

/-- The leftmost match of a matcher from a cursor on, with the cursor where it ends. -/
def scanFrom {α : Type} (m : Cursor → Option (α × Cursor)) : List Char → List Char → Option (α × Cursor)
  | before, [] => m ⟨before, []⟩
  | before, x :: xs =>
    match m ⟨before, x :: xs⟩ with
    | some found => some found
    | none => scanFrom m (x :: before) xs

def scanAll {α : Type} (m : Cursor → Option (α × Cursor)) : Nat → Cursor → List α
  | 0, _ => []
  | n + 1, c =>
    match scanFrom m c.before c.after with
    | none => []
    | some (found, stop) => found :: scanAll m n stop

/-- A match of two patterns in a row, with the group of each. -/
def matchTwo (a b : Pattern) (c : Cursor) : Option ((List Char × List Char) × Cursor) :=
  a.run (fun g d => b.run (fun g' e => some ((g, g'), e)) [] d) [] c

end BacktrackRegex
