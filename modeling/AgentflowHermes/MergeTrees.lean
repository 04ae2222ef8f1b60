import Mathlib.Order.Bounds.Basic
import Mathlib.Order.Lattice

namespace MergeTrees

/-- Rows that are merged two at a time, in some order and grouping. -/
inductive MergeTree (α : Type)
  | row (a : α)
  | merge (source target : MergeTree α)

variable {α ε L A : Type}

def MergeTree.rows : MergeTree α → List α
  | .row a => [a]
  | .merge source target => source.rows ++ target.rows

def MergeTree.eval (op : α → α → Except ε α) : MergeTree α → Except ε α
  | .row a => .ok a
  | .merge source target => do
    let a ← source.eval op
    let b ← target.eval op
    op a b

theorem MergeTree.eval_merge_ok {op : α → α → Except ε α} {source target : MergeTree α} {c : α} :
    (MergeTree.merge source target).eval op = .ok c ↔
      ∃ a b, source.eval op = .ok a ∧ target.eval op = .ok b ∧ op a b = .ok c := by
  rw [MergeTree.eval]
  cases source.eval op with
  | error e => exact ⟨nofun, nofun⟩
  | ok a =>
    cases target.eval op with
    | error e => exact ⟨nofun, nofun⟩
    | ok b => exact ⟨fun h => ⟨a, b, rfl, rfl, h⟩, fun ⟨_, _, same, same', h⟩ => by cases same; cases same'; exact h⟩

/-- Two tags that differ. -/
def Clash (tag : α → Option A) (a b : α) : Prop := ∃ x y, tag a = some x ∧ tag b = some y ∧ x ≠ y

/-- A merge is worth the join of what it merges, and is refused where the tags differ. -/
structure PartialJoin [SemilatticeSup L] (op : α → α → Except ε α) (worth : α → L) (tag : α → Option A) : Prop where
  refuses : ∀ a b, (∃ e, op a b = .error e) ↔ Clash tag a b
  worth_ok : ∀ {a b c}, op a b = .ok c → worth c = worth a ⊔ worth b
  tag_ok : ∀ {a b c}, op a b = .ok c → ∀ x, tag c = some x ↔ tag a = some x ∨ tag b = some x

namespace PartialJoin

variable [SemilatticeSup L] {op : α → α → Except ε α} {worth : α → L} {tag : α → Option A}

theorem eval_tag (join : PartialJoin op worth tag) {t : MergeTree α} {c : α} (h : t.eval op = .ok c) (x : A) :
    tag c = some x ↔ ∃ a ∈ t.rows, tag a = some x := by
  induction t generalizing c with
  | row a =>
    cases h
    simp [MergeTree.rows]
  | merge source target ihs iht =>
    obtain ⟨a, b, ha, hb, h⟩ := MergeTree.eval_merge_ok.mp h
    rw [join.tag_ok h, ihs ha, iht hb, MergeTree.rows]
    simp only [List.mem_append, or_and_right, exists_or]

/-- What a tree is worth is the least that is worth all of its rows. -/
theorem eval_worth (join : PartialJoin op worth tag) {t : MergeTree α} {c : α} (h : t.eval op = .ok c) :
    IsLUB {w | ∃ a ∈ t.rows, worth a = w} (worth c) := by
  induction t generalizing c with
  | row a =>
    cases h
    have only : {w | ∃ b ∈ (MergeTree.row a).rows, worth b = w} = {worth a} := by
      ext w
      simp [MergeTree.rows, eq_comm]
    rw [only]
    exact isLUB_singleton
  | merge source target ihs iht =>
    obtain ⟨a, b, ha, hb, h⟩ := MergeTree.eval_merge_ok.mp h
    have both : {w | ∃ r ∈ (MergeTree.merge source target).rows, worth r = w} =
        {w | ∃ r ∈ source.rows, worth r = w} ∪ {w | ∃ r ∈ target.rows, worth r = w} := by
      ext w
      simp only [MergeTree.rows, List.mem_append, or_and_right, exists_or, Set.mem_union, Set.mem_ofPred_eq]
    rw [both, join.worth_ok h]
    exact (ihs ha).union (iht hb)

/-- A tree is refused exactly if two of its rows have tags that differ. -/
theorem eval_refuses (join : PartialJoin op worth tag) (t : MergeTree α) :
    (∃ e, t.eval op = .error e) ↔ ∃ a ∈ t.rows, ∃ b ∈ t.rows, Clash tag a b := by
  constructor
  · intro refused
    induction t with
    | row a =>
      obtain ⟨_, refused⟩ := refused
      cases refused
    | merge source target ihs iht =>
      have within : ∀ {p : MergeTree α}, (∀ a ∈ p.rows, a ∈ (MergeTree.merge source target).rows) →
          (∃ a ∈ p.rows, ∃ b ∈ p.rows, Clash tag a b) →
          ∃ a ∈ (MergeTree.merge source target).rows, ∃ b ∈ (MergeTree.merge source target).rows, Clash tag a b :=
        fun sub ⟨a, ha, b, hb, clash⟩ => ⟨a, sub a ha, b, sub b hb, clash⟩
      cases hs : source.eval op with
      | error e => exact within (fun _ mem => List.mem_append_left _ mem) (ihs ⟨e, hs⟩)
      | ok a =>
        cases ht : target.eval op with
        | error e => exact within (fun _ mem => List.mem_append_right _ mem) (iht ⟨e, ht⟩)
        | ok b =>
          have last : ∃ e, op a b = .error e := by
            obtain ⟨e, refused⟩ := refused
            rw [MergeTree.eval, hs, ht] at refused
            exact ⟨e, refused⟩
          obtain ⟨x, y, hx, hy, apart⟩ := (join.refuses a b).mp last
          obtain ⟨p, hp, px⟩ := (join.eval_tag hs x).mp hx
          obtain ⟨q, hq, qy⟩ := (join.eval_tag ht y).mp hy
          exact ⟨p, List.mem_append_left _ hp, q, List.mem_append_right _ hq, x, y, px, qy, apart⟩
  · rintro ⟨a, ha, b, hb, x, y, hx, hy, apart⟩
    cases h : t.eval op with
    | error e => exact ⟨e, rfl⟩
    | ok c =>
      -- a tree that is not refused has one tag, and both of the two would be it
      have first := (join.eval_tag h x).mpr ⟨a, ha, hx⟩
      have second := (join.eval_tag h y).mpr ⟨b, hb, hy⟩
      rw [first] at second
      exact absurd (Option.some.inj second) apart

/-- Neither order nor grouping nor repetition matters. -/
theorem eval_rows (join : PartialJoin op worth tag) {s t : MergeTree α} (same : ∀ a, a ∈ s.rows ↔ a ∈ t.rows) :
    ((∃ e, s.eval op = .error e) ↔ ∃ e, t.eval op = .error e) ∧
      ∀ {c d}, s.eval op = .ok c → t.eval op = .ok d → worth c = worth d ∧ tag c = tag d := by
  constructor
  · rw [join.eval_refuses, join.eval_refuses]
    simp only [same]
  · intro c d hc hd
    constructor
    · have one := join.eval_worth hc
      have other := join.eval_worth hd
      simp only [same] at one
      exact one.unique other
    · apply Option.ext
      intro x
      rw [join.eval_tag hc x, join.eval_tag hd x]
      simp only [same]

end PartialJoin

end MergeTrees
