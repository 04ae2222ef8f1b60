import Mathlib.Data.List.Nodup

namespace RowTable

class Keyed (α : Type) where
  rowId : α → Nat

open Keyed (rowId)

/-- A table with an autoincrement row id. Ids grow in insertion order, are never handed out
twice, and `next` is the id the next insert gets; the first one is 1. -/
structure Table (α : Type) [Keyed α] where
  rows : List α
  next : Nat
  sorted : (rows.map rowId).Pairwise (· < ·)
  below : ∀ r ∈ rows, rowId r < next
  positive : 0 < next ∧ ∀ r ∈ rows, 0 < rowId r

variable {α β : Type} [Keyed α]

namespace Table

def empty : Table α := ⟨[], 1, .nil, by simp, by simp⟩

def insert (t : Table α) (mk : Nat → α) (keeps : ∀ n, rowId (mk n) = n := by intro; rfl) : Table α where
  rows := t.rows ++ [mk t.next]
  next := t.next + 1
  sorted := by
    rw [List.map_append, List.pairwise_append]
    refine ⟨t.sorted, by simp, ?_⟩
    intro i hi j hj
    obtain ⟨r, hr, rfl⟩ := List.mem_map.mp hi
    have hj' : j = t.next := by simpa [keeps] using hj
    exact hj' ▸ t.below r hr
  below := by
    intro r hr
    rcases List.mem_append.mp hr with hr | hr
    · exact Nat.lt_succ_of_lt (t.below r hr)
    · rw [List.mem_singleton.mp hr, keeps]
      exact Nat.lt_succ_self _
  positive := by
    refine ⟨Nat.succ_pos _, fun r hr => ?_⟩
    rcases List.mem_append.mp hr with hr | hr
    · exact t.positive.2 r hr
    · rw [List.mem_singleton.mp hr, keeps]
      exact t.positive.1

/-- `update .. where id = ?`; the row id itself is never written. -/
def modify (t : Table α) (id : Nat) (f : α → α) (keeps : ∀ r, rowId (f r) = rowId r := by intro; rfl) :
    Table α where
  rows := t.rows.map fun r => if rowId r = id then f r else r
  next := t.next
  sorted := by
    have same : (t.rows.map fun r => if rowId r = id then f r else r).map rowId = t.rows.map rowId := by
      rw [List.map_map]
      refine List.map_congr_left fun r _ => ?_
      simp only [Function.comp_apply]
      split <;> simp [keeps]
    rw [same]
    exact t.sorted
  below := by
    intro r hr
    obtain ⟨r', hr', rfl⟩ := List.mem_map.mp hr
    have := t.below r' hr'
    split <;> simpa [keeps] using this
  positive := by
    refine ⟨t.positive.1, fun r hr => ?_⟩
    obtain ⟨r', hr', rfl⟩ := List.mem_map.mp hr
    have := t.positive.2 r' hr'
    split <;> simpa [keeps] using this

def find? (t : Table α) (p : α → Bool) : Option α := t.rows.find? p

def get? (t : Table α) (id : Nat) : Option α := t.find? fun r => rowId r == id

def filter (t : Table α) (p : α → Bool) : List α := t.rows.filter p

end Table

variable {t : Table α} {p : α → Bool} {mk : Nat → α} {f : α → α} {id : Nat} {r r' : α}

@[simp] theorem rows_empty : (Table.empty : Table α).rows = [] := rfl

@[simp] theorem find?_empty : (Table.empty : Table α).find? p = none := rfl

@[simp] theorem rows_insert {hk} : (t.insert mk hk).rows = t.rows ++ [mk t.next] := rfl

@[simp] theorem next_insert {hk} : (t.insert mk hk).next = t.next + 1 := rfl

@[simp] theorem rows_modify {hk} :
    (t.modify id f hk).rows = t.rows.map fun r => if rowId r = id then f r else r := rfl

@[simp] theorem next_modify {hk} : (t.modify id f hk).next = t.next := rfl

theorem rowId_inj (hr : r ∈ t.rows) (hr' : r' ∈ t.rows) (h : rowId r = rowId r') : r = r' := by
  have hn : (t.rows.map rowId).Nodup := t.sorted.imp Nat.ne_of_lt
  exact List.inj_on_of_nodup_map hn hr hr' h

theorem mem_of_find? (h : t.find? p = some r) : r ∈ t.rows := List.mem_of_find?_eq_some h

theorem pred_of_find? (h : t.find? p = some r) : p r := List.find?_some h

theorem find?_lt_next (h : t.find? p = some r) : rowId r < t.next := t.below r (mem_of_find? h)

theorem find?_none (h : t.find? p = none) : ∀ r ∈ t.rows, p r = false := by
  intro r hr
  simpa using List.find?_eq_none.mp h r hr

theorem get?_eq_some : t.get? id = some r ↔ r ∈ t.rows ∧ rowId r = id := by
  constructor
  · intro h
    exact ⟨mem_of_find? h, by simpa using pred_of_find? h⟩
  · rintro ⟨hr, rfl⟩
    cases h : t.get? (rowId r) with
    | none => simpa using find?_none h r hr
    | some r' =>
      have he : rowId r' = rowId r := by simpa using pred_of_find? h
      rw [rowId_inj (mem_of_find? h) hr he]

theorem find?_insert {hk} : (t.insert mk hk).find? p =
    (t.find? p).or (if p (mk t.next) then some (mk t.next) else none) := by
  simp only [Table.find?, rows_insert, List.find?_append, List.find?_singleton]

/-- Reading by a condition the update does not touch gives the old row, updated. -/
theorem find?_modify {hk} (h : ∀ r, rowId r = id → p (f r) = p r) : (t.modify id f hk).find? p =
    (t.find? p).map fun r => if rowId r = id then f r else r := by
  simp only [Table.find?, rows_modify, List.find?_map]
  congr 2
  funext r
  simp only [Function.comp_apply]
  split
  next hi => exact h r hi
  next => rfl

theorem get?_insert {hk} : (t.insert mk hk).get? id =
    if id = t.next then some (mk t.next) else t.get? id := by
  rw [Table.get?, find?_insert, hk]
  by_cases h : id = t.next
  · have fresh : t.find? (fun r => rowId r == id) = none := by
      refine List.find?_eq_none.mpr fun r hr => ?_
      simpa [h] using Nat.ne_of_lt (t.below r hr)
    rw [fresh, Option.none_or]
    simp [h]
  · simp [Ne.symm h, h, Table.get?]

theorem get?_modify {hk} {i : Nat} : (t.modify id f hk).get? i =
    if i = id then (t.get? i).map f else t.get? i := by
  rw [Table.get?, find?_modify (fun r _ => by rw [hk]), ← Table.get?]
  cases h : t.get? i with
  | none => simp
  | some r =>
    have he := (get?_eq_some.mp h).2
    simp only [Option.map_some, he]
    split <;> rfl

/-- The rows after an update; the statement unfolds `modify` so that it applies to definitions made from it. -/
theorem mem_modify (h : r ∈ t.rows.map fun r => if rowId r = id then f r else r) :
    r ∈ t.rows ∧ rowId r ≠ id ∨ ∃ r' ∈ t.rows, rowId r' = id ∧ r = f r' := by
  obtain ⟨r', hr', rfl⟩ := List.mem_map.mp h
  by_cases hi : rowId r' = id
  · exact .inr ⟨r', hr', hi, by simp [hi]⟩
  · exact .inl (by simpa [hi] using hr')

theorem mem_insert (h : r ∈ t.rows ++ [r']) : r ∈ t.rows ∨ r = r' := by
  simpa using h

theorem modified_mem {i : Nat} (h : r ∈ t.rows) :
    (if rowId r = i then f r else r) ∈ t.rows.map fun r => if rowId r = i then f r else r :=
  List.mem_map_of_mem h

theorem filter_insert {hk} : (t.insert mk hk).filter p =
    t.filter p ++ (if p (mk t.next) then [mk t.next] else []) := by
  simp only [Table.filter, rows_insert, List.filter_append, List.filter_singleton]
  cases p (mk t.next) <;> rfl

theorem filter_modify {hk} (h : ∀ r, rowId r = id → p (f r) = p r) : (t.modify id f hk).filter p =
    (t.filter p).map fun r => if rowId r = id then f r else r := by
  simp only [Table.filter, rows_modify, List.filter_map]
  congr 2
  funext r
  simp only [Function.comp_apply]
  split
  next hi => exact h r hi
  next => rfl

theorem map_modify {hk} {g : α → β} (h : ∀ r, rowId r = id → g (f r) = g r) :
    (t.modify id f hk).rows.map g = t.rows.map g := by
  rw [rows_modify, List.map_map]
  refine List.map_congr_left fun r _ => ?_
  simp only [Function.comp_apply]
  split
  next hi => exact h r hi
  next => rfl

/-- At most one row per value of `g`. -/
def UniqueBy (t : Table α) (g : α → β) : Prop := (t.rows.map g).Nodup

theorem UniqueBy.eq {g : α → β} (h : UniqueBy t g) (hr : r ∈ t.rows) (hr' : r' ∈ t.rows) (he : g r = g r') :
    r = r' := List.inj_on_of_nodup_map h hr hr' he

theorem UniqueBy.insert {g : α → β} (h : UniqueBy t g) (fresh : ∀ r ∈ t.rows, g r ≠ g (mk t.next))
    (hk : ∀ n, rowId (mk n) = n := by intro; rfl) : UniqueBy (t.insert mk hk) g := by
  rw [UniqueBy, rows_insert, List.map_append, List.nodup_append]
  refine ⟨h, by simp, ?_⟩
  intro a ha b hb
  obtain ⟨r, hr, rfl⟩ := List.mem_map.mp ha
  have hb' : b = g (mk t.next) := by simpa using hb
  exact hb' ▸ fresh r hr

theorem UniqueBy.modify {g : α → β} (h : UniqueBy t g) (hg : ∀ r, rowId r = id → g (f r) = g r)
    (hk : ∀ r, rowId (f r) = rowId r := by intro; rfl) : UniqueBy (t.modify id f hk) g := by
  rw [UniqueBy, map_modify hg]
  exact h

/-- Giving one row a value no row has keeps the values distinct. -/
theorem UniqueBy.rekey {g : α → β} {b : β} (h : UniqueBy t g) (id : Nat) (hg : ∀ r, rowId r = id → g (f r) = b)
    (fresh : ∀ r ∈ t.rows, g r ≠ b) (hk : ∀ r, rowId (f r) = rowId r := by intro; rfl) :
    UniqueBy (t.modify id f hk) g := by
  have distinct : t.rows.Pairwise fun r r' => rowId r ≠ rowId r' :=
    (List.pairwise_map.mp t.sorted).imp Nat.ne_of_lt
  have both := distinct.and (List.pairwise_map.mp h)
  rw [UniqueBy, rows_modify, List.map_map]
  refine List.pairwise_map.mpr (both.imp_of_mem ?_)
  intro r r' hr hr' hne
  simp only [Function.comp_apply]
  split <;> split
  next h1 h2 => exact absurd (h1.trans h2.symm) hne.1
  next h1 _ => exact hg r h1 ▸ (fresh r' hr').symm
  next _ h2 => exact hg r' h2 ▸ fresh r hr
  next => exact hne.2

theorem UniqueBy.find? {g : α → β} [DecidableEq β] (h : UniqueBy t g) (hr : r ∈ t.rows) :
    t.find? (fun x => g x == g r) = some r := by
  cases hf : t.find? (fun x => g x == g r) with
  | none => simpa using find?_none hf r hr
  | some r' => rw [h.eq (mem_of_find? hf) hr (by simpa using pred_of_find? hf)]

end RowTable
