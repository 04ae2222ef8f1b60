import AgentflowHermes.RowTable
import Mathlib.Data.List.Forall2

namespace RowTable

section

variable {α κ : Type} [DecidableEq κ]

/-- The rows whose key is neither seen before nor the key of an earlier one. -/
def fresh (key : α → κ) (seen : List κ) : List α → List α
  | [] => []
  | a :: as => if key a ∈ seen then fresh key seen as else a :: fresh key (key a :: seen) as

variable {key : α → κ} {as : List α} {a : α} {seen : List κ}

theorem fresh_cons : fresh key seen (a :: as) =
    if key a ∈ seen then fresh key seen as else a :: fresh key (key a :: seen) as := rfl

theorem fresh_sublist (key : α → κ) (seen : List κ) (as : List α) : (fresh key seen as).Sublist as := by
  induction as generalizing seen with
  | nil => exact .slnil
  | cons a as ih =>
    rw [fresh_cons]
    split
    · exact (ih seen).cons a
    · exact (ih _).cons_cons a

theorem fresh_not_seen (h : a ∈ fresh key seen as) : key a ∉ seen := by
  induction as generalizing seen with
  | nil => cases h
  | cons b as ih =>
    rw [fresh_cons] at h
    split at h
    · exact ih h
    next hb =>
      rcases List.mem_cons.mp h with rfl | h
      · exact hb
      · exact fun mem => ih h (List.mem_cons_of_mem _ mem)

theorem fresh_nodup (key : α → κ) (seen : List κ) (as : List α) : ((fresh key seen as).map key).Nodup := by
  induction as generalizing seen with
  | nil => exact .nil
  | cons b as ih =>
    rw [fresh_cons]
    split
    · exact ih seen
    · rw [List.map_cons, List.nodup_cons]
      refine ⟨fun mem => ?_, ih _⟩
      obtain ⟨a, ha, same⟩ := List.mem_map.mp mem
      exact fresh_not_seen ha (same ▸ List.mem_cons_self)

/-- Every row is seen or fresh, up to its key. -/
theorem fresh_covers (seen : List κ) (h : a ∈ as) : key a ∈ seen ∨ ∃ b ∈ fresh key seen as, key b = key a := by
  induction as generalizing seen with
  | nil => cases h
  | cons b as ih =>
    rw [fresh_cons]
    split
    next hb =>
      rcases List.mem_cons.mp h with rfl | h
      · exact .inl hb
      · exact ih seen h
    next =>
      rcases List.mem_cons.mp h with rfl | h
      · exact .inr ⟨a, List.mem_cons_self, rfl⟩
      · rcases ih (key b :: seen) h with seen | ⟨c, hc, same⟩
        · rcases List.mem_cons.mp seen with same | seen
          · exact .inr ⟨b, List.mem_cons_self, same.symm⟩
          · exact .inl seen
        · exact .inr ⟨c, List.mem_cons_of_mem _ hc, same⟩

/-- Of rows with different keys the fresh ones are those not seen. -/
theorem fresh_eq_filter (distinct : (as.map key).Nodup) :
    fresh key seen as = as.filter fun a => decide (key a ∉ seen) := by
  induction as generalizing seen with
  | nil => rfl
  | cons b as ih =>
    rw [List.map_cons, List.nodup_cons] at distinct
    rw [fresh_cons]
    by_cases hb : key b ∈ seen
    · rw [if_pos hb, List.filter_cons_of_neg (by simpa using hb)]
      exact ih distinct.2
    · rw [if_neg hb, List.filter_cons_of_pos (by simpa using hb)]
      refine congrArg (b :: ·) ((ih distinct.2).trans (List.filter_congr fun a ha => ?_))
      have apart : key a ≠ key b := fun same => distinct.1 (same ▸ List.mem_map_of_mem ha)
      simp only [List.mem_cons, apart, false_or]

/-- Rows with different keys of their own, none of them seen, are all fresh. -/
theorem fresh_all (distinct : (as.map key).Nodup) (new : ∀ a ∈ as, key a ∉ seen) : fresh key seen as = as := by
  rw [fresh_eq_filter distinct]
  exact List.filter_eq_self.mpr fun a ha => decide_eq_true (new a ha)

theorem fresh_none (h : ∀ a ∈ as, key a ∈ seen) : fresh key seen as = [] := by
  induction as with
  | nil => rfl
  | cons b as ih =>
    rw [fresh_cons, if_pos (h b List.mem_cons_self)]
    exact ih fun a ha => h a (List.mem_cons_of_mem _ ha)

/-- Only what has been seen matters, not how often or in which order. -/
theorem fresh_congr {seen' : List κ} (h : ∀ k, k ∈ seen ↔ k ∈ seen') : fresh key seen as = fresh key seen' as := by
  induction as generalizing seen seen' with
  | nil => rfl
  | cons b as ih =>
    rw [fresh_cons, fresh_cons]
    simp only [h (key b)]
    split
    · exact ih h
    · refine congrArg (b :: ·) (ih fun k => ?_)
      simp only [List.mem_cons, h k]

end

/-- Rows that can be given another id. -/
class Renumbered (α : Type) extends Keyed α where
  withId : Nat → α → α
  rowId_withId : ∀ n a, rowId (withId n a) = n

open Keyed (rowId)
open Renumbered (withId rowId_withId)

variable {α β κ : Type} [Renumbered α] [DecidableEq κ]

/-- The rows under consecutive ids. -/
def number (n : Nat) : List α → List α
  | [] => []
  | a :: as => withId n a :: number (n + 1) as

namespace Table

/-- `insert or ignore` into a table with a unique key. -/
def insertOrIgnore (key : α → κ) (t : Table α) (a : α) : Table α :=
  if key a ∈ t.rows.map key then t else t.insert (fun n => withId n a) fun n => rowId_withId n a

/-- The rows are inserted one after the other, unless their key is there. -/
def merge (key : α → κ) (t : Table α) : List α → Table α
  | [] => t
  | a :: as => (t.insertOrIgnore key a).merge key as

end Table

section

variable {key : α → κ} {t : Table α} {as : List α} {a r : α} {n : Nat}

@[simp] theorem number_length (n : Nat) (as : List α) : (number n as).length = as.length := by
  induction as generalizing n with
  | nil => rfl
  | cons a as ih => exact congrArg Nat.succ (ih (n + 1))

/-- What does not depend on the id is the same in the numbered rows. -/
theorem number_map {f : α → β} (h : ∀ n a, f (withId n a) = f a) (n : Nat) (as : List α) :
    (number n as).map f = as.map f := by
  induction as generalizing n with
  | nil => rfl
  | cons a as ih => rw [number, List.map_cons, List.map_cons, h, ih]

theorem mem_number (h : r ∈ number n as) : ∃ k a, as[k]? = some a ∧ r = withId (n + k) a := by
  induction as generalizing n with
  | nil => cases h
  | cons a as ih =>
    rcases List.mem_cons.mp h with rfl | h
    · exact ⟨0, a, rfl, rfl⟩
    · obtain ⟨k, b, hb, rfl⟩ := ih h
      exact ⟨k + 1, b, hb, by rw [Nat.add_right_comm, Nat.add_assoc]⟩

theorem number_forall₂ {R : α → α → Prop} (h : ∀ n a, R a (withId n a)) (n : Nat) (as : List α) :
    List.Forall₂ R as (number n as) := by
  induction as generalizing n with
  | nil => exact .nil
  | cons a as ih => exact .cons (h n a) (ih (n + 1))

variable (keeps : ∀ n a, key (withId n a) = key a)

include keeps in
/-- A merge adds the fresh rows under the next ids and leaves the others as they are. -/
theorem merge_rows (t : Table α) (as : List α) :
    (t.merge key as).rows = t.rows ++ number t.next (fresh key (t.rows.map key) as) ∧
      (t.merge key as).next = t.next + (fresh key (t.rows.map key) as).length := by
  induction as generalizing t with
  | nil => exact ⟨(List.append_nil _).symm, rfl⟩
  | cons a as ih =>
    obtain ⟨rows, next⟩ := ih (t.insertOrIgnore key a)
    unfold Table.merge
    rw [fresh_cons]
    unfold Table.insertOrIgnore at rows next ⊢
    by_cases seen : key a ∈ t.rows.map key
    · simp only [if_pos seen] at rows next ⊢
      exact ⟨rows, next⟩
    · simp only [if_neg seen, rows_insert, next_insert] at rows next ⊢
      have later : fresh key ((t.rows ++ [withId t.next a]).map key) as = fresh key (key a :: t.rows.map key) as := by
        refine fresh_congr fun k => ?_
        simp only [List.map_append, List.map_cons, List.map_nil, keeps, List.mem_append, List.mem_cons,
          List.not_mem_nil, or_false]
        exact or_comm
      rw [later] at rows next
      refine ⟨?_, ?_⟩
      · rw [rows, number, List.append_assoc]
        rfl
      · rw [next, List.length_cons]
        omega

include keeps in
theorem merge_unique (unique : UniqueBy t key) : UniqueBy (t.merge key as) key := by
  unfold UniqueBy at unique ⊢
  rw [(merge_rows keeps t as).1, List.map_append, number_map keeps, List.nodup_append]
  refine ⟨unique, fresh_nodup key _ as, fun k hk l hl same => ?_⟩
  obtain ⟨a, ha, rfl⟩ := List.mem_map.mp hl
  exact fresh_not_seen ha (same ▸ hk)

include keeps in
/-- Every merged key has its row. -/
theorem merge_covers (h : a ∈ as) : key a ∈ (t.merge key as).rows.map key := by
  rw [(merge_rows keeps t as).1, List.map_append, number_map keeps]
  rcases @fresh_covers α κ _ key _ _ (t.rows.map key) h with seen | ⟨b, hb, same⟩
  · exact List.mem_append_left _ seen
  · exact List.mem_append_right _ (same ▸ List.mem_map_of_mem hb)

/-- Merging rows whose keys are all there changes nothing. -/
theorem merge_known (h : ∀ a ∈ as, key a ∈ t.rows.map key) : t.merge key as = t := by
  induction as with
  | nil => rfl
  | cons a as ih =>
    unfold Table.merge Table.insertOrIgnore
    rw [if_pos (h a List.mem_cons_self)]
    exact ih fun b hb => h b (List.mem_cons_of_mem _ hb)

include keeps in
theorem merge_idempotent (t : Table α) (as : List α) : (t.merge key as).merge key as = t.merge key as :=
  merge_known fun _ ha => merge_covers keeps ha

end

end RowTable
