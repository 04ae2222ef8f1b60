import AgentflowHermes.LiveSanitize
import Mathlib.Data.List.Basic
import Mathlib.Data.List.Flatten

namespace AgentflowHermes

section

variable {α : Type} {p : α → Bool} {sep : α} {l : List α} {ws : List (List α)}

/-- The words of a text, which separators part. -/
def wordsOf (p : α → Bool) (l : List α) : List (List α) := (l.splitOnP p).filter fun w => !w.isEmpty

/-- Parts with no separator in them, and none of them empty. -/
structure Solid (p : α → Bool) (ws : List (List α)) : Prop where
  parted : ∀ w ∈ ws, ∀ c ∈ w, p c = false
  named : ∀ w ∈ ws, w ≠ []

theorem splitOnP_parted (l : List α) : ∀ w ∈ l.splitOnP p, ∀ c ∈ w, p c = false := by
  induction l with
  | nil => simp
  | cons x rest ih =>
    obtain ⟨w, ws, split⟩ := List.exists_cons_of_ne_nil (List.splitOnP_ne_nil p rest)
    rw [split] at ih
    rw [List.splitOnP_cons_eq_if_modifyHead, split]
    by_cases isSep : p x = true
    · rw [if_pos isSep]
      simpa using ih
    · rw [if_neg isSep, List.modifyHead_cons]
      simpa [isSep] using ih

theorem wordsOf_solid (l : List α) : Solid p (wordsOf p l) where
  parted w mem := splitOnP_parted l w (List.mem_filter.mp mem).1
  named w mem := by
    have := (List.mem_filter.mp mem).2
    simpa using this

/-- Words that a separator joins are the words of the text. -/
theorem wordsOf_intercalate (isSep : p sep = true) (solid : Solid p ws) : wordsOf p ([sep].intercalate ws) = ws := by
  induction ws with
  | nil => rfl
  | cons w rest ih =>
    have parted := solid.parted w List.mem_cons_self
    have named : w.isEmpty = false := by simpa using solid.named w List.mem_cons_self
    have later : Solid p rest := ⟨fun v mem => solid.parted v (List.mem_cons_of_mem _ mem),
      fun v mem => solid.named v (List.mem_cons_of_mem _ mem)⟩
    cases rest with
    | nil =>
      unfold wordsOf
      rw [List.intercalate_singleton, List.splitOnP_eq_singleton parted]
      simp [named]
    | cons v vs =>
      have ih := ih later
      unfold wordsOf at ih ⊢
      rw [List.intercalate_cons_cons, List.append_assoc, List.singleton_append,
        List.splitOnP_append_cons_of_forall_mem parted sep isSep, List.filter_cons_of_pos (by simp [named]), ih]

theorem intercalate_cons_flat (w : List α) (ws : List (List α)) :
    [sep].intercalate (w :: ws) = w ++ ws.flatMap (sep :: ·) := by
  induction ws generalizing w with
  | nil => simp
  | cons v vs ih => rw [List.intercalate_cons_cons, ih, List.append_assoc, List.flatMap_cons, List.singleton_append, List.cons_append]

theorem intercalate_cons_length (w : List α) (ws : List (List α)) :
    ([sep].intercalate (w :: ws)).length = w.length + (ws.flatMap (sep :: ·)).length := by
  rw [intercalate_cons_flat, List.length_append]

theorem mem_intercalate_of_mem {x : α} {w : List α} (there : w ∈ ws) (mem : x ∈ w) : x ∈ [sep].intercalate ws := by
  cases ws with
  | nil => cases there
  | cons v rest =>
    rw [intercalate_cons_flat]
    rcases List.mem_cons.mp there with rfl | there
    · exact List.mem_append_left _ mem
    · exact List.mem_append_right _ (List.mem_flatMap.mpr ⟨w, there, List.mem_cons_of_mem _ mem⟩)

theorem mem_intercalate {x : α} (h : x ∈ [sep].intercalate ws) : x = sep ∨ ∃ w ∈ ws, x ∈ w := by
  cases ws with
  | nil => cases h
  | cons w rest =>
    rw [intercalate_cons_flat] at h
    rcases List.mem_append.mp h with first | later
    · exact .inr ⟨w, List.mem_cons_self, first⟩
    · obtain ⟨v, mem, here⟩ := List.mem_flatMap.mp later
      rcases List.mem_cons.mp here with same | inside
      · exact .inl same
      · exact .inr ⟨v, List.mem_cons_of_mem _ mem, inside⟩

theorem intercalate_filter_length (ws : List (List α)) :
    ([sep].intercalate (ws.filter fun w => !w.isEmpty)).length ≤ ([sep].intercalate ws).length := by
  induction ws with
  | nil => exact Nat.le_refl 0
  | cons w rest ih =>
    rw [intercalate_cons_length]
    have bound (vs : List (List α)) : ([sep].intercalate vs).length ≤ (vs.flatMap (sep :: ·)).length := by
      cases vs with
      | nil => exact Nat.le_refl 0
      | cons v vs =>
        rw [intercalate_cons_length, List.flatMap_cons, List.length_append, List.length_cons]
        omega
    have kept : ((rest.filter fun w => !w.isEmpty).flatMap (sep :: ·)).length ≤ (rest.flatMap (sep :: ·)).length :=
      (List.Sublist.flatMap (List.filter_sublist ..) _).length_le
    by_cases empty : w.isEmpty
    · rw [List.filter_cons_of_neg (by simp [empty])]
      have := bound (rest.filter fun w => !w.isEmpty)
      omega
    · rw [List.filter_cons_of_pos (by simp [empty]), intercalate_cons_length]
      omega

theorem intercalate_splitOnP_length (l : List α) : ([sep].intercalate (l.splitOnP p)).length = l.length := by
  induction l with
  | nil => rfl
  | cons x rest ih =>
    obtain ⟨w, ws, split⟩ := List.exists_cons_of_ne_nil (List.splitOnP_ne_nil p rest)
    rw [split, intercalate_cons_length] at ih
    rw [List.splitOnP_cons_eq_if_modifyHead, split]
    by_cases isSep : p x = true
    · rw [if_pos isSep, intercalate_cons_length, List.flatMap_cons, List.length_append]
      simp only [List.length_cons, List.length_nil]
      omega
    · rw [if_neg isSep, List.modifyHead_cons, intercalate_cons_length]
      simp only [List.length_cons]
      omega

theorem wordsOf_length (l : List α) : ([sep].intercalate (wordsOf p l)).length ≤ l.length := by
  have := @intercalate_filter_length α sep (l.splitOnP p)
  have := @intercalate_splitOnP_length α p sep l
  unfold wordsOf
  omega

/-- A joined text ends where its last part does. -/
theorem intercalate_last {part : List α} {parts : List (List α)} (last : ∀ w ∈ part :: parts, w ≠ [] ∧ ∀ c ∈ w.getLast?, p c = false) :
    [sep].intercalate (part :: parts) ≠ [] ∧ ∀ c ∈ ([sep].intercalate (part :: parts)).getLast?, p c = false := by
  induction parts generalizing part with
  | nil => simpa using last
  | cons next parts ih =>
    obtain ⟨some', solid⟩ := ih fun w mem => last w (List.mem_cons_of_mem _ mem)
    rw [List.intercalate_cons_cons]
    constructor
    · simp
    · rw [List.getLast?_append_of_ne_nil _ some']
      exact solid

theorem Solid.last (solid : Solid p ws) : ∀ c ∈ ([sep].intercalate ws).getLast?, p c = false := by
  cases ws with
  | nil => exact fun _ none' => by cases none'
  | cons w rest =>
    exact (intercalate_last fun v mem => ⟨solid.named v mem, fun c inside => solid.parted v mem c (List.mem_of_getLast? inside)⟩).2

/-- A text that is cut off behind a letter still consists of words. -/
theorem Solid.take (solid : Solid p ws) (n : Nat) (letter : ∀ c ∈ (([sep].intercalate ws).take n).getLast?, c ≠ sep) :
    ∃ ws', Solid p ws' ∧ ([sep].intercalate ws).take n = [sep].intercalate ws' := by
  induction ws generalizing n with
  | nil => exact ⟨[], solid, by simp⟩
  | cons w rest ih =>
    have named := solid.named w List.mem_cons_self
    have parted := solid.parted w List.mem_cons_self
    by_cases short : n ≤ w.length
    · rw [intercalate_cons_flat, List.take_append_of_le_length short]
      by_cases zero : n = 0
      · exact ⟨[], ⟨by simp, by simp⟩, by simp [zero]⟩
      · refine ⟨[w.take n], ⟨?_, ?_⟩, by simp⟩
        · intro v one c mem
          rw [List.mem_singleton.mp one] at mem
          exact parted c (List.mem_of_mem_take mem)
        · intro v one empty
          rw [List.mem_singleton.mp one] at empty
          rcases List.take_eq_nil_iff.mp empty with is | is
          · exact zero is
          · exact named is
    · cases rest with
      | nil =>
        refine ⟨[w], solid, ?_⟩
        rw [List.intercalate_singleton, List.take_of_length_le (by omega)]
      | cons v vs =>
        obtain ⟨k, more⟩ : ∃ k, n = w.length + (k + 1) := ⟨n - w.length - 1, by omega⟩
        have cut : ([sep].intercalate (w :: v :: vs)).take n = w ++ sep :: ([sep].intercalate (v :: vs)).take k := by
          rw [List.intercalate_cons_cons, more, List.append_assoc, List.take_length_add_append]
          rfl
        have some' : ([sep].intercalate (v :: vs)).take k ≠ [] := by
          intro empty
          rw [cut, empty] at letter
          exact letter sep (by simp) rfl
        have later : Solid p (v :: vs) :=
          ⟨fun u mem => solid.parted u (List.mem_cons_of_mem _ mem), fun u mem => solid.named u (List.mem_cons_of_mem _ mem)⟩
        have end' : ∀ c ∈ (([sep].intercalate (v :: vs)).take k).getLast?, c ≠ sep := by
          intro c mem
          refine letter c ?_
          rw [cut, List.getLast?_append_of_ne_nil _ (List.cons_ne_nil _ _), List.getLast?_cons_of_ne_nil some']
          exact mem
        obtain ⟨ws', words, same⟩ := ih later k end'
        cases ws' with
        | nil => exact absurd same some'
        | cons u us =>
          refine ⟨w :: u :: us, ⟨?_, ?_⟩, ?_⟩
          · exact fun x mem => (List.mem_cons.mp mem).elim (fun is => is ▸ parted) (words.parted x)
          · exact fun x mem => (List.mem_cons.mp mem).elim (fun is => is ▸ named) (words.named x)
          · rw [cut, same, List.intercalate_cons_cons, List.append_assoc]
            rfl

end

section

variable {T : PyText} {s : String} {m n : Nat}

theorem shortText_eq : shortText T s n = String.ofList (([' '].intercalate (wordsOf T.isSpace s.toList)).take n) := by
  unfold shortText
  rfl

/-- A short text is shortened once. -/
theorem shortText_shortText (short : s.toList.length ≤ m) (more : m ≤ n) :
    shortText T (shortText T s m) n = shortText T s m := by
  have length := @wordsOf_length Char T.isSpace ' ' s.toList
  have once : shortText T s m = String.ofList ([' '].intercalate (wordsOf T.isSpace s.toList)) := by
    rw [shortText_eq, List.take_of_length_le (by omega)]
  rw [once]
  by_cases isSep : T.isSpace ' ' = true
  · rw [shortText_eq, String.toList_ofList, wordsOf_intercalate isSep (wordsOf_solid _),
      List.take_of_length_le (by omega)]
  · apply shortText_plain
    · intro c mem
      rw [String.toList_ofList] at mem
      rcases mem_intercalate mem with rfl | ⟨w, word, inside⟩
      · simpa using isSep
      · exact (wordsOf_solid _).parted w word c inside
    · rw [String.toList_ofList]
      omega

theorem shortText_length : (shortText T s n).toList.length ≤ n := by
  rw [shortText_eq, String.toList_ofList]
  exact List.length_take_le ..

end

end AgentflowHermes
