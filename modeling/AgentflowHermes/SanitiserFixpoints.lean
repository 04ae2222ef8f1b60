import AgentflowHermes.JobStates
import AgentflowHermes.ShortTexts

namespace AgentflowHermes.Jobs

/-- The words of a text, parted by single blanks. -/
def collapsed (T : PyText) (s : String) : List Char := [' '].intercalate (wordsOf T.isSpace s.toList)

section

variable {T : PyText} {s : String} {n : Nat}

theorem shortText_collapsed : shortText T s n = String.ofList ((collapsed T s).take n) := shortText_eq

theorem collapsed_length : (collapsed T s).length ≤ s.toList.length := wordsOf_length s.toList

theorem collapsed_last : ∀ c ∈ (collapsed T s).getLast?, T.isSpace c = false := (wordsOf_solid s.toList).last

/-- A text is kept by `short_text` if its words are parted by single blanks and it is short enough. -/
theorem shortText_fixed_iff : shortText T s n = s ↔ collapsed T s = s.toList ∧ s.toList.length ≤ n := by
  rw [shortText_collapsed]
  constructor
  · intro same
    have chars : (collapsed T s).take n = s.toList := by rw [← same, String.toList_ofList, same]
    have short : s.toList.length ≤ n := by
      rw [← chars]
      exact List.length_take_le ..
    have whole := List.take_of_length_le (Nat.le_trans (@collapsed_length T s) short)
    exact ⟨whole.symm.trans chars, short⟩
  · rintro ⟨chars, short⟩
    rw [chars, List.take_of_length_le short, String.ofList_toList]

theorem cut_last {c : Char} (cut : (collapsed T s)[n]? = some c) : (shortText T s (n + 1)).toList.getLast? = some c := by
  rw [shortText_collapsed, String.toList_ofList, List.getLast?_take, if_neg (Nat.succ_ne_zero n), Nat.add_sub_cancel, cut]
  rfl

/-- A text that was cut is kept unless it was cut off behind a word. -/
theorem shortText_again_iff (blank : T.isSpace ' ' = true) :
    shortText T (shortText T s (n + 1)) (n + 1) = shortText T s (n + 1) ↔ (collapsed T s)[n]? ≠ some ' ' := by
  have chars : (shortText T s (n + 1)).toList = (collapsed T s).take (n + 1) := by
    rw [shortText_collapsed, String.toList_ofList]
  have last : ((collapsed T s).take (n + 1)).getLast? = (collapsed T s)[n]?.or (collapsed T s).getLast? := by
    rw [List.getLast?_take, if_neg (Nat.succ_ne_zero n), Nat.add_sub_cancel]
  rw [shortText_fixed_iff, chars]
  constructor
  · rintro ⟨same, _⟩ cut
    have end' := @collapsed_last T (shortText T s (n + 1)) ' ' (by rw [same, last, cut]; rfl)
    rw [blank] at end'
    cases end'
  · intro uncut
    have letter : ∀ c ∈ ((collapsed T s).take (n + 1)).getLast?, c ≠ ' ' := by
      rw [last]
      rintro c mem rfl
      cases there : (collapsed T s)[n]? with
      | some d =>
        rw [there] at mem uncut
        exact uncut mem
      | none =>
        rw [there] at mem
        have solid := collapsed_last ' ' mem
        rw [blank] at solid
        cases solid
    obtain ⟨ws, solid, same⟩ := (wordsOf_solid s.toList).take (n + 1) letter
    refine ⟨?_, List.length_take_le ..⟩
    have cut : (collapsed T s).take (n + 1) = [' '].intercalate ws := same
    have words : wordsOf T.isSpace (shortText T s (n + 1)).toList = ws := by
      rw [chars, cut, wordsOf_intercalate blank solid]
    rw [cut]
    unfold collapsed
    rw [words]

/-! One string of a payload. -/

/-- The marker of a key is kept: it is sensitive itself, or it is short and its words are parted by single blanks. -/
def MarkerKept (T : PyText) (key : String) : Prop :=
  containsSensitiveText T (shortText T (key ++ ":redacted") 2000) = true ∨
    (collapsed T (key ++ ":redacted") = (key ++ ":redacted").toList ∧ (key ++ ":redacted").toList.length ≤ 2000)

/-- The text is not cut off behind a word. -/
def Uncut (T : PyText) (s : String) : Prop := (collapsed T s)[1999]? ≠ some ' '

/-- A string under its key, as it has to be for the sanitiser to be done with it at once. -/
def FixedText (T : PyText) (key s : String) : Prop :=
  refKey key = true ∨ if containsSensitiveText T (shortText T s 2000) = true then MarkerKept T key else Uncut T s

instance (T : PyText) (key : String) : Decidable (MarkerKept T key) :=
  inferInstanceAs (Decidable (_ = true ∨ (_ = _ ∧ _ ≤ 2000)))

instance (T : PyText) (s : String) : Decidable (Uncut T s) := inferInstanceAs (Decidable (_ ≠ some ' '))

instance (T : PyText) (key s : String) : Decidable (FixedText T key s) :=
  inferInstanceAs (Decidable (_ = true ∨ if _ = true then MarkerKept T key else Uncut T s))

theorem marker_ne_empty (key : String) : key ++ ":redacted" ≠ "" := by
  intro empty
  have chars := congrArg String.toList empty
  rw [String.toList_append] at chars
  exact absurd (List.append_eq_nil_iff.mp chars).2 (by decide)

theorem marker_again {key : String} (sensitive : containsSensitiveText T (shortText T s 2000) = true) :
    safeJobField T key (safeJobField T key s) = safeJobField T key s ↔ MarkerKept T key := by
  have some' : shortText T s 2000 ≠ "" := by
    intro empty
    rw [empty, empty_reference.clean] at sensitive
    cases sensitive
  have first : safeJobField T key s = key ++ ":redacted" := by
    unfold safeJobField
    rw [if_neg some', if_pos sensitive]
  rw [first]
  unfold MarkerKept
  rw [← shortText_fixed_iff]
  unfold safeJobField
  dsimp only
  split
  next empty =>
    rw [empty, empty_reference.clean]
    simp [(marker_ne_empty key).symm]
  next =>
    split
    next marked => simp [marked]
    next plain => simp [plain]

theorem text_again (blank : T.isSpace ' ' = true) {key : String} (plain : ¬ containsSensitiveText T (shortText T s 2000) = true) :
    safeJobField T key (safeJobField T key s) = safeJobField T key s ↔ Uncut T s := by
  have first : safeJobField T key s = shortText T s 2000 := by
    unfold safeJobField
    dsimp only
    split
    next empty => exact empty.symm
    next => rfl
  unfold Uncut
  rw [first, ← @shortText_again_iff T s 1999 blank]
  constructor
  · intro kept
    unfold safeJobField at kept
    dsimp only at kept
    split at kept
    next empty => exact empty.trans kept
    next =>
      split at kept
      next marked =>
        by_contra other
        have cut := not_not.mp fun uncut => other ((@shortText_again_iff T s 1999 blank).mpr uncut)
        have blankEnd := cut_last cut
        have shown : (shortText T s 2000).toList.getLast? = some 'd' := by
          rw [← kept, String.toList_append, List.getLast?_append]
          rfl
        rw [shown] at blankEnd
        exact absurd (Option.some.inj blankEnd) (by decide)
      next => exact kept
  · intro kept
    unfold safeJobField
    dsimp only
    rw [kept]
    split
    next empty => exact empty.symm
    next => rfl

theorem safeText_again (plain : T.Plain) (blank : T.isSpace ' ' = true) (key s : String) :
    safeValue T key (safeValue T key (.str s)) = safeValue T key (.str s) ↔ FixedText T key s := by
  by_cases ref : refKey key = true
  · have read : ∀ t, safeValue T key (.str t) = .str (safeDurableRef T t) := fun t => by rw [safeValue, if_pos ref]
    rw [read, read, (safeDurableRef_reference s).durable plain]
    exact ⟨fun _ => .inl ref, fun _ => rfl⟩
  · have read : ∀ t, safeValue T key (.str t) = .str (safeJobField T key t) := fun t => by rw [safeValue, if_neg ref]
    rw [read, read, PyValue.str.injEq, FixedText, or_iff_right ref]
    by_cases sensitive : containsSensitiveText T (shortText T s 2000) = true
    · rw [if_pos sensitive]
      exact marker_again sensitive
    · rw [if_neg sensitive]
      exact text_again blank sensitive

end

/-! A payload. -/

mutual

/-- The strings of a value, each with the key that it is sanitised under. -/
def PyValue.texts (key : String) : PyValue → List (String × String)
  | .str s => [(key, s)]
  | .list items => itemTexts key items
  | .dict entries => entryTexts entries
  | _ => []

def itemTexts (key : String) : List PyValue → List (String × String)
  | [] => []
  | v :: rest => v.texts key ++ itemTexts key rest

def entryTexts : List (String × PyValue) → List (String × String)
  | [] => []
  | (k, v) :: rest => v.texts k ++ entryTexts rest

end

section

variable {T : PyText}

mutual

/-- A value is sanitised once exactly if each of its strings is. -/
theorem safeValue_again (plain : T.Plain) (blank : T.isSpace ' ' = true) (key : String) : ∀ v : PyValue,
    safeValue T key (safeValue T key v) = safeValue T key v ↔ ∀ text ∈ v.texts key, FixedText T text.1 text.2
  | .none | .bool _ | .int _ | .float _ | .other | .tuple _ => by simp [safeValue, PyValue.texts]
  | .str s => by
    rw [safeText_again plain blank]
    simp [PyValue.texts]
  | .list items => by
    simp only [safeValue, PyValue.list.injEq, PyValue.texts]
    exact safeItems_again plain blank key items
  | .dict entries => by
    simp only [safeValue, PyValue.dict.injEq, PyValue.texts]
    exact safeEntries_again plain blank entries

theorem safeItems_again (plain : T.Plain) (blank : T.isSpace ' ' = true) (key : String) : ∀ items : List PyValue,
    safeItems T key (safeItems T key items) = safeItems T key items ↔
      ∀ text ∈ itemTexts key items, FixedText T text.1 text.2
  | [] => by simp [safeItems, itemTexts]
  | v :: rest => by
    simp only [safeItems, List.cons.injEq, itemTexts, List.forall_mem_append]
    rw [safeValue_again plain blank key v, safeItems_again plain blank key rest]

theorem safeEntries_again (plain : T.Plain) (blank : T.isSpace ' ' = true) : ∀ entries : List (String × PyValue),
    safeEntries T (safeEntries T entries) = safeEntries T entries ↔
      ∀ text ∈ entryTexts entries, FixedText T text.1 text.2
  | [] => by simp [safeEntries, entryTexts]
  | (k, v) :: rest => by
    simp only [safeEntries, List.cons.injEq, Prod.mk.injEq, true_and, entryTexts, List.forall_mem_append]
    rw [safeValue_again plain blank k v, safeEntries_again plain blank rest]

end

end

/-- A durable reference is kept as it is whatever it is salted with, and a payload is sanitised once exactly if no string in it
is cut off behind a word and no marker is changed. -/
theorem sanitisers_idempotent_iff (T : PyText) (plain : T.Plain) (blank : T.isSpace ' ' = true) :
    (∀ salt salt' value, safeDurableRefSalted T salt' (safeDurableRefSalted T salt value) = safeDurableRefSalted T salt value ∧
      Reference T (safeDurableRefSalted T salt value)) ∧
    ∀ p : Payload, safeEntries T (safeEntries T p) = safeEntries T p ↔ ∀ text ∈ entryTexts p, FixedText T text.1 text.2 :=
  ⟨fun salt salt' value => ⟨salted_kept plain (salted_reference salt value) salt', salted_reference salt value⟩,
    fun p => safeEntries_again plain blank p⟩

/-- A key with two blanks in a row: its marker is collapsed when it is sanitised again. -/
theorem blank_key_changes :
    safeEntries asciiText (safeEntries asciiText [("a  b", .str "token")]) ≠ safeEntries asciiText [("a  b", .str "token")] := by
  have first : safeJobField asciiText "a  b" "token" = "a  b:redacted" := by decide +kernel
  have second : safeJobField asciiText "a  b" "a  b:redacted" = "a b:redacted" := by decide +kernel
  have text : refKey "a  b" = false := by decide
  intro same
  simp only [safeEntries, safeValue, text, Bool.false_eq_true, if_false, first, second, List.cons.injEq, Prod.mk.injEq,
    PyValue.str.injEq, and_true, true_and] at same
  exact absurd same (by decide)

theorem sanitisers_idempotent_example :
    safeDurableRefSalted asciiText "" (safeDurableRefSalted asciiText "h" "/home/u/a b") = safeDurableRefSalted asciiText "h" "/home/u/a b" ∧
    safeEntries asciiText (safeEntries asciiText [("title", .str " a  task "), ("tags", .list [.str "token"])]) =
      safeEntries asciiText [("title", .str " a  task "), ("tags", .list [.str "token"])] := by
  obtain ⟨refs, payloads⟩ := sanitisers_idempotent_iff asciiText asciiText_plain (by decide)
  refine ⟨(refs "h" "" "/home/u/a b").1, (payloads _).mpr ?_⟩
  have title : FixedText asciiText "title" " a  task " := by decide +kernel
  have tag : FixedText asciiText "tags" "token" := by decide +kernel
  simpa [entryTexts, PyValue.texts, itemTexts] using ⟨title, tag⟩

end AgentflowHermes.Jobs
