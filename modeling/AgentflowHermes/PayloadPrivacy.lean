import AgentflowHermes.JobStates
import AgentflowHermes.LiveSanitize

namespace AgentflowHermes

mutual

/-- The strings of a stored value, the keys of its objects among them. -/
def Json.strings : Json → List String
  | .str s => [s]
  | .arr items => Json.itemStrings items
  | .obj fields => Json.fieldStrings fields
  | .null | .bool _ | .int _ | .float _ => []

def Json.itemStrings : List Json → List String
  | [] => []
  | v :: rest => v.strings ++ Json.itemStrings rest

def Json.fieldStrings : List (String × Json) → List String
  | [] => []
  | (k, v) :: rest => k :: v.strings ++ Json.fieldStrings rest

end

/-- No text here is one that `contains_sensitive_text` recognises. -/
def NoneSensitive (T : PyText) (texts : List String) : Prop := ∀ s ∈ texts, containsSensitiveText T s = false

section

variable {T : PyText} {l l' : List String} {s : String}

@[simp] theorem noneSensitive_nil : NoneSensitive T [] := fun _ h => absurd h List.not_mem_nil

@[simp] theorem noneSensitive_cons :
    NoneSensitive T (s :: l) ↔ containsSensitiveText T s = false ∧ NoneSensitive T l :=
  List.forall_mem_cons

@[simp] theorem noneSensitive_append : NoneSensitive T (l ++ l') ↔ NoneSensitive T l ∧ NoneSensitive T l' :=
  List.forall_mem_append

end

namespace Jobs

mutual

/-- The strings that `json.dumps` writes of a value. -/
def PyValue.strings : PyValue → List String
  | .str s => [s]
  | .list items => PyValue.itemStrings items
  | .tuple items => PyValue.itemStrings items
  | .dict entries => PyValue.entryStrings entries
  | .none | .bool _ | .int _ | .float _ | .other => []

def PyValue.itemStrings : List PyValue → List String
  | [] => []
  | v :: rest => v.strings ++ PyValue.itemStrings rest

def PyValue.entryStrings : List (String × PyValue) → List String
  | [] => []
  | (k, v) :: rest => k :: v.strings ++ PyValue.entryStrings rest

end

mutual

theorem dumps_strings : ∀ {v : PyValue} {j : Json}, dumps v = some j → j.strings = v.strings
  | .none, _, h | .bool _, _, h | .int _, _, h | .float _, _, h | .str _, _, h => by
    cases h
    rfl
  | .list items, _, h | .tuple items, _, h => by
    obtain ⟨js, written, rfl⟩ := Option.map_eq_some_iff.mp h
    exact dumpsItems_strings written
  | .dict entries, _, h => by
    obtain ⟨js, written, rfl⟩ := Option.map_eq_some_iff.mp h
    exact dumpsEntries_strings written

theorem dumpsItems_strings : ∀ {l : List PyValue} {js : List Json}, dumpsItems l = some js →
    Json.itemStrings js = PyValue.itemStrings l
  | [], _, h => by
    cases h
    rfl
  | v :: rest, _, h => by
    obtain ⟨j, first, h⟩ := Option.bind_eq_some_iff.mp h
    obtain ⟨js, later, h⟩ := Option.bind_eq_some_iff.mp h
    cases h
    simp only [Json.itemStrings, PyValue.itemStrings, dumps_strings first, dumpsItems_strings later]

theorem dumpsEntries_strings : ∀ {l : List (String × PyValue)} {js : List (String × Json)},
    dumpsEntries l = some js → Json.fieldStrings js = PyValue.entryStrings l
  | [], _, h => by
    cases h
    rfl
  | (k, v) :: rest, _, h => by
    obtain ⟨j, first, h⟩ := Option.bind_eq_some_iff.mp h
    obtain ⟨js, later, h⟩ := Option.bind_eq_some_iff.mp h
    cases h
    simp only [Json.fieldStrings, PyValue.entryStrings, dumps_strings first, dumpsEntries_strings later]

end

section

variable (T : PyText)

mutual

/-- What it takes for a value to be stored without anything sensitive: a text under a key that names no
reference is not sensitive, or else its key can be written with `:redacted` after it, a tuple has nothing
sensitive in it, and no key of a dictionary is sensitive. -/
def storable (key : String) : PyValue → Bool
  | .str s =>
    refKey key || !containsSensitiveText T (shortText T s 2000) || !containsSensitiveText T (key ++ ":redacted")
  | .dict entries => storableEntries entries
  | .list items => storableItems key items
  | .tuple items => (PyValue.itemStrings items).all fun s => !containsSensitiveText T s
  | .none | .bool _ | .int _ | .float _ | .other => true

def storableItems (key : String) : List PyValue → Bool
  | [] => true
  | v :: rest => storable key v && storableItems key rest

def storableEntries : List (String × PyValue) → Bool
  | [] => true
  | (k, v) :: rest => !containsSensitiveText T k && storable k v && storableEntries rest

end

end

section

variable {T : PyText}

theorem empty_clean : containsSensitiveText T "" = false := empty_reference.clean

/-- What a field is stored as is not sensitive, unless the field's own name is. -/
theorem safeJobFieldUpTo_clean {n : Nat} {field value : String} :
    containsSensitiveText T (safeJobFieldUpTo T n field value) = false ↔
      containsSensitiveText T (shortText T value n) = false ∨
        containsSensitiveText T (field ++ ":redacted") = false := by
  unfold safeJobFieldUpTo
  dsimp only
  split
  next nothing => simp [nothing, empty_clean]
  split
  next sensitive => simp [sensitive]
  next harmless =>
    rw [Bool.not_eq_true] at harmless
    simp [harmless]

theorem noneSensitive_all {l : List String} :
    (l.all fun s => !containsSensitiveText T s) = true ↔ NoneSensitive T l := by
  simp [NoneSensitive]

mutual

/-- `storable` says exactly which values `_safe_value` leaves nothing sensitive of. -/
theorem safeValue_clean (key : String) : ∀ v : PyValue,
    NoneSensitive T (safeValue T key v).strings ↔ storable T key v = true
  | .none | .bool _ | .int _ | .float _ | .other => by simp [safeValue, PyValue.strings, storable]
  | .str s => by
    have field : containsSensitiveText T (safeJobField T key s) = false ↔ _ := @safeJobFieldUpTo_clean T 2000 key s
    unfold safeValue storable
    cases refKey key with
    | true => simp [PyValue.strings, (safeDurableRef_reference s).clean]
    | false => simpa [PyValue.strings, or_assoc] using field
  | .list items => by
    simp only [safeValue, PyValue.strings, storable]
    exact safeItems_clean key items
  | .tuple items => by
    simp only [safeValue, PyValue.strings, storable]
    exact noneSensitive_all.symm
  | .dict entries => by
    simp only [safeValue, PyValue.strings, storable]
    exact safeEntries_clean entries

theorem safeItems_clean (key : String) : ∀ items : List PyValue,
    NoneSensitive T (PyValue.itemStrings (safeItems T key items)) ↔ storableItems T key items = true
  | [] => by simp [safeItems, PyValue.itemStrings, storableItems]
  | v :: rest => by
    simp [safeItems, PyValue.itemStrings, storableItems, safeValue_clean key v, safeItems_clean key rest]

theorem safeEntries_clean : ∀ entries : List (String × PyValue),
    NoneSensitive T (PyValue.entryStrings (safeEntries T entries)) ↔ storableEntries T entries = true
  | [] => by simp [safeEntries, PyValue.entryStrings, storableEntries]
  | (k, v) :: rest => by
    simp [safeEntries, PyValue.entryStrings, storableEntries, safeValue_clean k v, safeEntries_clean rest, and_assoc]

end

theorem dumpsItems_isSome {v : PyValue} {rest : List PyValue} :
    (dumpsItems (v :: rest)).isSome = ((dumps v).isSome && (dumpsItems rest).isSome) := by
  rw [dumpsItems]
  cases dumps v with
  | none => rfl
  | some j => cases dumpsItems rest <;> rfl

theorem dumpsEntries_isSome {k : String} {v : PyValue} {rest : Payload} :
    (dumpsEntries ((k, v) :: rest)).isSome = ((dumps v).isSome && (dumpsEntries rest).isSome) := by
  rw [dumpsEntries]
  cases dumps v with
  | none => rfl
  | some j => cases dumpsEntries rest <;> rfl

mutual

/-- Sanitising changes nothing about what `json.dumps` refuses. -/
theorem dumps_safeValue (key : String) : ∀ v : PyValue, (dumps (safeValue T key v)).isSome = (dumps v).isSome
  | .none | .bool _ | .int _ | .float _ | .other | .tuple _ => by simp [safeValue]
  | .str _ => by simp [safeValue, dumps]
  | .list items => by simpa [safeValue, dumps] using dumps_safeItems key items
  | .dict entries => by simpa [safeValue, dumps] using dumps_safeEntries entries

theorem dumps_safeItems (key : String) : ∀ items : List PyValue,
    (dumpsItems (safeItems T key items)).isSome = (dumpsItems items).isSome
  | [] => rfl
  | v :: rest => by
    rw [safeItems, dumpsItems_isSome, dumpsItems_isSome, dumps_safeValue key v, dumps_safeItems key rest]

theorem dumps_safeEntries : ∀ entries : List (String × PyValue),
    (dumpsEntries (safeEntries T entries)).isSome = (dumpsEntries entries).isSome
  | [] => rfl
  | (k, v) :: rest => by
    rw [safeEntries, dumpsEntries_isSome, dumpsEntries_isSome, dumps_safeValue k v, dumps_safeEntries rest]

end

theorem safeEntries_setKey {key : String} {v : PyValue} {p : Payload} :
    safeEntries T (setKey key v p) = setKey key (safeValue T key v) (safeEntries T p) := by
  induction p with
  | nil => rfl
  | cons entry rest ih =>
    obtain ⟨k, old⟩ := entry
    unfold setKey
    by_cases same : k = key
    · subst same
      simp [safeEntries]
    · simp [safeEntries, same, ih]

theorem storableEntries_setKey {key : String} {v v' : PyValue} {p : Payload}
    (same : storable T key v = storable T key v') :
    storableEntries T (setKey key v p) = storableEntries T (setKey key v' p) := by
  induction p with
  | nil => simp [setKey, storableEntries, same]
  | cons entry rest ih =>
    obtain ⟨k, old⟩ := entry
    unfold setKey
    by_cases hk : k = key
    · simp [storableEntries, hk, same]
    · simp [storableEntries, hk, ih]

theorem dumpsEntries_setKey {key : String} {v v' : PyValue} {p : Payload}
    (same : (dumps v).isSome = (dumps v').isSome) :
    (dumpsEntries (setKey key v p)).isSome = (dumpsEntries (setKey key v' p)).isSome := by
  induction p with
  | nil =>
    rw [setKey, setKey, dumpsEntries_isSome, dumpsEntries_isSome, same]
  | cons entry rest ih =>
    obtain ⟨k, old⟩ := entry
    unfold setKey
    by_cases hk : k = key
    · rw [if_pos hk, if_pos hk, dumpsEntries_isSome, dumpsEntries_isSome, same]
    · rw [if_neg hk, if_neg hk, dumpsEntries_isSome, dumpsEntries_isSome, ih]

end

end Jobs

end AgentflowHermes
