import AgentflowHermes.AckBlocks

namespace AgentflowHermes.Ack

open JoinedParts TextLines

/-- A text with no newline in it. -/
abbrev SingleLine := {text : String // '\n' ∉ text.toList}

inductive FieldValue
  | line (text : SingleLine)
  | items (texts : List SingleLine)

def itemLine (item : SingleLine) : List Char := '-' :: ' ' :: item.1.toList

/-- The text of a value, with the lines of a list. -/
def FieldValue.text : FieldValue → String
  | .line text => text.1
  | .items texts => String.ofList (['\n'].intercalate (texts.map itemLine))

/-- Fields, each of them given once. -/
structure FieldMap where
  fields : List (String × FieldValue)
  distinct : (fields.map Prod.fst).Nodup

def FieldMap.texts (m : FieldMap) : List (String × String) := m.fields.map fun field => (field.1, field.2.text)

/-- The lines of a field, as the dispatch prompt writes them. -/
def fieldLines (field : String × FieldValue) : List (List Char) :=
  match field.2 with
  | .line text => [field.1.toList ++ ':' :: ' ' :: text.1.toList]
  | .items texts => (field.1.toList ++ [':']) :: texts.map itemLine

def FieldMap.lines (m : FieldMap) : List (List Char) := m.fields.flatMap fieldLines

def FieldMap.render (m : FieldMap) : String :=
  String.ofList (marker ++ '\n' :: ['\n'].intercalate (m.lines ++ [[]]))

/-- The block is read back as the map it was written from. -/
def RoundTrips (T : AckText) (m : FieldMap) : Prop :=
  ∃ fields, parseAckBlock T m.render = .ok fields ∧ ∀ key, fields.lookup key = m.texts.lookup key

/-- A name as the parser keeps it. -/
structure NormalKey (T : AckText) (key : String) : Prop where
  start : key.toList.head?.any fieldStart = true
  names : ∀ c ∈ key.toList, nameChar T c = true
  normal : normalKey T key.toList = key

/-- A line with no blanks at its ends, or items of which none is empty or ends in a blank. -/
def Trimmed (T : AckText) : FieldValue → Prop
  | .line text => strip T.isSpace text.1.toList = text.1.toList
  | .items texts => ∀ item ∈ texts, rstrip T.isSpace (itemLine item) = itemLine item

/-- No other character than the newlines between the lines ends one. -/
def Whole : FieldValue → Prop
  | .line text => ∀ c ∈ text.1.toList, lineBreak c = false
  | .items texts => ∀ item ∈ texts, ∀ c ∈ item.1.toList, lineBreak c = false

def FieldMap.Normal (T : AckText) (m : FieldMap) : Prop :=
  ∀ field ∈ m.fields, NormalKey T field.1 ∧ Trimmed T field.2 ∧ Whole field.2

section

variable {T : AckText} {m : FieldMap}

/-! Reading a block that was written. -/

theorem ackBody_marker (body : List Char) : ackBody (marker ++ body) = some body := by
  have found : dropMarker marker (marker ++ body) = some body := by
    rfl
  have shape : marker ++ body = '[' :: ("JOB ACK]".toList ++ body) := by rfl
  rw [shape] at found ⊢
  unfold ackBody
  rw [found]

/-- The parts that are kept of a value. -/
def partsOf (T : AckText) : FieldValue → List (List Char)
  | .line text => [strip T.isSpace text.1.toList]
  | .items texts => [] :: texts.map fun item => rstrip T.isSpace (itemLine item)

/-- The line that begins a field, whose name has no blank and no colon. -/
theorem fieldRe_head {key value : List Char} (clean : ∀ c ∈ key, T.isSpace c = false ∧ c ≠ ':') :
    strip T.isSpace (key ++ ':' :: value) = key ++ ':' :: rstrip T.isSpace value := by
  have solid : ∀ c ∈ key ++ [':'], T.isSpace c = false := by
    intro c mem
    rcases List.mem_append.mp mem with mem | mem
    · exact (clean c mem).1
    · rw [List.mem_singleton.mp mem]
      exact T.space_marks.1
  have whole : key ++ ':' :: value = (key ++ [':']) ++ value := by simp
  have kept : ((key ++ [':']) ++ value).dropWhile T.isSpace = (key ++ [':']) ++ value := by
    cases key with
    | nil => exact List.dropWhile_cons_of_neg (by rw [T.space_marks.1]; decide)
    | cons c cs => exact List.dropWhile_cons_of_neg (by rw [(clean c List.mem_cons_self).1]; decide)
  unfold strip
  rw [whole, kept, rstrip_append solid]
  simp

theorem NormalKey.clean {key : String} (normal : NormalKey T key) : ∀ c ∈ key.toList, T.isSpace c = false ∧ c ≠ ':' :=
  fun c mem => nameChar_solid (normal.names c mem)

theorem NormalKey.ne_empty {key : String} (normal : NormalKey T key) : key ≠ "" := by
  rintro rfl
  cases normal.start

theorem readLine_head {key : String} (normal : NormalKey T key) (s : Reading) (value : List Char) :
    readLine T s (key.toList ++ ':' :: value) =
      { fields := Dicts.set key [strip T.isSpace value] s.fields, current := key } := by
  have found : fieldRe T (key.toList ++ ':' :: rstrip T.isSpace value) =
      some (key.toList, (rstrip T.isSpace value).dropWhile T.isSpace) :=
    fieldRe_eq_some_iff.mpr ⟨_, rfl, normal.start, normal.names, rfl⟩
  unfold readLine
  rw [fieldRe_head normal.clean, found]
  dsimp only
  rw [normal.normal, strip_dropWhile, strip_rstrip]

theorem itemLine_strip (item : SingleLine) : strip T.isSpace (itemLine item) = rstrip T.isSpace (itemLine item) := by
  unfold strip itemLine
  rw [List.dropWhile_cons_of_neg (by rw [T.space_marks.2.1]; decide)]

theorem itemLine_rstrip (item : SingleLine) :
    ∃ rest, rstrip T.isSpace (itemLine item) = '-' :: rest :=
  ⟨_, rstrip_cons T.space_marks.2.1 _⟩

theorem itemLine_field (item : SingleLine) : fieldRe T (strip T.isSpace (itemLine item)) = none := by
  obtain ⟨rest, shape⟩ := itemLine_rstrip (T := T) item
  cases found : fieldRe T (strip T.isSpace (itemLine item)) with
  | none => rfl
  | some field =>
    exfalso
    obtain ⟨more, line, start, _⟩ := fieldRe_eq_some_iff.mp (show _ = some (field.1, field.2) from found)
    rw [itemLine_strip, shape] at line
    cases name : field.1 with
    | nil =>
      rw [name] at start
      cases start
    | cons c cs =>
      rw [name, List.cons_append, List.cons.injEq] at line
      rw [name, ← line.1] at start
      have dash : fieldStart '-' = true := start
      exact absurd dash (by decide)

theorem itemLine_continuation (item : SingleLine) : continuationRe T (itemLine item) = true := by
  have first : (itemLine item).head?.any ['-', '*', '+'].contains = true := rfl
  have blank : spaced T (itemLine item).tail = true := T.space_blank
  unfold continuationRe
  dsimp only
  rw [first, blank]
  simp

theorem readLine_item {key : String} (named : key ≠ "") {d : Fields} {parts : List (List Char)} (item : SingleLine) :
    readLine T ⟨Dicts.set key parts d, key⟩ (itemLine item) =
      ⟨Dicts.set key (parts ++ [rstrip T.isSpace (itemLine item)]) d, key⟩ := by
  unfold readLine
  rw [itemLine_field]
  dsimp only
  rw [if_pos ⟨named, .inr (itemLine_continuation item)⟩, Dicts.lookup_set_self, Dicts.set_set]
  rfl

theorem foldl_items {key : String} (named : key ≠ "") {d : Fields} (items : List SingleLine) {parts : List (List Char)} :
    (items.map itemLine).foldl (readLine T) ⟨Dicts.set key parts d, key⟩ =
      ⟨Dicts.set key (parts ++ items.map fun item => rstrip T.isSpace (itemLine item)) d, key⟩ := by
  induction items generalizing parts with
  | nil => simp
  | cons item items ih =>
    rw [List.map_cons, List.foldl_cons, readLine_item named, ih]
    simp

/-- The lines of a field give it the parts of its value. -/
theorem foldl_fieldLines {field : String × FieldValue} (normal : NormalKey T field.1) (s : Reading) :
    (fieldLines field).foldl (readLine T) s = ⟨Dicts.set field.1 (partsOf T field.2) s.fields, field.1⟩ := by
  obtain ⟨key, value⟩ := field
  cases value with
  | line text =>
    have stripped : strip T.isSpace (' ' :: text.1.toList) = strip T.isSpace text.1.toList := by
      unfold strip
      rw [List.dropWhile_cons_of_pos T.space_blank]
    change readLine T s (key.toList ++ ':' :: (' ' :: text.1.toList)) = _
    rw [readLine_head normal, stripped]
    rfl
  | items texts =>
    change (texts.map itemLine).foldl (readLine T) (readLine T s (key.toList ++ ':' :: [])) = _
    rw [readLine_head normal, foldl_items normal.ne_empty]
    rfl

theorem foldl_lines {fields : List (String × FieldValue)} (normal : ∀ field ∈ fields, NormalKey T field.1) (s : Reading) :
    ((fields.flatMap fieldLines).foldl (readLine T) s).fields =
      (fields.map fun field => (field.1, partsOf T field.2)).foldl (fun d entry => Dicts.set entry.1 entry.2 d) s.fields := by
  induction fields generalizing s with
  | nil => rfl
  | cons field fields ih =>
    rw [List.flatMap_cons, List.foldl_append, foldl_fieldLines (normal field List.mem_cons_self),
      ih fun other mem => normal other (List.mem_cons_of_mem _ mem)]
    rfl

theorem splitlines_body (plain : ∀ line ∈ m.lines, ∀ c ∈ line, lineBreak c = false) :
    splitlines ('\n' :: ['\n'].intercalate (m.lines ++ [[]])) = [] :: m.lines := by
  have first := @splitlines_line [] (['\n'].intercalate (m.lines ++ [[]])) (by simp)
  rw [List.nil_append] at first
  rw [first, splitlines_intercalate plain]

theorem parse_render : parseAckBlock T m.render =
    .ok (textsOf T (readLines T (splitlines ('\n' :: ['\n'].intercalate (m.lines ++ [[]])))).fields) := by
  unfold parseAckBlock FieldMap.render
  rw [String.toList_ofList, ackBody_marker]

theorem readLines_rendered (plain : ∀ line ∈ m.lines, ∀ c ∈ line, lineBreak c = false) :
    readLines T (splitlines ('\n' :: ['\n'].intercalate (m.lines ++ [[]]))) = readLines T m.lines := by
  rw [splitlines_body plain]
  rfl

/-- A block of unbroken lines under normal names is read back where each value is. -/
theorem roundTrips_iff_values (plain : ∀ line ∈ m.lines, ∀ c ∈ line, lineBreak c = false)
    (normal : ∀ field ∈ m.fields, NormalKey T field.1) :
    RoundTrips T m ↔ ∀ field ∈ m.fields, fieldText T (partsOf T field.2) = field.2.text := by
  have same : ∀ key, (textsOf T (readLines T m.lines).fields).lookup key =
      (m.fields.lookup key).map fun value => fieldText T (partsOf T value) := by
    intro key
    have keys : ((m.fields.map fun field => (field.1, partsOf T field.2)).map Prod.fst).Nodup := by
      rw [List.map_map]
      exact m.distinct
    unfold textsOf readLines FieldMap.lines
    rw [foldl_lines normal, Dicts.lookup_map, Dicts.lookup_foldl_set keys, Dicts.lookup_map]
    cases m.fields.lookup key <;> rfl
  unfold RoundTrips
  rw [parse_render, readLines_rendered plain]
  constructor
  · rintro ⟨fields, given, alike⟩ field mem
    have found : m.fields.lookup field.1 = some field.2 := Dicts.lookup_of_mem m.distinct mem
    have both := alike field.1
    rw [← Except.ok.inj given, same, FieldMap.texts, Dicts.lookup_map, found] at both
    exact Option.some.inj both
  · intro values
    refine ⟨_, rfl, fun key => ?_⟩
    rw [same, FieldMap.texts, Dicts.lookup_map]
    cases found : m.fields.lookup key with
    | none => rfl
    | some value => exact congrArg some (values (key, value) (Dicts.mem_of_lookup found))

/-! What a value is read back as. -/

theorem fieldText_line (text : SingleLine) : fieldText T (partsOf T (.line text)) = text.1 ↔
    strip T.isSpace text.1.toList = text.1.toList := by
  have again : strip T.isSpace (strip T.isSpace text.1.toList) = strip T.isSpace text.1.toList := by
    have inner : strip T.isSpace text.1.toList = rstrip T.isSpace (text.1.toList.dropWhile T.isSpace) := rfl
    rw [inner, strip_rstrip, strip_dropWhile]
    rfl
  unfold fieldText partsOf
  dsimp only
  rw [List.intercalate_singleton, again]
  constructor
  · intro same
    rw [← same, String.toList_ofList, again]
  · intro same
    rw [same, String.ofList_toList]

theorem itemLine_plain (item : SingleLine) : '\n' ∉ itemLine item := by
  unfold itemLine
  intro mem
  rcases List.mem_cons.mp mem with same | mem
  · exact absurd same (by decide)
  · rcases List.mem_cons.mp mem with same | mem
    · exact absurd same (by decide)
    · exact item.2 mem

theorem fieldText_items (texts : List SingleLine) :
    fieldText T (partsOf T (.items texts)) = String.ofList (['\n'].intercalate (texts.map itemLine)) ↔
      ∀ item ∈ texts, rstrip T.isSpace (itemLine item) = itemLine item := by
  cases texts with
  | nil => simp [fieldText, partsOf, strip, rstrip]
  | cons item texts =>
    have kept : strip T.isSpace (['\n'].intercalate ([] :: (item :: texts).map fun item => rstrip T.isSpace (itemLine item))) =
        ['\n'].intercalate ((item :: texts).map fun item => rstrip T.isSpace (itemLine item)) := by
      obtain ⟨rest, shape⟩ := itemLine_rstrip (T := T) item
      have each : ∀ w ∈ (item :: texts).map fun item => rstrip T.isSpace (itemLine item),
          w ≠ [] ∧ ∀ c ∈ w.getLast?, T.isSpace c = false := by
        intro w mem
        obtain ⟨one, _, rfl⟩ := List.mem_map.mp mem
        obtain ⟨more, begins⟩ := itemLine_rstrip (T := T) one
        exact ⟨by rw [begins]; exact List.cons_ne_nil _ _, (rstrip_split T.isSpace (itemLine one)).2⟩
      obtain ⟨_, solid⟩ := @intercalate_last Char T.isSpace '\n' _ _ each
      have feed : T.isSpace '\n' = true := T.space_break '\n' (by decide)
      rw [List.map_cons, List.intercalate_cons_cons, List.nil_append, List.singleton_append]
      unfold strip
      rw [List.dropWhile_cons_of_pos feed]
      have kept : (['\n'].intercalate (rstrip T.isSpace (itemLine item) ::
          texts.map fun item => rstrip T.isSpace (itemLine item))).dropWhile T.isSpace =
          ['\n'].intercalate (rstrip T.isSpace (itemLine item) :: texts.map fun item => rstrip T.isSpace (itemLine item)) := by
        rw [shape, List.intercalate_cons_cons_left, List.dropWhile_cons_of_neg (by rw [T.space_marks.2.1]; decide)]
      rw [kept, rstrip_tight solid]
    unfold fieldText partsOf
    dsimp only
    rw [kept]
    have inj : ∀ {xs ys : List Char}, String.ofList xs = String.ofList ys ↔ xs = ys := by
      intro xs ys
      constructor
      · intro same
        rw [← String.toList_ofList (l := xs), same, String.toList_ofList]
      · exact congrArg String.ofList
    have plain : ∀ p ∈ (item :: texts).map fun item => rstrip T.isSpace (itemLine item), '\n' ∉ p := by
      intro p mem inside
      obtain ⟨one, _, rfl⟩ := List.mem_map.mp mem
      exact itemLine_plain one (mem_rstrip inside)
    have plain' : ∀ p ∈ (item :: texts).map itemLine, '\n' ∉ p := by
      intro p mem
      obtain ⟨one, _, rfl⟩ := List.mem_map.mp mem
      exact itemLine_plain one
    rw [inj, join_inj_iff, pieces_plain plain, pieces_plain plain', List.map_inj_left]
    · simp
    · simp

end

end AgentflowHermes.Ack
