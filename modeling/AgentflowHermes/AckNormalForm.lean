import AgentflowHermes.AckRoundTrip

namespace AgentflowHermes.Ack

open JoinedParts TextLines

section

variable {T : AckText} {m : FieldMap}

/-! Where fields come from. -/

/-- A key that a field line among the lines gives. -/
def Given (T : AckText) (lines : List (List Char)) (key : String) : Prop :=
  ∃ line ∈ lines, ∃ name value, fieldRe T (strip T.isSpace line) = some (name, value) ∧ key = normalKey T name

/-- Every key is given by a line, and every part is text of one. -/
def Known (T : AckText) (lines : List (List Char)) (d : Fields) : Prop :=
  ∀ entry ∈ d, Given T lines entry.1 ∧ ∀ part ∈ entry.2, ∃ line ∈ lines, ∀ c ∈ part, c ∈ line

theorem readLine_known {lines : List (List Char)} {s : Reading} (settled : s.Settled) (known : Known T lines s.fields)
    {raw : List Char} (mem : raw ∈ lines) : Known T lines (readLine T s raw).fields := by
  unfold readLine
  cases found : fieldRe T (strip T.isSpace raw) with
  | some field =>
    obtain ⟨name, value⟩ := field
    obtain ⟨rest, shape, _, _, valued⟩ := fieldRe_eq_some_iff.mp found
    intro entry is
    rcases Dicts.mem_set is with rfl | old
    · refine ⟨⟨raw, mem, name, value, found, rfl⟩, fun part one => ⟨raw, mem, fun c there => ?_⟩⟩
      rw [List.mem_singleton.mp one] at there
      have tail : c ∈ rest := (List.dropWhile_sublist _).subset (valued ▸ mem_strip there)
      exact mem_strip (shape ▸ List.mem_append_right _ (List.mem_cons_of_mem _ tail))
    · exact known entry old
  | none =>
    dsimp only
    split
    next reads =>
      obtain ⟨parts, there⟩ := settled reads.1
      obtain ⟨given, old⟩ := known _ (Dicts.mem_of_lookup there)
      intro entry is
      rcases Dicts.mem_set is with rfl | same
      · refine ⟨given, fun part one => ?_⟩
        rw [there] at one
        rcases List.mem_append.mp one with one | one
        · exact old part one
        · exact ⟨raw, mem, fun c inside => mem_rstrip (List.mem_singleton.mp one ▸ inside)⟩
      · exact known entry same
    next => exact known

theorem foldl_known {lines part : List (List Char)} (among : ∀ raw ∈ part, raw ∈ lines) {s : Reading}
    (settled : s.Settled) (known : Known T lines s.fields) : Known T lines (part.foldl (readLine T) s).fields := by
  induction part generalizing s with
  | nil => exact known
  | cons raw part ih =>
    have kept := readLine_known settled known (among raw List.mem_cons_self)
    exact ih (fun other mem => among other (List.mem_cons_of_mem _ mem)) (readLine_settled settled raw) kept

theorem readLines_known (lines : List (List Char)) : Known T lines (readLines T lines).fields :=
  foldl_known (fun _ mem => mem) (fun some' => absurd rfl some') fun _ none' => absurd none' List.not_mem_nil

theorem Given.clean {lines : List (List Char)} {key : String} (given : Given T lines key) :
    ∀ c ∈ key.toList, T.isSpace c = false ∧ c ≠ ':' := by
  obtain ⟨_, _, name, _, found, rfl⟩ := given
  obtain ⟨_, _, _, names, _⟩ := fieldRe_eq_some_iff.mp found
  intro c mem
  unfold normalKey at mem
  rw [String.toList_ofList] at mem
  have word : ∀ d ∈ name.map fun c => if c = '-' then '_' else c, T.isWord d = true := by
    intro d there
    obtain ⟨e, inside, rfl⟩ := List.mem_map.mp there
    by_cases dash : e = '-'
    · rw [if_pos dash]
      exact T.word_start '_' (by decide)
    · rw [if_neg dash]
      have named := names e inside
      unfold nameChar at named
      simpa [dash] using named
  constructor
  · by_contra blank
    have blank' : T.isSpace c = true := by simpa using blank
    have solid := (T.word_solid c (word c (T.lower_marks _ c mem (.inl blank')))).1
    rw [solid] at blank'
    cases blank'
  · intro colon
    exact (T.word_solid c (word c (T.lower_marks _ c mem (.inr (.inl colon))))).2.1 colon

theorem fieldText_mem {parts : List (List Char)} {c : Char} (mem : c ∈ (fieldText T parts).toList) :
    c = '\n' ∨ ∃ part ∈ parts, c ∈ part := by
  unfold fieldText at mem
  rw [String.toList_ofList] at mem
  exact mem_intercalate (mem_strip mem)

/-- What is read back is text of the lines that were written. -/
theorem RoundTrips.known (h : RoundTrips T m) {field : String × FieldValue} (mem : field ∈ m.fields) :
    let lines := splitlines ('\n' :: ['\n'].intercalate (m.lines ++ [[]]))
    Given T lines field.1 ∧ ∀ c ∈ field.2.text.toList, c = '\n' ∨ ∃ line ∈ lines, c ∈ line := by
  obtain ⟨fields, parsed, alike⟩ := h
  rw [parse_render] at parsed
  have found := alike field.1
  rw [← Except.ok.inj parsed, FieldMap.texts, Dicts.lookup_map, Dicts.lookup_of_mem m.distinct mem, textsOf,
    Dicts.lookup_map] at found
  obtain ⟨parts, there, text⟩ := Option.map_eq_some_iff.mp found
  obtain ⟨given, old⟩ := readLines_known _ _ (Dicts.mem_of_lookup there)
  refine ⟨given, fun c inside => (fieldText_mem (text ▸ inside)).imp id ?_⟩
  rintro ⟨part, one, inside'⟩
  obtain ⟨line, among, sub⟩ := old part one
  exact ⟨line, among, sub c inside'⟩

theorem whole_of_text {value : FieldValue} (breaks : ∀ c ∈ value.text.toList, lineBreak c = true → c = '\n') : Whole value := by
  cases value with
  | line text =>
    intro c mem
    by_contra broken
    have feed : c = '\n' := breaks c mem (by simpa using broken)
    exact text.2 (feed ▸ mem)
  | items texts =>
    intro item there c mem
    by_contra broken
    have inside : c ∈ (FieldValue.items texts).text.toList := by
      unfold FieldValue.text
      rw [String.toList_ofList]
      have listed : c ∈ itemLine item := List.mem_cons_of_mem _ (List.mem_cons_of_mem _ mem)
      exact mem_intercalate_of_mem (List.mem_map_of_mem there) listed
    have feed : c = '\n' := breaks c inside (by simpa using broken)
    exact item.2 (feed ▸ mem)

/-- The lines of a field are unbroken where its name has no blanks and its value no line breaks. -/
theorem fieldLines_plain {field : String × FieldValue} (clean : ∀ c ∈ field.1.toList, T.isSpace c = false)
    (whole : Whole field.2) : ∀ line ∈ fieldLines field, ∀ c ∈ line, lineBreak c = false := by
  obtain ⟨key, value⟩ := field
  have named : ∀ c ∈ key.toList, lineBreak c = false := by
    intro c mem
    by_contra broken
    have blank := T.space_break c (by simpa using broken)
    rw [clean c mem] at blank
    cases blank
  intro line written c inside
  cases value with
  | line text =>
    rw [List.mem_singleton.mp written] at inside
    rcases List.mem_append.mp inside with inside | inside
    · exact named c inside
    · rcases List.mem_cons.mp inside with rfl | inside
      · decide
      · rcases List.mem_cons.mp inside with rfl | inside
        · decide
        · exact whole c inside
  | items texts =>
    rcases List.mem_cons.mp written with rfl | written
    · rcases List.mem_append.mp inside with inside | inside
      · exact named c inside
      · rw [List.mem_singleton.mp inside]
        decide
    · obtain ⟨item, there, rfl⟩ := List.mem_map.mp written
      rcases List.mem_cons.mp inside with rfl | inside
      · decide
      · rcases List.mem_cons.mp inside with rfl | inside
        · decide
        · exact whole item there c inside

theorem lines_plain (clean : ∀ field ∈ m.fields, ∀ c ∈ field.1.toList, T.isSpace c = false)
    (whole : ∀ field ∈ m.fields, Whole field.2) : ∀ line ∈ m.lines, ∀ c ∈ line, lineBreak c = false := by
  intro line mem
  obtain ⟨field, there, written⟩ := List.mem_flatMap.mp mem
  exact fieldLines_plain (clean field there) (whole field there) line written

theorem fieldText_partsOf {value : FieldValue} : fieldText T (partsOf T value) = value.text ↔ Trimmed T value := by
  cases value with
  | line text => exact fieldText_line text
  | items texts => exact fieldText_items texts

/-- What stands before the first colon. -/
theorem colon_parts {before before' after after' : List Char} (none' : ∀ c ∈ before, c ≠ ':')
    (none'' : ∀ c ∈ before', c ≠ ':') (same : before ++ ':' :: after = before' ++ ':' :: after') : before = before' := by
  have cut : ∀ {cs more : List Char}, (∀ c ∈ cs, c ≠ ':') → (cs ++ ':' :: more).takeWhile (· != ':') = cs := by
    intro cs more plain
    rw [List.takeWhile_append_of_pos fun c mem => by simpa using plain c mem, List.takeWhile_cons_of_neg (by decide),
      List.append_nil]
  rw [← cut none', same, cut none'']

theorem normalKey_normal (key : List Char) : normalKey T (normalKey T key).toList = normalKey T key := by
  have undashed : ∀ cs : List Char, '-' ∉ cs.map fun c => if c = '-' then '_' else c := by
    intro cs mem
    obtain ⟨c, _, same⟩ := List.mem_map.mp mem
    by_cases dash : c = '-'
    · rw [if_pos dash] at same
      exact absurd same (by decide)
    · rw [if_neg dash] at same
      exact dash same
  have kept : ∀ cs : List Char, '-' ∉ cs → (cs.map fun c => if c = '-' then '_' else c) = cs := by
    intro cs none'
    conv => rhs; rw [← List.map_id cs]
    refine List.map_congr_left fun c mem => ?_
    rw [if_neg fun dash : c = '-' => none' (dash ▸ mem)]
    rfl
  unfold normalKey
  rw [String.toList_ofList, kept _ fun mem => undashed _ (T.lower_marks _ '-' mem (.inr (.inr rfl))), T.lower_lower]

/-- A field line among the lines that were written begins with a key of the map, which is a name. -/
theorem given_key {key : String} (clean : ∀ field ∈ m.fields, ∀ c ∈ field.1.toList, T.isSpace c = false ∧ c ≠ ':')
    (given : Given T m.lines key) :
    ∃ field ∈ m.fields, field.1.toList.head?.any fieldStart = true ∧ (∀ c ∈ field.1.toList, nameChar T c = true) ∧
      key = normalKey T field.1.toList := by
  obtain ⟨line, mem, name, value, found, rfl⟩ := given
  obtain ⟨field, there, written⟩ := List.mem_flatMap.mp mem
  have head : ∃ rest, line = field.1.toList ++ ':' :: rest := by
    obtain ⟨key, value⟩ := field
    cases value with
    | line text => exact ⟨_, List.mem_singleton.mp written⟩
    | items texts =>
      rcases List.mem_cons.mp written with first | written
      · exact ⟨[], first⟩
      · obtain ⟨item, _, rfl⟩ := List.mem_map.mp written
        rw [itemLine_field] at found
        cases found
  obtain ⟨rest, rfl⟩ := head
  rw [fieldRe_head (clean field there)] at found
  obtain ⟨more, shape, start, names, _⟩ := fieldRe_eq_some_iff.mp found
  have same : field.1.toList = name :=
    colon_parts (fun c mem => (clean field there c mem).2) (fun c mem => (nameChar_solid (names c mem)).2) shape
  exact ⟨field, there, same ▸ start, same ▸ names, by rw [same]⟩

/-- A block is read back exactly if its names and values are as the parser keeps them. -/
theorem roundTrips_iff : RoundTrips T m ↔ m.Normal T := by
  constructor
  · intro h
    have clean : ∀ field ∈ m.fields, ∀ c ∈ field.1.toList, T.isSpace c = false ∧ c ≠ ':' :=
      fun field mem => (h.known mem).1.clean
    have whole : ∀ field ∈ m.fields, Whole field.2 := by
      intro field mem
      refine whole_of_text fun c inside broken => ((h.known mem).2 c inside).resolve_right ?_
      rintro ⟨line, among, there⟩
      rw [splitlines_plain line among c there] at broken
      cases broken
    have plain := lines_plain (fun field mem c inside => (clean field mem c inside).1) whole
    have given : ∀ field ∈ m.fields, Given T m.lines field.1 := by
      intro field mem
      obtain ⟨line, among, name, value, found, is⟩ := (h.known mem).1
      rw [splitlines_body plain] at among
      rcases List.mem_cons.mp among with rfl | among
      · cases found
      · exact ⟨line, among, name, value, found, is⟩
    have normal : ∀ field ∈ m.fields, NormalKey T field.1 := by
      intro field mem
      obtain ⟨other, there, start, names, is⟩ := given_key clean (given field mem)
      obtain ⟨first, _, _, _, is'⟩ := given_key clean (given other there)
      have kept : normalKey T other.1.toList = other.1 := by rw [is', normalKey_normal]
      have same : field.1 = other.1 := is.trans kept
      rw [same]
      exact ⟨start, names, kept⟩
    have values := (roundTrips_iff_values plain normal).mp h
    exact fun field mem => ⟨normal field mem, fieldText_partsOf.mp (values field mem), whole field mem⟩
  · intro normal
    have plain := lines_plain (fun field mem c inside => ((normal field mem).1.clean c inside).1)
      fun field mem => (normal field mem).2.2
    have keys : ∀ field ∈ m.fields, NormalKey T field.1 := fun field mem => (normal field mem).1
    exact (roundTrips_iff_values plain keys).mpr fun field mem => fieldText_partsOf.mpr (normal field mem).2.1

end

/-! The runtime on ASCII text. -/

theorem toLower_or (c : Char) : c.toLower = c ∨ (97 ≤ c.toLower.toNat ∧ c.toLower.toNat ≤ 122) := by
  unfold Char.toLower
  split
  next upper =>
    right
    have least := UInt32.le_iff_toNat_le.mp upper.1
    have most := UInt32.le_iff_toNat_le.mp upper.2
    simp at *
    omega
  next => exact .inl rfl

def asciiSpace (c : Char) : Bool := asciiText.isSpace c || lineBreak c

theorem asciiSpace_code {c : Char} (h : asciiSpace c = true) :
    c.toNat ≤ 32 ∨ c.toNat = 133 ∨ c.toNat = 8232 ∨ c.toNat = 8233 := by
  unfold asciiSpace asciiText lineBreak at h
  simp only [Bool.or_eq_true, Bool.and_eq_true, beq_iff_eq, decide_eq_true_eq, List.contains_eq_mem, List.mem_cons,
    List.not_mem_nil, or_false] at h
  rcases h with (rfl | ⟨_, most⟩) | rfl | rfl | rfl | rfl | rfl | rfl | rfl | rfl | rfl | rfl
  · decide
  · have code : c.toNat ≤ '\r'.toNat := UInt32.le_iff_toNat_le.mp most
    have limit : '\r'.toNat = 13 := rfl
    omega
  all_goals decide

theorem asciiWord_code {c : Char} (h : asciiText.isWord c = true) :
    (48 ≤ c.toNat ∧ c.toNat ≤ 57) ∨ (65 ≤ c.toNat ∧ c.toNat ≤ 90) ∨ c.toNat = 95 ∨ (97 ≤ c.toNat ∧ c.toNat ≤ 122) := by
  have h : ((decide ('A'.val ≤ c.val ∧ c.val ≤ 'Z'.val) || ('a'.val ≤ c.val && c.val ≤ 'z'.val)) ||
      ('0'.val ≤ c.val && c.val ≤ '9'.val) || c == '_') = true := h
  simp only [Bool.or_eq_true, Bool.and_eq_true, beq_iff_eq, decide_eq_true_eq, UInt32.le_iff_toNat_le] at h
  have same : c.toNat = c.val.toNat := rfl
  rcases h with ((h | h) | h) | rfl
  · have := h.1; have := h.2; simp at *; omega
  · have := h.1; have := h.2; simp at *; omega
  · have := h.1; have := h.2; simp at *; omega
  · decide

theorem toLower_toLower (c : Char) : c.toLower.toLower = c.toLower := by
  rcases toLower_or c with same | ⟨least, _⟩
  · rw [same, same]
  · refine dif_neg fun upper => ?_
    have most : c.toLower.toNat ≤ 90 := UInt32.le_iff_toNat_le.mp upper.2
    omega

def asciiAck : AckText where
  toPyText := { asciiText with isSpace := asciiSpace }
  lower := List.map Char.toLower
  lower_lower cs := by
    rw [List.map_map]
    exact List.map_congr_left fun c _ => toLower_toLower c
  lower_nil cs empty := List.map_eq_nil_iff.mp empty
  lower_marks cs c mem mark := by
    obtain ⟨d, there, rfl⟩ := List.mem_map.mp mem
    rcases toLower_or d with same | code
    · rw [same]
      exact there
    · exfalso
      rcases mark with blank | colon | dash
      · have := asciiSpace_code blank
        omega
      · rw [colon] at code
        exact absurd code (by decide)
      · rw [dash] at code
        exact absurd code (by decide)
  word_solid c word := by
    have code := asciiWord_code word
    refine ⟨?_, ?_, ?_⟩
    · by_contra blank
      have := asciiSpace_code (by simpa using blank)
      omega
    · rintro rfl
      exact absurd code (by decide)
    · rintro rfl
      exact absurd code (by decide)
  word_start c start := by
    have word : c.isAlphanum = true ∨ c = '_' := by
      rcases Bool.or_eq_true_iff.mp start with alpha | under
      · exact .inl (Bool.or_eq_true_iff.mpr (.inl alpha))
      · exact .inr (eq_of_beq under)
    exact Bool.or_eq_true_iff.mpr (word.imp id beq_iff_eq.mpr)
  space_break c broken := Bool.or_eq_true_iff.mpr (.inr broken)
  space_blank := by decide
  space_marks := by decide

instance (T : AckText) (raw : List Char) : Decidable (Inert T raw) :=
  inferInstanceAs (Decidable (fieldRe T (strip T.isSpace raw) = none ∧ (_ ∨ _)))

instance (T : AckText) : (value : FieldValue) → Decidable (Trimmed T value)
  | .line text => inferInstanceAs (Decidable (strip T.isSpace text.1.toList = text.1.toList))
  | .items texts => List.decidableBAll (fun item => rstrip T.isSpace (itemLine item) = itemLine item) texts

instance : (value : FieldValue) → Decidable (Whole value)
  | .line text => List.decidableBAll (fun c => lineBreak c = false) text.1.toList
  | .items texts =>
    @List.decidableBAll _ (fun item : SingleLine => ∀ c ∈ item.1.toList, lineBreak c = false)
      (fun item => List.decidableBAll (fun c => lineBreak c = false) item.1.toList) texts

/-- A text is read by its first block where no line from the next marker on gives anything, and a block that is written is read
back exactly if it is in the parser's normal form. -/
theorem ackBlock_read (T : AckText) :
    (∀ text body, ackBody text.toList = some body → fromMarker body = [] ∨ (∀ raw ∈ laterLines body, Inert T raw) →
      parseAckBlock T text = parseAckBlock T (String.ofList (marker ++ beforeMarker body))) ∧
    ∀ m : FieldMap, RoundTrips T m ↔ m.Normal T := by
  refine ⟨fun text body found inert => ?_, fun m => roundTrips_iff⟩
  unfold parseAckBlock
  rw [found, String.toList_ofList, ackBody_marker]
  dsimp only
  rw [readLines_first inert]

def twoBlocks : String := "[JOB ACK]\na: 1\n[JOB ACK]\na: 2"

def dashedKey : FieldMap := ⟨[("Job-Id", .line ⟨"x", by decide⟩)], by decide⟩

theorem later_block_overwrites :
    (parseAckBlock asciiAck twoBlocks).toOption = some [("a", "2")] ∧
    (ackBody twoBlocks.toList).map beforeMarker = some "\na: 1\n".toList ∧
    (parseAckBlock asciiAck (String.ofList (marker ++ "\na: 1\n".toList))).toOption = some [("a", "1")] ∧
    ¬ RoundTrips asciiAck dashedKey := by
  refine ⟨by decide +kernel, by decide +kernel, by decide +kernel, fun h => ?_⟩
  have normal := (roundTrips_iff.mp h _ List.mem_cons_self).1.normal
  exact absurd normal (by decide +kernel)

def listed : FieldMap := ⟨[("job_id", .line ⟨"j1", by decide⟩), ("artifacts", .items [⟨"a", by decide⟩, ⟨"b: c", by decide⟩])],
  by decide⟩

theorem listed_normal : listed.Normal asciiAck := by
  intro field mem
  rcases List.mem_cons.mp mem with rfl | mem
  · exact ⟨⟨by decide, List.all_eq_true.mp (by decide +kernel), by decide +kernel⟩, by decide +kernel, by decide +kernel⟩
  · rw [List.mem_singleton.mp mem]
    exact ⟨⟨by decide, List.all_eq_true.mp (by decide +kernel), by decide +kernel⟩, by decide +kernel, by decide +kernel⟩

theorem ackBlock_read_example :
    (parseAckBlock asciiAck "done [job ack]\na: 1\n[JOB ACK]\n\nthanks" =
      parseAckBlock asciiAck (String.ofList (marker ++ beforeMarker "\na: 1\n[JOB ACK]\n\nthanks".toList))) ∧
    RoundTrips asciiAck listed := by
  obtain ⟨first, written⟩ := ackBlock_read asciiAck
  constructor
  · exact first _ _ (by decide +kernel) (.inr (by decide +kernel))
  · exact (written _).mpr listed_normal

end AgentflowHermes.Ack
