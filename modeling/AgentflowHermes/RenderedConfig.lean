import AgentflowHermes.ConfigLines
import AgentflowHermes.RoadmapConfig

namespace AgentflowHermes.Config

open TextLines

/-- A character that is seen, in ASCII. -/
def seen (c : Char) : Bool := '!' ≤ c && c ≤ '~'

/-- What is documented of the text runtime and of the JSON reader, and what the interpreter has room for. -/
structure Documented (r : Reader) : Prop where
  blank : r.text.isSpace ' ' = true
  solid : ∀ c, seen c = true → r.text.isSpace c = false
  digit : ∀ c, seen c = true → r.text.isDigit c = ('0' ≤ c && c ≤ '9')
  comment : ∀ text : String, text.toList.head? = some '#' → r.loads text = none
  number : ∀ cs : List Char, cs.length ≤ 4300 → cs.all (fun c => '0' ≤ c && c ≤ '9') = true → r.int cs = some (decimal cs)
  strBool : ∀ b, r.text.str (.bool b) = if b then "True" else "False"
  strNull : r.text.str .null = "None"
  strInt : ∀ n : Nat, r.text.str (.int n) = toString n
  strFloat : ∀ f, r.text.str (.float f) = f
  float : ∀ cs, isFloat r cs = true → ∀ c ∈ (r.float cs).toList, lineBreak c = false
  strOther : ∀ j, (∀ s, j ≠ .str s) → (∀ f, j ≠ .float f) → ∀ c ∈ (r.text.str j).toList, lineBreak c = false
  deep : 4 ≤ r.room

/-! The characters of an identifier. -/

theorem isLetterOrDigit_seen {c : Char} (h : isLetterOrDigit c = true) : seen c = true ∧ c ≠ '"' ∧ c ≠ '\'' ∧ c ≠ '#' ∧ c ≠ '-' := by
  have range : ('A' ≤ c ∧ c ≤ 'Z') ∨ ('a' ≤ c ∧ c ≤ 'z') ∨ ('0' ≤ c ∧ c ≤ '9') := by
    simpa [isLetterOrDigit, or_assoc] using h
  have low : '0' ≤ c := by
    rcases range with ⟨low, _⟩ | ⟨low, _⟩ | ⟨low, _⟩
    · exact Char.le_trans (by decide) low
    · exact Char.le_trans (by decide) low
    · exact low
  have high : c ≤ 'z' := by
    rcases range with ⟨_, high⟩ | ⟨_, high⟩ | ⟨_, high⟩
    · exact Char.le_trans high (by decide)
    · exact high
    · exact Char.le_trans high (by decide)
  refine ⟨?_, ?_, ?_, ?_, ?_⟩
  · rw [seen, decide_eq_true (Char.le_trans (by decide) low), decide_eq_true (Char.le_trans high (by decide))]
    rfl
  all_goals
    rintro rfl
    exact absurd low (by decide)

theorem isIdentChar_seen {c : Char} (h : isIdentChar c = true) : seen c = true ∧ c ≠ '"' ∧ c ≠ '\'' ∧ c ≠ ' ' := by
  rw [isIdentChar, Bool.or_eq_true] at h
  rcases h with letter | mark
  · have inside := isLetterOrDigit_seen letter
    refine ⟨inside.1, inside.2.1, inside.2.2.1, ?_⟩
    rintro rfl
    exact absurd letter (by decide)
  · have known : c = '.' ∨ c = '_' ∨ c = ':' ∨ c = '>' ∨ c = '#' ∨ c = '/' ∨ c = '+' ∨ c = '-' := by simpa using mark
    rcases known with rfl | rfl | rfl | rfl | rfl | rfl | rfl | rfl
    all_goals decide

/-- The characters of a name: a letter or a digit, and what an identifier has after it. -/
def NameLike (cs : List Char) : Prop := ∃ c rest, cs = c :: rest ∧ isLetterOrDigit c = true ∧ ∀ d ∈ rest, isIdentChar d = true

theorem Ident.nameLike (x : Ident) : NameLike x.1.toList := by
  obtain ⟨s, ident⟩ := x
  unfold isIdent at ident
  cases chars : s.toList with
  | nil =>
    rw [chars] at ident
    cases ident
  | cons c rest =>
    rw [chars] at ident
    simp only [Bool.and_eq_true, List.all_eq_true] at ident
    exact ⟨c, rest, rfl, ident.1.1, ident.1.2⟩

theorem NameLike.all {cs : List Char} (name : NameLike cs) : ∀ c ∈ cs, isIdentChar c = true := by
  obtain ⟨c, rest, rfl, first, others⟩ := name
  intro d mem
  rcases List.mem_cons.mp mem with rfl | mem
  · rw [isIdentChar, first, Bool.true_or]
  · exact others d mem

section

variable {r : Reader} (doc : Documented r)

/-- A text that begins and ends with something. -/
def Tight (r : Reader) (cs : List Char) : Prop :=
  (∀ c ∈ cs.head?, r.text.isSpace c = false) ∧ ∀ c ∈ cs.getLast?, r.text.isSpace c = false

theorem strip_blanks {p : Char → Bool} (blank : p ' ' = true) {n : Nat} {cs : List Char} (first : ∀ c ∈ cs.head?, p c = false)
    (last : ∀ c ∈ cs.getLast?, p c = false) : strip p (List.replicate n ' ' ++ cs) = cs := by
  have dropped : (List.replicate n ' ' ++ cs).dropWhile p = cs.dropWhile p := by
    rw [List.dropWhile_append_of_pos]
    intro c mem
    rw [List.eq_of_mem_replicate mem]
    exact blank
  unfold strip
  rw [dropped]
  exact strip_tight first last

/-! What stands before a comment. -/

theorem uncommented_blanks (n : Nat) (cs : List Char) :
    uncommented false false ' ' (List.replicate n ' ' ++ cs) = List.replicate n ' ' ++ uncommented false false ' ' cs := by
  induction n with
  | zero => rfl
  | succ n ih =>
    rw [List.replicate_succ, List.cons_append, uncommented, if_neg (by simp), if_neg (by simp), if_neg (by simp), ih,
      List.cons_append]

theorem uncommented_inner {before : Char} {cs : List Char} (apart : before ≠ ' ') (plain : ∀ c ∈ cs, isIdentChar c = true)
    (rest : List Char) :
    uncommented false false before (cs ++ rest) = cs ++ uncommented false false (cs.getLastD before) rest := by
  induction cs generalizing before with
  | nil => rfl
  | cons c cs ih =>
    have known := isIdentChar_seen (plain c List.mem_cons_self)
    rw [List.cons_append, uncommented, if_neg (by simp [known.2.2.1]), if_neg (by simp [known.2.1]), if_neg (by simp [apart]),
      ih known.2.2.2 fun d mem => plain d (List.mem_cons_of_mem _ mem), List.cons_append, List.getLastD_cons]

theorem uncommented_name {name : List Char} (like : NameLike name) (rest : List Char) :
    uncommented false false ' ' (name ++ rest) = name ++ uncommented false false (name.getLastD ' ') rest := by
  obtain ⟨c, others, rfl, first, plain⟩ := like
  have known := isLetterOrDigit_seen first
  have apart : c ≠ ' ' := by
    rintro rfl
    exact absurd first (by decide)
  rw [List.cons_append, uncommented, if_neg (by simp [known.2.2.1]), if_neg (by simp [known.2.1]),
    if_neg (by simp [known.2.2.2.1]), uncommented_inner apart plain, List.cons_append, List.getLastD_cons]

theorem uncommented_quoted {before : Char} {cs : List Char} (plain : ∀ c ∈ cs, c ≠ '"') :
    uncommented false true before (cs ++ ['"']) = cs ++ ['"'] := by
  induction cs generalizing before with
  | nil => simp [uncommented]
  | cons c cs ih =>
    rw [List.cons_append, uncommented, if_neg (by simp), if_neg (by simp [plain c List.mem_cons_self]), if_neg (by simp),
      ih fun d mem => plain d (List.mem_cons_of_mem _ mem)]

/-- A value that is read as it is written. -/
structure Tidy (r : Reader) (value : List Char) : Prop where
  given : value ≠ []
  tight : Tight r value
  kept : uncommented false false ' ' value = value

include doc

theorem NameLike.tight {cs : List Char} (name : NameLike cs) : Tight r cs :=
  ⟨fun c mem => doc.solid c (isIdentChar_seen (name.all c (List.mem_of_mem_head? mem))).1,
    fun c mem => doc.solid c (isIdentChar_seen (name.all c (List.mem_of_mem_getLast? mem))).1⟩

theorem NameLike.tidy {cs : List Char} (name : NameLike cs) : Tidy r cs where
  given := by
    obtain ⟨c, rest, rfl, _⟩ := name
    exact List.cons_ne_nil _ _
  tight := name.tight doc
  kept := by
    have kept := uncommented_name name []
    rw [List.append_nil] at kept
    rw [kept, uncommented, List.append_nil]

/-- A text in quotes. -/
def quoted (cs : List Char) : List Char := '"' :: (cs ++ ['"'])

theorem quoted_tidy {cs : List Char} (plain : ∀ c ∈ cs, c ≠ '"') : Tidy r (quoted cs) where
  given := List.cons_ne_nil _ _
  tight := by
    have mark := doc.solid '"' (by decide)
    refine ⟨fun c mem => ?_, fun c mem => ?_⟩
    · cases mem
      exact mark
    · have last : (quoted cs).getLast? = some '"' := by
        unfold quoted
        rw [← List.cons_append, List.getLast?_append]
        rfl
      rw [last] at mem
      cases mem
      exact mark
  kept := by
    unfold quoted
    rw [uncommented, if_neg (by simp), if_pos (by simp), Bool.not_false, uncommented_quoted plain]

end

/-! The lines of a config, as far as they are not blank or comments. -/

def entryLine (n : Nat) (key value : List Char) : List Char := List.replicate n ' ' ++ (key ++ ':' :: ' ' :: value)

def headLine (n : Nat) (key : List Char) : List Char := List.replicate n ' ' ++ (key ++ [':'])

def itemLine (n : Nat) (value : List Char) : List Char := List.replicate n ' ' ++ ('-' :: ' ' :: value)

section

variable {r : Reader} (doc : Documented r)

include doc

/-- A line of blanks and a core that is kept as it is. -/
theorem cleanLine_core {n : Nat} {c : Char} {core : List Char} (tight : Tight r (c :: core)) (mark : c ≠ '#')
    (kept : uncommented false false ' ' (c :: core) = c :: core) :
    cleanLine r (List.replicate n ' ' ++ c :: core) = some (List.replicate n ' ' ++ c :: core) := by
  have last : ∀ d ∈ (List.replicate n ' ' ++ c :: core).getLast?, r.text.isSpace d = false := by
    intro d mem
    rw [List.getLast?_append_cons] at mem
    exact tight.2 d mem
  have stripped : strip r.text.isSpace (List.replicate n ' ' ++ c :: core) = c :: core :=
    strip_blanks doc.blank tight.1 tight.2
  unfold cleanLine
  dsimp only
  rw [rstrip_tight last, stripped, if_neg (by simpa using mark), uncommented_blanks, kept, rstrip_tight last, stripped,
    if_neg (List.cons_ne_nil _ _)]

omit doc in
theorem last_entry {key value : List Char} (tidy : Tidy r value) :
    ∀ d ∈ (key ++ ':' :: ' ' :: value).getLast?, r.text.isSpace d = false := by
  intro d mem
  obtain ⟨c, rest, rfl⟩ := List.exists_cons_of_ne_nil tidy.given
  rw [List.getLast?_append_cons, List.getLast?_cons_cons, List.getLast?_cons_cons] at mem
  exact tidy.tight.2 d mem

theorem last_head {key : List Char} : ∀ d ∈ (key ++ [':']).getLast?, r.text.isSpace d = false := by
  intro d mem
  rw [List.getLast?_append] at mem
  cases mem
  exact doc.solid ':' (by decide)

theorem cleanLine_entry (n : Nat) {key value : List Char} (name : NameLike key) (tidy : Tidy r value) :
    cleanLine r (entryLine n key value) = some (entryLine n key value) := by
  have kept : uncommented false false ' ' (key ++ ':' :: ' ' :: value) = key ++ ':' :: ' ' :: value := by
    rw [uncommented_name name, uncommented, if_neg (by simp), if_neg (by simp), if_neg (by simp), uncommented,
      if_neg (by simp), if_neg (by simp), if_neg (by simp), tidy.kept]
  have first := (name.tight doc).1
  obtain ⟨c, rest, rfl, letter, _⟩ := name
  exact cleanLine_core doc ⟨fun d mem => first d mem, @last_entry r (c :: rest) value tidy⟩ (isLetterOrDigit_seen letter).2.2.2.1 kept

theorem cleanLine_head (n : Nat) {key : List Char} (name : NameLike key) :
    cleanLine r (headLine n key) = some (headLine n key) := by
  have kept : uncommented false false ' ' (key ++ [':']) = key ++ [':'] := by
    rw [uncommented_name name, uncommented, if_neg (by simp), if_neg (by simp), if_neg (by simp), uncommented]
  have first := (name.tight doc).1
  obtain ⟨c, rest, rfl, letter, _⟩ := name
  exact cleanLine_core doc ⟨fun d mem => first d mem, @last_head r doc (c :: rest)⟩ (isLetterOrDigit_seen letter).2.2.2.1 kept

theorem cleanLine_item (n : Nat) {value : List Char} (tidy : Tidy r value) :
    cleanLine r (itemLine n value) = some (itemLine n value) := by
  have kept : uncommented false false ' ' ('-' :: ' ' :: value) = '-' :: ' ' :: value := by
    rw [uncommented, if_neg (by simp), if_neg (by simp), if_neg (by simp), uncommented, if_neg (by simp), if_neg (by simp),
      if_neg (by simp), tidy.kept]
  refine cleanLine_core doc ⟨fun d mem => ?_, fun d mem => ?_⟩ (by decide) kept
  · cases mem
    exact doc.solid '-' (by decide)
  · obtain ⟨c, rest, rfl⟩ := List.exists_cons_of_ne_nil tidy.given
    rw [List.getLast?_cons_cons, List.getLast?_cons_cons] at mem
    exact tidy.tight.2 d mem

omit doc in
theorem indentOf_core (n : Nat) {c : Char} (core : List Char) (solid : c ≠ ' ') :
    indentOf (List.replicate n ' ' ++ c :: core) = n := by
  have stop : (c == ' ') = false := by simpa using solid
  unfold indentOf
  rw [List.takeWhile_append_of_pos (by simp), List.takeWhile_cons_of_neg (by simp [stop]), List.append_nil,
    List.length_replicate]

omit doc in
theorem NameLike.solid {key : List Char} (name : NameLike key) : ∃ c rest, key = c :: rest ∧ c ≠ ' ' ∧ c ≠ '-' := by
  obtain ⟨c, rest, rfl, letter, _⟩ := name
  have known := isLetterOrDigit_seen letter
  refine ⟨c, rest, rfl, ?_, known.2.2.2.2⟩
  rintro rfl
  exact absurd letter (by decide)

omit doc in
theorem indentOf_entry (n : Nat) {key value : List Char} (name : NameLike key) : indentOf (entryLine n key value) = n := by
  obtain ⟨c, rest, rfl, solid, _⟩ := name.solid
  exact indentOf_core n _ solid

omit doc in
theorem indentOf_head (n : Nat) {key : List Char} (name : NameLike key) : indentOf (headLine n key) = n := by
  obtain ⟨c, rest, rfl, solid, _⟩ := name.solid
  exact indentOf_core n _ solid

omit doc in
theorem indentOf_item (n : Nat) {value : List Char} : indentOf (itemLine n value) = n := indentOf_core n _ (by decide)

theorem itemOf_item (n : Nat) {value : List Char} (tidy : Tidy r value) : itemOf r (itemLine n value) = some value := by
  have stripped : strip r.text.isSpace (itemLine n value) = '-' :: ' ' :: value := by
    refine strip_blanks doc.blank (fun d mem => ?_) fun d mem => ?_
    · cases mem
      exact doc.solid '-' (by decide)
    · obtain ⟨c, rest, rfl⟩ := List.exists_cons_of_ne_nil tidy.given
      rw [List.getLast?_cons_cons, List.getLast?_cons_cons] at mem
      exact tidy.tight.2 d mem
  unfold itemOf
  dsimp only
  rw [stripped]
  exact (if_pos rfl).trans (congrArg some (strip_tight tidy.tight.1 tidy.tight.2))

/-- The core of a line that begins with a name. -/
theorem strip_named (n : Nat) {key tail : List Char} (name : NameLike key)
    (last : ∀ d ∈ (key ++ tail).getLast?, r.text.isSpace d = false) :
    strip r.text.isSpace (List.replicate n ' ' ++ (key ++ tail)) = key ++ tail := by
  have first := (name.tight doc).1
  obtain ⟨c, rest, rfl, _⟩ := name
  exact strip_blanks doc.blank (fun d mem => first d mem) last

theorem itemOf_entry (n : Nat) {key value : List Char} (name : NameLike key) (tidy : Tidy r value) :
    itemOf r (entryLine n key value) = none := by
  have stripped := strip_named doc n name (@last_entry r key value tidy)
  unfold itemOf entryLine
  dsimp only
  rw [stripped]
  obtain ⟨c, rest, rfl, _, dash⟩ := name.solid
  exact if_neg fun same => dash (List.cons.inj same).1

theorem itemOf_head (n : Nat) {key : List Char} (name : NameLike key) : itemOf r (headLine n key) = none := by
  have stripped := strip_named doc n name (@last_head r doc key)
  unfold itemOf headLine
  dsimp only
  rw [stripped]
  obtain ⟨c, rest, rfl, _, dash⟩ := name.solid
  exact if_neg fun same => dash (List.cons.inj same).1

/-- A key without a colon is read up to the first one. -/
theorem entryOf_named (n : Nat) {key tail : List Char} (name : NameLike key) (whole : ':' ∉ key)
    (last : ∀ d ∈ (key ++ ':' :: tail).getLast?, r.text.isSpace d = false) :
    entryOf r (List.replicate n ' ' ++ (key ++ ':' :: tail)) =
      some (String.ofList key, strip r.text.isSpace tail) := by
  have stripped := strip_named doc n name last
  have plain : ∀ c ∈ key, (c != ':') = true := fun c mem => by
    have apart : c ≠ ':' := fun same => whole (same ▸ mem)
    simpa using apart
  have front : (key ++ ':' :: tail).takeWhile (· != ':') = key := by
    rw [List.takeWhile_append_of_pos plain, List.takeWhile_cons_of_neg (by simp), List.append_nil]
  have back : ((key ++ ':' :: tail).dropWhile (· != ':')).tail = tail := by
    rw [List.dropWhile_append_of_pos plain, List.dropWhile_cons_of_neg (by simp), List.tail_cons]
  have unquoted : strip (['"', '\''].contains ·) key = key := by
    refine strip_tight (fun c mem => ?_) fun c mem => ?_
    · have known := isIdentChar_seen (name.all c (List.mem_of_mem_head? mem))
      simp [known.2.1, known.2.2.1]
    · have known := isIdentChar_seen (name.all c (List.mem_of_mem_getLast? mem))
      simp [known.2.1, known.2.2.1]
  unfold entryOf
  dsimp only
  rw [stripped, if_pos (by simp), front, back, strip_tight (name.tight doc).1 (name.tight doc).2, unquoted]

theorem entryOf_entry (n : Nat) {key value : List Char} (name : NameLike key) (whole : ':' ∉ key) (tidy : Tidy r value) :
    entryOf r (entryLine n key value) = some (String.ofList key, value) := by
  have trimmed : strip r.text.isSpace (' ' :: value) = value :=
    strip_blanks doc.blank (n := 1) tidy.tight.1 tidy.tight.2
  rw [entryLine, entryOf_named doc n name whole (last_entry tidy), trimmed]

theorem entryOf_head (n : Nat) {key : List Char} (name : NameLike key) (whole : ':' ∉ key) :
    entryOf r (headLine n key) = some (String.ofList key, []) := by
  rw [headLine, entryOf_named doc n name whole (last_head doc)]
  rfl

/-! Scalars. -/

omit doc in
theorem isQuoted_name {cs : List Char} (name : NameLike cs) : isQuoted cs = false := by
  obtain ⟨c, rest, rfl, letter, _⟩ := name
  have known := isLetterOrDigit_seen letter
  simp [isQuoted, known.2.1, known.2.2.1]

/-- What a name is read as. -/
def nameValue (r : Reader) (cs : List Char) : Json :=
  if trueWords.contains (lowerText cs) then .bool true
  else if falseWords.contains (lowerText cs) then .bool false
  else if nullWords.contains (lowerText cs) then .null
  else if isInt r cs then .int (decimal cs)
  else if isFloat r cs then .float (r.float cs)
  else .str (String.ofList cs)

theorem parseScalar_name {cs : List Char} (name : NameLike cs) (short : cs.length ≤ 4300) :
    parseScalar r cs = some (nameValue r cs) := by
  have tight := name.tight doc
  unfold parseScalar nameValue
  dsimp only
  rw [strip_tight tight.1 tight.2, isQuoted_name name, if_neg (by decide)]
  split
  · rfl
  · split
    · rfl
    · split
      · rfl
      · split
        next whole =>
          have digits : cs.all (fun c => '0' ≤ c && c ≤ '9') = true := by
            have all : ∀ c ∈ cs, isIdentChar c = true := name.all
            obtain ⟨c, rest, rfl, letter, _⟩ := name
            have apart : ¬(c :: rest).head? = some '-' := fun same =>
              (isLetterOrDigit_seen letter).2.2.2.2 (Option.some.inj same)
            rw [isInt, if_neg apart, isNumber, Bool.and_eq_true, List.all_eq_true] at whole
            rw [List.all_eq_true]
            intro d mem
            rw [← doc.digit d (isIdentChar_seen (all d mem)).1]
            exact whole.2 d mem
          rw [doc.number cs short digits]
          rfl
        · split
          · rfl
          · rfl

theorem parseScalar_quoted {cs : List Char} : parseScalar r (quoted cs) = some (.str (String.ofList cs)) := by
  have mark := doc.solid '"' (by decide)
  have last : (quoted cs).getLast? = some '"' := by
    unfold quoted
    rw [← List.cons_append, List.getLast?_append]
    rfl
  have stripped : strip r.text.isSpace (quoted cs) = quoted cs := by
    refine strip_tight (fun c mem => ?_) fun c mem => ?_
    · cases mem
      exact mark
    · rw [last] at mem
      cases mem
      exact mark
  have marked : isQuoted (quoted cs) = true := by
    unfold isQuoted
    rw [last]
    simp [quoted]
  unfold parseScalar
  dsimp only
  rw [stripped, if_pos marked]
  simp [quoted]

/-- A name that begins with no digit is no number. -/
theorem NameLike.noNumber {cs : List Char} (name : NameLike cs) (first : ∀ c ∈ cs.head?, ('0' ≤ c && c ≤ '9') = false) :
    isInt r cs = false ∧ isFloat r cs = false := by
  obtain ⟨c, rest, rfl, letter, _⟩ := name
  have known := isLetterOrDigit_seen letter
  have other : r.text.isDigit c = false := (doc.digit c known.1).trans (first c rfl)
  have apart : ¬(c :: rest).head? = some '-' := fun same => known.2.2.2.2 (Option.some.inj same)
  constructor
  · rw [isInt, if_neg apart, isNumber, List.all_cons, other, Bool.false_and, Bool.and_false]
  · unfold isFloat
    by_cases dot : c = '.'
    · rw [dot, List.takeWhile_cons_of_neg (by simp)]
      rfl
    · rw [List.takeWhile_cons_of_pos (by simpa using dot)]
      have apart' : ¬(c :: rest.takeWhile (· != '.')).head? = some '-' := apart
      rw [isInt, if_neg apart', isNumber, List.all_cons, other, Bool.false_and, Bool.and_false, Bool.false_and,
        Bool.false_and]

/-- A name that begins with no digit and is none of the words. -/
theorem nameValue_word {cs : List Char} (name : NameLike cs) (first : ∀ c ∈ cs.head?, ('0' ≤ c && c ≤ '9') = false)
    (words : (trueWords ++ falseWords ++ nullWords).contains (lowerText cs) = false) :
    nameValue r cs = .str (String.ofList cs) := by
  rw [List.contains_eq_mem, decide_eq_false_iff_not, List.mem_append, List.mem_append, not_or, not_or] at words
  have number := name.noNumber doc first
  unfold nameValue
  rw [if_neg (by simpa using words.1.1), if_neg (by simpa using words.1.2), if_neg (by simpa using words.2), number.1, number.2,
    if_neg (by decide), if_neg (by decide)]

/-! Blocks. -/

/-- The items of a list, with what they are read as. -/
theorem parseList_items {n : Nat} {items : List (List Char × Json)} {rest : List (List Char)} {result : List Json}
    (read : ∀ item ∈ items, Tidy r item.1 ∧ parseScalar r item.1 = some item.2)
    (stop : ∀ line ∈ rest.head?, indentOf line ≠ n) :
    parseList r n result (items.map (fun item => itemLine n item.1) ++ rest) = .ok (result ++ items.map Prod.snd, rest) := by
  induction items generalizing result with
  | nil =>
    cases rest with
    | nil => simp [parseList]
    | cons line rest =>
      rw [List.map_nil, List.nil_append, parseList, if_pos (stop line rfl), List.map_nil, List.append_nil]
  | cons item items ih =>
    obtain ⟨tidy, value⟩ := read item List.mem_cons_self
    rw [List.map_cons, List.cons_append, parseList, if_neg (not_not.mpr (indentOf_item n)), itemOf_item doc n tidy,
      Option.bind_some, value]
    dsimp only
    rw [ih fun other mem => read other (List.mem_cons_of_mem _ mem), List.map_cons, List.append_assoc]
    rfl

/-- An entry of a mapping, with what its value is read as. -/
structure Entry where
  key : List Char
  value : List Char
  json : Json

structure Entry.Good (r : Reader) (e : Entry) : Prop where
  name : NameLike e.key
  whole : ':' ∉ e.key
  tidy : Tidy r e.value
  read : parseScalar r e.value = some e.json

def Entry.line (n : Nat) (e : Entry) : List Char := entryLine n e.key e.value

/-- The fields of a mapping with some more entries. -/
def withEntries (fields : List (String × Json)) (entries : List Entry) : List (String × Json) :=
  entries.foldl (fun fields e => Dicts.set (String.ofList e.key) e.json fields) fields

theorem parseMapping_entries {n room : Nat} {es : List Entry} (good : ∀ e ∈ es, e.Good r) {fuel : Nat}
    (enough : es.length ≤ fuel) {fields : List (String × Json)} {rest : List (List Char)} :
    parseMapping r fuel room n fields (es.map (Entry.line n) ++ rest) =
      parseMapping r (fuel - es.length) room n (withEntries fields es) rest := by
  induction es generalizing fuel fields with
  | nil => rfl
  | cons e es ih =>
    obtain ⟨name, whole, tidy, read⟩ := good e List.mem_cons_self
    rw [List.length_cons] at enough
    obtain ⟨fuel, rfl⟩ : ∃ less, fuel = less + 1 := ⟨fuel - 1, by omega⟩
    rw [List.map_cons, List.cons_append, parseMapping, Entry.line, if_neg (not_not.mpr (indentOf_entry n name)),
      entryOf_entry doc n name whole tidy]
    dsimp only
    rw [if_pos tidy.given, read]
    dsimp only
    rw [ih (fun other mem => good other (List.mem_cons_of_mem _ mem)) (by omega), List.length_cons, Nat.add_sub_add_right]
    rfl

omit doc in
theorem parseMapping_stop {n room fuel : Nat} {fields : List (String × Json)} {rest : List (List Char)}
    (stop : ∀ line ∈ rest.head?, indentOf line ≠ n) : parseMapping r fuel room n fields rest = .ok (fields, rest) := by
  cases fuel with
  | zero => rw [parseMapping]
  | succ fuel =>
    cases rest with
    | nil => rw [parseMapping]
    | cons line rest => rw [parseMapping, if_pos (stop line rfl)]

/-- A key with a list of some items. -/
theorem parseMapping_list {n m room fuel : Nat} (deeper : n < m) {key : List Char} (name : NameLike key) (whole : ':' ∉ key)
    {item : List Char × Json} {items : List (List Char × Json)} {rest : List (List Char)} {fields : List (String × Json)}
    (read : ∀ i ∈ item :: items, Tidy r i.1 ∧ parseScalar r i.1 = some i.2) (stop : ∀ line ∈ rest.head?, indentOf line ≠ m) :
    parseMapping r (fuel + 1) (room + 1) n fields
        (headLine n key :: ((item :: items).map (fun i => itemLine m i.1) ++ rest)) =
      parseMapping r fuel (room + 1) n (Dicts.set (String.ofList key) (.arr ((item :: items).map Prod.snd)) fields) rest := by
  have list := @parseList_items r doc m (item :: items) rest [] read stop
  rw [parseMapping, if_neg (not_not.mpr (indentOf_head n name)), entryOf_head doc n name whole]
  dsimp only
  rw [if_neg (not_not.mpr rfl), List.map_cons, List.cons_append]
  dsimp only
  rw [indentOf_item, if_pos deeper, parseBlock]
  rw [indentOf_item, if_neg (Nat.lt_irrefl m), itemOf_item doc m (read item List.mem_cons_self).1,
    if_pos (by simp)]
  rw [List.map_cons, List.cons_append] at list
  rw [list]
  rfl

/-- A key with a mapping. -/
theorem parseMapping_nested {n m room fuel : Nat} (deeper : n < m) {key : List Char} (name : NameLike key) (whole : ':' ∉ key)
    {line : List Char} {lines : List (List Char)} {fields : List (String × Json)} (indented : indentOf line = m)
    (entry : itemOf r line = none) :
    parseMapping r (fuel + 1) (room + 1) n fields (headLine n key :: line :: lines) =
      match parseMapping r fuel room m [] (line :: lines) with
      | .error e => .error e
      | .ok (inner, rest) => parseMapping r fuel (room + 1) n (Dicts.set (String.ofList key) (.obj inner) fields) rest := by
  rw [parseMapping, if_neg (not_not.mpr (indentOf_head n name)), entryOf_head doc n name whole]
  dsimp only
  rw [if_neg (not_not.mpr rfl), indented, if_pos deeper, parseBlock]
  rw [indented, if_neg (Nat.lt_irrefl m), entry, if_neg (by simp), Nat.add_sub_cancel]
  cases parseMapping r fuel room m [] (line :: lines) with
  | error e => rfl
  | ok p => rfl

end

end AgentflowHermes.Config
