import AgentflowHermes.Dicts
import AgentflowHermes.PyValues
import AgentflowHermes.ShortTexts
import AgentflowHermes.TextLines

namespace AgentflowHermes.Ack

open TextLines

def fieldStart (c : Char) : Bool := c.isAlpha || c == '_'

/-- The text runtime with `str.lower` of whole texts, and what is documented of both. -/
structure AckText extends PyText where
  lower : List Char → List Char
  lower_lower : ∀ cs, lower (lower cs) = lower cs
  lower_nil : ∀ cs, lower cs = [] → cs = []
  lower_marks : ∀ cs, ∀ c ∈ lower cs, isSpace c = true ∨ c = ':' ∨ c = '-' → c ∈ cs
  word_solid : ∀ c, isWord c = true → isSpace c = false ∧ c ≠ ':' ∧ c ≠ '-'
  word_start : ∀ c, fieldStart c = true → isWord c = true
  space_break : ∀ c, lineBreak c = true → isSpace c = true
  space_blank : isSpace ' ' = true
  space_marks : isSpace ':' = false ∧ isSpace '-' = false ∧ isSpace '[' = false

structure AckError where
  reason : String
  deadletter : Bool

def marker : List Char := "[JOB ACK]".toList

/-- What follows the marker where the text begins with it, whatever the case of its letters. -/
def dropMarker : List Char → List Char → Option (List Char)
  | [], cs => some cs
  | _ :: _, [] => none
  | m :: ms, c :: cs => if foldsTo m c then dropMarker ms cs else none

/-- `_ACK_RE.search`: what follows the first marker. -/
def ackBody : List Char → Option (List Char)
  | [] => none
  | c :: cs => match dropMarker marker (c :: cs) with
    | some body => some body
    | none => ackBody cs

section

variable (T : AckText)

def nameChar (c : Char) : Bool := T.isWord c || c == '-'

/-- `_FIELD_RE.match`: the key, and what follows its colon and blanks. -/
def fieldRe (line : List Char) : Option (List Char × List Char) :=
  let key := line.takeWhile (nameChar T)
  let rest := line.dropWhile (nameChar T)
  if key.head?.any fieldStart && rest.head? == some ':' then some (key, rest.tail.dropWhile T.isSpace) else none

def spaced (cs : List Char) : Bool := cs.head?.any T.isSpace

/-- `_CONTINUATION_RE.match`. -/
def continuationRe (line : List Char) : Bool :=
  let rest := line.dropWhile T.isDigit
  spaced T line || (line.head?.any ['-', '*', '+'].contains && spaced T line.tail) ||
    (line.head?.any T.isDigit && rest.head?.any ['.', ')'].contains && spaced T rest.tail)

def normalKey (key : List Char) : String := String.ofList (T.lower (key.map fun c => if c = '-' then '_' else c))

abbrev Fields := List (String × List (List Char))

structure Reading where
  fields : Fields
  current : String

def Reading.start : Reading := ⟨[], ""⟩

/-- What the loop of `parse_ack_block` does with one line. -/
def readLine (s : Reading) (raw : List Char) : Reading :=
  match fieldRe T (strip T.isSpace raw) with
  | some (key, value) =>
    { fields := Dicts.set (normalKey T key) [strip T.isSpace value] s.fields, current := normalKey T key }
  | none =>
    if s.current ≠ "" ∧ (strip T.isSpace raw = [] ∨ continuationRe T raw = true) then
      { s with fields := Dicts.set s.current ((s.fields.lookup s.current).getD [] ++ [rstrip T.isSpace raw]) s.fields }
    else s

def readLines (lines : List (List Char)) : Reading := lines.foldl (readLine T) Reading.start

def fieldText (parts : List (List Char)) : String := String.ofList (strip T.isSpace (['\n'].intercalate parts))

def textsOf (fields : Fields) : List (String × String) := fields.map fun field => (field.1, fieldText T field.2)

def parseAckBlock (text : String) : Except AckError (List (String × String)) :=
  match ackBody text.toList with
  | none => .error ⟨"missing [JOB ACK] block", false⟩
  | some body => .ok (textsOf T (readLines T (splitlines body)).fields)

end

/-! The first block. -/

/-- The text before the next marker, or the whole where none follows. -/
def beforeMarker : List Char → List Char
  | [] => []
  | c :: cs => if (dropMarker marker (c :: cs)).isSome then [] else c :: beforeMarker cs

/-- The text from the next marker on. -/
def fromMarker : List Char → List Char
  | [] => []
  | c :: cs => if (dropMarker marker (c :: cs)).isSome then c :: cs else fromMarker cs

/-- What stands on the last line of a text, which nothing has ended. -/
def openLine (cs : List Char) : List Char := (cs.reverse.takeWhile fun c => !lineBreak c).reverse

def closedLines (cs : List Char) : List Char := (cs.reverse.dropWhile fun c => !lineBreak c).reverse

/-- The lines from the one with the next marker on. -/
def laterLines (body : List Char) : List (List Char) := splitlines (openLine (beforeMarker body) ++ fromMarker body)

theorem foldsTo_bracket {c : Char} (h : foldsTo '[' c = true) : c = '[' := by
  have low : c.toLower = '[' := by
    unfold foldsTo at h
    simpa using h
  unfold Char.toLower at low
  split at low
  next upper =>
    exfalso
    have code := congrArg UInt32.toNat (congrArg Char.val low)
    have least := UInt32.le_iff_toNat_le.mp upper.1
    have most := UInt32.le_iff_toNat_le.mp upper.2
    simp at *
    omega
  next => exact low

theorem dropMarker_head {c : Char} {cs : List Char} (starts : (dropMarker marker (c :: cs)).isSome = true) : c = '[' := by
  apply foldsTo_bracket
  by_contra other
  have shape : marker = '[' :: "JOB ACK]".toList := by rfl
  rw [shape, dropMarker, if_neg other] at starts
  cases starts

theorem before_from (body : List Char) : beforeMarker body ++ fromMarker body = body := by
  induction body with
  | nil => rfl
  | cons c cs ih =>
    unfold beforeMarker fromMarker
    split
    next => rfl
    next => rw [List.cons_append, ih]

theorem fromMarker_head (body : List Char) : ∀ c ∈ (fromMarker body).head?, c = '[' := by
  induction body with
  | nil => exact fun _ none' => by cases none'
  | cons c cs ih =>
    unfold fromMarker
    split
    next starts => exact fun d head => Option.some.inj head ▸ dropMarker_head starts
    next => exact ih

theorem closed_open (cs : List Char) : closedLines cs ++ openLine cs = cs := by
  unfold closedLines openLine
  rw [← List.reverse_append, List.takeWhile_append_dropWhile, List.reverse_reverse]

theorem openLine_plain {cs : List Char} : ∀ c ∈ openLine cs, lineBreak c = false := by
  intro c mem
  have plain := List.mem_takeWhile_imp (List.mem_reverse.mp mem)
  simpa using plain

theorem closedLines_ended {cs : List Char} : ∀ c ∈ (closedLines cs).getLast?, lineBreak c = true := by
  intro c last
  unfold closedLines at last
  rw [List.getLast?_reverse] at last
  have stopped := List.head?_dropWhile_not (fun c => !lineBreak c) cs.reverse
  rw [last] at stopped
  simpa using stopped

section

variable {T : AckText}

theorem nameChar_solid {c : Char} (name : nameChar T c = true) : T.isSpace c = false ∧ c ≠ ':' := by
  rcases Bool.or_eq_true_iff.mp name with word | dash
  · exact ⟨(T.word_solid c word).1, (T.word_solid c word).2.1⟩
  · rw [eq_of_beq dash]
    exact ⟨T.space_marks.2.1, by decide⟩

/-- A field line is a name, a colon and a value. -/
theorem fieldRe_eq_some_iff {line name value : List Char} : fieldRe T line = some (name, value) ↔
    ∃ rest, line = name ++ ':' :: rest ∧ name.head?.any fieldStart = true ∧ (∀ c ∈ name, nameChar T c = true) ∧
      value = rest.dropWhile T.isSpace := by
  have stop : nameChar T ':' = false := by
    by_contra name
    exact (nameChar_solid (by simpa using name)).2 rfl
  unfold fieldRe
  dsimp only
  constructor
  · intro found
    split at found
    next shape =>
      obtain ⟨start, colon⟩ := Bool.and_eq_true_iff.mp shape
      obtain ⟨same, valued⟩ := Prod.mk.inj (Option.some.inj found)
      have rest : line.dropWhile (nameChar T) = ':' :: (line.dropWhile (nameChar T)).tail := by
        cases left : line.dropWhile (nameChar T) with
        | nil => simp [left] at colon
        | cons c cs =>
          have is : c = ':' := by simpa [left] using colon
          rw [is, List.tail_cons]
      refine ⟨(line.dropWhile (nameChar T)).tail, ?_, same ▸ start, ?_, valued.symm⟩
      · rw [← same, ← rest, List.takeWhile_append_dropWhile]
      · rw [← same]
        exact fun c mem => List.mem_takeWhile_imp mem
    next => cases found
  · rintro ⟨rest, rfl, start, names, rfl⟩
    have key : (name ++ ':' :: rest).takeWhile (nameChar T) = name := by
      rw [List.takeWhile_append_of_pos names, List.takeWhile_cons_of_neg (by rw [stop]; decide), List.append_nil]
    have left : (name ++ ':' :: rest).dropWhile (nameChar T) = ':' :: rest := by
      rw [List.dropWhile_append_of_pos names, List.dropWhile_cons_of_neg (by rw [stop]; decide)]
    rw [key, left, if_pos (by rw [start]; rfl), List.tail_cons]

/-- A line that gives no field, and to a field at most an empty line. -/
def Inert (T : AckText) (raw : List Char) : Prop :=
  fieldRe T (strip T.isSpace raw) = none ∧ (strip T.isSpace raw = [] ∨ continuationRe T raw = false)

theorem spaced_append {cs more : List Char} (h : spaced T cs = true) : spaced T (cs ++ more) = true := by
  cases cs with
  | nil => cases h
  | cons c cs => exact h

theorem continuationRe_append {line more : List Char} (h : continuationRe T line = true) :
    continuationRe T (line ++ more) = true := by
  cases line with
  | nil => simp [continuationRe, spaced] at h
  | cons c cs =>
    unfold continuationRe at h ⊢
    dsimp only at h ⊢
    rcases Bool.or_eq_true_iff.mp h with h | numbered
    · rcases Bool.or_eq_true_iff.mp h with blank | bullet
      · rw [spaced_append blank, Bool.true_or, Bool.true_or]
      · obtain ⟨sign, blank⟩ := Bool.and_eq_true_iff.mp bullet
        have later : spaced T (c :: cs ++ more).tail = true := spaced_append blank
        have first : (c :: cs ++ more).head?.any ['-', '*', '+'].contains = true := sign
        rw [first, later, Bool.and_true, Bool.or_true, Bool.true_or]
    · obtain ⟨both, blank⟩ := Bool.and_eq_true_iff.mp numbered
      obtain ⟨digit, sign⟩ := Bool.and_eq_true_iff.mp both
      cases left : (c :: cs).dropWhile T.isDigit with
      | nil => simp [left] at sign
      | cons d ds =>
        have whole : (c :: cs ++ more).dropWhile T.isDigit = d :: ds ++ more := by
          rw [List.dropWhile_append, left]
          rfl
        rw [left] at blank sign
        have later : spaced T (d :: ds ++ more).tail = true := spaced_append blank
        have stops : (d :: ds ++ more).head?.any ['.', ')'].contains = true := sign
        have first : (c :: cs ++ more).head?.any T.isDigit = true := digit
        rw [whole, first, stops, later]
        simp

/-- What a field line goes on with belongs to its value. -/
theorem fieldRe_append {line more : List Char} (h : (fieldRe T (strip T.isSpace line)).isSome = true) :
    (fieldRe T (strip T.isSpace (line ++ more))).isSome = true := by
  obtain ⟨⟨name, value⟩, found⟩ := Option.isSome_iff_exists.mp h
  obtain ⟨rest, shape, start, names, _⟩ := fieldRe_eq_some_iff.mp found
  obtain ⟨⟨blanks, split, _⟩, _⟩ := rstrip_split T.isSpace (line.dropWhile T.isSpace)
  rw [show rstrip T.isSpace (line.dropWhile T.isSpace) = name ++ ':' :: rest from shape] at split
  have whole : (line ++ more).dropWhile T.isSpace = name ++ ':' :: (rest ++ blanks ++ more) := by
    rw [List.dropWhile_append, split]
    simp
  have solid : ∀ c ∈ name, T.isSpace c = false := fun c mem => (nameChar_solid (names c mem)).1
  have stripped : strip T.isSpace (line ++ more) = name ++ ':' :: rstrip T.isSpace (rest ++ blanks ++ more) := by
    unfold strip
    rw [whole, rstrip_append solid, rstrip_cons T.space_marks.1]
  rw [Option.isSome_iff_exists]
  exact ⟨_, fieldRe_eq_some_iff.mpr ⟨_, stripped, start, names, rfl⟩⟩

/-- What stands before a marker gives nothing where the line with the marker does not. -/
theorem Inert.before {line more : List Char} (h : Inert T (line ++ '[' :: more)) : Inert T line := by
  obtain ⟨field, rest⟩ := h
  have full : strip T.isSpace (line ++ '[' :: more) ≠ [] := by
    intro empty
    have blank := strip_eq_nil_iff.mp empty '[' (by simp)
    rw [T.space_marks.2.2] at blank
    cases blank
  have apart := rest.resolve_left full
  constructor
  · by_contra found
    have given := @fieldRe_append T line ('[' :: more) (Option.isSome_iff_ne_none.mpr found)
    rw [field] at given
    cases given
  · right
    by_contra found
    have given := @continuationRe_append T line ('[' :: more) (by simpa using found)
    rw [apart] at given
    cases given

/-- The field that is read is among the fields. -/
def Reading.Settled (s : Reading) : Prop := s.current ≠ "" → ∃ parts, s.fields.lookup s.current = some parts

theorem readLine_settled {s : Reading} (settled : s.Settled) (raw : List Char) : (readLine T s raw).Settled := by
  unfold readLine
  split
  next => exact fun _ => ⟨_, Dicts.lookup_set_self⟩
  next =>
    split
    next => exact fun _ => ⟨_, Dicts.lookup_set_self⟩
    next => exact settled

theorem foldl_settled (lines : List (List Char)) {s : Reading} (settled : s.Settled) :
    (lines.foldl (readLine T) s).Settled := by
  induction lines generalizing s with
  | nil => exact settled
  | cons raw lines ih => exact ih (readLine_settled settled raw)

theorem fieldText_blank (parts : List (List Char)) : fieldText T (parts ++ [[]]) = fieldText T parts := by
  cases parts with
  | nil => rfl
  | cons part parts =>
    have joined : ['\n'].intercalate (part :: parts ++ [[]]) = ['\n'].intercalate (part :: parts) ++ ['\n'] := by
      rw [List.cons_append, intercalate_cons_flat, intercalate_cons_flat, List.flatMap_append, List.append_assoc]
      rfl
    have blank : ∀ c ∈ ['\n'], T.isSpace c = true := fun c mem =>
      List.mem_singleton.mp mem ▸ T.space_break '\n' (by decide)
    unfold fieldText
    rw [joined, strip_blanks blank]

theorem readLine_inert {s : Reading} (settled : s.Settled) {raw : List Char} (inert : Inert T raw) :
    textsOf T (readLine T s raw).fields = textsOf T s.fields := by
  obtain ⟨field, rest⟩ := inert
  unfold readLine
  rw [field]
  dsimp only
  split
  next reads =>
    obtain ⟨some', open'⟩ := reads
    obtain ⟨parts, found⟩ := settled some'
    have blank : strip T.isSpace raw = [] := by
      rcases rest with blank | apart
      · exact blank
      · rcases open' with blank | more
        · exact blank
        · rw [apart] at more
          cases more
    have cut : rstrip T.isSpace raw = [] := by
      have kept := @rstrip_blanks T.isSpace [] raw (strip_eq_nil_iff.mp blank)
      rw [List.nil_append] at kept
      rw [kept]
      rfl
    rw [found, cut]
    exact Dicts.map_set found (fieldText_blank parts)
  next => rfl

theorem foldl_inert {lines : List (List Char)} (inert : ∀ raw ∈ lines, Inert T raw) {s : Reading} (settled : s.Settled) :
    textsOf T (lines.foldl (readLine T) s).fields = textsOf T s.fields := by
  induction lines generalizing s with
  | nil => rfl
  | cons raw lines ih =>
    rw [List.foldl_cons, ih (fun other mem => inert other (List.mem_cons_of_mem _ mem)) (readLine_settled settled raw), readLine_inert settled (inert raw List.mem_cons_self)]

/-- Lines that give nothing from the next marker on leave the fields to the first block. -/
theorem readLines_first {body : List Char} (inert : fromMarker body = [] ∨ ∀ raw ∈ laterLines body, Inert T raw) :
    textsOf T (readLines T (splitlines body)).fields = textsOf T (readLines T (splitlines (beforeMarker body))).fields := by
  cases from' : fromMarker body with
  | nil =>
    have whole := before_from body
    rw [from', List.append_nil] at whole
    rw [whole]
  | cons c more =>
    have head : c = '[' := fromMarker_head body c (by rw [from', List.head?_cons]; rfl)
    subst head
    have given : ∀ raw ∈ laterLines body, Inert T raw := inert.resolve_left (by rw [from']; exact List.cons_ne_nil _ _)
    obtain ⟨line, lines, glued⟩ : ∃ line lines, splitlines ('[' :: more) = ('[' :: line) :: lines := by
      rw [splitlines_cons (by decide)]
      cases splitlines more with
      | nil => exact ⟨[], [], rfl⟩
      | cons line lines => exact ⟨line, lines, rfl⟩
    generalize before : beforeMarker body = block
    have later : laterLines body = (openLine block ++ '[' :: line) :: lines := by
      unfold laterLines
      rw [before, from', splitlines_glue openLine_plain glued]
    have begins : (openLine block ++ '[' :: more).head? ≠ some '\n' := by
      cases text : openLine block with
      | nil => exact fun same => absurd (Option.some.inj same) (by decide)
      | cons d ds =>
        have plain := openLine_plain d (text ▸ List.mem_cons_self)
        rw [List.cons_append, List.head?_cons]
        intro same
        rw [Option.some.inj same] at plain
        exact absurd plain (by decide)
    have whole : splitlines body = splitlines (closedLines block) ++ laterLines body := by
      rw [later, ← splitlines_glue openLine_plain glued, ← splitlines_append closedLines_ended begins, ← List.append_assoc,
        closed_open, ← before, ← from', before_from]
    have own : splitlines block = splitlines (closedLines block) ++ splitlines (openLine block) := by
      rw [← splitlines_append closedLines_ended, closed_open]
      intro same
      have plain := openLine_plain '\n' (List.mem_of_mem_head? same)
      exact absurd plain (by decide)
    have last : ∀ raw ∈ splitlines (openLine block), Inert T raw := by
      intro raw mem
      have glue := given (openLine block ++ '[' :: line) (by rw [later]; exact List.mem_cons_self)
      cases text : openLine block with
      | nil =>
        rw [text] at mem
        cases mem
      | cons d ds =>
        rw [text, splitlines_single (text ▸ openLine_plain)] at mem
        rw [List.mem_singleton.mp mem, ← text]
        exact glue.before
    have settled : ((splitlines (closedLines block)).foldl (readLine T) Reading.start).Settled :=
      foldl_settled _ fun some' => absurd rfl some'
    unfold readLines
    rw [whole, own, List.foldl_append, List.foldl_append, foldl_inert given settled, foldl_inert last settled]

end

end AgentflowHermes.Ack
