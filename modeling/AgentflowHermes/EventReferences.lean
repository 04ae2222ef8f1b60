import AgentflowHermes.KanbanEvents
import AgentflowHermes.OperatorResolution

namespace AgentflowHermes

/-- What is given as an `event_id`: `None`, a `bool`, an `int` or a text. -/
inductive GivenEventId
  | absent
  | flag (b : Bool)
  | number (n : Int)
  | text (s : String)

namespace GivenEventId

/-- `str(event_id).strip()`, empty where no id is given. -/
def wanted (T : PyText) : GivenEventId → String
  | absent => ""
  | flag b => if b then "True" else "False"
  | number n => toString n
  | text s => PyText.strip T.isSpace s

def parse (T : PyText) : GivenEventId → Option Int
  | absent | flag _ => none
  | number n => parseBoardEventRef T (.number n)
  | text s => parseBoardEventRef T (.text s)

end GivenEventId

/-- `board_event_numeric_identity`. -/
def BoardEvent.numericIdentity (T : PyText) (ev : BoardEvent) : Option Int :=
  (parseBoardEventRef T (.text ev.eventId)).or (if 0 < ev.eventSeq then some ev.eventSeq else none)

/-- The largest number an SQLite column or parameter holds. -/
def maxRowid : Int := 9223372036854775807

/-- A Kanban database whose event ids are row ids. -/
structure SqliteBoard extends KanbanDb where
  inRange : ∀ e ∈ events, e.id ≤ maxRowid

/-- The terminal events that the event query joins. -/
def SqliteBoard.terminalEvents (db : SqliteBoard) : List TaskEvent :=
  db.events.filter fun e => e.terminal && db.visible e

inductive Raised
  | overflowError
  deriving DecidableEq, Repr

/-- A source of board events, in memory or over a database; a file that is missing or no board gives no events. -/
inductive EventSource
  | fake (events : List BoardEvent)
  | live (src : LiveBoardEventSource) (db : Option SqliteBoard)

namespace EventSource

def events : EventSource → List BoardEvent
  | fake events => events
  | live _ none => []
  | live src (some db) => db.terminalEvents.map (src.rowToEvent db.toKanbanDb)

section

variable (T : PyText)

/-- `fetch_events_by_seq`; a number that SQLite cannot hold is no `sqlite3.Error`. -/
def fetchEventsBySeq : EventSource → Int → Except Raised (List BoardEvent)
  | fake events, seq =>
    .ok ((events.filter fun e => e.numericIdentity T == some seq).mergeSort fun a b => a.eventSeq ≤ b.eventSeq)
  | live _ none, _ => .ok []
  | live src (some db), seq =>
    if seq < -maxRowid - 1 ∨ maxRowid < seq then .error .overflowError
    else .ok (((db.terminalEvents.filter fun e => e.id == seq).take 1).map (src.rowToEvent db.toKanbanDb))

/-- The one element of a list. -/
def only {α : Type} : List α → Option α
  | [a] => some a
  | _ => none

def fetchEventById : EventSource → String → Except Raised (Option BoardEvent)
  | fake events, eventId => .ok (only (events.filter fun e => e.eventId == PyText.strip T.isSpace eventId))
  | source, eventId =>
    match parseBoardEventRef T (.text eventId) with
    | none => .ok none
    | some seq => (source.fetchEventsBySeq T seq).map only

/-- The last part of `resolve_board_event`. -/
def resolveSeq (source : EventSource) (ref : Int) : Except Raised (Except String BoardEvent) :=
  (source.fetchEventsBySeq T ref).map fun matched => match matched with
    | [] => .error "event_not_found"
    | [ev] => .ok ev
    | _ => .error "event_reference_ambiguous"

def resolveBoardEvent (source : EventSource) (eventId : GivenEventId) (eventSeq : Option Int) :
    Except Raised (Except String BoardEvent) :=
  let wanted := eventId.wanted T
  let refFromSeq := eventSeq.bind fun n => parseBoardEventRef T (.number n)
  let refFromId := if wanted = "" then none else eventId.parse T
  if wanted = "" ∧ eventSeq = none then .ok (.error "event_reference_required")
  else if eventSeq ≠ none ∧ refFromSeq = none then .ok (.error "event_reference_invalid")
  else if refFromId ≠ none ∧ eventSeq ≠ none ∧ refFromId ≠ refFromSeq then .ok (.error "event_reference_mismatch")
  else if wanted ≠ "" ∧ refFromId = none then
    (source.fetchEventById T wanted).map fun found => match found with
      | none => .error "event_reference_invalid"
      | some ev => if eventSeq ≠ none ∧ some ev.eventSeq ≠ refFromSeq then .error "event_reference_mismatch" else .ok ev
  else match refFromId.or refFromSeq with
    | none => .ok (.error "event_reference_invalid")
    | some ref => source.resolveSeq T ref

end

end EventSource

/-- Printable ASCII is no white space. -/
structure PrintableText (T : PyText) : Prop where
  unblank : ∀ c, '!' ≤ c → c ≤ '~' → T.isSpace c = false

section

variable {T : PyText}

theorem dropWhile_kept {p : Char → Bool} {l : List Char} (h : ∀ c, l.head? = some c → p c = false) : l.dropWhile p = l := by
  cases l with
  | nil => rfl
  | cons c cs => rw [List.dropWhile_cons_of_neg (by simp [h c rfl])]

theorem strip_kept {p : Char → Bool} {s : String} (first : ∀ c, s.toList.head? = some c → p c = false)
    (last : ∀ c, s.toList.getLast? = some c → p c = false) : PyText.strip p s = s := by
  unfold PyText.strip
  rw [dropWhile_kept first, dropWhile_kept (by simpa using last), List.reverse_reverse, String.ofList_toList]

theorem head_dropWhile {p : Char → Bool} {l : List Char} (c : Char) (h : (l.dropWhile p).head? = some c) :
    p c = false := by
  have kept := List.head?_dropWhile_not p l
  rw [h] at kept
  exact kept

/-- What is left of a text neither begins nor ends with a blank. -/
theorem strip_ends (p : Char → Bool) (s : String) :
    (∀ c, (PyText.strip p s).toList.head? = some c → p c = false) ∧
      ∀ c, (PyText.strip p s).toList.getLast? = some c → p c = false := by
  unfold PyText.strip
  rw [String.toList_ofList]
  refine ⟨fun c hc => ?_, fun c hc => head_dropWhile c (by simpa using hc)⟩
  obtain ⟨cut, whole⟩ := List.dropWhile_suffix p (l := (s.toList.dropWhile p).reverse)
  have last : (s.toList.dropWhile p).reverse.getLast? = some c := by
    rw [← whole, List.getLast?_append, ← List.head?_reverse, hc]
    rfl
  exact head_dropWhile c (by simpa using last)

theorem strip_strip (p : Char → Bool) (s : String) : PyText.strip p (PyText.strip p s) = PyText.strip p s :=
  strip_kept (strip_ends p s).1 (strip_ends p s).2

theorem strip_printable (printable : PrintableText T) {s : String} (h : ∀ c ∈ s.toList, '!' ≤ c ∧ c ≤ '~') :
    PyText.strip T.isSpace s = s := by
  have unblank : ∀ c ∈ s.toList, T.isSpace c = false := fun c hc => printable.unblank c (h c hc).1 (h c hc).2
  exact strip_kept (fun c hc => unblank c (List.mem_of_mem_head? hc)) fun c hc => unblank c (List.mem_of_getLast? hc)

/-- The characters of a text reference that have to be digits. -/
def referenceDigits (T : PyText) (s : String) : List Char :=
  let text := (PyText.strip T.isSpace s).toList
  if canonicalEventPrefix.toList.isPrefixOf text then text.drop canonicalEventPrefix.length else text

def readDigits (digits : List Char) : Option Int :=
  if digits = [] || !digits.all Char.isDigit then none
  else if 0 < decimal digits then some (decimal digits) else none

theorem parse_text (s : String) : parseBoardEventRef T (.text s) = readDigits (referenceDigits T s) := rfl

theorem parse_strip (s : String) :
    parseBoardEventRef T (.text (PyText.strip T.isSpace s)) = parseBoardEventRef T (.text s) := by
  rw [parse_text, parse_text]
  unfold referenceDigits
  rw [strip_strip]

/-- The digits of a reference read back. -/
theorem decimal_toDigits (n : Nat) : decimal (Nat.toDigits 10 n) = n := by
  have foldl := Nat.ofDigitChars_toDigits (b := 10) (n := n) (by decide) (by decide)
  rw [Nat.ofDigitChars_eq_foldl] at foldl
  exact foldl

theorem digit_printable {c : Char} (h : c.isDigit) : '!' ≤ c ∧ c ≤ '~' := by
  obtain ⟨lower, upper⟩ := Char.isDigit_iff_toNat.mp h
  constructor
  · exact Char.le_def.mpr (UInt32.le_iff_toNat_le.mpr (Nat.le_trans (by decide) lower))
  · exact Char.le_def.mpr (UInt32.le_iff_toNat_le.mpr (Nat.le_trans upper (by decide)))

theorem toString_digits (k : Nat) : ∀ c ∈ (toString k).toList, c.isDigit := by
  intro c hc
  rw [Nat.toString_eq_repr, Nat.toList_repr] at hc
  exact Nat.isDigit_of_mem_toDigits (by decide) (by decide) hc

theorem toString_negSucc (k : Nat) : toString (Int.negSucc k) = "-" ++ toString (k + 1) := rfl

theorem toString_chars (n : Int) : ∀ c ∈ (toString n).toList, c.isDigit ∨ c = '-' := by
  cases n with
  | ofNat k => exact fun c hc => .inl (toString_digits k c hc)
  | negSucc k =>
    intro c hc
    rw [toString_negSucc, String.toList_append] at hc
    rcases List.mem_append.mp hc with sign | hc
    · exact .inr (List.mem_singleton.mp sign)
    · exact .inl (toString_digits _ c hc)

theorem toString_printable (n : Int) : ∀ c ∈ (toString n).toList, '!' ≤ c ∧ c ≤ '~' := by
  intro c hc
  rcases toString_chars n c hc with digit | rfl
  · exact digit_printable digit
  · decide

/-- A number is read back from its digits if it is positive, and nothing else is. -/
theorem read_toString (n : Int) :
    readDigits (toString n).toList = if 0 < n then some n else none := by
  cases n with
  | ofNat k =>
    have all : (toString k).toList.all Char.isDigit = true := List.all_eq_true.mpr (toString_digits k)
    have value : decimal (toString k).toList = k := by
      rw [Nat.toString_eq_repr, Nat.toList_repr, decimal_toDigits]
    show readDigits (toString k).toList = _
    unfold readDigits
    rw [value, all, if_neg (by simp)]
    simp only [Int.ofNat_eq_natCast, Int.natCast_pos]
  | negSucc k =>
    have sign : (toString (Int.negSucc k)).toList.all Char.isDigit = false := by
      rw [toString_negSucc, String.toList_append]
      rfl
    unfold readDigits
    rw [sign, if_pos (by simp), if_neg (by omega)]

theorem parse_number (printable : PrintableText T) (n : Int) :
    parseBoardEventRef T (.text (toString n)) = if 0 < n then some n else none := by
  rw [parse_text]
  unfold referenceDigits
  rw [strip_printable printable (toString_printable n)]
  have bare : canonicalEventPrefix.toList.isPrefixOf (toString n).toList = false := by
    rw [← Bool.not_eq_true, List.isPrefixOf_iff_prefix]
    intro starts
    have letter : 'k' ∈ (toString n).toList := starts.subset (by decide)
    exact absurd (toString_chars n 'k' letter) (by decide)
  dsimp only
  rw [bare, if_neg Bool.false_ne_true]
  exact read_toString n

theorem canonical_chars (n : Int) :
    (canonicalBoardEventId n).toList = canonicalEventPrefix.toList ++ (toString n).toList := String.toList_append

theorem canonical_printable (n : Int) : ∀ c ∈ (canonicalBoardEventId n).toList, '!' ≤ c ∧ c ≤ '~' := by
  intro c hc
  rw [canonical_chars] at hc
  have fixed : canonicalEventPrefix.toList.all (fun c => '!' ≤ c && c ≤ '~') = true := by decide
  rcases List.mem_append.mp hc with hc | hc
  · simpa using List.all_eq_true.mp fixed c hc
  · exact toString_printable n c hc

theorem canonical_ne_empty (n : Int) : canonicalBoardEventId n ≠ "" := by
  intro blank
  have chars := canonical_chars n
  rw [blank] at chars
  exact absurd chars.symm (by simp [canonicalEventPrefix])

theorem parse_canonical (printable : PrintableText T) (n : Int) :
    parseBoardEventRef T (.text (canonicalBoardEventId n)) = if 0 < n then some n else none := by
  have starts : canonicalEventPrefix.toList.isPrefixOf (canonicalEventPrefix.toList ++ (toString n).toList) = true :=
    List.isPrefixOf_iff_prefix.mpr (List.prefix_append _ _)
  rw [parse_text]
  unfold referenceDigits
  rw [strip_printable printable (canonical_printable n)]
  dsimp only
  rw [canonical_chars, starts, if_pos rfl, ← String.length_toList, List.drop_left]
  exact read_toString n

end

end AgentflowHermes
