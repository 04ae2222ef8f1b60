import AgentflowHermes.EventReferences

namespace AgentflowHermes

namespace EventSource

variable (T : PyText)

def withId (source : EventSource) (id : String) : List BoardEvent := source.events.filter fun e => e.eventId == id

def withNumber (source : EventSource) (n : Int) : List BoardEvent :=
  source.events.filter fun e => e.numericIdentity T == some n

/-- The event a reference means: the one event that has it as its id, and where no event has, the one event of
the number that the reference spells. Where a sequence is given too, it has to be the number of that event. -/
def soughtEvent (source : EventSource) (ref : GivenEventId) (seq : Option Int) : Option BoardEvent :=
  if ref.wanted T = "" then seq.bind fun n => only (source.withNumber T n)
  else match source.withId (ref.wanted T) with
    | [] => (ref.parse T).bind fun n => if seq.all (· == n) then only (source.withNumber T n) else none
    | [e] => if seq.all fun n => e.numericIdentity T == some n then some e else none
    | _ => none

/-- The ways to write a positive number: in one of its three spellings or as the sequence, or both. -/
def Spells (n : Int) (ref : GivenEventId) (seq : Option Int) : Prop :=
  0 < n ∧ ((ref = .number n ∨ ref = .text (toString n) ∨ ref = .text (canonicalBoardEventId n)) ∧
      (seq = none ∨ seq = some n) ∨
    ref.wanted T = "" ∧ seq = some n)

/-- The event that is meant is found, or none is where none is meant, whichever way a number is written. -/
structure ResolvesUniquely (source : EventSource) (ref : GivenEventId) (seq : Option Int) : Prop where
  sought : ∃ answer, source.resolveBoardEvent T ref seq = .ok answer ∧ answer.toOption = source.soughtEvent T ref seq
  spelled : ∀ n, Spells T n ref seq → source.resolveBoardEvent T ref seq = source.resolveBoardEvent T (.number n) none

/-- The number that an id and a sequence come to, where they agree on one. -/
def designated (ref : GivenEventId) (seq : Option Int) : Option Int :=
  if ref.wanted T = "" then seq.bind fun n => parseBoardEventRef T (.number n)
  else (ref.parse T).bind fun n => if seq.all (· == n) then some n else none

/-- A database, and a number above all that it can hold. -/
def Beyond (source : EventSource) (n : Int) : Prop := maxRowid < n ∧ ∃ src db, source = .live src (some db)

/-- The references that go wrong: the id of one event that spells the number of another too, the id of a live event
that is no canonical one, and a number beyond what SQLite can hold. -/
inductive Misled (source : EventSource) (ref : GivenEventId) (seq : Option Int) : Prop
  | shared {n e} (given : ref.wanted T ≠ "") (number : designated T ref seq = some n)
      (exact : source.withId (ref.wanted T) = [e]) (shared : 1 < (source.withNumber T n).length)
  | unnumbered {src db e} (live : source = .live src db) (given : ref.wanted T ≠ "") (unread : ref.parse T = none)
      (exact : source.withId (ref.wanted T) = [e]) (alone : seq = none)
  | beyond {n} (number : designated T ref seq = some n) (beyond : source.Beyond n)

section

variable {T} {source : EventSource} {ref : GivenEventId} {seq : Option Int}

theorem parse_number_eq (n : Int) : parseBoardEventRef T (.number n) = if 0 < n then some n else none := rfl

theorem parse_positive {r : EventRef} {n : Int} (h : parseBoardEventRef T r = some n) : 0 < n := by
  cases r with
  | number m =>
    rw [parse_number_eq] at h
    split at h
    next positive =>
      rw [← Option.some.inj h]
      exact positive
    next => cases h
  | text s =>
    rw [parse_text] at h
    unfold readDigits at h
    generalize referenceDigits T s = digits at h
    split at h
    · cases h
    · split at h
      next positive =>
        rw [← Option.some.inj h]
        exact Int.natCast_pos.mpr positive
      next => cases h

theorem numericIdentity_positive {e : BoardEvent} {n : Int} (h : e.numericIdentity T = some n) : 0 < n := by
  unfold BoardEvent.numericIdentity at h
  cases parsed : parseBoardEventRef T (.text e.eventId) with
  | some m =>
    rw [parsed] at h
    cases h
    exact parse_positive parsed
  | none =>
    rw [parsed, Option.none_or] at h
    split at h
    · cases h
      assumption
    · cases h

theorem withNumber_nonpositive {n : Int} (h : n ≤ 0) : source.withNumber T n = [] := by
  refine List.filter_eq_nil_iff.mpr fun e _ same => ?_
  have := numericIdentity_positive (beq_iff_eq.mp same)
  omega

theorem parse_blank : parseBoardEventRef T (.text "") = none := by
  simp [parseBoardEventRef, PyText.strip]

theorem strip_wanted (printable : PrintableText T) (ref : GivenEventId) :
    PyText.strip T.isSpace (ref.wanted T) = ref.wanted T := by
  cases ref with
  | absent => rfl
  | flag b =>
    have words : ∀ s ∈ ["True", "False"], s.toList.all (fun c => '!' ≤ c && c ≤ '~') = true := by decide
    have kept (s : String) (word : s ∈ ["True", "False"]) : PyText.strip T.isSpace s = s :=
      strip_printable printable fun c hc => by simpa using List.all_eq_true.mp (words s word) c hc
    cases b with
    | false => exact kept "False" (by simp)
    | true => exact kept "True" (by simp)
  | number n => exact strip_printable printable (toString_printable n)
  | text s => exact strip_strip _ _

/-- What is looked for reads as the reference itself does. -/
theorem parse_wanted (printable : PrintableText T) (ref : GivenEventId) :
    parseBoardEventRef T (.text (ref.wanted T)) = ref.parse T := by
  cases ref with
  | absent => exact parse_blank
  | flag b =>
    have unread : ∀ s ∈ ["True", "False"], readDigits
        (if canonicalEventPrefix.toList.isPrefixOf s.toList then s.toList.drop canonicalEventPrefix.length
        else s.toList) = none := by decide
    rw [parse_text]
    unfold referenceDigits
    rw [strip_wanted printable]
    cases b with
    | false => exact unread "False" (by simp)
    | true => exact unread "True" (by simp)
  | number n => exact parse_number printable n
  | text s => exact parse_strip s

theorem parse_unwanted (printable : PrintableText T) (h : ref.wanted T = "") : ref.parse T = none := by
  rw [← parse_wanted printable, h, parse_blank]

theorem withId_parse (printable : PrintableText T) {e : BoardEvent} (h : e ∈ source.withId (ref.wanted T)) :
    parseBoardEventRef T (.text e.eventId) = ref.parse T := by
  rw [beq_iff_eq.mp (List.mem_filter.mp h).2, parse_wanted printable]

theorem numericIdentity_row (printable : PrintableText T) (src : LiveBoardEventSource) (db : KanbanDb) (e : TaskEvent) :
    (src.rowToEvent db e).numericIdentity T = if 0 < e.id then some e.id else none := by
  show (parseBoardEventRef T (.text (canonicalBoardEventId e.id))).or (if 0 < e.id then some e.id else none) = _
  rw [parse_canonical printable]
  split <;> rfl

theorem only_take {α β : Type} {l : List α} {f : α → β} (h : l.length ≤ 1) :
    only ((l.take 1).map f) = only (l.map f) := by
  rw [List.take_of_length_le h]

/-- At most one event has an id. -/
theorem one_row (db : SqliteBoard) (n : Int) : (db.terminalEvents.filter fun e => e.id == n).length ≤ 1 := by
  have ordered := (db.ordered.filter fun e => e.terminal && db.visible e).filter fun e => e.id == n
  have ids : ∀ e ∈ db.terminalEvents.filter fun e => e.id == n, e.id = n := fun e he =>
    beq_iff_eq.mp (List.mem_filter.mp he).2
  change (db.terminalEvents.filter fun e => e.id == n).Pairwise _ at ordered
  generalize db.terminalEvents.filter (fun e => e.id == n) = rows at ordered ids
  match rows with
  | [] => exact Nat.zero_le 1
  | [_] => exact Nat.le_refl 1
  | e :: f :: _ =>
    have apart := (List.pairwise_cons.mp ordered).1 f List.mem_cons_self
    have first := ids e List.mem_cons_self
    have second := ids f (List.mem_cons_of_mem _ List.mem_cons_self)
    omega

theorem withNumber_live (printable : PrintableText T) (src : LiveBoardEventSource) (db : SqliteBoard) {n : Int}
    (positive : 0 < n) : (live src (some db)).withNumber T n =
      (db.terminalEvents.filter fun e => e.id == n).map (src.rowToEvent db.toKanbanDb) := by
  unfold withNumber events
  rw [List.filter_map]
  refine congrArg (List.map _) (List.filter_congr fun e _ => ?_)
  rw [Function.comp_apply, numericIdentity_row printable]
  by_cases pos : 0 < e.id
  · rw [if_pos pos]
    rfl
  · rw [if_neg pos]
    exact (beq_eq_false_iff_ne.mpr (by omega)).symm

theorem only_none {α : Type} {l : List α} (h : l.length ≠ 1) : only l = none := by
  match l with
  | [] => rfl
  | [_] => exact absurd rfl h
  | _ :: _ :: _ => rfl

theorem only_sorted (le : BoardEvent → BoardEvent → Bool) (events : List BoardEvent) :
    only (events.mergeSort le) = only events := by
  match events with
  | [] => simp
  | [e] => simp
  | e :: f :: rest => rw [only_none (by simp), only_none (by simp)]

/-- Looking a number up finds the one event of that number. -/
theorem resolveSeq_only (printable : PrintableText T) {n : Int} (positive : 0 < n) (within : ¬source.Beyond n) :
    ∃ answer, source.resolveSeq T n = .ok answer ∧ answer.toOption = only (source.withNumber T n) := by
  have found (events : List BoardEvent) (h : source.fetchEventsBySeq T n = .ok events) :
      ∃ answer, source.resolveSeq T n = .ok answer ∧ answer.toOption = only events := by
    unfold resolveSeq
    rw [h]
    refine ⟨_, rfl, ?_⟩
    match events with
    | [] => rfl
    | [_] => rfl
    | _ :: _ :: _ => rfl
  cases source with
  | fake events =>
    obtain ⟨answer, is, one⟩ := found _ rfl
    exact ⟨answer, is, one.trans (only_sorted _ _)⟩
  | live src db =>
    cases db with
    | none => exact found [] rfl
    | some db =>
      have bounds : ¬(n < -maxRowid - 1 ∨ maxRowid < n) := by
        have upper : ¬maxRowid < n := fun above => within ⟨above, src, db, rfl⟩
        have nonneg : 0 < maxRowid := by decide
        omega
      have fetched : (live src (some db)).fetchEventsBySeq T n =
          .ok (((db.terminalEvents.filter fun e => e.id == n).take 1).map (src.rowToEvent db.toKanbanDb)) :=
        if_neg bounds
      obtain ⟨answer, is, one⟩ := found _ fetched
      refine ⟨answer, is, one.trans ?_⟩
      rw [only_take (one_row db n), withNumber_live printable src db positive]

theorem resolveSeq_beyond {n : Int} (h : source.Beyond n) : source.resolveSeq T n = .error .overflowError := by
  obtain ⟨above, src, db, rfl⟩ := h
  unfold resolveSeq fetchEventsBySeq
  dsimp only
  rw [if_pos (.inr above)]
  rfl

theorem refParse_positive {n : Int} (h : ref.parse T = some n) : 0 < n := by
  unfold GivenEventId.parse at h
  cases ref with
  | absent => cases h
  | flag b => cases h
  | number k => exact parse_positive h
  | text s => exact parse_positive h

/-- A reference is looked up by its number or by its id, or it is refused unseen. -/
theorem resolveBoardEvent_cases (source : EventSource) (ref : GivenEventId) (seq : Option Int) :
    (∃ n, 0 < n ∧ designated T ref seq = some n ∧ source.resolveBoardEvent T ref seq = source.resolveSeq T n) ∨
    designated T ref seq = none ∧ (ref.wanted T = "" ∨ ref.parse T ≠ none ∨ ∃ m, seq = some m ∧ m ≤ 0) ∧
      (∃ e, source.resolveBoardEvent T ref seq = .ok (.error e)) ∨
    ref.wanted T ≠ "" ∧ ref.parse T = none ∧ (∀ m, seq = some m → 0 < m) ∧
      source.resolveBoardEvent T ref seq = (source.fetchEventById T (ref.wanted T)).map fun found =>
        match found with
        | none => .error "event_reference_invalid"
        | some ev => if seq ≠ none ∧ some ev.eventSeq ≠ seq then .error "event_reference_mismatch" else .ok ev := by
  have read (m : Int) :
      ((some m).bind fun n => parseBoardEventRef T (.number n)) = if 0 < m then some m else none := rfl
  unfold resolveBoardEvent designated
  dsimp only
  by_cases blank : ref.wanted T = ""
  · simp only [if_pos blank]
    cases seq with
    | none => exact .inr (.inl ⟨rfl, .inl blank, "event_reference_required", if_pos ⟨blank, rfl⟩⟩)
    | some m =>
      rw [if_neg (by simp), read]
      by_cases positive : 0 < m
      · rw [if_pos positive]
        exact .inl ⟨m, positive, rfl, by simp [blank]⟩
      · rw [if_neg positive]
        exact .inr (.inl ⟨rfl, .inl blank, "event_reference_invalid", if_pos (by simp)⟩)
  · simp only [if_neg blank]
    rw [if_neg (by simp [blank])]
    cases parsed : ref.parse T with
    | some n =>
      have positive := refParse_positive parsed
      cases seq with
      | none => exact .inl ⟨n, positive, rfl, by simp⟩
      | some m =>
        rw [read]
        by_cases nonpositive : m ≤ 0
        · rw [if_neg (by omega : ¬0 < m), if_pos (by simp)]
          refine .inr (.inl ⟨?_, .inr (.inl (by simp)), "event_reference_invalid", rfl⟩)
          simp
          omega
        · rw [if_pos (by omega : 0 < m), if_neg (by simp)]
          by_cases same : m = n
          · subst same
            exact .inl ⟨m, positive, by simp, by simp⟩
          · rw [if_pos (by simpa using Ne.symm same)]
            exact .inr (.inl ⟨by simp [same], .inr (.inl (by simp)), "event_reference_mismatch", rfl⟩)
    | none =>
      cases seq with
      | none =>
        rw [if_neg (by simp), if_neg (by simp), if_pos (by simp [blank])]
        exact .inr (.inr ⟨blank, rfl, by simp, rfl⟩)
      | some m =>
        rw [read]
        by_cases nonpositive : m ≤ 0
        · rw [if_neg (by omega : ¬0 < m), if_pos (by simp)]
          exact .inr (.inl ⟨rfl, .inr (.inr ⟨m, rfl, nonpositive⟩), "event_reference_invalid", rfl⟩)
        · rw [if_pos (by omega : 0 < m), if_neg (by simp), if_neg (by simp), if_pos (by simp [blank])]
          refine .inr (.inr ⟨blank, rfl, fun k is => ?_, rfl⟩)
          cases is
          omega

theorem withId_numericIdentity (printable : PrintableText T) {e : BoardEvent} {n : Int}
    (h : e ∈ source.withId (ref.wanted T)) (number : ref.parse T = some n) : e.numericIdentity T = some n := by
  unfold BoardEvent.numericIdentity
  rw [withId_parse printable h, number]
  rfl

/-- The events of an id that spells a number are events of that number. -/
theorem withId_sublist (printable : PrintableText T) {n : Int} (number : ref.parse T = some n) :
    (source.withId (ref.wanted T)).Sublist (source.withNumber T n) := by
  have same : source.withId (ref.wanted T) =
      (source.withNumber T n).filter fun e => e.eventId == ref.wanted T := by
    unfold withNumber
    rw [List.filter_filter]
    refine List.filter_congr fun e mem => ?_
    by_cases is : (e.eventId == ref.wanted T) = true
    · have identity := withId_numericIdentity printable (List.mem_filter.mpr ⟨mem, is⟩) number
      simp [is, identity]
    · simp [is]
  rw [same]
  exact List.filter_sublist

theorem designated_some {n : Int} (h : designated T ref seq = some n) (given : ref.wanted T ≠ "") :
    ref.parse T = some n ∧ seq.all (· == n) := by
  unfold designated at h
  rw [if_neg given] at h
  obtain ⟨m, parsed, h⟩ := Option.bind_eq_some_iff.mp h
  split at h
  next agrees =>
    cases h
    exact ⟨parsed, agrees⟩
  next => cases h

/-- An id that one event has means that event, where it spells the number that the sequence gives. -/
theorem sought_exact (printable : PrintableText T) {n : Int} {e : BoardEvent} (given : ref.wanted T ≠ "")
    (number : ref.parse T = some n) (agrees : seq.all (· == n)) (exact : source.withId (ref.wanted T) = [e]) :
    source.soughtEvent T ref seq = some e := by
  have mem : e ∈ source.withId (ref.wanted T) := by
    rw [exact]
    exact List.mem_cons_self
  have agrees' : (seq.all fun n => e.numericIdentity T == some n) = true := by
    rw [withId_numericIdentity printable mem number]
    cases seq with
    | none => rfl
    | some m =>
      simp only [Option.all_some, beq_iff_eq, Option.some.injEq] at agrees ⊢
      exact agrees.symm
  unfold soughtEvent
  rw [if_neg given, exact]
  exact if_pos agrees'

/-- Where a number is designated, the event of that id is meant if there is one, and else the event of that number. -/
theorem sought_designated (printable : PrintableText T) {n : Int} (h : designated T ref seq = some n) :
    (ref.wanted T ≠ "" ∧ ∃ e, source.withId (ref.wanted T) = [e] ∧ source.soughtEvent T ref seq = some e) ∨
      source.soughtEvent T ref seq = only (source.withNumber T n) := by
  unfold soughtEvent
  by_cases blank : ref.wanted T = ""
  · unfold designated at h
    rw [if_pos blank] at h ⊢
    obtain ⟨m, rfl, parsed⟩ := Option.bind_eq_some_iff.mp h
    rw [parse_number_eq] at parsed
    split at parsed
    · cases parsed
      exact .inr rfl
    · cases parsed
  · obtain ⟨number, agrees⟩ := designated_some h blank
    rw [if_neg blank]
    have inside : (source.withId (ref.wanted T)).Sublist (source.withNumber T n) := withId_sublist printable number
    cases found : source.withId (ref.wanted T) with
    | nil =>
      rw [number, Option.bind_some, if_pos agrees]
      exact .inr rfl
    | cons e rest =>
      cases rest with
      | nil =>
        have means := sought_exact printable blank number agrees found
        unfold soughtEvent at means
        rw [if_neg blank, found] at means
        exact .inl ⟨blank, e, rfl, means⟩
      | cons f rest =>
        rw [found] at inside
        have many := inside.length_le
        rw [List.length_cons, List.length_cons] at many
        exact .inr (only_none (by omega)).symm

/-- Nothing is meant by a reference that is refused unseen. -/
theorem sought_refused (printable : PrintableText T) (h : designated T ref seq = none)
    (why : ref.wanted T = "" ∨ ref.parse T ≠ none ∨ ∃ m, seq = some m ∧ m ≤ 0) :
    source.soughtEvent T ref seq = none := by
  unfold soughtEvent
  unfold designated at h
  by_cases blank : ref.wanted T = ""
  · rw [if_pos blank] at h ⊢
    cases seq with
    | none => rfl
    | some m =>
      rw [Option.bind_some, parse_number_eq] at h
      rw [Option.bind_some, withNumber_nonpositive]
      · rfl
      · split at h
        · cases h
        · omega
  · rw [if_neg blank] at h ⊢
    have disagrees {n : Int} (number : ref.parse T = some n) : (seq.all (· == n)) = false := by
      rw [number, Option.bind_some] at h
      split at h
      · cases h
      next no => simpa using no
    cases found : source.withId (ref.wanted T) with
    | nil =>
      cases number : ref.parse T with
      | none => rfl
      | some n => rw [Option.bind_some, disagrees number, if_neg Bool.false_ne_true]
    | cons e rest =>
      cases rest with
      | cons f rest => rfl
      | nil =>
        have mem : e ∈ source.withId (ref.wanted T) := by
          rw [found]
          exact List.mem_cons_self
        refine if_neg fun agrees => ?_
        cases number : ref.parse T with
        | some n =>
          have no := disagrees number
          rw [withId_numericIdentity printable mem number] at agrees
          cases seq with
          | none => cases no
          | some m =>
            simp only [Option.all_some, beq_iff_eq, Option.some.injEq, beq_eq_false_iff_ne] at agrees no
            exact absurd agrees.symm no
        | none =>
          obtain ⟨m, rfl, nonpositive⟩ := (why.resolve_left blank).resolve_left (not_not.mpr number)
          have := numericIdentity_positive (beq_iff_eq.mp agrees)
          omega

theorem only_shared {n : Int} {e : BoardEvent} (printable : PrintableText T) (number : ref.parse T = some n)
    (exact : source.withId (ref.wanted T) = [e]) (alone : ¬1 < (source.withNumber T n).length) :
    only (source.withNumber T n) = some e := by
  have inside : (source.withId (ref.wanted T)).Sublist (source.withNumber T n) := withId_sublist printable number
  rw [exact] at inside
  have same := inside.eq_of_length_le (by simpa using alone)
  rw [← same]
  rfl

theorem live_unread (printable : PrintableText T) {src : LiveBoardEventSource} {db : Option SqliteBoard} {e : BoardEvent}
    (h : e ∈ (live src db).withId (ref.wanted T)) (unread : ref.parse T = none) : e.numericIdentity T = none := by
  have parsed := withId_parse printable h
  cases db with
  | none => exact absurd (List.mem_filter.mp h).1 List.not_mem_nil
  | some db =>
    obtain ⟨row, -, rfl⟩ := List.mem_map.mp (List.mem_filter.mp h).1
    rw [unread] at parsed
    change parseBoardEventRef T (.text (canonicalBoardEventId row.id)) = none at parsed
    rw [parse_canonical printable] at parsed
    rw [numericIdentity_row printable, parsed]

/-- An id that spells no number is found as such in memory; a live event of such an id is never found. -/
theorem sought_by_id (printable : PrintableText T) (given : ref.wanted T ≠ "") (unread : ref.parse T = none)
    (positive : ∀ m, seq = some m → 0 < m) (misled : ¬Misled T source ref seq) :
    ∃ answer : Except String BoardEvent, ((source.fetchEventById T (ref.wanted T)).map fun found =>
        match found with
        | none => .error "event_reference_invalid"
        | some ev => if seq ≠ none ∧ some ev.eventSeq ≠ seq then .error "event_reference_mismatch" else .ok ev) = .ok answer ∧
      answer.toOption = source.soughtEvent T ref seq := by
  have identity {e : BoardEvent} (mem : e ∈ source.withId (ref.wanted T)) :
      e.numericIdentity T = if 0 < e.eventSeq then some e.eventSeq else none := by
    unfold BoardEvent.numericIdentity
    rw [withId_parse printable mem, unread, Option.none_or]
  unfold soughtEvent
  rw [if_neg given, unread]
  cases source with
  | fake events =>
    refine ⟨_, rfl, ?_⟩
    rw [strip_wanted printable]
    change Except.toOption (match only ((fake events).withId (ref.wanted T)) with
      | none => .error "event_reference_invalid"
      | some ev => if seq ≠ none ∧ some ev.eventSeq ≠ seq then .error "event_reference_mismatch" else .ok ev) = _
    cases found : (fake events).withId (ref.wanted T) with
    | nil => rfl
    | cons e rest =>
      cases rest with
      | cons f rest => rfl
      | nil =>
        dsimp only [only]
        rw [identity (found ▸ List.mem_cons_self)]
        cases seq with
        | none => rfl
        | some m =>
          have pos := positive m rfl
          by_cases same : e.eventSeq = m
          · have held : ((if 0 < e.eventSeq then some e.eventSeq else none) == some m) = true := by
              rw [same, if_pos pos]
              exact beq_self_eq_true _
            rw [if_neg (by simp [same])]
            exact (if_pos held).symm
          · have differs : ((if 0 < e.eventSeq then some e.eventSeq else none) == some m) = false := by
              split <;> simp [same]
            rw [if_pos (by simp [same])]
            exact (if_neg (by simp [differs])).symm
  | live src db =>
    have fetched : (live src db).fetchEventById T (ref.wanted T) = .ok none := by
      unfold fetchEventById
      dsimp only
      rw [parse_wanted printable, unread]
    rw [fetched]
    refine ⟨.error "event_reference_invalid", rfl, ?_⟩
    cases found : (live src db).withId (ref.wanted T) with
    | nil => rfl
    | cons e rest =>
      cases rest with
      | cons f rest => rfl
      | nil =>
        cases seq with
        | none => exact absurd (.unnumbered rfl given unread found rfl) misled
        | some m =>
          have none := live_unread printable (found ▸ List.mem_cons_self : e ∈ (live src db).withId (ref.wanted T)) unread
          exact (if_neg (by simp [none])).symm

theorem resolve_designated {n : Int} (h : designated T ref seq = some n) :
    source.resolveBoardEvent T ref seq = source.resolveSeq T n := by
  rcases resolveBoardEvent_cases (T := T) source ref seq with ⟨m, -, is, resolved⟩ | ⟨none, -⟩ | ⟨given, unread, -⟩
  · rw [is] at h
    cases h
    exact resolved
  · rw [none] at h
    cases h
  · unfold designated at h
    rw [if_neg given, unread] at h
    cases h

theorem spells_designated (printable : PrintableText T) {n : Int} (h : Spells T n ref seq) :
    designated T ref seq = some n := by
  obtain ⟨positive, ⟨spelling, alone⟩ | ⟨blank, rfl⟩⟩ := h
  · have number : ref.parse T = some n := by
      rcases spelling with rfl | rfl | rfl
      · exact if_pos positive
      · exact (parse_number printable n).trans (if_pos positive)
      · exact (parse_canonical printable n).trans (if_pos positive)
    have given : ref.wanted T ≠ "" := by
      intro blank
      rw [parse_unwanted printable blank] at number
      cases number
    unfold designated
    rw [if_neg given, number]
    rcases alone with rfl | rfl
    · rfl
    · exact if_pos (by simp)
  · unfold designated
    rw [if_pos blank]
    exact if_pos positive

/-- A source in memory, as the resolution of historical events reads it. -/
def reader (T : PyText) (board : String) (events : List BoardEvent) : BoardEventSource where
  board := board
  fetchEventsSince last := (events.filter fun e => last < e.eventSeq).mergeSort fun a b => a.eventSeq ≤ b.eventSeq
  fetchEventById id := only (events.filter fun e => e.eventId == PyText.strip T.isSpace id)
  fetchEventsBySeq n := (events.filter fun e => e.numericIdentity T == some n).mergeSort fun a b => a.eventSeq ≤ b.eventSeq

theorem resolveBoardEvent_reader (board : String) (events : List BoardEvent) (s : String) (seq : Option Int) :
    (fake events).resolveBoardEvent T (.text s) seq =
      .ok (AgentflowHermes.resolveBoardEvent T (reader T board events) (.text s) seq) := by
  unfold resolveBoardEvent AgentflowHermes.resolveBoardEvent
  dsimp only [GivenEventId.wanted, GivenEventId.parse]
  by_cases blank : PyText.strip T.isSpace s = ""
  · cases seq with
    | none => simp [blank]
    | some m =>
      simp only [blank, parse_number_eq, resolveSeq, fetchEventsBySeq, reader]
      by_cases positive : 0 < m
      · simp [positive]
        rfl
      · simp [positive]
  · cases parsed : parseBoardEventRef T (.text s) with
    | none =>
      have found : (reader T board events).fetchEventById (PyText.strip T.isSpace s) =
          only (events.filter fun e => e.eventId == PyText.strip T.isSpace (PyText.strip T.isSpace s)) := rfl
      cases seq with
      | none =>
        simp only [fetchEventById, found]
        cases only (events.filter _) <;> simp [blank, Except.map]
      | some m =>
        simp only [fetchEventById, found]
        by_cases positive : 0 < m
        · cases only (events.filter _) <;> simp [blank, positive, parse_number_eq, Except.map]
        · simp [blank, positive, parse_number_eq]
    | some n =>
      cases seq with
      | none =>
        simp [blank, resolveSeq, fetchEventsBySeq, reader]
        rfl
      | some m =>
        by_cases positive : 0 < m
        · by_cases same : n = m
          · simp [blank, positive, same, parse_number_eq, resolveSeq, fetchEventsBySeq, reader]
            rfl
          · simp [blank, positive, same, parse_number_eq]
        · simp [blank, positive, parse_number_eq]

end

/-- A reference finds the event it means, and none where it means none, unless it is one of those that go wrong. -/
theorem resolves_uniquely_iff (T : PyText) (printable : PrintableText T) (source : EventSource) (ref : GivenEventId)
    (seq : Option Int) : ResolvesUniquely T source ref seq ↔ ¬Misled T source ref seq := by
  constructor
  · rintro ⟨⟨answer, resolved, sought⟩, -⟩ misled
    cases misled with
    | shared given number exact shared =>
      rename_i n e
      rw [resolve_designated number] at resolved
      have read := designated_some number given
      have means : source.soughtEvent T ref seq = some e := sought_exact printable given read.1 read.2 exact
      by_cases beyond : source.Beyond n
      · rw [resolveSeq_beyond beyond] at resolved
        cases resolved
      · obtain ⟨answer', is, one⟩ := resolveSeq_only printable (refParse_positive read.1) beyond
        rw [is] at resolved
        cases resolved
        rw [means, one, only_none (by omega)] at sought
        cases sought
    | unnumbered live given unread exact alone =>
      rename_i src db e
      subst live alone
      have means : (live src db).soughtEvent T ref none = some e := by
        unfold soughtEvent
        rw [if_neg given, exact]
        rfl
      rw [means] at sought
      rcases resolveBoardEvent_cases (T := T) (live src db) ref none with
        ⟨n, -, number, -⟩ | ⟨-, -, e', refused⟩ | ⟨-, -, -, looked⟩
      · have read := (designated_some number given).1
        rw [unread] at read
        cases read
      · rw [refused] at resolved
        cases resolved
        cases sought
      · rw [looked] at resolved
        unfold fetchEventById at resolved
        dsimp only at resolved
        rw [parse_wanted printable, unread] at resolved
        cases resolved
        cases sought
    | beyond number beyond =>
      rw [resolve_designated number, resolveSeq_beyond beyond] at resolved
      cases resolved
  · intro misled
    refine ⟨?_, fun n spells => ?_⟩
    · rcases resolveBoardEvent_cases (T := T) source ref seq with
        ⟨n, positive, number, resolved⟩ | ⟨none, why, e, resolved⟩ | ⟨given, unread, positive, resolved⟩
      · rw [resolved]
        obtain ⟨answer, is, one⟩ := resolveSeq_only printable positive fun beyond => misled (.beyond number beyond)
        refine ⟨answer, is, one.trans ?_⟩
        rcases sought_designated printable number with ⟨given, e, exact, means⟩ | means
        · rw [means]
          exact only_shared printable (designated_some number given).1 exact fun shared =>
            misled (.shared given number exact shared)
        · exact means.symm
      · exact ⟨_, resolved, (sought_refused printable none why).symm⟩
      · rw [resolved]
        exact sought_by_id printable given unread positive misled
    · rw [resolve_designated (spells_designated printable spells),
        resolve_designated (spells_designated printable ⟨spells.1, .inl ⟨.inl rfl, .inl rfl⟩⟩)]

theorem asciiText_printable : PrintableText asciiText where
  unblank c lower _ := by
    have past : 33 ≤ c.toNat := UInt32.le_iff_toNat_le.mp (Char.le_def.mp lower)
    simp only [asciiText, Bool.or_eq_false_iff, Bool.and_eq_false_iff, beq_eq_false_iff_ne, decide_eq_false_iff_not]
    refine ⟨?_, .inr fun control => ?_⟩
    · rintro rfl
      exact absurd past (by decide)
    · have low : c.toNat ≤ 13 := UInt32.le_iff_toNat_le.mp (Char.le_def.mp control)
      omega

/-- An event of the live board, and one carried over from elsewhere under the same sequence. -/
def mixedSource : EventSource :=
  .fake [{ eventId := "kanban-event-8488", eventSeq := 8488, sourceTaskId := "t1", sourceGraphId := "g" },
    { eventId := "legacy-7", eventSeq := 8488, sourceTaskId := "t2", sourceGraphId := "g" }]

theorem mixed_ids_ambiguous : ¬∀ (T : PyText), PrintableText T → ∀ (source : EventSource) (ref : GivenEventId)
    (seq : Option Int), ResolvesUniquely T source ref seq := by
  intro claim
  have printable := asciiText_printable
  obtain ⟨answer, resolved, sought⟩ :=
    (claim asciiText printable mixedSource (.text "kanban-event-8488") none).sought
  have spells : Spells asciiText 8488 (.text "kanban-event-8488") none :=
    ⟨by decide, .inl ⟨.inr (.inr rfl), .inl rfl⟩⟩
  have number := spells_designated printable spells
  have within : ¬mixedSource.Beyond 8488 := fun beyond => absurd beyond.1 (by decide)
  obtain ⟨answer', is, one⟩ := @resolveSeq_only asciiText mixedSource printable 8488 (by decide) within
  rw [resolve_designated number, is] at resolved
  cases resolved
  rw [one] at sought
  have two : only (mixedSource.withNumber asciiText 8488) = none := by decide
  rw [two] at sought
  exact absurd sought (by decide)

theorem resolves_uniquely_single : ResolvesUniquely asciiText (.fake [mixedSource.events.head (by decide)])
    (.text "kanban-event-8488") none ↔
    ¬Misled asciiText (.fake [mixedSource.events.head (by decide)]) (.text "kanban-event-8488") none :=
  resolves_uniquely_iff asciiText asciiText_printable _ _ _

end EventSource

end AgentflowHermes
