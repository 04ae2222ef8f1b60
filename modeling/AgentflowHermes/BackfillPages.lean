import AgentflowHermes.IngestCursor
import AgentflowHermes.UniqueReferences
import Mathlib.Data.List.Nodup

namespace AgentflowHermes

open CrashProgram

/-- An event of the database that ends a run. -/
def KanbanDb.Terminal (db : KanbanDb) := { e : TaskEvent // e ∈ db.events ∧ e.terminal }

/-- What a backfill is asked for: one event, by its canonical id, its sequence or both, or one event by its id and
another one by its sequence. -/
inductive Naming (db : KanbanDb)
  | canonical (e : db.Terminal)
  | sequence (e : db.Terminal)
  | both (e : db.Terminal)
  | crossed (e f : db.Terminal) (apart : e.1.id ≠ f.1.id)

namespace Naming

variable {db : KanbanDb}

def eventId : Naming db → String
  | canonical e | both e | crossed e _ _ => canonicalBoardEventId e.1.id
  | sequence _ => ""

def eventSeq : Naming db → Option Int
  | canonical _ => none
  | sequence e | both e => some e.1.id
  | crossed _ f _ => some f.1.id

def events : Naming db → List TaskEvent
  | canonical e | sequence e | both e => [e.1]
  | crossed e f _ => [e.1, f.1]

end Naming

namespace LiveBoardEventSource

/-- The source as the code-fix backfill and the resolution of historical events read it. -/
def reader (T : PyText) (src : LiveBoardEventSource) (db : SqliteBoard) : BoardEventSource where
  board := src.board
  fetchEventsSince := src.fetchEventsSince (some db.toKanbanDb)
  fetchEventById id := ((EventSource.live src (some db)).fetchEventById T id).toOption.join
  fetchEventsBySeq n := ((EventSource.live src (some db)).fetchEventsBySeq T n).toOption.getD []

/-- The events that one scan from the start returns. -/
def firstPage (src : LiveBoardEventSource) (db : KanbanDb) : List TaskEvent := db.selectEvents 0 src.limit

end LiveBoardEventSource

/-- The event a backfill takes up. -/
def BoardEventSource.selected (source : BoardEventSource) (eventId : String) (eventSeq : Option Int) : Option BoardEvent :=
  (source.fetchEventsSince 0).find? (namesEvent eventId eventSeq)

/-- The arguments of a backfill that do not name the event. -/
structure BackfillCall where
  board : String
  adapter : Option Adapter
  existingRemediationIds : List String
  apply : Bool

def BackfillCall.perform (T : PyText) (call : BackfillCall) (source : BoardEventSource) (eventId : String)
    (eventSeq : Option Int) : Run ResolutionResult :=
  backfillCodeFixEvent T call.board source eventId eventSeq call.adapter call.existingRemediationIds call.apply

/-- The backfill takes up the event that the resolution of the same reference finds, and none where two are named; an
event that is named is not reported as missing; and the cursors stay. -/
structure BackfillFinds (T : PyText) (src : LiveBoardEventSource) (db : SqliteBoard) (n : Naming db.toKanbanDb) : Prop where
  resolved : ∃ answer, (EventSource.live src (some db)).resolveBoardEvent T (.text n.eventId) n.eventSeq = .ok answer ∧
    (src.reader T db).selected n.eventId n.eventSeq = answer.toOption
  apart : 1 < n.events.length → (src.reader T db).selected n.eventId n.eventSeq = none
  reported : n.events.length = 1 → ∀ (call : BackfillCall) {ι : Type} (E : Env Response ι) i s r j t,
    run E (call.perform T (src.reader T db) n.eventId n.eventSeq) i s = (.ok r, j, t) → r.error ≠ "event_not_found"
  cursors : ∀ (call : BackfillCall) {ι : Type} (E : Env Response ι) (i : ι) (s : Store),
    (run E (call.perform T (src.reader T db) n.eventId n.eventSeq) i s).2.2.cursors = s.cursors

/-- The named event is among those of the first page, and of two neither is. -/
def Naming.OnPage {db : KanbanDb} (src : LiveBoardEventSource) : Naming db → Prop
  | .canonical e | .sequence e | .both e => e.1 ∈ src.firstPage db
  | .crossed e f _ => e.1 ∉ src.firstPage db ∧ f.1 ∉ src.firstPage db

section Cursor

variable {A : Permits} {c : Option Nat}

theorem Uses.walkDetected (moves : A.moves) (i : Instance) (r1 r2 r3 : String) :
    Uses A (some i.id) (AgentflowHermes.walkDetected i r1 r2 r3) :=
  ite (.bind (moveTo moves ..) fun _ => .bind (moveTo moves ..) fun _ => moveTo moves ..) (.pure _)

theorem Uses.accountFor (moves : A.moves) {n : NewInstance} (creates : A.creates n) (fieldName : String) (value : Json)
    (kind ref r1 r2 r3 action : String) :
    Uses A c (AgentflowHermes.accountFor n fieldName value kind ref r1 r2 r3 action) := by
  refine .create creates fun creation _ => .bind (recordSatisfaction ..) fun _ => ?_
  exact .bind (walkDetected moves ..) fun _ => .known fun _ _ _ => .pure _

theorem Permits.Open.backfill (free : A.Open) (creates : ∀ n, A.creates n) (T : PyText) (call : BackfillCall)
    (source : BoardEventSource) (eventId : String) (eventSeq : Option Int) :
    Uses A c (call.perform T source eventId eventSeq) := by
  unfold BackfillCall.perform backfillCodeFixEvent
  dsimp only
  split
  next => exact .pure _
  next ev _ =>
    split
    next => exact .raise (free.raises _)
    next o _ =>
      have event : EventAllowed A o.envelope := free.event fun ref => creates _
      have fixed := @Uses.codeFix A c o.envelope event.codeFix event.creates
      refine .ite (.pure _) (.ite (.accountFor free.moves (creates _) ..) ?_)
      exact .bind (fixed _ (free.through _) _) fun step => .pure _

theorem backfill_cursors (T : PyText) (call : BackfillCall) (source : BoardEventSource) (eventId : String)
    (eventSeq : Option Int) {ι : Type} (E : Env Response ι) (i : ι) (s : Store) :
    (run E (call.perform T source eventId eventSeq) i s).2.2.cursors = s.cursors := by
  have permitted : Uses _ none (call.perform T source eventId eventSeq) :=
    (Permits.instances_open fun _ => True).backfill (fun _ => trivial) T call source eventId eventSeq
  have safe := ((handlerTerms_cursor s.cursors).whole permitted).wp s rfl trivial
  exact (@wp_run _ _ _ _ _ _ _ _ E _ (fun _ _ => trivial) safe i).1

end Cursor

section

variable {T : PyText}

theorem accountFor_returns {R : ResolutionResult → Prop} (fine : ∀ r, r.error = "" → R r) (n : NewInstance)
    (fieldName : String) (value : Json) (kind ref r1 r2 r3 action : String) :
    Returns R (accountFor n fieldName value kind ref r1 r2 r3 action) :=
  returns_bind fun _ => returns_bind fun _ => returns_bind fun _ => returns_bind fun _ => fine _ rfl

/-- A backfill that takes an event up never reports it as missing. -/
theorem backfill_taken (call : BackfillCall) {source : BoardEventSource} {eventId : String} {eventSeq : Option Int}
    {ev : BoardEvent} (taken : source.selected eventId eventSeq = some ev) :
    Returns (fun r => r.error ≠ "event_not_found") (call.perform T source eventId eventSeq) := by
  have fine : ∀ r : ResolutionResult, r.error = "" → r.error ≠ "event_not_found" := by
    intro r none
    rw [none]
    decide
  unfold BoardEventSource.selected at taken
  unfold BackfillCall.perform backfillCodeFixEvent
  simp only [taken]
  split
  next => trivial
  next o _ =>
    split
    · exact (by decide : "not_code_fix" ≠ "event_not_found")
    · split
      · exact accountFor_returns fine _ _ _ _ _ _ _ _ _
      · exact returns_bind fun step => fine _ rfl

theorem backfill_missing (call : BackfillCall) {source : BoardEventSource} {eventId : String} {eventSeq : Option Int}
    (missing : source.selected eventId eventSeq = none) :
    call.perform T source eventId eventSeq = pure { success := false, error := "event_not_found" } := by
  unfold BoardEventSource.selected at missing
  unfold BackfillCall.perform backfillCodeFixEvent
  simp only [missing]

theorem KanbanDb.event_unique {db : KanbanDb} {e f : TaskEvent} (he : e ∈ db.events) (hf : f ∈ db.events)
    (same : e.id = f.id) : e = f := by
  have distinct : (db.events.map TaskEvent.id).Nodup :=
    List.pairwise_map.mpr (db.ordered.imp fun lt => Int.ne_of_lt lt)
  exact List.inj_on_of_nodup_map distinct he hf same

theorem canonical_inj (printable : PrintableText T) {m n : Int} (positive : 0 < m)
    (same : canonicalBoardEventId m = canonicalBoardEventId n) : m = n := by
  have read := parse_canonical printable m
  rw [same, parse_canonical printable n, if_pos positive] at read
  split at read
  next => exact (Option.some.inj read).symm
  next => cases read

end

section

variable {T : PyText} {src : LiveBoardEventSource} {db : SqliteBoard} {n : Naming db.toKanbanDb}

theorem Naming.in_db {e : TaskEvent} (h : e ∈ n.events) : e ∈ db.events := by
  cases n with
  | canonical f | sequence f | both f =>
    rw [List.mem_singleton.mp h]
    exact f.2.1
  | crossed f g apart =>
    rcases List.mem_pair.mp h with rfl | rfl
    · exact f.2.1
    · exact g.2.1

/-- A row of the page answers to the name exactly when it is an event that is named. -/
theorem namesEvent_row (printable : PrintableText T) {x : TaskEvent} (hx : x ∈ src.firstPage db.toKanbanDb) :
    namesEvent n.eventId n.eventSeq (src.rowToEvent db.toKanbanDb x) = true ↔ x ∈ n.events := by
  obtain ⟨inDb, positive, -⟩ := KanbanDb.mem_selectEvents hx
  have named (e : db.Terminal) : canonicalBoardEventId x.id = canonicalBoardEventId e.1.id ↔ x = e.1 := by
    refine ⟨fun same => KanbanDb.event_unique inDb e.2.1 (canonical_inj printable positive same), fun same => by rw [same]⟩
  have numbered (e : db.Terminal) : e.1.id = x.id ↔ x = e.1 :=
    ⟨fun same => KanbanDb.event_unique inDb e.2.1 same.symm, fun same => by rw [same]⟩
  have present := canonical_ne_empty
  show (n.eventId != "" && canonicalBoardEventId x.id == n.eventId || n.eventSeq == some x.id) = true ↔ _
  cases n with
  | canonical e => simp [Naming.eventId, Naming.eventSeq, Naming.events, present, named]
  | sequence e => simp [Naming.eventId, Naming.eventSeq, Naming.events, numbered]
  | both e => simp [Naming.eventId, Naming.eventSeq, Naming.events, present, named, numbered]
  | crossed e f apart => simp [Naming.eventId, Naming.eventSeq, Naming.events, present, named, numbered]

theorem selected_some (printable : PrintableText T) {ev : BoardEvent}
    (h : (src.reader T db).selected n.eventId n.eventSeq = some ev) :
    ∃ e ∈ n.events, e ∈ src.firstPage db.toKanbanDb ∧ ev = src.rowToEvent db.toKanbanDb e := by
  obtain ⟨e, he, rfl⟩ := List.mem_map.mp (List.mem_of_find?_eq_some h)
  exact ⟨e, (namesEvent_row printable he).mp (List.find?_some h), he, rfl⟩

theorem selected_none (printable : PrintableText T) :
    (src.reader T db).selected n.eventId n.eventSeq = none ↔ ∀ e ∈ n.events, e ∉ src.firstPage db.toKanbanDb := by
  constructor
  · intro missing e named onPage
    have unnamed := List.find?_eq_none.mp missing _ (List.mem_map_of_mem onPage)
    exact unnamed ((namesEvent_row printable onPage).mpr named)
  · intro off
    cases h : (src.reader T db).selected n.eventId n.eventSeq with
    | none => rfl
    | some ev =>
      obtain ⟨e, named, onPage, -⟩ := selected_some printable h
      exact absurd onPage (off e named)

theorem mem_terminalEvents {e : TaskEvent} (h : e ∈ src.firstPage db.toKanbanDb) : e ∈ db.terminalEvents := by
  obtain ⟨inDb, -, terminal, visible⟩ := KanbanDb.mem_selectEvents h
  exact List.mem_filter.mpr ⟨inDb, by simp [terminal, visible]⟩

/-- Resolving the name of one event that a scan shows finds it. -/
theorem resolve_named (printable : PrintableText T) {e : TaskEvent} (one : n.events = [e])
    (onPage : e ∈ src.firstPage db.toKanbanDb) :
    ∃ answer, (EventSource.live src (some db)).resolveBoardEvent T (.text n.eventId) n.eventSeq = .ok answer ∧
      answer.toOption = some (src.rowToEvent db.toKanbanDb e) := by
  obtain ⟨inDb, positive, -⟩ := KanbanDb.mem_selectEvents onPage
  have spells : EventSource.Spells T e.id (.text n.eventId) n.eventSeq := by
    refine ⟨positive, ?_⟩
    cases n with
    | canonical f =>
      cases List.singleton_inj.mp one
      exact .inl ⟨.inr (.inr rfl), .inl rfl⟩
    | sequence f =>
      cases List.singleton_inj.mp one
      exact .inr ⟨strip_printable printable (s := "") (by simp), rfl⟩
    | both f =>
      cases List.singleton_inj.mp one
      exact .inl ⟨.inr (.inr rfl), .inr rfl⟩
    | crossed f g apart => cases one
  have within : ¬(EventSource.live src (some db)).Beyond e.id := fun beyond =>
    absurd (db.inRange e inDb) (by have := beyond.1; omega)
  obtain ⟨answer, is, found⟩ := EventSource.resolveSeq_only printable positive within
  refine ⟨answer, (EventSource.resolve_designated (EventSource.spells_designated printable spells)).trans is, ?_⟩
  rw [found, EventSource.withNumber_live printable src db positive]
  have here : e ∈ db.terminalEvents.filter fun x => x.id == e.id :=
    List.mem_filter.mpr ⟨mem_terminalEvents onPage, beq_self_eq_true _⟩
  have single := EventSource.one_row db e.id
  generalize db.terminalEvents.filter (fun x => x.id == e.id) = rows at here single
  match rows, single with
  | [x], _ =>
    rw [List.mem_singleton.mp here]
    rfl

/-- A live source refuses what comes to no number. -/
theorem resolve_undesignated (printable : PrintableText T) {ref : GivenEventId} {seq : Option Int}
    (none : EventSource.designated T ref seq = none) :
    ∃ error, (EventSource.live src (some db)).resolveBoardEvent T ref seq = .ok (.error error) := by
  rcases EventSource.resolveBoardEvent_cases (T := T) (.live src (some db)) ref seq with
    ⟨m, -, number, -⟩ | ⟨-, -, refused⟩ | ⟨-, unread, -, looked⟩
  · rw [none] at number
    cases number
  · exact refused
  · have unknown : (EventSource.live src (some db)).fetchEventById T (ref.wanted T) = .ok Option.none := by
      unfold EventSource.fetchEventById
      dsimp only
      rw [EventSource.parse_wanted printable, unread]
    rw [looked, unknown]
    exact ⟨"event_reference_invalid", rfl⟩

/-- The id of one event and the sequence of another come to no number. -/
theorem designated_crossed (printable : PrintableText T) {k m : Int} (apart : k ≠ m) :
    EventSource.designated T (.text (canonicalBoardEventId k)) (some m) = none := by
  have parsed : GivenEventId.parse T (.text (canonicalBoardEventId k)) = if 0 < k then some k else none :=
    parse_canonical printable k
  have given : GivenEventId.wanted T (.text (canonicalBoardEventId k)) ≠ "" := by
    have whole := strip_printable printable (canonical_printable k)
    exact fun blank => canonical_ne_empty k (whole.symm.trans blank)
  unfold EventSource.designated
  rw [if_neg given, parsed]
  split
  · have disagrees : (some m).all (· == k) = false := by simpa using Ne.symm apart
    rw [Option.bind_some, disagrees]
    rfl
  · rfl

end

/-- Where one event is named and none is taken up, the event is reported as missing. -/
theorem missing_reported {T : PyText} {src : LiveBoardEventSource} {db : SqliteBoard} {n : Naming db.toKanbanDb}
    (one : n.events.length = 1) (missing : (src.reader T db).selected n.eventId n.eventSeq = none) :
    ¬BackfillFinds T src db n := by
  intro finds
  let call : BackfillCall := ⟨src.board, none, [], false⟩
  have reported := finds.reported one call (steadyEnv 0 { success := true } true) () Store.empty
  rw [backfill_missing call missing] at reported
  exact reported _ () Store.empty rfl rfl

/-- A backfill finds exactly the events of the first page, and of two events it takes one up when one is there. -/
theorem backfill_finds_iff (T : PyText) (printable : PrintableText T) (src : LiveBoardEventSource) (db : SqliteBoard)
    (n : Naming db.toKanbanDb) : BackfillFinds T src db n ↔ n.OnPage src := by
  have named (e : TaskEvent) (one : n.events = [e]) : BackfillFinds T src db n ↔ e ∈ src.firstPage db.toKanbanDb := by
    constructor
    · intro finds
      by_contra off
      have missing : (src.reader T db).selected n.eventId n.eventSeq = none :=
        (selected_none printable).mpr fun f hf => by rw [one, List.mem_singleton] at hf; rwa [hf]
      exact missing_reported (by rw [one]; rfl) missing finds
    · intro onPage
      obtain ⟨answer, resolved, found⟩ := resolve_named printable one onPage
      have taken : (src.reader T db).selected n.eventId n.eventSeq = some (src.rowToEvent db.toKanbanDb e) := by
        cases h : (src.reader T db).selected n.eventId n.eventSeq with
        | none => exact absurd onPage ((selected_none printable).mp h e (by rw [one]; exact List.mem_singleton_self e))
        | some ev =>
          obtain ⟨f, hf, -, rfl⟩ := selected_some printable h
          rw [one, List.mem_singleton] at hf
          rw [hf]
      refine ⟨⟨answer, resolved, taken.trans found.symm⟩, fun two => ?_, fun _ call ι E i s r j t ran => ?_, ?_⟩
      · rw [one] at two
        exact absurd two (by simp)
      · exact (backfill_taken call taken).run ran
      · exact fun call ι E i s => backfill_cursors T call _ _ _ E i s
  cases n with
  | canonical e | sequence e | both e => exact named e.1 rfl
  | crossed e f apart =>
    have off : (src.reader T db).selected (canonicalBoardEventId e.1.id) (some f.1.id) = none ↔
        e.1 ∉ src.firstPage db.toKanbanDb ∧ f.1 ∉ src.firstPage db.toKanbanDb :=
      (selected_none (n := .crossed e f apart) printable).trans (by simp [Naming.events])
    constructor
    · exact fun finds => off.mp (finds.apart (Nat.lt_add_one 1))
    · intro neither
      have none := off.mpr neither
      obtain ⟨error, refused⟩ := @resolve_undesignated T src db printable _ _ (designated_crossed printable apart)
      refine ⟨⟨_, refused, none⟩, fun _ => none, fun one => ?_, fun call ι E i s => backfill_cursors T call _ _ _ E i s⟩
      exact absurd one (by simp [Naming.events])

/-- Two runs of one task that have ended, of which the source reads one at a time. -/
def twoRuns : SqliteBoard where
  tasks := [{ id := "t1" }]
  events := [{ id := 1, taskId := "t1", kind := "completed" }, { id := 2, taskId := "t1", kind := "blocked" }]
  ordered := by decide
  inRange := by decide

def oneAtATime : LiveBoardEventSource where
  board := "b"
  dbIdentity := "b"
  limit := 1

def firstRun : twoRuns.toKanbanDb.Terminal := ⟨{ id := 1, taskId := "t1", kind := "completed" }, by simp [twoRuns], rfl⟩

def secondRun : twoRuns.toKanbanDb.Terminal := ⟨{ id := 2, taskId := "t1", kind := "blocked" }, by simp [twoRuns], rfl⟩

theorem backfill_finds_first : BackfillFinds asciiText oneAtATime twoRuns (.canonical firstRun) :=
  (backfill_finds_iff asciiText EventSource.asciiText_printable oneAtATime twoRuns _).mpr (List.mem_singleton_self firstRun.1)

theorem backfill_misses_second_page : ¬∀ (T : PyText), PrintableText T → ∀ (src : LiveBoardEventSource)
    (db : SqliteBoard) (n : Naming db.toKanbanDb), BackfillFinds T src db n := by
  intro claim
  have missing : (oneAtATime.reader asciiText twoRuns).selected "" (some 2) = none := rfl
  exact missing_reported (n := .sequence secondRun) rfl missing
    (claim asciiText EventSource.asciiText_printable oneAtATime twoRuns (.sequence secondRun))

end AgentflowHermes
