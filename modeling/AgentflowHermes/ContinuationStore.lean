import AgentflowHermes.ContinuationState

namespace AgentflowHermes

open RowTable

structure Store where
  instances : Table Instance
  steps : Table Step
  receipts : Table OwnerReceipt
  events : Table Event
  cursors : String × String → Option Int
  outbox : Table OutboxRow
  satisfactions : Table Satisfaction
  waits : Table WaitCondition
  cases : List InteractionCaseRow
  members : Table InteractionMember

namespace Store

def empty : Store where
  instances := .empty
  steps := .empty
  receipts := .empty
  events := .empty
  cursors := fun _ => none
  outbox := .empty
  satisfactions := .empty
  waits := .empty
  cases := []
  members := .empty

/-- The events of a continuation; rows are kept in the order they were recorded. -/
def eventsOf (s : Store) (id : Nat) : List Event := s.events.filter fun e => e.continuationId == id

def receiptsOf (s : Store) (id : Nat) : List OwnerReceipt := s.receipts.filter fun r => r.continuationId == id

def listSteps (s : Store) (id : Nat) : List Step := s.steps.filter fun p => p.continuationId == id

def getInstance (s : Store) (id : Nat) : Option Instance := s.instances.get? id

/-- `select coalesce(max(..), 0)`. -/
def maxOf (xs : List Nat) : Nat := xs.foldr max 0

def recordEvent (events : Table Event) (id : Nat) (kind : EventKind) : Table Event :=
  let seq := maxOf ((events.filter fun e => e.continuationId == id).map Event.seq) + 1
  events.insert fun n => ⟨n, id, seq, kind⟩

def instanceOf (s : Store) (n : NewInstance) : Option Instance :=
  s.instances.find? fun i => i.tuple == n.tuple

/-- Every operation computes the tables it writes and puts them back, so that the other tables are
unchanged by definition. -/
def createRow (n : NewInstance) (instances : Table Instance) (events : Table Event) :
    (Bool × Instance) × Table Instance × Table Event :=
  match instances.find? fun i => i.tuple == n.tuple with
  | some existing => ((false, existing), instances, events)
  | none =>
    let row := fun id => { n with id := id, state := .detected }
    ((true, row instances.next), instances.insert row, recordEvent events instances.next (.created .detected))

def createInstance (n : NewInstance) (s : Store) : (Bool × Instance) × Store :=
  let r := createRow n s.instances s.events
  (r.1, { s with instances := r.2.1, events := r.2.2 })

inductive TransitionError
  | unknownInstance
  | alreadyTerminal
  | illegalTransition
  deriving DecidableEq, Repr

def setState (instances : Table Instance) (id : Nat) (new : ContinuationState) : Table Instance :=
  instances.modify id fun i => { i with state := new }

def moveState (id : Nat) (new : ContinuationState) (reason : String) (instances : Table Instance)
    (events : Table Event) : Except TransitionError ContinuationState × Table Instance × Table Event :=
  match instances.get? id with
  | none => (.error .unknownInstance, instances, events)
  | some row =>
    if row.state.terminal then (.error .alreadyTerminal, instances, events)
    else if !legal row.state new then (.error .illegalTransition, instances, events)
    else (.ok new, setState instances id new, recordEvent events id (.stateTransition row.state new reason))

def transition (id : Nat) (new : ContinuationState) (reason : String) (s : Store) :
    Except TransitionError ContinuationState × Store :=
  let r := moveState id new reason s.instances s.events
  (r.1, { s with instances := r.2.1, events := r.2.2 })

def stepOf (s : Store) (id : Nat) (key : String) : Option Step :=
  s.steps.find? fun p => p.continuationId == id && p.idempotencyKey == key

def addRow (id : Nat) (kind : StepKind) (key : String) (boardTaskId : String) (parent : Option Nat)
    (steps : Table Step) : (Bool × Step) × Table Step :=
  match steps.find? fun p => p.continuationId == id && p.idempotencyKey == key with
  | some existing => ((false, existing), steps)
  | none =>
    let row := fun n => ⟨n, id, kind, .pending, boardTaskId, parent, key⟩
    ((true, row steps.next), steps.insert row)

def addStep (id : Nat) (kind : StepKind) (key : String) (boardTaskId : String) (parent : Option Nat)
    (s : Store) : (Bool × Step) × Store :=
  let r := addRow id kind key boardTaskId parent s.steps
  (r.1, { s with steps := r.2 })

/-- `coalesce(nullif(new, ''), old)`. -/
def coalesce (new old : String) : String := if new = "" then old else new

@[simp] theorem coalesce_empty (old : String) : coalesce "" old = old := rfl

/-- The row read back is `none` for an unknown step, where `dict(row)` raises. -/
def markStep (id : Nat) (state : Option StepState) (boardTaskId : String) (s : Store) : Option Step × Store :=
  let steps := s.steps.modify id fun p =>
    { p with state := state.getD p.state, boardTaskId := coalesce boardTaskId p.boardTaskId }
  (steps.get? id, { s with steps := steps })

def addOwnerReceipt (id : Nat) (ownerRef : String) (fields : List (String × Json)) (sourceRef : String)
    (supersedes : Option Nat) (s : Store) : OwnerReceipt × Store :=
  let version := maxOf ((s.receiptsOf id).map OwnerReceipt.version) + 1
  let row := fun n => ⟨n, id, version, ownerRef, fields, sourceRef, supersedes⟩
  (row s.receipts.next,
    { s with
      receipts := s.receipts.insert row
      events := recordEvent s.events id (.ownerReceipt version ownerRef) })

def latestOwnerReceipt (s : Store) (id : Nat) : Option OwnerReceipt := (s.receiptsOf id).getLast?

def getCursor (s : Store) (board dbIdentity : String) : Int := (s.cursors (board, dbIdentity)).getD 0

/-- The guarded upsert of `advance_cursor`, with the value it computed from an earlier read. -/
def upsertCursor (board dbIdentity : String) (value : Int) (s : Store) : Store :=
  { s with
    cursors := fun key =>
      if key = (board, dbIdentity) then
        match s.cursors key with
        | some old => if old < value then some value else some old
        | none => some value
      else s.cursors key }

def outboxOf (s : Store) (key : String) : Option OutboxRow := s.outbox.find? fun o => o.idempotencyKey == key

structure NewOutbox where
  stepId : Option Nat
  operation : Operation
  payload : Payload
  idempotencyKey : String

/-- A freshly enqueued row. -/
def NewOutbox.row (n : NewOutbox) (continuationId id : Nat) : OutboxRow :=
  ⟨id, continuationId, n.stepId, n.operation, n.payload, n.idempotencyKey, .pending, "", 0, 0, ""⟩

def enqueueRow (id : Nat) (n : NewOutbox) (outbox : Table OutboxRow) : (Bool × OutboxRow) × Table OutboxRow :=
  match outbox.find? fun o => o.idempotencyKey == n.idempotencyKey with
  | some existing => ((false, existing), outbox)
  | none => ((true, n.row id outbox.next), outbox.insert (n.row id))

def outboxEnqueue (id : Nat) (n : NewOutbox) (s : Store) : (Bool × OutboxRow) × Store :=
  let r := enqueueRow id n s.outbox
  (r.1, { s with outbox := r.2 })

/-- One attempt outcome; `none` keeps the old schedule or error unless the row becomes applied. -/
def markRow (state : OutboxState) (boardTaskId : String) (nextAttemptAt : Option Nat) (lastError : Option String)
    (o : OutboxRow) : OutboxRow :=
  { o with
    state := state
    boardTaskId := coalesce boardTaskId o.boardTaskId
    attempts := o.attempts + 1
    nextAttemptAt := if state = .applied then 0 else nextAttemptAt.getD o.nextAttemptAt
    lastError := if state = .applied then "" else lastError.getD o.lastError }

@[simp] theorem markRow_rowId (state : OutboxState) (taskId : String) (next : Option Nat) (error : Option String)
    (o : OutboxRow) : Keyed.rowId (markRow state taskId next error o) = Keyed.rowId o := rfl

def outboxMark (id : Nat) (state : OutboxState) (boardTaskId : String) (nextAttemptAt : Option Nat)
    (lastError : Option String) (s : Store) : Option OutboxRow × Store :=
  let outbox := s.outbox.modify id (markRow state boardTaskId nextAttemptAt lastError)
    (markRow_rowId state boardTaskId nextAttemptAt lastError)
  (outbox.get? id, { s with outbox := outbox })

/-- SQL `like`: `%` and `_` are wildcards, and ASCII letters match in either case. -/
def sqlLike : List Char → List Char → Bool
  | [], cs => cs.isEmpty
  | '%' :: ps, cs => cs.tails.any fun t => sqlLike ps t
  | _ :: _, [] => false
  | '_' :: ps, _ :: cs => sqlLike ps cs
  | p :: ps, c :: cs => p.toLower == c.toLower && sqlLike ps cs

def reinterpretRow (id : Nat) (fromOp : Operation) (keyPrefix : String) (toOp : Operation) (newKey : String)
    (outbox : Table OutboxRow) : Option OutboxRow × Table OutboxRow :=
  match outbox.find? fun o => o.idempotencyKey == newKey with
  | some existing => (some existing, outbox)
  | none =>
    let stale := outbox.filter fun o =>
      o.continuationId == id && o.operation == fromOp && sqlLike (keyPrefix ++ "%").toList o.idempotencyKey.toList &&
        o.state != .applied
    match stale.getLast? with
    | none => (none, outbox)
    | some row =>
      let outbox := outbox.modify row.id fun o => { o with operation := toOp, idempotencyKey := newKey }
      (outbox.get? row.id, outbox)

def outboxReinterpretPending (id : Nat) (fromOp : Operation) (keyPrefix : String) (toOp : Operation)
    (newKey : String) (s : Store) : Option OutboxRow × Store :=
  let r := reinterpretRow id fromOp keyPrefix toOp newKey s.outbox
  (r.1, { s with outbox := r.2 })

def pendingOf (s : Store) (id : Nat) : List OutboxRow :=
  s.outbox.filter fun o => o.continuationId == id && o.state == .pending

/-- Whether the instance has pending rows and none of them is due. -/
def outboxPendingRetryAt (s : Store) (id : Nat) (now : Nat) : Option Nat :=
  match ((s.pendingOf id).map OutboxRow.nextAttemptAt).min? with
  | none => none
  | some earliest => if earliest ≤ now then none else some earliest

def recordSatisfaction (id : Nat) (fieldName : String) (value : Json) (sourceKind sourceRef policyId : String)
    (s : Store) : Store :=
  { s with
    satisfactions :=
      match s.satisfactions.find? fun r => r.continuationId == id && r.fieldName == fieldName with
      | some existing => s.satisfactions.modify existing.id fun r =>
          { r with value := value, sourceKind := sourceKind, sourceRef := sourceRef, policyId := policyId }
      | none => s.satisfactions.insert fun n => ⟨n, id, fieldName, value, sourceKind, sourceRef, policyId⟩ }

theorem createInstance_cases (s : Store) (n : NewInstance) :
    (∃ i, s.instanceOf n = some i ∧ s.createInstance n = ((false, i), s)) ∨
    s.instanceOf n = none ∧ s.createInstance n =
      ((true, { n with id := s.instances.next, state := .detected }),
        { s with
          instances := s.instances.insert fun id => { n with id := id, state := .detected }
          events := recordEvent s.events s.instances.next (.created .detected) }) := by
  unfold createInstance createRow instanceOf
  cases s.instances.find? fun i => i.tuple == n.tuple with
  | some i => exact .inl ⟨i, rfl, rfl⟩
  | none => exact .inr ⟨rfl, rfl⟩

/-- The two outcomes of `transition`: a reported error and nothing else, or a legal move that is
written to the state column and to the log. -/
theorem transition_cases (s : Store) (id : Nat) (new : ContinuationState) (reason : String) :
    (∃ e, s.transition id new reason = (.error e, s)) ∨
    ∃ row, s.getInstance id = some row ∧ legal row.state new ∧
      s.transition id new reason = (.ok new,
        { s with
          instances := setState s.instances id new
          events := recordEvent s.events id (.stateTransition row.state new reason) }) := by
  unfold transition moveState getInstance
  cases hg : s.instances.get? id with
  | none => exact .inl ⟨_, rfl⟩
  | some row =>
    by_cases ht : row.state.terminal
    · exact .inl ⟨.alreadyTerminal, by simp [ht]⟩
    · by_cases hl : legal row.state new
      · exact .inr ⟨row, rfl, hl, by simp [ht, hl]⟩
      · exact .inl ⟨.illegalTransition, by simp [ht, hl]⟩

theorem transition_legal {s : Store} {id : Nat} {new : ContinuationState} {row : Instance} (hrow : s.getInstance id = some row)
    (hl : legal row.state new) (reason : String) : s.transition id new reason = (.ok new,
      { s with
        instances := setState s.instances id new
        events := recordEvent s.events id (.stateTransition row.state new reason) }) := by
  have hg : s.instances.get? id = some row := hrow
  unfold transition moveState
  rw [hg]
  simp [legal_not_terminal hl, hl]

theorem addStep_cases (s : Store) (id : Nat) (kind : StepKind) (key taskId : String) (parent : Option Nat) :
    (∃ p, s.stepOf id key = some p ∧ s.addStep id kind key taskId parent = ((false, p), s)) ∨
    s.stepOf id key = none ∧ s.addStep id kind key taskId parent =
      ((true, ⟨s.steps.next, id, kind, .pending, taskId, parent, key⟩),
        { s with steps := s.steps.insert fun n => ⟨n, id, kind, .pending, taskId, parent, key⟩ }) := by
  unfold addStep addRow stepOf
  cases s.steps.find? fun p => p.continuationId == id && p.idempotencyKey == key with
  | some p => exact .inl ⟨p, rfl, rfl⟩
  | none => exact .inr ⟨rfl, rfl⟩

theorem outboxEnqueue_cases (s : Store) (id : Nat) (n : NewOutbox) :
    (∃ o, s.outboxOf n.idempotencyKey = some o ∧ s.outboxEnqueue id n = ((false, o), s)) ∨
    s.outboxOf n.idempotencyKey = none ∧ s.outboxEnqueue id n =
      ((true, n.row id s.outbox.next), { s with outbox := s.outbox.insert (n.row id) }) := by
  unfold outboxEnqueue enqueueRow outboxOf
  cases s.outbox.find? fun o => o.idempotencyKey == n.idempotencyKey with
  | some o => exact .inl ⟨o, rfl, rfl⟩
  | none => exact .inr ⟨rfl, rfl⟩

theorem outboxReinterpretPending_cases (s : Store) (id : Nat) (fromOp : Operation) (keyPrefix : String)
    (toOp : Operation) (newKey : String) :
    (s.outboxReinterpretPending id fromOp keyPrefix toOp newKey).2 = s ∨
    ∃ o ∈ s.outbox.rows, o.continuationId = id ∧ o.operation = fromOp ∧ s.outboxOf newKey = none ∧
      (s.outboxReinterpretPending id fromOp keyPrefix toOp newKey).2 =
        { s with outbox := s.outbox.modify o.id fun o => { o with operation := toOp, idempotencyKey := newKey } } := by
  unfold outboxReinterpretPending reinterpretRow outboxOf
  cases s.outbox.find? fun o => o.idempotencyKey == newKey with
  | some o => exact .inl rfl
  | none =>
    dsimp only
    cases hlast : (s.outbox.filter fun o => o.continuationId == id && o.operation == fromOp &&
        sqlLike (keyPrefix ++ "%").toList o.idempotencyKey.toList && o.state != .applied).getLast? with
    | none => exact .inl rfl
    | some row =>
      obtain ⟨hmem, hp⟩ := List.mem_filter.mp (List.mem_of_getLast? hlast)
      simp only [Bool.and_eq_true, beq_iff_eq] at hp
      exact .inr ⟨row, hmem, hp.1.1.1, hp.1.1.2, rfl, rfl⟩

/-- An instance after an attempt to move it. -/
def movedTo (new : ContinuationState) (i : Instance) : Instance :=
  if legal i.state new then { i with state := new } else i

theorem getInstance_transition (s : Store) (id : Nat) (new : ContinuationState) (reason : String) (j : Nat) :
    (s.transition id new reason).2.getInstance j =
      if j = id then (s.getInstance id).map (movedTo new) else s.getInstance j := by
  rcases s.transition_cases id new reason with ⟨e, he⟩ | ⟨row, hrow, hl, he⟩
  · rw [he]
    split
    next hj =>
      subst hj
      cases hg : s.getInstance j with
      | none => rfl
      | some i =>
        by_cases hl : legal i.state new
        · rw [transition_legal hg hl] at he
          cases he
        · simp [movedTo, hl]
    next => rfl
  · rw [he]
    show (setState s.instances id new).get? j = _
    unfold setState
    rw [get?_modify]
    split
    next hj =>
      subst hj
      rw [hrow, show s.instances.get? j = some row from hrow]
      simp [movedTo, hl]
    next => rfl

theorem createInstance_get (s : Store) (n : NewInstance) :
    (s.createInstance n).2.getInstance (s.createInstance n).1.2.id = some (s.createInstance n).1.2 := by
  rcases s.createInstance_cases n with ⟨i, hi, he⟩ | ⟨_, he⟩
  · rw [he]
    exact get?_eq_some.mpr ⟨mem_of_find? hi, rfl⟩
  · rw [he]
    exact get?_eq_some.mpr ⟨List.mem_append_right _ (List.mem_singleton_self _), rfl⟩

/-- The instance after a transition: its columns are kept, and a legal move is made. -/
theorem transition_get {s : Store} {id : Nat} {i : Instance} (h : s.getInstance id = some i) (new : ContinuationState)
    (reason : String) : ∃ j, (s.transition id new reason).2.getInstance id = some j ∧
      j.toNewInstance = i.toNewInstance ∧ j.id = i.id ∧ (legal i.state new → j.state = new) ∧
      (j.state = i.state ∨ j.state = new) := by
  rcases s.transition_cases id new reason with ⟨_, he⟩ | ⟨row, hrow, hl, he⟩
  · refine ⟨i, by rw [he]; exact h, rfl, rfl, fun hl => ?_, .inl rfl⟩
    rw [transition_legal h hl] at he
    cases he
  · obtain ⟨hmem, hid⟩ := get?_eq_some.mp h
    refine ⟨{ i with state := new }, ?_, rfl, rfl, fun _ => rfl, .inr rfl⟩
    have mem := modified_mem (t := s.instances) (i := id) (f := fun i : Instance => { i with state := new }) hmem
    rw [if_pos hid] at mem
    rw [he]
    exact get?_eq_some.mpr ⟨mem, hid⟩

end Store

end AgentflowHermes
