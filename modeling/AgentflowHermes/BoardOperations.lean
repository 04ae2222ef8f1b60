import AgentflowHermes.ContinuationStore
import AgentflowHermes.CrashProgram
import AgentflowHermes.Sha256
import Mathlib.Algebra.Group.Nat.Defs

namespace AgentflowHermes

open CrashProgram

/-- A board adapter and which of the optional callback methods it has. -/
structure Adapter where
  board : String
  originWakeSatisfied : Bool := true
  scheduleOriginWake : Bool := true
  consumerAckSatisfied : Bool := true
  recordConsumerAck : Bool := true

/-- The `ack` a subscribe result may nest. -/
inductive NestedAck
  | malformed
  | dict (success : Bool) (error : Option String)

/-- A result dict; an absent or falsy text field is empty. -/
structure AdapterResult where
  success : Bool
  taskId : String := ""
  error : String := ""
  ack : Option NestedAck := none

def hasFailedNestedAck (r : AdapterResult) : Bool :=
  match r.ack with
  | none => false
  | some .malformed => true
  | some (.dict success _) => !success

inductive Mutation
  | createTask (intent : Payload)
  | subscribe (taskId endpoint : String)
  | completeOwnerAnchor (taskId receiptRef : String)
  | scheduleOriginWake (taskId endpoint : String)
  | recordConsumerAck (taskId endpoint status : String)

inductive Probe
  | originWakeSatisfied (taskId endpoint : String)
  | consumerAckSatisfied (taskId endpoint status : String)

inductive WaitOutcome
  | satisfied
  | failed
  deriving DecidableEq, Repr

/-- What leaves the process. `row` is the outbox row an adapter call is made for. -/
inductive Request
  | now
  | mutate (adapter : Adapter) (row : Nat) (m : Mutation)
  | probe (adapter : Adapter) (row : Nat) (p : Probe)
  | newCaseId
  | checkWait (w : WaitCondition)
  | routeRoadmap (eventId : String)
  | routeCodeFix (eventId : String)

abbrev Response : Request → Type
  | .now => Nat
  | .mutate .. => AdapterResult
  | .probe .. => Bool
  | .newCaseId => String
  | .checkWait _ => Option WaitOutcome
  | .routeRoadmap _ => Bool
  | .routeCodeFix _ => Bool

abbrev Run (α : Type) := Prog Store Response α

/-- An environment whose answers never change. -/
def steadyEnv (now : Nat) (result : AdapterResult) (accepted : Bool) : Env Response Unit
  | .now, u => (now, u)
  | .mutate .., u => (result, u)
  | .probe .., u => (accepted, u)
  | .newCaseId, u => ("case", u)
  | .checkWait _, u => (none, u)
  | .routeRoadmap _, u => (accepted, u)
  | .routeCodeFix _, u => (accepted, u)

def currentTime : Run Nat := .call .now .pure

def mutate (a : Adapter) (row : Nat) (m : Mutation) : Run AdapterResult := .call (.mutate a row m) .pure

def probe (a : Adapter) (row : Nat) (p : Probe) : Run Bool := .call (.probe a row p) .pure

def callbackOnly : Operation → Bool
  | .scheduleOriginWake | .recordConsumerAck => true
  | _ => false

def callbackRetryCap : Nat := 5

/-- `min(300, max(5, 5 * 2 ** min(attempts_after - 1, 6)))` seconds. -/
def retryDelay (attemptsAfter : Nat) : Nat :=
  min 300000000 (max 5000000 (5000000 * 2 ^ min (attemptsAfter - 1) 6))

def clip (s : String) : String := String.ofList (s.toList.take 200)

/-- `a or b` on text. -/
def orText (a b : String) : String := if a = "" then b else a

inductive OpResult
  | ok (taskId : String)
  | failed (error : String) (state : Option OutboxState)

def OpResult.success : OpResult → Bool
  | ok _ => true
  | failed .. => false

def OpResult.taskId : OpResult → String
  | ok t => t
  | failed .. => ""

def mark (id : Nat) (state : OutboxState) (taskId : String) (next : Option Nat) (error : Option String) : Run Unit :=
  .write (fun s => (s.outboxMark id state taskId next error).2) fun _ => .pure ()

/-- `_mark_outbox_pending`. -/
def markOutboxPending (row : OutboxRow) (error : String) : Run OutboxState :=
  if callbackOnly row.operation ∧ row.attempts + 1 ≥ callbackRetryCap then do
    mark row.id .callbackDeadletter "" (some 0) (some error)
    return .callbackDeadletter
  else do
    let now ← currentTime
    mark row.id .pending "" (some (now + retryDelay (row.attempts + 1))) (some error)
    return .pending

/-- A pending row whose backoff is still running; the clock is read only for a pending row. -/
def retryNotDue (row : OutboxRow) : Run Bool :=
  if row.state = .pending then do
    let now ← currentTime
    return decide (now < row.nextAttemptAt)
  else return false

def originWakeSatisfied (a : Adapter) (row : Nat) (taskId endpoint : String) : Run Bool :=
  if a.originWakeSatisfied then probe a row (.originWakeSatisfied taskId endpoint) else return false

/-- `_origin_wake_satisfied` of an adapter that may be `None`, which has no such attribute. -/
def originWakeSatisfied? (a : Option Adapter) (row : Nat) (taskId endpoint : String) : Run Bool :=
  match a with
  | some a => originWakeSatisfied a row taskId endpoint
  | none => return false

def deadletterResult (row : OutboxRow) : OpResult :=
  .failed (orText row.lastError "callback_deadletter") (some .callbackDeadletter)

def applyScheduleOriginWake (row : OutboxRow) (payload : Payload) (adapter : Option Adapter) : Run OpResult := do
  let taskId := payload.text "task_id"
  let endpoint := payload.text "endpoint"
  if row.state = .callbackDeadletter then return deadletterResult row
  if row.state = .applied then
    if ← originWakeSatisfied? adapter row.id taskId endpoint then return .ok row.boardTaskId
    let _ ← markOutboxPending row "origin_wake_not_yet_accepted"
    return .failed "origin_wake_not_yet_accepted" none
  if ← retryNotDue row then return .failed "outbox_retry_not_due" none
  match adapter with
  | none => return .failed "no_adapter" none
  | some a =>
    if ← originWakeSatisfied a row.id taskId endpoint then
      mark row.id .applied "" none none
      return .ok row.boardTaskId
    if row.lastError = "origin_wake_not_yet_accepted" then
      let _ ← markOutboxPending row "origin_wake_not_yet_accepted"
      return .failed "origin_wake_not_yet_accepted" none
    if !a.scheduleOriginWake then return .failed "adapter_missing_schedule_origin_wake" none
    let result ← mutate a row.id (.scheduleOriginWake taskId endpoint)
    if result.success then
      if ← originWakeSatisfied a row.id taskId endpoint then
        mark row.id .applied "" none none
        return .ok row.boardTaskId
    let error := clip (orText result.error "origin_wake_not_yet_accepted")
    let state ← markOutboxPending row error
    return .failed error (some state)

def consumerAckSatisfied (a : Adapter) (row : Nat) (taskId endpoint status : String) : Run Bool :=
  probe a row (.consumerAckSatisfied taskId endpoint status)

def applyRecordConsumerAck (row : OutboxRow) (payload : Payload) (adapter : Option Adapter) : Run OpResult := do
  let taskId := payload.text "task_id"
  let endpoint := payload.text "endpoint"
  let status := payload.text "status"
  if row.state = .callbackDeadletter then return deadletterResult row
  match adapter with
  | none => return .failed "no_adapter" none
  | some a =>
    if row.state = .applied then
      if a.consumerAckSatisfied then
        if ← consumerAckSatisfied a row.id taskId endpoint status then return .ok row.boardTaskId
      let state ← markOutboxPending row "consumer_ack_not_verified"
      return .failed "consumer_ack_not_verified" (some state)
    if ← retryNotDue row then return .failed "outbox_retry_not_due" none
    if !a.recordConsumerAck then return .failed "adapter_missing_record_consumer_ack" none
    let result ← mutate a row.id (.recordConsumerAck taskId endpoint status)
    if result.success then
      let verified ← if a.consumerAckSatisfied then consumerAckSatisfied a row.id taskId endpoint status else pure true
      if verified then
        mark row.id .applied "" none none
        return .ok row.boardTaskId
      let state ← markOutboxPending row "consumer_ack_not_verified"
      return .failed "consumer_ack_not_verified" (some state)
    let error := clip (orText result.error "consumer_ack_failed")
    let state ← markOutboxPending row error
    return .failed error (some state)

/-- The adapter call of an operation without a callback protocol. -/
def mutationOf (op : Operation) (payload : Payload) : Option Mutation :=
  match op with
  | .createTask => some (.createTask payload)
  | .subscribe => some (.subscribe (payload.text "task_id") (payload.text "endpoint"))
  | .completeOwnerAnchor => some (.completeOwnerAnchor (payload.text "task_id") (payload.text "receipt_ref"))
  | _ => none

def callMutation (a : Adapter) (row : Nat) (op : Operation) (payload : Payload) : Run AdapterResult :=
  match mutationOf op payload with
  | some m => mutate a row m
  | none => return { success := false, error := "unknown_outbox_operation" }

def nestedAckError : Option NestedAck → String
  | some (.dict false error) => error.getD "ack_ensure_failed"
  | some .malformed => "ack_malformed"
  | _ => ""

/-- The error a failed result is recorded under. -/
def resultError (r : AdapterResult) : String :=
  clip (orText (orText r.error (if hasFailedNestedAck r then nestedAckError r.ack else "")) "adapter_error")

def applyMutation (row : OutboxRow) (op : Operation) (payload : Payload) (adapter : Option Adapter) : Run OpResult := do
  if row.state = .applied then return .ok row.boardTaskId
  if ← retryNotDue row then return .failed "outbox_retry_not_due" none
  match adapter with
  | none => return .failed "no_adapter" none
  | some a =>
    let result ← callMutation a row.id op payload
    if result.success ∧ !hasFailedNestedAck result then
      mark row.id .applied result.taskId none none
      return .ok result.taskId
    let now ← currentTime
    mark row.id .pending "" (some (now + retryDelay (row.attempts + 1))) (some (resultError result))
    return .failed (resultError result) none

/-- What `apply_board_operation` does with the row it got from the outbox. -/
def applyEnqueued (op : Operation) (payload : Payload) (adapter : Option Adapter) (row : OutboxRow) : Run OpResult :=
  match op with
  | .scheduleOriginWake => applyScheduleOriginWake row payload adapter
  | .recordConsumerAck => applyRecordConsumerAck row payload adapter
  | op => applyMutation row op payload adapter

def applyBoardOperation (id : Nat) (n : Store.NewOutbox) (adapter : Option Adapter) : Run OpResult := do
  let enqueued ← Prog.txn fun s => s.outboxEnqueue id n
  applyEnqueued n.operation n.payload adapter enqueued.2

inductive CallbackStatus
  | notRequested
  | delivered
  | deferred
  | unroutable
  | deadletter
  deriving DecidableEq, Repr

def callbackUnroutableErrors : List String :=
  ["typed_origin_missing", "consumer_ack_missing", "unparseable_origin_endpoint"]

def callbackStatusFor : OpResult → CallbackStatus
  | .failed error state =>
    if state = some .callbackDeadletter then .deadletter
    else if callbackUnroutableErrors.contains error then .unroutable
    else .deferred
  | .ok _ => .deferred

/-- `pending_outbox_retry_not_due`. -/
def pendingOutboxRetryNotDue (id : Nat) : Run Bool := do
  let now ← currentTime
  Prog.get fun s => (s.outboxPendingRetryAt id now).isSome

/-- `_stable_digest`. -/
def stableDigest (i : Instance) : String :=
  let base := i.idempotencyKey
  let base := if base = "" then "instance:" ++ i.board ++ ":" ++ toString i.id else base
  String.ofList ((Sha256.hexdigest base.toUTF8.toList).toList.take 16)

end AgentflowHermes
