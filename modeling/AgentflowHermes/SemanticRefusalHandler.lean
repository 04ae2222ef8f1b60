import AgentflowHermes.CodeFixHandler

namespace AgentflowHermes

open CrashProgram

def wakeKey (digest endpoint : String) : String := "semantic_refusal_wake:" ++ digest ++ ":" ++ endpoint

def legacyNotifyPrefix (digest : String) : String := "semantic_refusal_notify:" ++ digest ++ ":"

def refusalAckKey (digest endpoint : String) : String :=
  "semantic_refusal_consumer_ack:" ++ digest ++ ":" ++ endpoint

namespace SemanticRefusalHandler

/-- `_mark_wake_pending`: unlike `_mark_outbox_pending` it knows no retry cap. -/
def markWakePending (row : OutboxRow) (error : String) : Run Unit := do
  let now ← currentTime
  mark row.id .pending "" (some (now + retryDelay (row.attempts + 1))) (some error)

/-- The row of the wake, after a legacy notify row has been turned into it. -/
def wakeRow (id : Nat) (digest : String) (n : Store.NewOutbox) : Run OutboxRow := do
  let _ ← Prog.txn fun s =>
    s.outboxReinterpretPending id .subscribe (legacyNotifyPrefix digest) .scheduleOriginWake n.idempotencyKey
  let enqueued ← Prog.txn fun s => s.outboxEnqueue id n
  return enqueued.2

def executeWake (a : Adapter) (row : OutboxRow) (taskId endpoint : String) : Run OpResult := do
  if row.state = .applied then
    if ← originWakeSatisfied a row.id taskId endpoint then return .ok ""
    markWakePending row "origin_wake_not_yet_accepted"
    return .failed "origin_wake_not_yet_accepted" none
  if ← originWakeSatisfied a row.id taskId endpoint then
    mark row.id .applied "" none none
    return .ok ""
  let now ← currentTime
  if now < row.nextAttemptAt then return .failed "outbox_retry_not_due" none
  if row.lastError = "origin_wake_not_yet_accepted" then
    markWakePending row "origin_wake_not_yet_accepted"
    return .failed "origin_wake_not_yet_accepted" none
  if !a.scheduleOriginWake then return .failed "adapter_missing_schedule_origin_wake" none
  let scheduled ← mutate a row.id (.scheduleOriginWake taskId endpoint)
  if !scheduled.success then
    let error := clip (orText scheduled.error "origin_wake_schedule_failed")
    markWakePending row error
    return .failed error none
  if ← originWakeSatisfied a row.id taskId endpoint then
    mark row.id .applied "" none none
    return .ok ""
  markWakePending row "origin_wake_not_yet_accepted"
  return .failed "origin_wake_not_yet_accepted" none

def wakeOp (taskId endpoint digest : String) : Store.NewOutbox :=
  ⟨some 0, .scheduleOriginWake, [("task_id", .str taskId), ("endpoint", .str endpoint)], wakeKey digest endpoint⟩

def ensureOriginWake (id : Nat) (taskId endpoint digest : String) (a : Adapter) : Run OpResult := do
  let row ← wakeRow id digest (wakeOp taskId endpoint digest)
  executeWake a row taskId endpoint

def refusalAckOp (taskId endpoint digest : String) : Store.NewOutbox :=
  ⟨some 0, .recordConsumerAck,
    [("task_id", .str taskId), ("endpoint", .str endpoint), ("status", .str "semantic_refusal_ack")],
    refusalAckKey digest endpoint⟩

def recordSatisfaction (id : Nat) (fieldName : String) (value : Json) (kind ref policy : String) : Run Unit :=
  .write (fun s => s.recordSatisfaction id fieldName value kind ref policy) fun _ => .pure ()

/-- The callback status after the wake and the ACK. -/
def callbackStatus (wake ack : OpResult) : CallbackStatus :=
  if ack.success then if wake.success then .delivered else .deferred
  else if callbackUnroutableErrors.contains (orText (CodeFixHandler.errorOf ack) "consumer_ack_failed") then .unroutable
  else .deferred

/-- The durable refusal: its ACK and the quarantine state. -/
def quarantine (i : Instance) (blockers categories : List String) : Run Unit := do
  recordSatisfaction i.id "semantic_refusal"
    (.obj [("categories", .arr (categories.map .str)), ("blockers", .arr (blockers.map .str))])
    "semantic_refusal_ack" (",".intercalate categories) ""
  if i.state ≠ .blockedInvalid then moveTo i.id .blockedInvalid "semantic_refusal_quarantined"

/-- The wake and the consumer ACK, which an outcome without an endpoint does not have. -/
def callbacks (e : OutcomeEnvelope) (id : Nat) (digest : String) (a : Adapter) : Run (Option (OpResult × OpResult)) :=
  if endpointOf e = "" then return none
  else do
    let wake ← ensureOriginWake id e.sourceTaskId (endpointOf e) digest a
    let ack ← applyBoardOperation id (refusalAckOp e.sourceTaskId (endpointOf e) digest) (some a)
    return some (wake, ack)

def report (e : OutcomeEnvelope) (id : Nat) (created : Bool) (state : ContinuationState) (categories : List String)
    (outcome : Option (OpResult × OpResult)) : StepResult :=
  let status := match outcome with
    | some (wake, ack) => callbackStatus wake ack
    | none => .unroutable
  let ackStatus := match outcome with
    | some (_, ack) => if ack.success then "semantic_refusal_ack" else "callback_deferred"
    | none => "not_requested"
  let errors := match outcome with
    | some (wake, ack) =>
      (if wake.success then [] else [orText (CodeFixHandler.errorOf wake) "refusal_wake_not_yet_accepted"]) ++
        (if ack.success then [] else [orText (CodeFixHandler.errorOf ack) "consumer_ack_failed"])
    | none => ["semantic_refusal_origin_missing"]
  { success := true
    state := state
    metadata := [("instance_id", .int id), ("created", .bool created), ("refusal_ack", .bool true),
      ("consumer_ack_status", .str ackStatus), ("callback_status", .str (CodeFixHandler.callbackText status)),
      ("callback_errors", .arr (errors.map .str)), ("refusal_categories", .arr (categories.map .str)),
      ("subscribed", .bool (outcome.any fun c => c.1.success)), ("endpoint", .str (endpointOf e)),
      ("created_tasks", .int 0)] }

def materialize (e : OutcomeEnvelope) (adapter : Option Adapter) (blockers categories : List String) :
    Run StepResult := do
  let creation ← createInstance e.toInstance
  match adapter with
  | none =>
    return { success := false, reason := "no_adapter", state := creation.2.state,
             metadata := [("instance_id", .int creation.2.id), ("created", .bool creation.1)] }
  | some a =>
    let i ← CodeFixHandler.enter creation.2 "semantic_refusal_detected"
    quarantine i blockers categories
    let outcome ← callbacks e i.id (stableDigest i) a
    let state ← readState i.id
    return report e i.id creation.1 state categories outcome

end SemanticRefusalHandler

end AgentflowHermes
