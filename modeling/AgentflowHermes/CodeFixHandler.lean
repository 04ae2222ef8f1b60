import AgentflowHermes.ExecutorOutcome
import AgentflowHermes.OutcomeEnvelope

namespace AgentflowHermes

open CrashProgram

structure StepResult where
  success : Bool
  reason : String := ""
  state : ContinuationState
  createdStepIds : List Nat := []
  metadata : List (String × Json) := []

/-- The row `create_instance` is asked for; every handler passes the envelope through. -/
def OutcomeEnvelope.toInstance (e : OutcomeEnvelope) : NewInstance where
  board := e.board
  sourceTaskId := e.sourceTaskId
  sourceEventId := e.eventId
  sourceGraphId := e.sourceGraphId
  contractRef := e.contractRef
  verdict := e.verdict.value
  continuationKind := e.continuationKind.value
  originRef := e.originRef
  returnToRef := e.returnToRef
  workspaceRef := e.workspaceRef

def createInstance (n : NewInstance) : Run (Bool × Instance) := Prog.txn fun s => s.createInstance n

/-- A transition whose answer the caller does not look at. -/
def moveTo (id : Nat) (new : ContinuationState) (reason : String) : Run Unit :=
  .write (fun s => (s.transition id new reason).2) fun _ => .pure ()

/-- `store.get_instance(id)` where the row is known to be there. -/
def readInstance (id : Nat) : Run Instance := .read fun s =>
  match s.getInstance id with
  | some i => .pure i
  | none => .raise "AssertionError"

def readState (id : Nat) : Run ContinuationState := do
  let i ← readInstance id
  return i.state

def blockerLines (blockers : List String) : String :=
  if blockers = [] then "" else "\n".intercalate ("Blocking findings:" :: blockers.map ("- " ++ ·))

def endpointOf (e : OutcomeEnvelope) : String := orText e.returnToRef e.originRef

def fixKey (digest : String) : String := "code_fix_fix:" ++ digest

def reviewKey (digest : String) : String := "code_fix_review:" ++ digest

def subscribeKey (digest endpoint : String) : String := "code_fix_subscribe:" ++ reviewKey digest ++ ":" ++ endpoint

def consumerAckKey (digest endpoint : String) : String :=
  "code_fix_consumer_ack:" ++ reviewKey digest ++ ":" ++ endpoint

def fixPayload (e : OutcomeEnvelope) (blockers : List String) (digest : String) : Payload := [
  ("kind", .str "code_fix"),
  ("title", .str ("[code-fix] remediate BLOCK on " ++ e.sourceTaskId)),
  ("body", .str ("\n\n".intercalate (["Runnable fix for BLOCK on source " ++ e.sourceTaskId ++ ".", blockerLines blockers,
    "Independent review follows; do not self-approve."].filter (· ≠ "")))),
  ("idempotency_key", .str (fixKey digest)),
  ("origin_ref", .str e.originRef),
  ("return_to_ref", .str e.returnToRef),
  ("source_task_id", .str e.sourceTaskId)]

def reviewPayload (e : OutcomeEnvelope) (fixTaskId digest : String) : Payload := [
  ("kind", .str "review"),
  ("title", .str ("[code-fix review] verify remediation of " ++ e.sourceTaskId)),
  ("body", .str ("Independently review the runnable fix task " ++ fixTaskId ++ ". Report Verdict: GO/BLOCK.")),
  ("idempotency_key", .str (reviewKey digest)),
  ("origin_ref", .str e.originRef),
  ("return_to_ref", .str e.returnToRef),
  ("parent_task_id", .str fixTaskId),
  ("source_task_id", .str e.sourceTaskId)]

def subscribeOp (digest taskId endpoint : String) : Store.NewOutbox :=
  ⟨some 0, .subscribe, [("task_id", .str taskId), ("endpoint", .str endpoint)], subscribeKey digest endpoint⟩

def consumerAckOp (e : OutcomeEnvelope) (digest : String) : Store.NewOutbox :=
  ⟨some 0, .recordConsumerAck,
    [("task_id", .str e.sourceTaskId), ("endpoint", .str (endpointOf e)),
      ("status", .str "semantic_block_remediation_created")],
    consumerAckKey digest (endpointOf e)⟩

namespace CodeFixHandler

/-- `_create`: `none` when the board task could not be created. -/
def create (id : Nat) (a : Adapter) (kind : StepKind) (key : String) (payload : Payload)
    (parentStepKey : Option String) : Run (Option String) := do
  let parent ← Prog.get fun s =>
    parentStepKey.bind fun k => ((s.listSteps id).find? fun p => p.idempotencyKey == k).map Step.id
  let step ← Prog.txn fun s => s.addStep id kind key "" parent
  -- on replay the step already carries its board task
  if step.1 = false ∧ step.2.boardTaskId ≠ "" then return some step.2.boardTaskId
  match ← applyBoardOperation id ⟨some step.2.id, .createTask, payload, key⟩ (some a) with
  | .failed .. => return none
  | .ok taskId =>
    if taskId ≠ "" then markStepApplied step.2.id taskId
    return some taskId

def fail (id : Nat) (reason : String) : Run StepResult := do
  moveTo id .failedRetryable reason
  let state ← readState id
  return { success := false, reason := reason, state := state, metadata := [("instance_id", .int id)] }

def callbackText : CallbackStatus → String
  | .notRequested => "not_requested"
  | .delivered => "delivered"
  | .deferred => "callback_deferred"
  | .unroutable => "callback_unroutable"
  | .deadletter => "callback_deadletter"

def errorOf : OpResult → String
  | .failed error _ => error
  | .ok _ => ""

/-- The end of `materialize`: the graph is on the board, and callback trouble does not undo it. -/
def finish (id : Nat) (state : ContinuationState) (created : Bool) (fixTaskId reviewTaskId endpoint : String)
    (ack : Option OpResult) : Run StepResult := do
  if state = .materializing then moveTo id .waitingReview "code_fix_graph_materialized"
  let final ← readState id
  let status : CallbackStatus := match ack with
    | some r => if r.success then .delivered else callbackStatusFor r
    | none => .unroutable
  let ackText := match ack with
    | some r => if r.success then "semantic_block_remediation_created" else callbackText (callbackStatusFor r)
    | none => "not_requested"
  let errors := match ack with
    | some r => if r.success then [] else [orText (errorOf r) "consumer_ack_failed"]
    | none => ["code_fix_origin_missing"]
  return {
    success := true
    state := final
    metadata := [("instance_id", .int id), ("created", .bool created), ("fix_task_id", .str fixTaskId),
      ("review_task_id", .str reviewTaskId), ("subscribed", .bool ack.isSome), ("consumer_ack_status", .str ackText),
      ("callback_status", .str (callbackText status)), ("callback_errors", .arr (errors.map .str)),
      ("endpoint", .str endpoint)] }

/-- The subscription and the ACK that follow the two tasks. -/
def connect (e : OutcomeEnvelope) (id : Nat) (a : Adapter) (state : ContinuationState) (created : Bool)
    (digest fixTaskId reviewTaskId : String) : Run StepResult :=
  if endpointOf e = "" then finish id state created fixTaskId reviewTaskId "" none
  else do
    let sub ← applyBoardOperation id (subscribeOp digest reviewTaskId (endpointOf e)) (some a)
    if !sub.success then fail id "review_subscribe_failed"
    else do
      let ack ← applyBoardOperation id (consumerAckOp e digest) (some a)
      finish id state created fixTaskId reviewTaskId (endpointOf e) (some ack)

/-- The graph: fix task, review task, subscription. -/
def build (e : OutcomeEnvelope) (blockers : List String) (i : Instance) (created : Bool) (a : Adapter) :
    Run StepResult := do
  let digest := stableDigest i
  match ← create i.id a .codeFix (fixKey digest) (fixPayload e blockers digest) none with
  | none => fail i.id "fix_create_failed"
  | some fixTaskId =>
    match ← create i.id a .review (reviewKey digest) (reviewPayload e fixTaskId digest) (some (fixKey digest)) with
    | none => fail i.id "review_create_failed"
    | some reviewTaskId => connect e i.id a i.state created digest fixTaskId reviewTaskId

/-- Into MATERIALIZING from a fresh detection or a failed attempt. -/
def enter (i : Instance) (reason : String) : Run Instance :=
  if i.state = .detected ∨ i.state = .failedRetryable then do
    moveTo i.id .materializing reason
    readInstance i.id
  else return i

/-- FAILED_RETRYABLE while no pending outbox row of the instance is due. -/
def backingOff (i : Instance) : Run Bool :=
  if i.state = .failedRetryable then pendingOutboxRetryNotDue i.id else return false

def materialize (e : OutcomeEnvelope) (adapter : Option Adapter) (blockers : List String) : Run StepResult := do
  let creation ← createInstance e.toInstance
  let i := creation.2
  let metadata := [("instance_id", Json.int i.id), ("created", Json.bool creation.1)]
  match adapter with
  | none => return { success := false, reason := "no_adapter", state := i.state, metadata := metadata }
  | some a =>
    if ← backingOff i then
      return { success := false, reason := "outbox_retry_not_due", state := i.state,
               metadata := metadata ++ [("retry_due", .bool false)] }
    let i ← enter i "code_fix_detected"
    build e blockers i creation.1 a

end CodeFixHandler

end AgentflowHermes
