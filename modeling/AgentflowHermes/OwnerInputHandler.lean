import AgentflowHermes.CodeFixHandler
import AgentflowHermes.OutcomeCompiler

namespace AgentflowHermes

open CrashProgram RowTable

structure InteractionCase where
  id : String
  originEndpoint : String
  continuationIds : List Nat

def makeBatchKey (originEndpoint ownerRef projectScope authorityClass : String) : String :=
  "|".intercalate [originEndpoint, ownerRef, projectScope, authorityClass]

def requirementToDict (r : Requirement) : Json := .obj [
  ("name", .str r.name), ("kind", .str r.kind.value), ("authority", .str r.authority), ("question", .str r.question),
  ("answer_hint", .str r.answerHint), ("allowed_values", .arr (r.allowedValues.map .str)),
  ("required", .bool r.required), ("description", .str r.description)]

/-- The first still collecting case of the batch inside the coalescing window, oldest first. -/
def findOpenBatch (s : Store) (batchKey : String) (now window : Nat) : Option InteractionCaseRow :=
  ((s.cases.filter (·.collecting)).mergeSort fun c d => decide (c.createdAt ≤ d.createdAt)).find? fun c =>
    c.batchKey == batchKey && decide (now ≤ c.createdAt + window)

def addInteractionMember (caseId : String) (continuationId : Nat) (requirements : List Json) (s : Store) : Store :=
  { s with
    members :=
      match s.members.find? fun m => m.caseId == caseId && m.continuationId == continuationId with
      | some m => s.members.modify m.id fun m => { m with requirements := requirements }
      | none => s.members.insert fun n => ⟨n, caseId, continuationId, requirements⟩ }

def createInteractionCase (row : InteractionCaseRow) : Run Unit := .read fun s =>
  if s.cases.any fun c => c.id == row.id then .raise "IntegrityError"
  else .write (fun s => { s with cases := s.cases ++ [row] }) fun _ => .pure ()

def openOrBatchCase (window : Nat) (endpoint ownerRef projectScope authorityClass : String) (id : Nat)
    (unresolved : List Requirement) : Run InteractionCase := do
  let batchKey := makeBatchKey endpoint ownerRef projectScope authorityClass
  let now ← currentTime
  let existing ← Prog.get fun s => findOpenBatch s batchKey now window
  let found ← match existing with
    | some c => pure (c.id, c.endpoint)
    | none => do
      let caseId ← (.call .newCaseId .pure : Run String)
      createInteractionCase ⟨caseId, endpoint, batchKey, .collecting, now⟩
      pure (caseId, endpoint)
  .write (addInteractionMember found.1 id (unresolved.map requirementToDict)) fun _ => .pure ()
  Prog.get fun s =>
    { id := found.1
      originEndpoint := found.2
      continuationIds := (s.members.filter fun m => m.caseId == found.1).map InteractionMember.continuationId }

def anchorKey (digest : String) : String := "owner_anchor:" ++ digest

def anchorSubscribeKey (digest originRef : String) : String := "subscribe:" ++ anchorKey digest ++ ":" ++ originRef

def completeKey (taskId : String) (receiptId : Nat) : String :=
  "complete_owner_anchor:" ++ taskId ++ ":receipt:" ++ toString receiptId

def materializeKey (digest : String) : String := "materialize:" ++ digest

def ownerReviewKey (digest : String) : String := "review:" ++ digest

def rerunKey (digest : String) : String := "packet_rerun:" ++ digest

def interactionBlock (c : InteractionCase) : Payload := [
  ("agentflow_interaction", .obj [
    ("case_id", .str c.id), ("origin_endpoint", .str c.originEndpoint),
    ("continuation_ids", .arr (c.continuationIds.map fun n => .int n)), ("reply_mode", .str "natural_language")])]

def ownerAnchorIntent (i : Instance) (contract : InputContract) (key : String) (interaction : Option InteractionCase) :
    Payload := [
  ("kind", .str "owner_anchor"),
  ("title", .str ("[owner-input] " ++ contract.contractRef ++ " evidence/approval anchor")),
  ("idempotency_key", .str key),
  ("status", .str "blocked"),
  ("blocked_reason", .str "awaiting_owner_input"),
  ("assignee", .str contract.ownerRole),
  ("origin_ref", .str i.originRef),
  ("return_to_ref", .str i.returnToRef),
  ("contract_ref", .str contract.contractRef),
  ("required_owner_fields", .arr (contract.ownerFields.map fun f => .str f.name)),
  ("owner_anchor", .bool true)] ++ (interaction.map interactionBlock).getD []

def materializationIntent (i : Instance) (contract : InputContract) (receipt : OwnerReceipt) (key : String) : Payload :=
  let receiptRef := "receipt:" ++ toString receipt.id ++ ":v" ++ toString receipt.version
  [("kind", .str "materialization"),
  ("title", .str (contract.contractRef ++ " materialize artifacts")),
  ("body", .str ("Resume authorized by owner receipt " ++ receiptRef ++ ".")),
  ("idempotency_key", .str key),
  ("contract_ref", .str contract.contractRef),
  ("origin_ref", .str i.originRef),
  ("return_to_ref", .str i.returnToRef),
  ("receipt_ref", .str receiptRef),
  ("owner_receipt_id", .int receipt.id),
  ("owner_receipt_version", .int receipt.version),
  ("artifact_ids", .arr (contract.artifactIds.map .str))]

def followUpIntent (i : Instance) (kind title key : String) : Payload := [
  ("kind", .str kind), ("title", .str title), ("idempotency_key", .str key), ("origin_ref", .str i.originRef),
  ("return_to_ref", .str i.returnToRef)]

structure ContinuationPlan where
  instanceId : Nat
  created : Bool
  state : ContinuationState
  stepIntents : List Payload

structure Submission where
  ownerRef : String
  fields : List (String × Json)
  sourceRef : String

namespace OwnerInputHandler

/-- A step and, only when it is new, the board task it stands for; the task id is empty when the
board operation failed. -/
def createOnce (id : Nat) (adapter : Option Adapter) (step : Bool × Step) (intent : Payload) (key : String) :
    Run (Option String) :=
  if step.1 then do
    match ← applyBoardOperation id ⟨some step.2.id, .createTask, intent, key⟩ adapter with
    | .ok taskId =>
      markStepApplied step.2.id taskId
      return some taskId
    | .failed .. => return none
  else return none

def addStep (id : Nat) (kind : StepKind) (key : String) : Run (Bool × Step) :=
  Prog.txn fun s => s.addStep id kind key "" none

/-- The anchor and its subscription. -/
def planAnchor (i : Instance) (adapter : Option Adapter) (intent : Payload) : Run Unit := do
  let digest := stableDigest i
  let step ← addStep i.id .ownerAnchor (anchorKey digest)
  match ← createOnce i.id adapter step intent (anchorKey digest) with
  | none => return ()
  | some taskId =>
    if i.originRef ≠ "" ∧ adapter.isSome then
      let _ ← applyBoardOperation i.id
        ⟨some step.2.id, .subscribe, [("task_id", .str taskId), ("endpoint", .str i.originRef)],
          anchorSubscribeKey digest i.originRef⟩ adapter

/-- A new instance goes straight to WAITING_OWNER; an existing one is taken as it is. -/
def detect (n : NewInstance) (reason : String) : Run (Bool × Instance) := do
  let creation ← createInstance n
  if creation.1 then do
    moveTo creation.2.id .waitingOwner reason
    let i ← readInstance creation.2.id
    return (true, i)
  else return creation

/-- The inbox case the question is batched into; only with an inbox and something to ask. -/
def interactionFor (i : Instance) (inbox : Option Nat) (unresolved : List Requirement)
    (ownerRef projectScope : String) : Run (Option InteractionCase) :=
  match inbox, unresolved with
  | some window, first :: _ => do
    let c ← openOrBatchCase window i.originRef ownerRef projectScope first.authority i.id unresolved
    return some c
  | _, _ => return none

def plan (e : OutcomeEnvelope) (adapter : Option Adapter) (contract : InputContract) (inbox : Option Nat)
    (unresolved : List Requirement) (ownerRef projectScope : String) : Run ContinuationPlan := do
  let detected ← detect e.toInstance "needs_input_detected"
  let i := detected.2
  let interaction ← interactionFor i inbox unresolved ownerRef projectScope
  let intent := ownerAnchorIntent i contract (anchorKey (stableDigest i)) interaction
  planAnchor i adapter intent
  let state ← readState i.id
  return ⟨i.id, detected.1, state, [intent]⟩

/-- The anchor is completed only where its task id is known. -/
def completeAnchor (i : Instance) (adapter : Option Adapter) (receipt : OwnerReceipt) : Run Unit := do
  let anchor ← Prog.get fun s => (s.listSteps i.id).find? fun p => p.stepKind == .ownerAnchor
  match anchor with
  | none => return ()
  | some p =>
    if p.boardTaskId ≠ "" ∧ adapter.isSome then
      let _ ← applyBoardOperation i.id
        ⟨some p.id, .completeOwnerAnchor,
          [("task_id", .str p.boardTaskId), ("receipt_ref", .str ("receipt:" ++ toString receipt.id))],
          completeKey p.boardTaskId receipt.id⟩ adapter

/-- What follows an accepted submission. -/
def acceptReceipt (i : Instance) (adapter : Option Adapter) (contract : InputContract) (receipt : OwnerReceipt) :
    Run StepResult := do
  moveTo i.id .inputAccepted "owner_receipt_accepted"
  completeAnchor i adapter receipt
  let key := materializeKey (stableDigest i)
  let step ← addStep i.id .materialization key
  let taskId ← createOnce i.id adapter step (materializationIntent i contract receipt key) key
  moveTo i.id .materializing "materialization_task_created"
  return {
    success := true
    state := .materializing
    createdStepIds := [step.2.id]
    metadata := [("materialization_task_id", .str (taskId.getD "")), ("receipt_id", .int receipt.id)] }

def onReceipt (i : Instance) (submission : Submission) (adapter : Option Adapter) (contract : InputContract) :
    Run StepResult := do
  if i.state ≠ .waitingOwner then return { success := false, reason := "not_waiting_owner", state := i.state }
  let checked := contract.validateOwnerSubmission submission.fields
  if checked.2 ≠ [] then
    return { success := false, reason := "invalid_owner_submission", state := i.state,
             metadata := [("errors", .arr (checked.2.map .str))] }
  let receipt ← Prog.txn fun s =>
    s.addOwnerReceipt i.id submission.ownerRef checked.1 submission.sourceRef none
  acceptReceipt i adapter contract receipt

def notGo (i : Instance) (reason : String) : Run StepResult := do
  moveTo i.id .failedRetryable reason
  let state ← readState i.id
  return { success := false, reason := reason, state := state }

def advanceAfterMaterialization (i : Instance) (verdict : String) (adapter : Option Adapter) : Run StepResult := do
  if i.state ≠ .materializing then return { success := false, reason := "not_materializing", state := i.state }
  if verdict ≠ "GO" then notGo i "materialization_not_go"
  else do
    moveTo i.id .waitingReview "materialization_go"
    let key := ownerReviewKey (stableDigest i)
    let step ← addStep i.id .review key
    let taskId ← createOnce i.id adapter step (followUpIntent i "review" "Review owner-bound artifact/marker" key) key
    let state ← readState i.id
    return { success := true, state := state, createdStepIds := [step.2.id],
             metadata := [("review_task_id", .str (taskId.getD ""))] }

def advanceAfterReview (i : Instance) (verdict : String) (adapter : Option Adapter) : Run StepResult := do
  if i.state ≠ .waitingReview then return { success := false, reason := "not_waiting_review", state := i.state }
  if verdict ≠ "GO" then notGo i "review_not_go"
  else do
    moveTo i.id .resumable "review_go"
    let key := rerunKey (stableDigest i)
    let step ← addStep i.id .packetRerun key
    -- without an adapter the rerun is not even enqueued
    let taskId ← createOnce i.id adapter (step.1 && adapter.isSome, step.2)
      (followUpIntent i "packet_rerun" (i.contractRef ++ " packet rerun") key) key
    moveTo i.id .resumed "packet_rerun_created"
    let state ← readState i.id
    return { success := true, state := state, createdStepIds := [step.2.id],
             metadata := [("packet_rerun_task_id", .str (taskId.getD ""))] }

end OwnerInputHandler

end AgentflowHermes
