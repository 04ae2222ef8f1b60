import AgentflowHermes.PyValues
import AgentflowHermes.RowTable

namespace AgentflowHermes

open RowTable

inductive ContinuationState
  | detected
  | waitingOwner
  | inputAccepted
  | materializing
  | waitingReview
  | resumable
  | resumed
  | blockedInvalid
  | failedRetryable
  deriving DecidableEq, Repr

def ContinuationState.terminal : ContinuationState → Bool
  | .resumed | .blockedInvalid => true
  | _ => false

def allowedTransitions : ContinuationState → List ContinuationState
  | .detected => [.waitingOwner, .materializing]
  | .waitingOwner => [.inputAccepted]
  | .inputAccepted => [.materializing]
  | .materializing => [.waitingReview, .resumable, .failedRetryable]
  | .waitingReview => [.resumable, .failedRetryable]
  | .resumable => [.resumed]
  | .failedRetryable => [.materializing, .waitingReview]
  | .resumed => []
  | .blockedInvalid => []

def legal (current new : ContinuationState) : Bool :=
  if current.terminal then false
  else if new = .blockedInvalid then true
  else (allowedTransitions current).contains new

theorem legal_not_terminal {current new : ContinuationState} (h : legal current new) : current.terminal = false := by
  unfold legal at h
  split at h
  · cases h
  next hc => simpa using hc

/-- The arguments of `create_instance`; the idempotency key is a column computed from them once. -/
structure NewInstance where
  board : String
  sourceTaskId : String
  sourceEventId : String
  sourceGraphId : String := ""
  contractRef : String := ""
  verdict : String := ""
  continuationKind : String := ""
  originRef : String := ""
  returnToRef : String := ""
  workspaceRef : String := ""

/-- The source tuple the store keeps unique. -/
def NewInstance.tuple (n : NewInstance) : String × String × String × String :=
  (n.board, n.sourceTaskId, n.sourceEventId, n.contractRef)

def NewInstance.idempotencyKey (n : NewInstance) : String :=
  "continuation:" ++ n.board ++ ":" ++ n.sourceTaskId ++ ":" ++ n.sourceEventId ++ ":" ++ n.contractRef

structure Instance extends NewInstance where
  id : Nat
  state : ContinuationState

inductive StepKind
  | codeFix
  | review
  | ownerAnchor
  | materialization
  | packetRerun
  deriving DecidableEq, Repr

inductive StepState
  | pending
  | applied
  deriving DecidableEq, Repr

structure Step where
  id : Nat
  continuationId : Nat
  stepKind : StepKind
  state : StepState
  boardTaskId : String
  parentStepId : Option Nat
  idempotencyKey : String
  deriving DecidableEq

structure OwnerReceipt where
  id : Nat
  continuationId : Nat
  version : Nat
  ownerRef : String
  fields : List (String × Json)
  sourceRef : String
  supersedesReceiptId : Option Nat

/-- The `kind` of an event together with its payload. -/
inductive EventKind
  | created (state : ContinuationState)
  | stateTransition (source target : ContinuationState) (reason : String)
  | ownerReceipt (version : Nat) (ownerRef : String)
  deriving DecidableEq, Repr

structure Event where
  id : Nat
  continuationId : Nat
  seq : Nat
  kind : EventKind
  deriving DecidableEq

inductive Operation
  | createTask
  | subscribe
  | scheduleOriginWake
  | completeOwnerAnchor
  | recordConsumerAck
  | other (name : String)
  deriving DecidableEq, Repr

inductive OutboxState
  | pending
  | applied
  | callbackDeadletter
  deriving DecidableEq, Repr

abbrev Payload := List (String × Json)

/-- `str(payload.get(key) or "")`; every field the executors read is written as text. -/
def Payload.text (p : Payload) (key : String) : String :=
  match p.lookup key with
  | some (.str s) => s
  | _ => ""

/-- A row of `board_outbox`. `stepId` is `none` for the empty column, and times are in microseconds. -/
structure OutboxRow where
  id : Nat
  continuationId : Nat
  stepId : Option Nat
  operation : Operation
  payload : Payload
  idempotencyKey : String
  state : OutboxState
  boardTaskId : String
  attempts : Nat
  nextAttemptAt : Nat
  lastError : String

structure Satisfaction where
  id : Nat
  continuationId : Nat
  fieldName : String
  value : Json
  sourceKind : String
  sourceRef : String
  policyId : String

inductive WaitState
  | pending
  | satisfied
  | failedPermanent
  deriving DecidableEq, Repr

structure WaitCondition where
  id : Nat
  continuationId : Nat
  kind : String
  target : String
  desired : String
  pollInterval : Int
  resumeTransition : String
  state : WaitState
  lastCheckedAt : Nat
  deriving DecidableEq

inductive CaseState
  | collecting
  | asked
  | answered
  | applied
  | needsClarification
  deriving DecidableEq, Repr

structure InteractionCaseRow where
  id : String
  endpoint : String
  batchKey : String
  state : CaseState
  createdAt : Nat

def InteractionCaseRow.collecting (c : InteractionCaseRow) : Bool := c.state == .collecting

structure InteractionMember where
  id : Nat
  caseId : String
  continuationId : Nat
  requirements : List Json

instance : Keyed Instance := ⟨Instance.id⟩
instance : Keyed Step := ⟨Step.id⟩
instance : Keyed OwnerReceipt := ⟨OwnerReceipt.id⟩
instance : Keyed Event := ⟨Event.id⟩
instance : Keyed OutboxRow := ⟨OutboxRow.id⟩
instance : Keyed Satisfaction := ⟨Satisfaction.id⟩
instance : Keyed WaitCondition := ⟨WaitCondition.id⟩
instance : Keyed InteractionMember := ⟨InteractionMember.id⟩

@[simp] theorem rowId_instance (i : Instance) : Keyed.rowId i = i.id := rfl
@[simp] theorem rowId_step (p : Step) : Keyed.rowId p = p.id := rfl
@[simp] theorem rowId_ownerReceipt (r : OwnerReceipt) : Keyed.rowId r = r.id := rfl
@[simp] theorem rowId_event (e : Event) : Keyed.rowId e = e.id := rfl
@[simp] theorem rowId_outboxRow (o : OutboxRow) : Keyed.rowId o = o.id := rfl
@[simp] theorem rowId_satisfaction (r : Satisfaction) : Keyed.rowId r = r.id := rfl
@[simp] theorem rowId_waitCondition (w : WaitCondition) : Keyed.rowId w = w.id := rfl
@[simp] theorem rowId_interactionMember (m : InteractionMember) : Keyed.rowId m = m.id := rfl

end AgentflowHermes
