import AgentflowHermes.ExternalWait
import AgentflowHermes.OwnerInputHandler
import AgentflowHermes.SemanticRefusalHandler

namespace AgentflowHermes

open CrashProgram

structure BoardEvent where
  eventId : String
  eventSeq : Int
  sourceTaskId : String
  sourceGraphId : String
  summary : String := ""
  runMetadata : Json := .null
  originRef : String := ""
  returnToRef : String := ""
  workspaceRef : String := ""
  assignee : String := ""
  eventKind : String := ""
  title : String := ""

/-- How GO events are routed: by an injected router, not at all without an enabled transition
config, or by the roadmap promotion of an enabled one. -/
inductive RoadmapRoute
  | router
  | noConfig
  | disabled
  | promotion
  deriving DecidableEq, Repr

structure IngestConfig where
  board : String
  dbIdentity : String
  contracts : String → Option InputContract
  /-- The requirement resolver for an action scope. -/
  resolve : String → List Requirement → Json → Except PyError Resolution
  adapter : Option Adapter := none
  roadmap : RoadmapRoute := .noConfig
  handleKinds : Option (List ContinuationKind) := none
  defaultEndpoint : String := ""
  inbox : Option Nat := none
  apply : Bool := false

/-- A dict comprehension: a repeated key keeps its place and takes the last value. -/
def dictOf : List (String × Json) → List (String × Json)
  | [] => []
  | (key, value) :: rest =>
    (key, ((rest.reverse.lookup key).getD value)) :: (dictOf rest).filter fun f => f.1 != key

structure OwnerOutcome where
  action : String
  instanceId : Option Nat := none
  created : Bool := false
  state : Option ContinuationState := none
  h0 : Bool := false

def autoSubmission (r : Resolution) : Submission :=
  ⟨"system:auto-resolved", dictOf (r.satisfied.map fun s => (s.requirement.name, s.value)), "requirement_resolver"⟩

def recordSatisfied (id : Nat) (s : SatisfiedRequirement) : Run Unit :=
  SemanticRefusalHandler.recordSatisfaction id s.requirement.name s.value s.source s.sourceRef s.policyId

/-- A fully resolved outcome: no anchor, and the resolved values are submitted as a receipt. -/
def autoResolve (e : OutcomeEnvelope) (contractRef : String) (contract : InputContract) (r : Resolution)
    (adapter : Option Adapter) : Run OwnerOutcome := do
  let detected ← OwnerInputHandler.detect { e.toInstance with contractRef := contractRef } "needs_input_detected_h0"
  let i := detected.2
  let _ ← Prog.forEach (recordSatisfied i.id) r.satisfied
  let receipt ← OwnerInputHandler.onReceipt i (autoSubmission r) adapter contract
  return ⟨"auto_resolved", some i.id, detected.1, some receipt.state, true⟩

/-- The requirements to resolve and the contract they are checked against. -/
def ownerContract (contracts : String → Option InputContract) (contractRef : String) (requirements : List Requirement) :
    Option (Option InputContract × List Requirement) :=
  (contracts contractRef).map fun contract =>
    let requirements := if requirements = [] then
        contract.ownerFields.map fun f =>
          { name := f.name, kind := f.kind, authority := f.authority.value, question := f.question }
      else requirements
    if contractRef = genericOwnerInputContract ∧ requirements ≠ [] then
      (InputContract.dynamicOwnerInput contract.contractRef contract.ownerRole requirements, requirements)
    else (some contract, requirements)

def ownerInputLike (cfg : IngestConfig) (e : OutcomeEnvelope) (requirements : List Requirement)
    (runMetadata : Json) : Run OwnerOutcome :=
  let contractRef := orText e.contractRef genericOwnerInputContract
  match ownerContract cfg.contracts contractRef requirements with
  | none => return ⟨"noop", none, false, none, false⟩
  | some (none, _) => Prog.raise "ValueError"
  | some (some contract, requirements) =>
    match cfg.resolve contractRef requirements runMetadata with
    | .error _ => Prog.raise "AttributeError"
    | .ok r =>
      if r.unresolved = [] then autoResolve e contractRef contract r cfg.adapter
      else do
        let plan ← OwnerInputHandler.plan e cfg.adapter contract cfg.inbox r.unresolved "" ""
        return ⟨"owner_input_planned", some plan.instanceId, plan.created, some plan.state, false⟩

/-- One entry of `results`; `success` is `None` where the branch reports none. -/
structure IngestEntry where
  eventId : String
  action : String
  success : Option Bool := none
  state : Option ContinuationState := none
  metadata : List (String × Json) := []

/-- The entry of an event and whether its branch breaks out of the loop. -/
structure Routed where
  entry : IngestEntry
  halts : Bool

def eventSource (cfg : IngestConfig) (ev : BoardEvent) : SourceRef where
  eventId := ev.eventId
  board := cfg.board
  sourceTaskId := ev.sourceTaskId
  sourceGraphId := ev.sourceGraphId
  originRef := orText ev.originRef cfg.defaultEndpoint
  returnToRef := orText ev.returnToRef cfg.defaultEndpoint
  workspaceRef := ev.workspaceRef

def compileEvent (T : PyText) (cfg : IngestConfig) (ev : BoardEvent) : Except PyError CompiledOutcome :=
  compileOutcome T (fun _ => none) ev.runMetadata ⟨ev.title, ev.summary, ev.eventKind, ev.assignee, []⟩
    (eventSource cfg ev)

def routeRoadmap (cfg : IngestConfig) (ev : BoardEvent) : Run Bool :=
  match cfg.roadmap with
  | .noConfig | .disabled => return true
  | .router | .promotion => .call (.routeRoadmap ev.eventId) .pure

def stepEntry (ev : BoardEvent) (action : String) (r : StepResult) : Routed :=
  ⟨⟨ev.eventId, action, some r.success, some r.state, r.metadata⟩, !r.success⟩

/-- The branch of the loop body for one compiled event. -/
def routeCompiled (T : PyText) (cfg : IngestConfig) (ev : BoardEvent) (compiled : CompiledOutcome) : Run Routed :=
  let e := compiled.envelope
  if cfg.handleKinds.any fun kinds => !kinds.contains e.continuationKind then
    return ⟨⟨ev.eventId, "noop", none, none, []⟩, false⟩
  else match e.continuationKind with
  | .needsInput | .approvalRequired => do
    let o ← ownerInputLike cfg e compiled.requirements ev.runMetadata
    return ⟨⟨ev.eventId, o.action, none, o.state, []⟩, false⟩
  | .roadmapNext | .complete => do
    let ok ← routeRoadmap cfg ev
    return ⟨⟨ev.eventId, "roadmap_routed", some ok, none, []⟩, !ok⟩
  | .codeFix =>
    match cfg.apply, cfg.adapter with
    | true, some a => do
      let r ← CodeFixHandler.materialize e (some a) compiled.blockers
      return stepEntry ev "code_fix_applied" r
    | _, _ => do
      let ok ← (.call (.routeCodeFix ev.eventId) .pure : Run Bool)
      return ⟨⟨ev.eventId, "code_fix_routed", some ok, none, []⟩, false⟩
  | .semanticRefusal =>
    match cfg.apply, cfg.adapter with
    | true, some a => do
      let r ← SemanticRefusalHandler.materialize e (some a) compiled.blockers compiled.refusalCategories
      return stepEntry ev "semantic_refusal_applied" r
    | _, _ => return ⟨⟨ev.eventId, "semantic_refusal_detected", none, none, []⟩, false⟩
  | .externalWait => do
    let _ ← handleExternalWait T e ev.runMetadata
    return ⟨⟨ev.eventId, "external_wait_registered", none, none, []⟩, false⟩
  | .unknown => return ⟨⟨ev.eventId, "noop", none, none, []⟩, false⟩

def routeEvent (T : PyText) (cfg : IngestConfig) (ev : BoardEvent) : Run Routed :=
  match compileEvent T cfg ev with
  | .error _ => Prog.raise "OutcomeEnvelopeError"
  | .ok compiled => routeCompiled T cfg ev compiled

/-- The event loop: the entries, and the sequence the cursor is moved to. -/
def ingestLoop (T : PyText) (cfg : IngestConfig) : List BoardEvent → Int → Run (List IngestEntry × Int)
  | [], maxSeq => return ([], maxSeq)
  | ev :: rest, maxSeq => do
    let r ← routeEvent T cfg ev
    if r.halts then return ([r.entry], maxSeq)
    else do
      let later ← ingestLoop T cfg rest (max maxSeq ev.eventSeq)
      return (r.entry :: later.1, later.2)

/-- `advance_cursor`: the read and the guarded upsert are two transactions. -/
def advanceCursor (board dbIdentity : String) (lastEventId : Int) : Run Int := do
  let current ← Prog.get fun s => s.getCursor board dbIdentity
  let value := max current lastEventId
  .write (fun s => s.upsertCursor board dbIdentity value) fun _ => .pure ()
  return value

structure IngestResult where
  results : List IngestEntry
  cursor : Int

def ingestBoardOnce (T : PyText) (cfg : IngestConfig) (fetchEventsSince : Int → List BoardEvent) : Run IngestResult := do
  let lastSeq ← Prog.get fun s => s.getCursor cfg.board cfg.dbIdentity
  let (results, maxSeq) ← ingestLoop T cfg (fetchEventsSince lastSeq) lastSeq
  let _ ← advanceCursor cfg.board cfg.dbIdentity maxSeq
  return ⟨results, maxSeq⟩

/-- `_adapter` in real mode; `none` is `adapter_mode_real_requires_explicit_board`. -/
def cliAdapter (board : String) : Option Adapter := if board = "" then none else some { board := board }

/-- What a command reports: the errors it exits with, or what it did. -/
inductive CommandResult
  | refused (errors : List String)
  | retried (outcomes : List Bool)
  | submitted (result : StepResult)

def runContinuationRetry (id : Nat) (board : String) : Run CommandResult := do
  let instance? ← Prog.get fun s => s.getInstance id
  match instance? with
  | none => return .refused ["unknown_instance"]
  | some _ =>
    match cliAdapter board with
    | none => return .refused ["adapter_mode_real_requires_explicit_board"]
    | some a => do
      let outcomes ← continuationRetry id a
      return .retried outcomes

/-- Why `run_continuation_submit` stops before it has an adapter; `none` when it goes on under a contract. -/
def submitErrors (contracts : String → Option InputContract) (submission : Submission) (i : Instance) :
    InputContract ⊕ List String :=
  match contracts i.contractRef with
  | none => .inr ["unknown_contract_ref"]
  | some contract =>
    if i.state ≠ .waitingOwner then .inr ["not_waiting_owner"]
    else
      let errors := (contract.validateOwnerSubmission submission.fields).2
      if errors ≠ [] then .inr errors else .inl contract

def runContinuationSubmit (contracts : String → Option InputContract) (id : Nat) (submission : Submission)
    (board : String) : Run CommandResult := do
  let instance? ← Prog.get fun s => s.getInstance id
  match instance? with
  | none => return .refused ["unknown_instance"]
  | some i =>
    match submitErrors contracts submission i with
    | .inr errors => return .refused errors
    | .inl contract =>
      match cliAdapter board with
      | none => return .refused ["adapter_mode_real_requires_explicit_board"]
      | some a => do
        let result ← OwnerInputHandler.onReceipt i submission (some a) contract
        return .submitted result

end AgentflowHermes
