import AgentflowHermes.RoadmapProposal

namespace AgentflowHermes.Roadmap

/-- What `create_graph` answers, as far as it is looked at. -/
structure CreateResult where
  success : Bool
  taskId : String := ""

structure TaskProfile where
  assignee : String
  acceptanceCriteria : String
  ackTriggerAgent : String

/-- A task as the apply ledger records it. -/
structure CreatedTask where
  taskId : String
  kind : String
  idempotencyKey : String
  assignee : String
  acceptanceCriteria : String
  ackTriggerAgent : String
  parentTaskId : String
  origin : String
  returnTo : String

structure ApplyReceipt where
  eventId : String
  idempotencyKey : String
  sourceFinalRef : String
  roadmapId : String
  transitionId : String
  templateId : String
  policyResolutionRef : String
  createdTaskIds : List String
  summary : String
  chainDepth : Int
  registryRef : String
  registryHash : String
  createdAt : Int

structure AppliedGraph where
  idempotencyKey : String
  createdTaskIds : List String
  tasks : List CreatedTask
  receipt : ApplyReceipt

/-- The injected board writer; `recordSourceReceipt` does nothing where it is missing. -/
structure GraphAdapter (σ : Type) where
  createGraph : Candidate → σ → CreateResult × σ
  recordSourceReceipt : ApplyReceipt → σ → σ

/-- `InMemoryRoadmapApplyLedger.applied`. -/
abbrev ApplyLedger := List (String × AppliedGraph)

section

variable (T : PyText)

def CreatedTask.safe (t : CreatedTask) : CreatedTask where
  taskId := safeJobField T "task_id" t.taskId
  kind := safeJobField T "kind" t.kind
  idempotencyKey := safeJobField T "idempotency_key" t.idempotencyKey
  assignee := safeJobField T "assignee" t.assignee
  acceptanceCriteria := safeJobField T "acceptance_criteria" t.acceptanceCriteria
  ackTriggerAgent := safeJobField T "ack_trigger_agent" t.ackTriggerAgent
  parentTaskId := safeJobField T "parent_task_id" t.parentTaskId
  origin := safeJobField T "origin" t.origin
  returnTo := safeJobField T "return_to" t.returnTo

def safeTaskIds (ids : List String) : List String := ids.map (safeJobField T "created_task_ids")

def ApplyReceipt.safe (r : ApplyReceipt) : ApplyReceipt :=
  { r with
    eventId := safeJobField T "event_id" r.eventId
    idempotencyKey := safeJobField T "idempotency_key" r.idempotencyKey
    sourceFinalRef := safeDurableRef T r.sourceFinalRef
    roadmapId := safeJobField T "roadmap_id" r.roadmapId
    transitionId := safeJobField T "transition_id" r.transitionId
    templateId := safeJobField T "template_id" r.templateId
    policyResolutionRef := safeDurableRef T r.policyResolutionRef
    createdTaskIds := safeTaskIds T r.createdTaskIds
    summary := safeJobField T "summary" r.summary
    registryRef := safeDurableRef T r.registryRef
    registryHash := safeJobField T "registry_hash" r.registryHash }

def AppliedGraph.safe (g : AppliedGraph) : AppliedGraph where
  idempotencyKey := safeJobField T "idempotency_key" g.idempotencyKey
  createdTaskIds := safeTaskIds T g.createdTaskIds
  tasks := g.tasks.map (CreatedTask.safe T)
  receipt := g.receipt.safe T

namespace ApplyLedger

def has (applied : ApplyLedger) (key : String) : Bool := (applied.lookup (safeDurableRef T key)).isSome

def get (applied : ApplyLedger) (key : String) : Option AppliedGraph := applied.lookup (safeDurableRef T key)

/-- A dict assignment. -/
def record (applied : ApplyLedger) (key : String) (g : AppliedGraph) : ApplyLedger :=
  let safeKey := safeDurableRef T key
  if applied.has T key then applied.map fun f => if f.1 = safeKey then (safeKey, g.safe T) else f
  else applied ++ [(safeKey, g.safe T)]

end ApplyLedger

def roleOf (template : ResolvedTemplate T) (kind : String) : StepRole :=
  ((template.steps.find? fun s => s.kind == kind).map TemplateStep.role).getD .terminal

/-- `_apply_task_profile`, for a kind of the template. -/
def applyTaskProfile (t : Transition) (template : ResolvedTemplate T) (policy : Policy) (kind : String) : TaskProfile :=
  let trusted := policy.trustedAssignees.headD ""
  match roleOf T template kind with
  | .work => ⟨orText policy.implAssignee trusted,
    "Complete " ++ kind ++ " work step for " ++ t.toSlice ++ " per template " ++ t.transitionId, ""⟩
  | .review => ⟨orText policy.reviewAssignee trusted,
    "Review " ++ t.toSlice ++ " " ++ kind ++ " step and emit GO/BLOCK/NEED_MORE verdict for " ++ t.transitionId, ""⟩
  | .terminal => ⟨orText policy.ackTriggerAgent trusted,
    "Complete terminal " ++ kind ++ " ACK for " ++ t.toSlice ++ ", confirm review GO, emit ACK for " ++ t.transitionId,
    orText policy.ackTriggerAgent trusted⟩

end

/-- The candidate as the adapter gets it. -/
def Candidate.enriched (c : Candidate) (p : TaskProfile) : Candidate :=
  { c with metadata := { c.metadata with
      assignee := p.assignee, acceptanceCriteria := p.acceptanceCriteria, ackTriggerAgent := p.ackTriggerAgent } }

/-- `key_to_task_id.get(parent_key, "")`, the latest task of a key first. -/
def parentTaskId (keyToTaskId : List (String × String)) (parentKey : String) : String :=
  if parentKey = "" then "" else (keyToTaskId.lookup parentKey).getD ""

def createdTask (c : Candidate) (p : TaskProfile) (taskId parentTaskId : String) : CreatedTask where
  taskId := taskId
  kind := c.kind
  idempotencyKey := c.idempotencyKey
  assignee := p.assignee
  acceptanceCriteria := p.acceptanceCriteria
  ackTriggerAgent := p.ackTriggerAgent
  parentTaskId := parentTaskId
  origin := c.origin
  returnTo := c.returnTo

/-- Why no graph was applied, and the ids of the tasks that were created before that. -/
structure CreateFailure where
  reason : String
  uncommitted : List String

section

variable {σ : Type}

/-- The loop over the candidates, up to the first one that the adapter refuses or returns no id for. -/
def createTasks (adapter : GraphAdapter σ) (profile : String → TaskProfile) :
    List Candidate → List (String × String) → List CreatedTask → σ → Except CreateFailure (List CreatedTask) × σ
  | [], _, created, board => (.ok created, board)
  | c :: rest, keyToTaskId, created, board =>
    let result := adapter.createGraph (c.enriched (profile c.kind)) board
    if !result.1.success then (.error ⟨"adapter_create_failed", created.map (·.taskId)⟩, result.2)
    else if result.1.taskId = "" then (.error ⟨"missing_task_id", created.map (·.taskId)⟩, result.2)
    else
      let keyToTaskId := (c.idempotencyKey, result.1.taskId) :: keyToTaskId
      let task := createdTask c (profile c.kind) result.1.taskId (parentTaskId keyToTaskId c.parentKey)
      createTasks adapter profile rest keyToTaskId (created ++ [task]) result.2

end

/-- What `apply_roadmap_promotion` answers. -/
inductive ApplyAnswer
  | proposalOnly (proposal : PromotionAnswer) (applyEnabled : Bool) (reason : String)
  | failed (proposal : PromotionAnswer) (key : String) (failure : CreateFailure) (transition : Transition)
  | duplicate (proposal : PromotionAnswer) (key : String) (existing : AppliedGraph)
  | applied (proposal : PromotionAnswer) (transition : Transition) (graph : AppliedGraph)

namespace ApplyAnswer

def success : ApplyAnswer → Bool
  | failed .. => false
  | _ => true

variable (T : PyText)

def createdTaskIds : ApplyAnswer → List String
  | duplicate _ _ existing => safeTaskIds T existing.createdTaskIds
  | applied _ _ graph => safeTaskIds T graph.createdTaskIds
  | _ => []

def uncommittedTaskIds : ApplyAnswer → List String
  | failed _ _ failure _ => failure.uncommitted.map (safeJobField T "uncommitted_task_ids")
  | _ => []

end ApplyAnswer

/-- The two ledgers and the board. -/
structure ApplyState (σ : Type) where
  ledger : PromotionLedger
  applied : ApplyLedger
  board : σ

/-- `_apply_key_from_proposal`. -/
def applyKeyFromProposal (p : PromotionAnswer) : String :=
  orText p.idempotencyKey
    (orText ((p.receipt.map (·.idempotencyKey)).getD "") ((p.priorDecision.map (·.idempotencyKey)).getD ""))

/-- `_commit_proposal_receipt`: what the shadow ledger has beyond the ledger it was copied from. -/
def commitProposal (ledger shadow : PromotionLedger) : PromotionLedger := ledger ++ shadow.drop ledger.length

section

variable (T : PyText) {σ : Type}

def applyReceipt (registry : Registry) (ev : PromotionEvent) (t : Transition) (key : String) (depth : Int)
    (created : List CreatedTask) : ApplyReceipt :=
  ApplyReceipt.safe T {
    eventId := safeEvent T ev.eventId
    idempotencyKey := key
    sourceFinalRef := safeSource T ev.sourceFinalRef
    roadmapId := t.roadmapId
    transitionId := t.transitionId
    templateId := orText t.version t.transitionId
    policyResolutionRef := safeDurableRef T ev.policyResolutionRef
    createdTaskIds := created.map (·.taskId)
    summary := sanitizeSummary T ev.summary
    chainDepth := depth
    registryRef := registry.sourceRef
    registryHash := registry.contentHash
    createdAt := ev.occurredAt }

/-- The graph of a proposal that may be applied. A template that does not resolve is an exception. -/
def applyGraph (registry : Registry) (policy : Policy) (adapter : Option (GraphAdapter σ)) (ev : PromotionEvent)
    (proposal : PromotionAnswer) (key : String) (shadow : PromotionLedger) (s : ApplyState σ) :
    Except String (ApplyAnswer × ApplyState σ) :=
  match registry.get? proposal.transitionId with
  | none => .ok (.proposalOnly proposal true "unknown_transition", s)
  | some transition =>
    match adapter with
    | none => .ok (.proposalOnly proposal true "no_adapter", s)
    | some adapter =>
      match transition.template T with
      | .error e => .error e
      | .ok template =>
        let plan := buildPlan T transition template key proposal.chainDepth (planSource T ev)
        if (plan.candidates.length : Int) > policy.maxApplyTasksPerGraph then
          .ok (.proposalOnly proposal true "max_apply_tasks_per_graph", s)
        else
          match createTasks adapter (applyTaskProfile T transition template policy) plan.candidates [] [] s.board with
          | (.error failure, board) => .ok (.failed proposal key failure transition, { s with board := board })
          | (.ok created, board) =>
            let receipt := applyReceipt T registry ev transition key proposal.chainDepth created
            let graph : AppliedGraph := ⟨key, created.map (·.taskId), created, receipt⟩
            .ok (.applied proposal transition graph, {
              ledger := commitProposal s.ledger shadow
              applied := s.applied.record T key graph
              board := adapter.recordSourceReceipt receipt board })

def applyRoadmapPromotion (registry : Option Registry) (policy : Option Policy) (adapter : Option (GraphAdapter σ))
    (ev : PromotionEvent) (s : ApplyState σ) : Except String (ApplyAnswer × ApplyState σ) :=
  let effective := (coercePolicy policy).1
  let proposed := proposeRoadmapPromotion T registry s.ledger policy ev
  let key := applyKeyFromProposal proposed.1
  let existing := if key = "" then none else s.applied.get T key
  match existing with
  | some graph => .ok (.duplicate proposed.1 key graph, s)
  | none =>
    let committed := { s with ledger := commitProposal s.ledger proposed.2 }
    if proposed.1.decision ≠ .propose then .ok (.proposalOnly proposed.1 effective.applyEnabled "", committed)
    else if !effective.applyEnabled then .ok (.proposalOnly proposed.1 false "apply_disabled", committed)
    else match registry with
      | none => .ok (.proposalOnly proposed.1 true "unknown_transition", s)
      | some registry => applyGraph T registry effective adapter ev proposed.1 key proposed.2 s

end

end AgentflowHermes.Roadmap
