import AgentflowHermes.RoadmapTransitions

namespace AgentflowHermes.Roadmap

open BacktrackRegex

/-- The `metadata` of a candidate. The last three are set when a graph is applied. -/
structure CandidateMetadata where
  roadmapId : String
  transitionId : String
  fromSlice : String
  toSlice : String
  chainDepth : Int
  sourceFinalRef : String
  templatePreset : String
  templateRole : String
  goalAnchor : String
  assignee : String := ""
  acceptanceCriteria : String := ""
  ackTriggerAgent : String := ""

/-- `GraphIntentCandidate`, as the roadmap makes one. -/
structure Candidate where
  kind : String
  blocker : String := "roadmap_promotion"
  title : String
  idempotencyKey : String
  origin : String
  returnTo : String
  policyRefs : List String
  subscriptionRequired : Bool := true
  supersedes : String
  metadata : CandidateMetadata
  body : String
  parentKey : String

/-- `NextSlicePlan`. -/
structure Plan where
  transitionId : String
  roadmapId : String
  chainDepth : Int
  idempotencyKey : String
  candidates : List Candidate

def policyRefBody (refs : List String) : String :=
  if refs = [] then ""
  else "\n".intercalate (["Policy refs:"] ++ refs.map (fun ref => "- policy:model." ++ ref) ++
    ["Resolved preview: informational, non-binding, redacted.", "Workers must resolve PolicyRef values at run time."])

section

variable (T : PyText)

def CandidateMetadata.safe (m : CandidateMetadata) : CandidateMetadata :=
  { m with
    roadmapId := safeJobField T "roadmap_id" m.roadmapId
    transitionId := safeJobField T "transition_id" m.transitionId
    fromSlice := safeJobField T "from_slice" m.fromSlice
    toSlice := safeJobField T "to_slice" m.toSlice
    sourceFinalRef := safeDurableRef T m.sourceFinalRef
    templatePreset := safeJobField T "template_preset" m.templatePreset
    goalAnchor := safeJobField T "goal_anchor" m.goalAnchor }

/-- `GraphIntentCandidate.as_dict`. -/
def Candidate.asDict (c : Candidate) : Candidate :=
  { c with
    kind := safeJobField T "kind" c.kind
    title := safeJobField T "title" c.title
    idempotencyKey := safeJobField T "idempotency_key" c.idempotencyKey
    origin := safeJobField T "origin" c.origin
    returnTo := safeJobField T "return_to" c.returnTo
    policyRefs := c.policyRefs.map (safeJobField T "policy_refs")
    supersedes := safeJobField T "supersedes" c.supersedes
    metadata := c.metadata.safe T
    body := safeJobField T "body" c.body
    parentKey := safeJobField T "parent_key" c.parentKey }

/-- The event a plan is made for, its references made durable. -/
structure PlanSource where
  sourceFinalRef : String
  origin : String
  returnTo : String

/-- What the body of a review or a terminal card ends with. -/
def roleLines (t : Transition) (s : PlanSource) : StepRole → List String
  | .work => []
  | .review => [
    "",
    "Review output requirements:",
    "- Emit Verdict: GO or Verdict: BLOCK/NEED_MORE.",
    "- If GO, include the continuation markers exactly so the terminal step can preserve them:",
    "  Review-Edge: verified",
    "  Parent-GO: verified",
    "  Roadmap-Transition: " ++ t.transitionId,
    "  Next-Slice: " ++ t.toSlice,
    "- Do not set Auto-Continue: true unless this is the final terminal ACK and the next transition is intentionally approved."]
  | .terminal => [
    "",
    "Final ACK schema (fill all fields; use none/n/a explicitly when absent):",
    "Verdict: GO|BLOCK|NEED_MORE",
    "Slice: " ++ t.toSlice,
    "Evidence: <sources/artifacts or n/a>",
    "Commit: <sha or none>",
    "Tests: <commands/results or n/a>",
    "Runtime smoke: <command/result or n/a>",
    "Next: <human-readable next action>",
    "Roadmap-Transition: " ++ t.transitionId,
    "Next-Slice: " ++ t.toSlice,
    "Review-Edge: verified|missing",
    "ACK-Edge: verified|missing",
    "Parent-GO: verified|missing",
    "Auto-Continue: false",
    "Origin/return_to: " ++ shortText T s.origin,
    "Return-To: " ++ shortText T (orText s.returnTo s.origin),
    "Subscription-Status: verified",
    "Policy-Resolution-Ref: <central policy/config ref>"]

/-- `_candidate_body`; a short text is never cut again at 700 characters. -/
def candidateBody (t : Transition) (template : ResolvedTemplate T) (step : TemplateStep) (s : PlanSource) : String :=
  let base := policyRefBody t.policyRefs
  "\n".intercalate ((if base = "" then [] else [base]) ++ [
    "Roadmap context:",
    "Lane: " ++ template.lane,
    "Template-Preset: " ++ template.name,
    "Goal anchor: " ++ shortText T template.goalAnchor,
    "Roadmap-Transition: " ++ t.transitionId,
    "Slice: " ++ t.toSlice,
    "Step: " ++ step.kind,
    "Role: " ++ step.role.value,
    "Source-Final-Ref: " ++ s.sourceFinalRef,
    "",
    "Step objective:",
    shortText T step.objective] ++ roleLines T t s step.role)

def candidate (t : Transition) (template : ResolvedTemplate T) (key : String) (depth : Int) (s : PlanSource)
    (parentKey : String) (step : TemplateStep) : Candidate where
  kind := step.kind
  title := t.toSlice ++ " " ++ step.kind ++ " [" ++ t.transitionId ++ "]"
  idempotencyKey := key ++ ":" ++ step.kind
  origin := shortText T s.origin
  returnTo := shortText T (orText s.returnTo s.origin)
  policyRefs := t.policyRefs
  supersedes := s.sourceFinalRef
  metadata := {
    roadmapId := t.roadmapId
    transitionId := t.transitionId
    fromSlice := t.fromSlice
    toSlice := t.toSlice
    chainDepth := depth
    sourceFinalRef := s.sourceFinalRef
    templatePreset := orText t.templatePreset template.name
    templateRole := step.role.value
    goalAnchor := template.goalAnchor }
  body := candidateBody T t template step s
  parentKey := parentKey

/-- The loop of `_build_plan`: each card follows the one before it. -/
def candidates (t : Transition) (template : ResolvedTemplate T) (key : String) (depth : Int) (s : PlanSource) :
    String → List TemplateStep → List Candidate
  | _, [] => []
  | parentKey, step :: rest =>
    candidate T t template key depth s parentKey step ::
      candidates t template key depth s (key ++ ":" ++ step.kind) rest

/-- `_build_plan`, for the template that the transition resolves to. -/
def buildPlan (t : Transition) (template : ResolvedTemplate T) (key : String) (depth : Int) (s : PlanSource) : Plan where
  transitionId := t.transitionId
  roadmapId := t.roadmapId
  chainDepth := depth
  idempotencyKey := key
  candidates := candidates T t template key depth s "" template.steps

end

section

variable {T : PyText} {t : Transition} {template : ResolvedTemplate T} {key : String} {depth : Int} {s : PlanSource}

theorem candidates_keys (parentKey : String) (steps : List TemplateStep) :
    (candidates T t template key depth s parentKey steps).map (·.idempotencyKey) =
      (steps.map TemplateStep.kind).map (key ++ ":" ++ ·) := by
  induction steps generalizing parentKey with
  | nil => rfl
  | cons step rest ih =>
    have later := ih (key ++ ":" ++ step.kind)
    simpa [candidates, candidate] using later

/-- The cards of a plan have different keys. -/
theorem candidates_distinct (parentKey : String) :
    ((candidates T t template key depth s parentKey template.steps).map (·.idempotencyKey)).Pairwise (· ≠ ·) := by
  rw [candidates_keys]
  refine List.Pairwise.map _ (fun a b apart same => apart ?_) template.distinct
  exact (String.append_right_inj _).mp same

end

/-- What `propose_roadmap_promotion` answers. A field that an answer does not have is empty. -/
structure PromotionAnswer where
  decision : Decision
  reason : String
  verdict : String := ""
  transitionId : String := ""
  roadmapId : String := ""
  eventId : String := ""
  sourceFinalRef : String := ""
  chainDepth : Int := 0
  idempotencyKey : String := ""
  candidates : List Candidate := []
  nextEligibleAt : Option Int := none
  receipt : Option PromotionReceipt := none
  priorDecision : Option DecisionPayload := none
  createdAt : Option Int := none

/-- Why an event is not promoted. -/
structure Declined where
  decision : Decision
  reason : String
  verdict : String := "GO"
  transitionId : String := ""
  roadmapId : String := ""
  idempotencyKey : String := ""
  nextEligibleAt : Option Int := none

/-- A transition that an event asks for, with the id it asks by; the registry need not file it under its own. -/
structure Admitted (T : PyText) where
  named : String
  transition : Transition
  template : ResolvedTemplate T

/-- A promotion within the caps. -/
structure Promotion (T : PyText) extends Admitted T where
  key : String
  depth : Int

section

variable (T : PyText)

def safeEvent (eventId : String) : String := orText (safeDurableRef T eventId) "missing_event_id"

def safeSource (sourceFinalRef : String) : String := orText (safeDurableRef T sourceFinalRef) "source_final"

/-- `safe_event_payload` on an answer. -/
def PromotionAnswer.safe (a : PromotionAnswer) : PromotionAnswer :=
  { a with
    verdict := safeJobField T "verdict" a.verdict
    transitionId := safeJobField T "transition_id" a.transitionId
    roadmapId := safeJobField T "roadmap_id" a.roadmapId
    eventId := safeJobField T "event_id" a.eventId
    sourceFinalRef := safeDurableRef T a.sourceFinalRef
    idempotencyKey := safeJobField T "idempotency_key" a.idempotencyKey
    candidates := a.candidates.map (Candidate.asDict T)
    receipt := a.receipt.map (PromotionReceipt.safe T)
    priorDecision := a.priorDecision.map (DecisionPayload.safe T) }

/-- The transition the event asks for, if the policy, the registry and the text let it through. -/
def requested (policy : Policy) (registry : Option Registry) (ev : PromotionEvent) :
    Except Declined (Directive × Admitted T) :=
  let verdict := verdictOf T ev.summary
  if verdict ≠ "GO" then .error { decision := .refuse, reason := "not_go", verdict := orText verdict "UNKNOWN" }
  else if !policy.autoContinue then .error { decision := .noop, reason := "autopromote_disabled" }
  else match parseNextSliceDirective T ev.summary with
    | none => .error { decision := .refuse, reason := "missing_next_slice" }
    | some directive =>
      let unknown : Declined :=
        { decision := .refuse, reason := "unknown_transition", transitionId := directive.transitionId }
      if !directive.autoContinue then .error { unknown with decision := .noop, reason := "autopromote_disabled" }
      else if !policy.allowlistedTransitions.contains directive.transitionId then .error unknown
      else match registry.bind fun r => r.get? directive.transitionId with
        | none => .error unknown
        | some transition =>
          match validateTransition T transition with
          | .error _ => .error unknown
          | .ok template => .ok (directive, ⟨directive.transitionId, transition, template⟩)

/-- The edges, the origin and the policy reference of a requested transition. -/
def evidenced (policy : Policy) (ev : PromotionEvent) (directive : Directive) (t : Transition) : Option String :=
  if directive.nextSlice ≠ t.toSlice then some "unknown_transition"
  else if !summaryOriginEvidenceOk T ev.summary policy then some "foreign_origin"
  else if policy.requireReviewEdge && (!directive.reviewEdge || !directive.parentGo) then some "missing_review_edge"
  else if policy.requireAckEdge && (!directive.ackEdge || ev.subscriptionStatus != "verified") then
    some (if directive.ackEdge then "subscription_unverified" else "missing_ack_edge")
  else if policy.requireTrustedAssignee && !policy.trustedAssignees.contains ev.sourceAssignee then
    some "untrusted_assignee"
  else if !originOk ev.origin ev.returnTo policy then some "foreign_origin"
  else if policy.requirePolicyResolution && ev.policyResolutionRef == "" then some "policy_unresolved"
  else if search (staleInlinePolicyRe T) ev.summary.toList then some "stale_inline_route"
  else none

/-- The gates that do not look at the ledger. -/
def passGates (policy : Policy) (malformed : Bool) (registry : Option Registry) (ev : PromotionEvent) :
    Except Declined (Admitted T) :=
  if malformed then .error { decision := .refuse, reason := "malformed_policy", verdict := "" }
  else match requested T policy registry ev with
    | .error d => .error d
    | .ok (directive, a) =>
      match evidenced T policy ev directive a.transition with
      | some reason => .error {
          decision := .refuse, reason := reason
          transitionId := a.named, roadmapId := a.transition.roadmapId }
      | none => .ok a

/-- `_promotion_key`. -/
def promotionKey (t : Transition) (sourceFinalRef : String) (depth : Int) : String :=
  let digest := String.ofList ((sha256Hex (t.transitionId ++ ":" ++ sourceFinalRef)).toList.take 16)
  safeDurableRef T ("roadmap:" ++ t.roadmapId ++ ":promote:" ++ t.transitionId ++ ":" ++ toString depth ++ ":" ++ digest)

def cooldownMicros (policy : Policy) : Int := policy.promoteCooldownSeconds * 1000000

/-- The caps of a roadmap, by what the ledger has of it. -/
def withinCaps (policy : Policy) (ledger : PromotionLedger) (ev : PromotionEvent) (a : Admitted T) :
    Except Declined (Promotion T) :=
  let roadmapId := a.transition.roadmapId
  let declined : Declined :=
    { decision := .refuse, reason := "max_chain_depth", transitionId := a.named, roadmapId := roadmapId }
  let effectiveDepth := max ev.chainDepth (ledger.currentChainDepth T roadmapId)
  if effectiveDepth ≥ min policy.maxChainDepth a.transition.maxChainDepth then .error declined
  else if (ledger.countPromotions T roadmapId : Int) ≥ policy.maxPromotionsPerRoadmap then
    .error { declined with reason := "max_promotions_per_roadmap" }
  else
    let early := (ledger.lastPromotionTime T roadmapId).filter fun last => ev.occurredAt - last < cooldownMicros policy
    match early with
    | some last =>
      .error { declined with decision := .noop, reason := "cooldown", nextEligibleAt := some (last + cooldownMicros policy) }
    | none =>
      let key := promotionKey T a.transition (safeSource T ev.sourceFinalRef) (effectiveDepth + 1)
      if ledger.hasPromotionKey T key then
        .error { declined with decision := .noop, reason := "existing_promotion", idempotencyKey := key }
      else .ok { a with key := key, depth := effectiveDepth + 1 }

/-- `_receipt` of a declined event. -/
def Declined.receipt (d : Declined) (ev : PromotionEvent) : PromotionReceipt :=
  let key := orText d.idempotencyKey ("roadmap:" ++ d.decision.value ++ ":" ++ safeEvent T ev.eventId)
  PromotionReceipt.safe T {
    eventId := safeEvent T ev.eventId
    idempotencyKey := key
    sourceFinalRef := safeSource T ev.sourceFinalRef
    roadmapId := d.roadmapId
    transitionId := d.transitionId
    chainDepth := 0
    decision := d.decision
    reason := d.reason
    originRef := ""
    returnToRef := ""
    subscriptionStatus := "unverified"
    policyResolutionRef := ""
    registryRef := ""
    registryHash := ""
    createdAt := ev.occurredAt
    payload := ⟨d.decision, d.reason, key, d.transitionId⟩ }

def knownStatus (status : String) : String :=
  if ["verified", "missing", "unverified", "not_required"].contains status then status else "unverified"

/-- `_receipt` of a promotion. -/
def Promotion.receipt (p : Promotion T) (registry : Option Registry) (ev : PromotionEvent) : PromotionReceipt :=
  PromotionReceipt.safe T {
    eventId := safeEvent T ev.eventId
    idempotencyKey := p.key
    sourceFinalRef := safeSource T ev.sourceFinalRef
    roadmapId := p.transition.roadmapId
    transitionId := p.transition.transitionId
    chainDepth := p.depth
    decision := .propose
    reason := "roadmap_promotion_proposed"
    originRef := safeDurableRef T ev.origin
    returnToRef := safeDurableRef T ev.returnTo
    subscriptionStatus := knownStatus ev.subscriptionStatus
    policyResolutionRef := safeDurableRef T ev.policyResolutionRef
    registryRef := (registry.map (·.sourceRef)).getD ""
    registryHash := (registry.map (·.contentHash)).getD ""
    createdAt := ev.occurredAt
    payload := ⟨.propose, "roadmap_promotion_proposed", p.key, p.transition.transitionId⟩ }

def planSource (ev : PromotionEvent) : PlanSource := ⟨safeSource T ev.sourceFinalRef, ev.origin, ev.returnTo⟩

def Promotion.plan (p : Promotion T) (ev : PromotionEvent) : Plan :=
  buildPlan T p.transition p.template p.key p.depth (planSource T ev)

/-- `_result` of an event that the ledger has a receipt of. -/
def duplicateEvent (ev : PromotionEvent) (prior : Option DecisionPayload) : PromotionAnswer :=
  PromotionAnswer.safe T {
    decision := .noop
    reason := "duplicate_event"
    eventId := safeEvent T ev.eventId
    sourceFinalRef := safeSource T ev.sourceFinalRef
    priorDecision := prior
    createdAt := some ev.occurredAt }

/-- `_result` of a declined event. -/
def Declined.answer (d : Declined) (ev : PromotionEvent) : PromotionAnswer :=
  PromotionAnswer.safe T {
    decision := d.decision
    reason := d.reason
    verdict := d.verdict
    transitionId := d.transitionId
    roadmapId := d.roadmapId
    eventId := safeEvent T ev.eventId
    sourceFinalRef := safeSource T ev.sourceFinalRef
    nextEligibleAt := d.nextEligibleAt
    receipt := some (d.receipt T ev)
    createdAt := some ev.occurredAt }

def Promotion.answer (p : Promotion T) (registry : Option Registry) (ev : PromotionEvent) : PromotionAnswer :=
  PromotionAnswer.safe T {
    decision := .propose
    reason := "roadmap_promotion_proposed"
    verdict := "GO"
    transitionId := p.transition.transitionId
    roadmapId := p.transition.roadmapId
    chainDepth := p.depth
    idempotencyKey := p.key
    candidates := (p.plan T ev).candidates.map (Candidate.asDict T)
    receipt := some (p.receipt T registry ev) }

/-- What the gates and the caps say about an event that the ledger has no receipt of. -/
def judge (registry : Option Registry) (ledger : PromotionLedger) (policy : Option Policy) (ev : PromotionEvent) :
    Except Declined (Promotion T) :=
  let effective := coercePolicy policy
  match passGates T effective.1 effective.2 registry ev with
  | .error d => .error d
  | .ok a => withinCaps T effective.1 ledger ev a

def proposeRoadmapPromotion (registry : Option Registry) (ledger : PromotionLedger) (policy : Option Policy)
    (ev : PromotionEvent) : PromotionAnswer × PromotionLedger :=
  if ledger.hasEvent T (safeEvent T ev.eventId) then
    (duplicateEvent T ev (ledger.decisionForEvent T (safeEvent T ev.eventId)), ledger)
  else match judge T registry ledger policy ev with
    | .error d => (d.answer T ev, ledger.record T (d.receipt T ev))
    | .ok p => (p.answer T registry ev, ledger.record T (p.receipt T registry ev))

end

end AgentflowHermes.Roadmap
