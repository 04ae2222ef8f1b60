import AgentflowHermes.LoopRemediation

namespace AgentflowHermes.Loop

/-- What `_decision` is told besides the event, the action and the reason; `rounds` is the highest round of the ledger
with the one in force. -/
structure Details where
  idempotencyKey : String := ""
  verdict : String := ""
  blocker : String := ""
  candidates : List Candidate := []
  candidate : Option Intent := none
  finalVn : Int := 1
  receiptRoundNo : Option Int := none
  roundNoDerived : Option Int := none
  adapterAttempts : Nat := 0
  priorDecision : Option LoopPayload := none
  nextEligibleAt : Option Int := none
  rounds : Option (Int × Int) := none
  creator : Option CreatorResult := none

/-- `LoopDecision`, its metadata before `safe_event_payload`; the candidates of a roadmap are in its answer. -/
structure LoopDecision where
  action : LoopAction
  reason : String
  eventId : String
  sourceGraphId : String
  idempotencyKey : String
  verdict : String
  blockerClass : String
  candidates : List Candidate
  candidate : Option Intent
  applied : Bool
  adapterAttempts : Nat
  noopReason : String
  roundNoDerived : Int
  priorDecision : Option LoopPayload
  nextEligibleAt : Option Int
  rounds : Option (Int × Int)
  creator : Option CreatorResult
  roadmap : Option RoadmapOutcome := none
  receipt : LoopReceipt

/-- The ledgers and the board; a roadmap ledger that is not given is a new one each time. -/
structure LoopState (σ : Type) where
  receipts : LoopLedger := []
  promotions : Option Roadmap.PromotionLedger := none
  applied : Option Roadmap.ApplyLedger := none
  board : σ

/-- A promoter of roadmap slices, which gets no adapter. -/
abbrev Promoter :=
  Option Roadmap.Registry → Roadmap.PromotionLedger → Roadmap.Policy → Roadmap.PromotionEvent →
    Roadmap.PromotionAnswer × Roadmap.PromotionLedger

/-- What an evaluation is handed besides the event, the ledgers and the policy; `clock` is what it reads of the clock. -/
structure LoopArgs (σ : Type) where
  graphCreator : Option (GraphCreator σ) := none
  adapter : Option (LoopAdapter σ) := none
  registry : Option Roadmap.Registry := none
  promoter : Option Promoter := none
  clock : Int := 0

def subscriptionStatuses : List String := ["verified", "missing", "unverified", "not_required"]

section

variable (T : PyText)

/-- The name a receipt files its event under. -/
def safeEvent (ev : LoopEvent) : String := orText (safeDurableRef T ev.eventId) "missing_event_id"

/-- The name a receipt files its graph under. -/
def safeGraph (ev : LoopEvent) : String := orText (safeDurableRef T ev.sourceGraphId) "unknown_graph"

/-- `_decision`. A decision is applied when the adapter was called, whatever it answered. -/
def decision (ev : LoopEvent) (action : LoopAction) (reason : String) (policy : LoopPolicy) (now : Int) (d : Details := {}) :
    LoopDecision :=
  let blocker := shortText T d.blocker
  let key := safeDurableRef T (orText d.idempotencyKey
    ("loop:" ++ action.value ++ ":" ++ safeGraph T ev ++ ":" ++ safeEvent T ev))
  let receiptRoundNo := d.receiptRoundNo.getD ev.roundNo
  { action
    reason
    eventId := safeEvent T ev
    sourceGraphId := safeGraph T ev
    idempotencyKey := key
    verdict := d.verdict
    blockerClass := blocker
    candidates := d.candidates
    candidate := d.candidate
    applied := (action == .apply || action == .supersede) && 0 < d.adapterAttempts
    adapterAttempts := d.adapterAttempts
    noopReason := if action = .noop ∨ action = .escalate then reason else ""
    roundNoDerived := d.roundNoDerived.getD receiptRoundNo
    priorDecision := d.priorDecision
    nextEligibleAt := d.nextEligibleAt
    rounds := d.rounds
    creator := d.creator
    receipt := LoopReceipt.safe T {
      eventId := safeEvent T ev
      sourceTaskId := safeDurableRef T ev.sourceTaskId
      sourceGraphId := safeGraph T ev
      sourceFinalId := safeDurableRef T ev.sourceFinalId
      blockerClass := blocker
      roundNo := receiptRoundNo
      finalVn := if d.finalVn = 0 then 1 else d.finalVn
      decision := action
      idempotencyKey := key
      policyResolutionRef := safeDurableRef T ev.policyResolutionRef
      originRef := safeDurableRef T ev.origin
      returnToRef := safeDurableRef T ev.returnTo
      subscriptionStatus :=
        if subscriptionStatuses.contains ev.subscriptionStatus then ev.subscriptionStatus else "unverified"
      reason := reason
      createdAt := now
      payload := { action, reason, idempotencyKey := key, verdict := d.verdict, blockerClass := blocker }
      mode := policy.activeMode } }

/-- `_graph_policy`. -/
def graphPolicy (policy : LoopPolicy) (blocker : String) : GraphPolicy where
  applyEnabled := policy.applyEffectivelyEnabled
  activeMode := policy.activeMode
  killSwitch := policy.killSwitch
  allowlistedBlockers := if policy.allowlistedBlockers.contains blocker then [blocker] else []
  maxProposalsPerSource := policy.maxTasksPerGraph
  maxProposalsPerBlockerClass := policy.maxTasksPerGraph
  maxAutoCreatesPerRun := policy.maxAutoCreatesPerRun

/-- `_roadmap_policy`. -/
def roadmapPolicy (policy : LoopPolicy) : Roadmap.Policy where
  autoContinue := policy.roadmapAutoContinue
  allowlistedTransitions := policy.roadmapAllowlistedTransitions
  maxChainDepth := policy.roadmapMaxChainDepth
  maxPromotionsPerRoadmap := policy.roadmapMaxPromotionsPerRoadmap
  promoteCooldownSeconds := policy.roadmapPromoteCooldownSeconds
  requireReviewEdge := policy.roadmapRequireReviewEdge
  requireAckEdge := policy.roadmapRequireAckEdge
  requireTrustedAssignee := policy.roadmapRequireTrustedAssignee
  trustedAssignees := policy.roadmapTrustedAssignees
  requireOriginMatch := policy.requireOriginMatch
  expectedOrigin := policy.expectedOrigin
  expectedReturnTo := policy.expectedReturnTo
  requirePolicyResolution := policy.roadmapRequirePolicyResolution
  applyEnabled := policy.roadmapApplyEnabled && policy.applyEffectivelyEnabled
  implAssignee := policy.roadmapImplAssignee
  reviewAssignee := policy.roadmapReviewAssignee
  ackTriggerAgent := policy.roadmapAckTriggerAgent

def promotionEvent (ev : LoopEvent) (now : Int) : Roadmap.PromotionEvent where
  summary := ev.summary
  eventId := ev.eventId
  sourceFinalRef := orText ev.sourceFinalId (orText ev.sourceTaskId ev.sourceGraphId)
  sourceAssignee := ev.sourceAssignee
  origin := ev.origin
  returnTo := ev.returnTo
  subscriptionStatus := ev.subscriptionStatus
  policyResolutionRef := ev.policyResolutionRef
  chainDepth := ev.chainDepth
  occurredAt := now

/-- `cardId`: an id given by the event, or else by its card. -/
def cardId (given : String) (card : List (String × Json)) : String := orText given (cardText T card "id")

/-- `_supersession_provenance_ok`. -/
def supersessionProvenanceOk (ev : LoopEvent) : Bool :=
  safeDurableRef T (cardId T ev.sourceFinalId ev.oldFinalCard) ≠ "" &&
    safeDurableRef T (cardId T ev.remediationReviewId ev.remediationReviewCard) ≠ ""

/-- `_final_supersession_key`. -/
def finalSupersessionKey (ev : LoopEvent) : String :=
  let oldFinal := orText (safeDurableRef T (cardId T ev.sourceFinalId ev.oldFinalCard)) "old_final"
  let review := orText (safeDurableRef T (cardId T ev.remediationReviewId ev.remediationReviewCard))
    (safeDurableRef T ev.eventId)
  safeDurableRef T ("loop:final-vN:" ++ safeGraph T ev ++ ":" ++ oldFinal ++ ":" ++ review)

variable {σ : Type}

/-- `_record`. -/
def record (s : LoopState σ) (d : LoopDecision) : LoopDecision × LoopState σ :=
  (d, { s with receipts := s.receipts ++ [d.receipt] })

/-- Why an event that supersedes a final is not looked into. -/
def supersessionRefusal (ev : LoopEvent) (policy : LoopPolicy) : Option String :=
  if !policy.allowlistedBlockers.contains "stale_final_fanin" then some "blocker_not_allowlisted"
  else if !originOk ev policy then some "foreign_origin"
  else if policy.requirePolicyResolution ∧ ev.policyResolutionRef = "" then some "policy_resolution_missing"
  else if policy.requireSubscriptionVerified ∧ ev.subscriptionStatus ≠ "verified" then some "subscription_unverified"
  else if !supersessionProvenanceOk T ev then some "supersession_provenance_missing"
  else if policy.activeMode = "apply" ∧ !policy.applyEffectivelyEnabled then some "apply_disabled_by_policy"
  else none

/-- `_evaluate_supersession`. -/
def evaluateSupersession (ev : LoopEvent) (policy : LoopPolicy) (now : Int) (adapter : Option (LoopAdapter σ))
    (s : LoopState σ) : LoopDecision × LoopState σ :=
  let stale : Details := { blocker := "stale_final_fanin" }
  match supersessionRefusal T ev policy with
  | some reason => record s (decision T ev .escalate reason policy now stale)
  | none =>
    let key := finalSupersessionKey T ev
    if s.receipts.hasIdempotencyKey T key then
      record s (decision T ev .noop "existing_supersession" policy now { stale with idempotencyKey := key })
    else
      let oldFinal := if ev.oldFinalCard = [] then
        [("id", .str ev.sourceFinalId), ("status", .str "blocked")] else ev.oldFinalCard
      let review := if ev.remediationReviewCard = [] then
        [("id", .str ev.remediationReviewId), ("body", .str (orText ev.summary "Verdict: GO"))] else ev.remediationReviewCard
      let (result, board) := resolveStaleFinalCandidate T oldFinal review ev.origin ev.returnTo
        (graphPolicy policy "stale_final_fanin") adapter s.board
      let s := { s with board }
      if !result.success then
        record s (decision T ev .escalate (orText result.error "supersession_failed") policy now stale)
      else
        record s (decision T ev .supersede "final_vn_proposal" policy now { stale with
          idempotencyKey := key
          verdict := "GO"
          candidate := result.candidate
          finalVn := s.receipts.currentFinalVn T ev.sourceGraphId + 1
          roundNoDerived := some (s.receipts.maxRoundForGraph T ev.sourceGraphId)
          adapterAttempts := result.adapterAttempts
          creator := some result })

/-- `_attach_roadmap_autopromote`; a roadmap template that does not resolve is an exception. -/
def attachRoadmapAutopromote (d : LoopDecision) (ev : LoopEvent) (policy : LoopPolicy) (now : Int) (args : LoopArgs σ)
    (adapter : Option (LoopAdapter σ)) (s : LoopState σ) : Except String (LoopDecision × LoopState σ) :=
  if !policy.roadmapAutoContinue then .ok (d, s)
  else
    let roadmap := roadmapPolicy policy
    let promotion := promotionEvent ev now
    let attach (outcome : RoadmapOutcome) : LoopDecision := { d with
      roadmap := some outcome
      receipt := LoopReceipt.safe T
        { d.receipt with payload := { d.receipt.payload with roadmap := some outcome } } }
    match (if roadmap.applyEnabled then adapter else none) with
    | some adapter => do
      let (answer, after) ← Roadmap.applyRoadmapPromotion T args.registry (some roadmap) (some adapter.toGraphAdapter)
        promotion ⟨s.promotions.getD [], s.applied.getD [], s.board⟩
      return (attach (.applied answer), { s with
        promotions := s.promotions.map fun _ => after.ledger
        applied := s.applied.map fun _ => after.applied
        board := after.board })
    | none =>
      let promote : Promoter := args.promoter.getD fun registry ledger policy ev =>
        Roadmap.proposeRoadmapPromotion T registry ledger (some policy) ev
      let (answer, ledger) := promote args.registry (s.promotions.getD []) roadmap promotion
      .ok (attach (.proposed answer), { s with promotions := s.promotions.map fun _ => ledger })

/-- What a BLOCK is asked for before a graph is made of it: the highest round of the ledger with the one in force, or
the action, the reason and the details it stops with. -/
def boundedRound (ev : LoopEvent) (policy : LoopPolicy) (now : Int) (blocker : String) (ledger : LoopLedger) :
    Except (LoopAction × String × Details) (Int × Int) :=
  let blocked : Details := { verdict := "BLOCK", blocker }
  if blocker = "" then .error (.escalate, "unknown_blocker", blocked)
  else if !policy.allowlistedBlockers.contains blocker then .error (.escalate, "blocker_not_allowlisted", blocked)
  else if policy.requirePolicyResolution ∧ ev.policyResolutionRef = "" then
    .error (.escalate, "policy_resolution_missing", blocked)
  else if policy.requireSubscriptionVerified ∧ ev.subscriptionStatus ≠ "verified" then
    .error (.escalate, "subscription_unverified", blocked)
  else
    let ledgerMaxRound := ledger.maxRoundForGraph T ev.sourceGraphId
    let effectiveRound := max ev.roundNo ledgerMaxRound
    if effectiveRound ≥ policy.maxRounds then
      .error (.escalate, "max_rounds", { blocked with rounds := some (ledgerMaxRound, effectiveRound) })
    else if (ledger.countBlocker T ev.sourceGraphId blocker : Int) ≥ policy.maxSameBlocker then
      .error (.escalate, "max_same_blocker", blocked)
    else
      let cooldown := policy.cooldownSeconds * 1000000
      match (ledger.lastActionTime T ev.sourceGraphId blocker).filter fun last => now - last < cooldown with
      | some last => .error (.noop, "cooldown", { blocked with nextEligibleAt := some (last + cooldown) })
      | none =>
        if policy.activeMode = "observe_only" then .error (.noop, "observe_only", blocked)
        else if policy.activeMode = "apply" ∧ !policy.applyEffectivelyEnabled then
          .error (.escalate, "apply_disabled_by_policy", blocked)
        else .ok (ledgerMaxRound, effectiveRound)

/-- A BLOCK: bounded remediation, or the reason against it. -/
def evaluateBlock (ev : LoopEvent) (policy : LoopPolicy) (now : Int) (blocker : String) (args : LoopArgs σ)
    (adapter : Option (LoopAdapter σ)) (s : LoopState σ) : LoopDecision × LoopState σ :=
  match boundedRound T ev policy now blocker s.receipts with
  | .error (action, reason, details) => record s (decision T ev action reason policy now details)
  | .ok (ledgerMaxRound, effectiveRound) =>
    let creator := args.graphCreator.getD (proposeRemediationGraph T)
    let (result, board) := creator {
      summary := orText ev.summary ("Verdict: BLOCK — " ++ blocker)
      sourceRef := orText ev.sourceTaskId ev.sourceGraphId
      origin := ev.origin
      returnTo := ev.returnTo
      policy := graphPolicy policy blocker } adapter s.board
    let action : LoopAction := if policy.applyEffectivelyEnabled then .apply else .propose
    record { s with board } (decision T ev action "bounded_remediation" policy now {
      verdict := "BLOCK"
      blocker
      candidates := result.candidates
      receiptRoundNo := some (effectiveRound + 1)
      roundNoDerived := some (effectiveRound + 1)
      rounds := some (ledgerMaxRound, effectiveRound)
      adapterAttempts := result.adapterAttempts
      creator := some result })

/-- The time of an evaluation. -/
def timeOf (ev : LoopEvent) (clock : Int) : Int := if ev.occurredAt = 0 then clock else ev.occurredAt

/-- Whether an event is about a final that a review supersedes. -/
def supersedes (ev : LoopEvent) : Bool :=
  ["remediation_review_go", "stale_final_block"].contains ev.eventType ||
    (!ev.oldFinalCard.isEmpty && !ev.remediationReviewCard.isEmpty)

/-- `evaluate_loop_event`; the error is the exception, after which nothing is recorded. -/
def evaluateLoopEvent (given : Option LoopPolicy) (args : LoopArgs σ) (ev : LoopEvent) (s : LoopState σ) :
    Except String (LoopDecision × LoopState σ) :=
  let (policy, malformed) := coercePolicy given
  let now := timeOf ev args.clock
  let adapter := if policy.applyEffectivelyEnabled then args.adapter else none
  if s.receipts.hasEvent T ev.eventId then
    .ok (decision T ev .noop "duplicate_event" policy now
      { priorDecision := s.receipts.decisionForEvent T ev.eventId }, s)
  else if malformed then .ok (record s (decision T ev .escalate "malformed_policy" policy now))
  else if policy.killSwitch then .ok (record s (decision T ev .escalate "kill_switch" policy now))
  else if policy.activeMode = "disabled" then .ok (record s (decision T ev .noop "disabled" policy now))
  else if !originOk ev policy then .ok (record s (decision T ev .escalate "foreign_origin" policy now))
  else if supersedes ev then .ok (evaluateSupersession T ev policy now adapter s)
  else
    let parsed := parseVerdictSummary T ev.summary
    let verdict := asciiUpper (orText ev.verdict parsed.verdict)
    let blocker := shortText T (orText ev.blockerClass (parsed.blockers.headD ""))
    if verdict = "GO" then do
      let d := decision T ev .stabilize "go_terminal" policy now { verdict }
      let (d, s) ← attachRoadmapAutopromote T d ev policy now args adapter s
      return record s d
    else if verdict = "NEED_MORE" then .ok (record s (decision T ev .escalate "needs_input" policy now { verdict }))
    else if verdict ≠ "BLOCK" then .ok (record s (decision T ev .escalate "unknown_verdict" policy now { verdict }))
    else .ok (evaluateBlock T ev policy now blocker args adapter s)

end

end AgentflowHermes.Loop
