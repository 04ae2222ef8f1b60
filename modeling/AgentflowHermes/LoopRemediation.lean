import AgentflowHermes.JobStates
import AgentflowHermes.RoadmapApply

namespace AgentflowHermes.Loop

/-- `LoopPolicy`, with times in seconds. -/
structure LoopPolicy where
  activeMode : String := "request_only"
  applyEnabled : Bool := false
  killSwitch : Bool := false
  allowlistedBlockers : List String := []
  maxRounds : Int := 2
  maxSameBlocker : Int := 1
  maxAutoCreatesPerRun : Int := 3
  maxTasksPerGraph : Int := 9
  cooldownSeconds : Int := 900
  backoffMultiplier : Rat := 2
  requireSubscriptionVerified : Bool := true
  requireOriginMatch : Bool := true
  requirePolicyResolution : Bool := true
  expectedOrigin : String := ""
  expectedReturnTo : String := ""
  roadmapAutoContinue : Bool := false
  roadmapAllowlistedTransitions : List String := []
  roadmapMaxChainDepth : Int := 3
  roadmapMaxPromotionsPerRoadmap : Int := 6
  roadmapPromoteCooldownSeconds : Int := 900
  roadmapRequireReviewEdge : Bool := true
  roadmapRequireAckEdge : Bool := true
  roadmapRequireTrustedAssignee : Bool := true
  roadmapTrustedAssignees : List String := []
  roadmapRequirePolicyResolution : Bool := true
  roadmapApplyEnabled : Bool := false
  roadmapImplAssignee : String := ""
  roadmapReviewAssignee : String := ""
  roadmapAckTriggerAgent : String := ""
  roadmapBoardAdapterMode : String := "fake"

/-- `LoopEvent`; a card that is not given is empty, and `occurredAt` is in microseconds. -/
structure LoopEvent where
  eventId : String
  sourceGraphId : String
  verdict : String := ""
  summary : String := ""
  eventType : String := "terminal_task_verdict"
  sourceTaskId : String := ""
  blockerClass : String := ""
  origin : String := ""
  returnTo : String := ""
  subscriptionStatus : String := "unverified"
  policyResolutionRef : String := ""
  roundNo : Int := 0
  occurredAt : Int := 0
  sourceFinalId : String := ""
  remediationReviewId : String := ""
  sourceAssignee : String := ""
  chainDepth : Int := 0
  oldFinalCard : List (String × Json) := []
  remediationReviewCard : List (String × Json) := []

inductive LoopAction
  | propose
  | apply
  | supersede
  | stabilize
  | escalate
  | noop
  deriving DecidableEq

namespace LoopAction

def value : LoopAction → String
  | propose => "propose"
  | apply => "apply"
  | supersede => "supersede"
  | stabilize => "stabilize"
  | escalate => "escalate"
  | noop => "noop"

/-- Whether a decision counts towards the caps of its blocker. -/
def counted (a : LoopAction) : Bool := a == propose || a == apply || a == supersede

end LoopAction

/-- What came of a GO at the roadmap. -/
inductive RoadmapOutcome
  | proposed (answer : Roadmap.PromotionAnswer)
  | applied (answer : Roadmap.ApplyAnswer)

/-- The `decision_payload` of a receipt; `roadmap` is the answer its `roadmap_autopromote` is made of. -/
structure LoopPayload where
  action : LoopAction
  reason : String
  idempotencyKey : String
  verdict : String
  blockerClass : String
  roadmap : Option RoadmapOutcome := none

/-- A receipt of the loop ledger. -/
structure LoopReceipt where
  eventId : String
  sourceTaskId : String
  sourceGraphId : String
  sourceFinalId : String
  blockerClass : String
  roundNo : Int
  finalVn : Int
  decision : LoopAction
  idempotencyKey : String
  policyResolutionRef : String
  originRef : String
  returnToRef : String
  subscriptionStatus : String
  reason : String
  createdAt : Int
  payload : LoopPayload
  mode : String

section

variable (T : PyText)

def LoopPayload.safe (p : LoopPayload) : LoopPayload :=
  { p with
    reason := safeJobField T "reason" p.reason
    idempotencyKey := safeJobField T "idempotency_key" p.idempotencyKey
    verdict := safeJobField T "verdict" p.verdict
    blockerClass := safeJobField T "blocker_class" p.blockerClass }

/-- `safe_event_payload` on a receipt. -/
def LoopReceipt.safe (r : LoopReceipt) : LoopReceipt :=
  { r with
    eventId := safeJobField T "event_id" r.eventId
    sourceTaskId := safeJobField T "source_task_id" r.sourceTaskId
    sourceGraphId := safeJobField T "source_graph_id" r.sourceGraphId
    sourceFinalId := safeJobField T "source_final_id" r.sourceFinalId
    blockerClass := safeJobField T "blocker_class" r.blockerClass
    idempotencyKey := safeJobField T "idempotency_key" r.idempotencyKey
    policyResolutionRef := safeDurableRef T r.policyResolutionRef
    originRef := safeDurableRef T r.originRef
    returnToRef := safeDurableRef T r.returnToRef
    subscriptionStatus := safeJobField T "subscription_status" r.subscriptionStatus
    reason := safeJobField T "reason" r.reason
    payload := r.payload.safe T
    mode := safeJobField T "mode" r.mode }

/-- `InMemoryLoopLedger.receipts`. -/
abbrev LoopLedger := List LoopReceipt

namespace LoopLedger

variable (ledger : LoopLedger)

def hasEvent (eventId : String) : Bool := ledger.any fun r => r.eventId = safeDurableRef T eventId

def decisionForEvent (eventId : String) : Option LoopPayload :=
  (ledger.reverse.find? fun r => r.eventId = safeDurableRef T eventId).map LoopReceipt.payload

def hasIdempotencyKey (key : String) : Bool := ledger.any fun r => r.idempotencyKey = safeDurableRef T key

/-- The receipts of a graph. -/
def ofGraph (graph : String) : List LoopReceipt := ledger.filter fun r => r.sourceGraphId = safeDurableRef T graph

/-- The receipts of a graph that count for a blocker. -/
def ofBlocker (graph blocker : String) : List LoopReceipt :=
  (ledger.ofGraph T graph).filter fun r => r.blockerClass = shortText T blocker && r.decision.counted

def countBlocker (graph blocker : String) : Nat := (ledger.ofBlocker T graph blocker).length

def maxRoundForGraph (graph : String) : Int := (((ledger.ofGraph T graph).map LoopReceipt.roundNo).max?).getD 0

/-- `last_action_time` over the decisions that count. -/
def lastActionTime (graph blocker : String) : Option Int :=
  ((ledger.ofBlocker T graph blocker).map LoopReceipt.createdAt).max?

def currentFinalVn (graph : String) : Int :=
  (((ledger.ofGraph T graph).map fun r => if r.finalVn = 0 then 1 else r.finalVn).max?).getD 1

end LoopLedger

end

def validModes : List String := ["disabled", "observe_only", "request_only", "apply"]

namespace LoopPolicy

variable (p : LoopPolicy)

/-- What `_coerce_policy` refuses of a `LoopPolicy` whose fields have their types. -/
def malformed : Bool :=
  !validModes.contains p.activeMode || !(["fake", "real"].contains p.roadmapBoardAdapterMode) ||
    [p.maxRounds, p.maxSameBlocker, p.maxAutoCreatesPerRun, p.maxTasksPerGraph, p.cooldownSeconds,
      p.roadmapMaxChainDepth, p.roadmapMaxPromotionsPerRoadmap, p.roadmapPromoteCooldownSeconds].any (· < 0) ||
    p.backoffMultiplier < 1

/-- `_apply_effectively_enabled`. -/
def applyEffectivelyEnabled : Bool := p.activeMode = "apply" && p.applyEnabled

end LoopPolicy

/-- `_coerce_policy`: the policy in force, and whether the given one was malformed. -/
def coercePolicy : Option LoopPolicy → LoopPolicy × Bool
  | none => ({}, false)
  | some p => if p.malformed then ({ killSwitch := true }, true) else (p, false)

def originOk (ev : LoopEvent) (p : LoopPolicy) : Bool :=
  !p.requireOriginMatch ||
    ((p.expectedOrigin = "" || ev.origin = p.expectedOrigin) &&
      (p.expectedReturnTo = "" || ev.returnTo = p.expectedReturnTo))

open BacktrackRegex BacktrackRegex.Pattern

/-- `RemediationGraphPolicy`. -/
structure GraphPolicy where
  applyEnabled : Bool := false
  activeMode : String := "request_only"
  killSwitch : Bool := false
  allowlistedBlockers : List String := []
  maxProposalsPerSource : Int := 3
  maxProposalsPerBlockerClass : Int := 2
  maxAutoCreatesPerRun : Int := 5

/-- `GraphIntentCandidate`, as a remediation makes one; what is constant in its metadata is left out. -/
structure Intent where
  kind : String
  blocker : String
  title : String
  idempotencyKey : String
  origin : String
  returnTo : String
  policyRefs : List String
  subscriptionRequired : Bool := true
  supersedes : String := ""
  metadata : List (String × String)
  body : String
  parentKey : String := ""

/-- What is proposed for a step: an intent, or a no-op with its reason. -/
inductive Candidate
  | intent (i : Intent)
  | noop (idempotencyKey blocker reason : String)

/-- A board writer that takes remediation intents besides roadmap candidates. -/
structure LoopAdapter (σ : Type) extends Roadmap.GraphAdapter σ where
  createIntent : Intent → σ → Roadmap.CreateResult × σ
  listExisting : String → σ → Bool

/-- What a graph creator answers. -/
structure CreatorResult where
  success : Bool
  error : String := ""
  candidates : List Candidate := []
  candidate : Option Intent := none
  adapterAttempts : Nat := 0

/-- The arguments of a graph creator. -/
structure RemediationRequest where
  summary : String
  sourceRef : String
  origin : String
  returnTo : String
  policy : GraphPolicy

abbrev GraphCreator (σ : Type) := RemediationRequest → Option (LoopAdapter σ) → σ → CreatorResult × σ

def blockerPolicyRefs (blocker : String) : List String :=
  if blocker = "stale_inline_route" ∨ blocker = "stale_final_fanin" then ["design_opus", "implementation_default"]
  else if blocker = "missing_subscription" then ["implementation_default"]
  else []

/-- `_candidate_sequence`. -/
def candidateSequence (blocker : String) : List String :=
  if blocker = "stale_trust_grant_wording" then ["fix", "review"] else ["fix", "review", "final-vN"]

def titleByBlocker (blocker : String) : String :=
  if blocker = "stale_inline_route" then "PolicyRef migration for stale inline route"
  else if blocker = "stale_trust_grant_wording" then "Fix stale trust-grant wording"
  else if blocker = "missing_subscription" then "Add missing ACK subscription edge"
  else "Create final-v2 supersession proposal"

def actionByBlocker (blocker : String) : String :=
  if blocker = "stale_inline_route" then "append_policy_refs_and_migrate_inline_route_preview"
  else if blocker = "stale_trust_grant_wording" then "narrow_doc_fix_trust_grant_wording"
  else if blocker = "missing_subscription" then "propose_subscription_edge_review"
  else "propose_final_v2_supersession_review"

/-- `sha256(text).hexdigest()[:16]`. -/
def shortDigest (text : String) : String := String.ofList ((sha256Hex text).toList.take 16)

/-- `_is_apply_gated`. -/
def GraphPolicy.applyGated (p : GraphPolicy) (blocker : String) : Bool :=
  p.applyEnabled && p.activeMode = "apply" && !p.killSwitch && blocker ≠ "" && p.allowlistedBlockers.contains blocker &&
    0 < p.maxAutoCreatesPerRun

/-- What the steps of a graph have come to: the candidates, how many of them count for the blocker and for the source,
the key of the step before, and the calls of the adapter. -/
structure Progress (σ : Type) where
  candidates : List Candidate := []
  blockerCounts : List (String × Nat) := []
  srcCount : Nat := 0
  prevIdem : String := ""
  attempts : Nat := 0
  board : σ

/-- `blocker_counts.get(blocker, 0)`. -/
def Progress.count {σ : Type} (g : Progress σ) (blocker : String) : Nat :=
  ((g.blockerCounts.find? fun entry => entry.1 = blocker).map Prod.snd).getD 0

section

variable (T : PyText) {σ : Type}

/-- A proposal of `plan_remediation`, as far as a graph is made of it. -/
def baseKey (blocker source : String) : String :=
  safeJobField T "idempotency_key" ("remediation:" ++ blocker ++ ":" ++ shortDigest (blocker ++ ":" ++ source))

def intentOf (req : RemediationRequest) (blocker kind base prevIdem : String) : Intent where
  kind := kind
  blocker := blocker
  title := titleByBlocker blocker ++ " [" ++ kind ++ "]"
  idempotencyKey := base ++ ":" ++ kind
  origin := shortText T (orText req.origin "remediation")
  returnTo := shortText T (orText req.returnTo req.origin)
  policyRefs := blockerPolicyRefs blocker
  metadata := [("base_idempotency_key", base), ("source_ref_safe", safeDurableRef T req.sourceRef),
    ("action", actionByBlocker blocker)]
  body := Roadmap.policyRefBody (blockerPolicyRefs blocker)
  parentKey := prevIdem

/-- One step of the graph of a blocker. The cap on creates is a budget of attempts, so a failed call consumes it too. -/
def remediationStep (req : RemediationRequest) (adapter : Option (LoopAdapter σ)) (blocker base : String)
    (g : Progress σ) (kind : String) : Progress σ :=
  let idem := base ++ ":" ++ kind
  let refuse (reason : String) : Progress σ := { g with candidates := g.candidates ++ [.noop idem blocker reason] }
  let sourced := safeDurableRef T req.sourceRef ≠ ""
  let gated := req.policy.applyGated blocker
  if (g.count blocker : Int) ≥ req.policy.maxProposalsPerBlockerClass then refuse "max_proposals_per_blocker_class"
  else if sourced ∧ (g.srcCount : Int) ≥ req.policy.maxProposalsPerSource then refuse "max_proposals_per_source"
  else
    let intent := intentOf T req blocker kind base g.prevIdem
    let g' : Progress σ := { g with
      candidates := g.candidates ++ [.intent intent]
      blockerCounts := (blocker, g.count blocker + 1) :: g.blockerCounts
      srcCount := if sourced then g.srcCount + 1 else g.srcCount
      prevIdem := idem }
    match adapter with
    | none => g'
    | some adapter =>
      if !gated then g'
      else if (g.attempts : Int) ≥ req.policy.maxAutoCreatesPerRun then refuse "max_auto_creates_per_run"
      else { g' with attempts := g.attempts + 1, board := (adapter.createIntent intent g.board).2 }

/-- The graph of one blocker, unless the board has something of it. -/
def remediateBlocker (req : RemediationRequest) (adapter : Option (LoopAdapter σ)) (g : Progress σ) (blocker : String) :
    Progress σ :=
  let base := baseKey T blocker (orText req.sourceRef req.summary)
  if adapter.any fun a => a.listExisting base g.board then
    { g with candidates := g.candidates ++ [.noop base blocker "existing_proposal"] }
  else (candidateSequence blocker).foldl (remediationStep T req adapter blocker base) { g with prevIdem := "" }

/-- `propose_remediation_graph`, which no caller gives prior proposals. -/
def proposeRemediationGraph : GraphCreator σ := fun req adapter board =>
  let parsed := parseVerdictSummary T req.summary
  if parsed.verdict ≠ "BLOCK" ∧ parsed.verdict ≠ "NEED_MORE" then
    ({ success := false, error := "no_blocking_verdict" }, board)
  else if parsed.blockers = [] then ({ success := false, error := "block_has_no_named_blocker" }, board)
  else
    let g := parsed.blockers.foldl (remediateBlocker T req adapter) { board }
    ({ success := true, candidates := g.candidates, adapterAttempts := g.attempts }, g.board)

/-- `_GO_VERDICT_RE`. -/
def goVerdictRe : Pattern := .all [T.boundary, lit "Verdict", T.spaces, .one ':', T.spaces, lit "GO", T.boundary]

/-- `str(card.get(key) or "")`. -/
def cardText (card : List (String × Json)) (key : String) : String := T.strOr ((Json.obj card).get? key) ""

/-- `resolve_stale_final_candidate`. -/
def resolveStaleFinalCandidate (oldFinal review : List (String × Json)) (origin returnTo : String) (policy : GraphPolicy)
    (adapter : Option (LoopAdapter σ)) (board : σ) : CreatorResult × σ :=
  let oldStatus := Jobs.lower (cardText T oldFinal "status")
  let oldId := cardText T oldFinal "id"
  if !(["done", "completed", "blocked", "block"].contains oldStatus) then
    ({ success := false, error := "old_final_not_done_or_blocked" }, board)
  else if !search (goVerdictRe T) (" ".intercalate (["title", "body", "summary", "result"].map (cardText T review))).toList then
    ({ success := false, error := "remediation_review_no_go_verdict" }, board)
  else
    let safeOldId := safeDurableRef T (orText oldId "stale_final")
    let refs := blockerPolicyRefs "stale_final_fanin"
    let intent : Intent := {
      kind := "final-v2"
      blocker := "stale_final_fanin"
      title := "final-v2 supersession for " ++ shortText T (orText oldId "unknown") 40
      idempotencyKey := "remediation:stale_final_fanin:final-v2:" ++ shortDigest ("final-v2:" ++ safeOldId)
      origin := shortText T (orText origin "remediation")
      returnTo := shortText T (orText returnTo origin)
      policyRefs := refs
      supersedes := safeOldId
      metadata := [("supersedes_final", safeOldId), ("old_final_status", oldStatus)]
      body := Roadmap.policyRefBody refs }
    match adapter with
    | some adapter =>
      if policy.applyGated "stale_final_fanin" then
        ({ success := true, candidate := some intent, adapterAttempts := 1 }, (adapter.createIntent intent board).2)
      else ({ success := true, candidate := some intent }, board)
    | none => ({ success := true, candidate := some intent }, board)

end

end AgentflowHermes.Loop
