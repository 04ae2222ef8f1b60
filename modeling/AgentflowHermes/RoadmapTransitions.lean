import AgentflowHermes.BoardOperations
import AgentflowHermes.OutcomeEnvelope
import AgentflowHermes.RoadmapTemplates

namespace AgentflowHermes.Roadmap

open BacktrackRegex BacktrackRegex.Pattern

structure Transition where
  transitionId : String
  roadmapId : String
  fromSlice : String
  toSlice : String
  sliceTemplate : List String := []
  policyRefs : List String := []
  maxChainDepth : Int := 3
  version : String := ""
  templatePreset : String := ""
  goalAnchor : String := ""

/-- `RoadmapTransitionRegistry`; the content hash is given. -/
structure Registry where
  transitions : List (String × Transition)
  contentHash : String := ""
  sourceRef : String := ""

def Registry.get? (r : Registry) (id : String) : Option Transition := r.transitions.lookup id

/-- `RoadmapPromotionPolicy`, with times in seconds. -/
structure Policy where
  autoContinue : Bool := false
  allowlistedTransitions : List String := []
  maxChainDepth : Int := 3
  maxPromotionsPerRoadmap : Int := 6
  promoteCooldownSeconds : Int := 900
  requireReviewEdge : Bool := true
  requireAckEdge : Bool := true
  requireTrustedAssignee : Bool := true
  trustedAssignees : List String := []
  requireOriginMatch : Bool := true
  expectedOrigin : String := ""
  expectedReturnTo : String := ""
  requirePolicyResolution : Bool := true
  applyEnabled : Bool := false
  implAssignee : String := ""
  reviewAssignee : String := ""
  ackTriggerAgent : String := ""
  maxApplyTasksPerGraph : Int := 5

/-- `_coerce_policy`: the policy in force, and whether the given one was malformed. -/
def coercePolicy : Option Policy → Policy × Bool
  | none => ({}, false)
  | some p =>
    if p.maxChainDepth < 0 ∨ p.maxPromotionsPerRoadmap < 0 ∨ p.promoteCooldownSeconds < 0 ∨ p.maxApplyTasksPerGraph < 0 then
      ({}, true)
    else (p, false)

/-- The arguments of a promotion that tell about its event; `occurredAt` is in microseconds. -/
structure PromotionEvent where
  summary : String
  eventId : String
  sourceFinalRef : String
  sourceAssignee : String := ""
  origin : String := ""
  returnTo : String := ""
  subscriptionStatus : String := "unverified"
  policyResolutionRef : String := ""
  chainDepth : Int := 0
  occurredAt : Int := 0

def letter (c : Char) : Bool := ('a' ≤ c && c ≤ 'z') || ('A' ≤ c && c ≤ 'Z')

def literal (word : String) : Pattern := .all (word.toList.map .one)

/-- `token in text.lower()`. -/
def mentions (text token : String) : Bool := search (literal token) (lowerText text.toList).toList

section

variable (T : PyText)

/-- `_MARKER_RE`, up to its second group. -/
def markerKeyRe : Pattern :=
  .all [lineStart, T.spaces,
    .group (.all [.char letter, .star (.char fun c => letter c || c == ' ' || c == '-'), .char letter]),
    T.spaces, .one ':', T.spaces]

def markerValueRe : Pattern := .all [.group (.lazyStar anyChar), T.spaces, lineEnd]

def verdictBlockRe : Pattern :=
  .all [T.boundary, lit "Verdict", T.spaces, .one ':', T.spaces,
    .group (.any [lit "BLOCK", lit "NEED_MORE", lit "UNKNOWN", lit "GO"]), T.boundary]

def staleInlinePolicyRe : Pattern :=
  T.bounded (.any [lit "claude-openrouter-opus", lit "claude-venice-opus",
    .all [lit "openrouter", T.spaces, .one ',', T.spaces, lit "anthropic"], lit "Moonshot", lit "Kimi"])

def markerKey (key : List Char) : String := (key.map Char.toLower).map (fun c => if c = ' ' then '-' else c) |> String.ofList

def strip (s : String) : String := PyText.strip T.isSpace s

/-- The markers of a text by their keys, the last one of a key first. -/
def markersOf (text : String) : List (String × String) :=
  let found := scanAll (matchTwo (markerKeyRe T) (markerValueRe T)) (text.toList.length + 1) ⟨[], text.toList⟩
  (found.map fun m => (markerKey m.1, strip T (String.ofList m.2))).reverse

def marker (text key : String) : String := ((markersOf T text).lookup key).getD ""

def isTrueMarker (value : String) : Bool :=
  ["true", "yes", "verified", "present", "ok"].contains (lowerText (strip T value).toList)

/-- `NextSliceDirective`; `none` where the transition or the slice is not marked. -/
structure Directive where
  transitionId : String
  nextSlice : String
  reviewEdge : Bool
  ackEdge : Bool
  parentGo : Bool
  autoContinue : Bool

def parseNextSliceDirective (text : String) : Option Directive :=
  let transitionId := marker T text "roadmap-transition"
  let nextSlice := marker T text "next-slice"
  if transitionId = "" ∨ nextSlice = "" then none
  else some {
    transitionId, nextSlice
    reviewEdge := isTrueMarker T (marker T text "review-edge")
    ackEdge := isTrueMarker T (marker T text "ack-edge")
    parentGo := isTrueMarker T (marker T text "parent-go")
    autoContinue := isTrueMarker T (marker T text "auto-continue") }

/-- The ends of `splitlines`; it has no empty last line, which is never looked at. -/
def lineBreak (c : Char) : Bool :=
  ['\n', '\r', '\x0b', '\x0c', '\x1c', '\x1d', '\x1e', '\x85', '\u2028', '\u2029'].contains c

def originPrefix : String := "origin/return_to:"

/-- The origin a text names: its first `Origin/return_to` line, else a marker. -/
def namedOrigin (text : String) : String :=
  let lines := text.toList.splitOnP lineBreak
  match lines.find? fun line => originPrefix.toList.isPrefixOf (lowerText line).toList with
  | some line => strip T (String.ofList ((line.dropWhile (· != ':')).drop 1))
  | none => orText (marker T text "origin-return-to") (marker T text "origin")

/-- `_summary_origin_evidence_ok`. -/
def summaryOriginEvidenceOk (text : String) (policy : Policy) : Bool :=
  if !policy.requireOriginMatch then true
  else
    let originValue := namedOrigin T text
    let returnValue := orText (orText (marker T text "return-to") (marker T text "return_to")) originValue
    if policy.expectedOrigin ≠ "" ∧ originValue ≠ policy.expectedOrigin then false
    else if policy.expectedReturnTo ≠ "" ∧ returnValue ≠ policy.expectedReturnTo then false
    else originValue != "" && returnValue != ""

/-- `_origin_ok`. -/
def originOk (origin returnTo : String) (policy : Policy) : Bool :=
  if !policy.requireOriginMatch then true
  else if policy.expectedOrigin ≠ "" ∧ origin ≠ policy.expectedOrigin then false
  else if policy.expectedReturnTo ≠ "" ∧ returnTo ≠ policy.expectedReturnTo then false
  else origin != "" && returnTo != ""

def verdictOf (summary : String) : String :=
  orText (parseVerdictSummary T summary).verdict (match searchGroup (verdictBlockRe T) summary.toList with
    | some g => asciiUpper (String.ofList g)
    | none => "UNKNOWN")

def Transition.template (t : Transition) : Except String (ResolvedTemplate T) :=
  resolveTemplate T t.templatePreset t.sliceTemplate t.goalAnchor

/-- `_validate_transition`, with the template it resolves. -/
def validateTransition (t : Transition) : Except String (ResolvedTemplate T) :=
  if t.transitionId = "" ∨ t.roadmapId = "" ∨ t.fromSlice = "" ∨ t.toSlice = "" then .error "transition requires ids"
  else if t.sliceTemplate = [] ∧ t.templatePreset = "" then .error "transition requires slice template"
  else match t.template T with
    | .error e => .error e
    | .ok template =>
      if t.policyRefs.any fun ref => ref == "" || ["openrouter", "kimi", "moonshot", "claude-"].any (mentions ref) then
        .error "transition policy_refs must be symbolic refs"
      else if t.maxChainDepth < 0 then .error "invalid max_chain_depth"
      else .ok template

end

inductive Decision
  | propose
  | noop
  | refuse
  deriving DecidableEq, Repr

def Decision.value : Decision → String
  | .propose => "propose"
  | .noop => "noop"
  | .refuse => "refuse"

structure DecisionPayload where
  decision : Decision
  reason : String
  idempotencyKey : String
  transitionId : String

/-- A receipt of the promotion ledger. The decision and the reason are fixed words, which the sanitiser keeps. -/
structure PromotionReceipt where
  eventId : String
  idempotencyKey : String
  sourceFinalRef : String
  roadmapId : String
  transitionId : String
  chainDepth : Int
  decision : Decision
  reason : String
  originRef : String
  returnToRef : String
  subscriptionStatus : String
  policyResolutionRef : String
  registryRef : String
  registryHash : String
  createdAt : Int
  payload : DecisionPayload

section

variable (T : PyText)

/-- `safe_event_payload` on a decision payload. -/
def DecisionPayload.safe (p : DecisionPayload) : DecisionPayload :=
  { p with
    idempotencyKey := safeJobField T "idempotency_key" p.idempotencyKey
    transitionId := safeJobField T "transition_id" p.transitionId }

/-- `safe_event_payload` on a receipt: a key that ends in `ref` keeps a durable reference. -/
def PromotionReceipt.safe (r : PromotionReceipt) : PromotionReceipt :=
  { r with
    eventId := safeJobField T "event_id" r.eventId
    idempotencyKey := safeJobField T "idempotency_key" r.idempotencyKey
    sourceFinalRef := safeDurableRef T r.sourceFinalRef
    roadmapId := safeJobField T "roadmap_id" r.roadmapId
    transitionId := safeJobField T "transition_id" r.transitionId
    originRef := safeDurableRef T r.originRef
    returnToRef := safeDurableRef T r.returnToRef
    subscriptionStatus := safeJobField T "subscription_status" r.subscriptionStatus
    policyResolutionRef := safeDurableRef T r.policyResolutionRef
    registryRef := safeDurableRef T r.registryRef
    registryHash := safeJobField T "registry_hash" r.registryHash
    payload := r.payload.safe T }

/-- `InMemoryRoadmapPromotionLedger`. -/
abbrev PromotionLedger := List PromotionReceipt

namespace PromotionLedger

def hasEvent (ledger : PromotionLedger) (eventId : String) : Bool :=
  ledger.any fun r => r.eventId == safeDurableRef T eventId

def decisionForEvent (ledger : PromotionLedger) (eventId : String) : Option DecisionPayload :=
  (ledger.reverse.find? fun r => r.eventId == safeDurableRef T eventId).map (·.payload)

def hasPromotionKey (ledger : PromotionLedger) (key : String) : Bool :=
  ledger.any fun r => r.idempotencyKey == safeDurableRef T key

/-- The receipts that are found under a roadmap id. -/
def ofRoadmap (ledger : PromotionLedger) (roadmapId : String) : List PromotionReceipt :=
  ledger.filter fun r => r.roadmapId == safeDurableRef T roadmapId

/-- The promotions that are found under a roadmap id. -/
def promotions (ledger : PromotionLedger) (roadmapId : String) : List PromotionReceipt :=
  (ledger.ofRoadmap T roadmapId).filter fun r => r.decision = .propose

def countPromotions (ledger : PromotionLedger) (roadmapId : String) : Nat := (ledger.promotions T roadmapId).length

def currentChainDepth (ledger : PromotionLedger) (roadmapId : String) : Int :=
  ((ledger.ofRoadmap T roadmapId).map (·.chainDepth)).max?.getD 0

def lastPromotionTime (ledger : PromotionLedger) (roadmapId : String) : Option Int :=
  ((ledger.promotions T roadmapId).map (·.createdAt)).max?

def record (ledger : PromotionLedger) (r : PromotionReceipt) : PromotionLedger := ledger ++ [r.safe T]

end PromotionLedger

end

end AgentflowHermes.Roadmap
