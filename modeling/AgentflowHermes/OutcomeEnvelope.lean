import AgentflowHermes.PyValues

namespace AgentflowHermes

open BacktrackRegex BacktrackRegex.Pattern

inductive Verdict
  | go
  | block
  | needMore
  | unknown
  deriving DecidableEq, Repr

def Verdict.value : Verdict → String
  | .go => "GO"
  | .block => "BLOCK"
  | .needMore => "NEED_MORE"
  | .unknown => "UNKNOWN"

/-- `Verdict(text)`; `none` is the `ValueError`. -/
def Verdict.ofString? (s : String) : Option Verdict :=
  if s = "GO" then some .go
  else if s = "BLOCK" then some .block
  else if s = "NEED_MORE" then some .needMore
  else if s = "UNKNOWN" then some .unknown
  else none

def Verdict.blocking (v : Verdict) : Bool := v == .block || v == .needMore

section

variable (T : PyText)

def verdictWords : Pattern := .group (.any [lit "GO", lit "BLOCK", lit "NEED_MORE"])

def verdictRe : Pattern :=
  .all [T.boundary, lit "Verdict", T.spaces, .one ':', T.spaces, verdictWords, T.boundary]

/-- `[_ -]?` and `[- ]?`. -/
def sep : Pattern := .opt (oneOf ['_', ' ', '-'])

def dash : Pattern := oneOf ['-', ' ']

def blockerPatterns : List (String × Pattern) := [
  ("stale_inline_route", .any [
    T.bounded (.all [lit "stale", sep, lit "inline", sep, lit "route"]),
    lit "claude-openrouter-opus", lit "claude-venice-opus",
    .all [lit "openrouter", T.spaces, .one ',', T.spaces, lit "anthropic"],
    T.bounded (.any [lit "Moonshot", lit "Kimi"])]),
  ("stale_trust_grant_wording", .any [
    T.bounded (.all [lit "stale", sep, lit "trust", sep, lit "grant", sep, lit "wording"]),
    .all [lit "trust", dash, lit "grant", .star anyChar, lit "wording"],
    .all [lit "wording", .star anyChar, lit "trust", dash, lit "grant"]]),
  ("missing_subscription", .any [
    T.bounded (.all [lit "missing", sep, lit "subscription"]),
    lit "subscription edge", lit "never reliably subscribed"]),
  ("stale_final_fanin", .any [
    T.bounded (.all [lit "stale", sep, lit "final", sep, lit "fanin"]),
    lit "stale final", .all [lit "final fan", .opt dash, lit "in"]])]

def detectBlockers (text : String) : List String :=
  ((blockerPatterns T).filter fun b => search b.2 text.toList).map (·.1)

structure ParsedVerdict where
  verdict : String
  blockers : List String

def parseVerdictSummary (text : String) : ParsedVerdict :=
  let verdict := match searchGroup (verdictRe T) text.toList with
    | some g => asciiUpper (String.ofList g)
    | none => "UNKNOWN"
  ⟨verdict, if verdict = "BLOCK" ∨ verdict = "NEED_MORE" then detectBlockers T text else []⟩

end

inductive ContinuationKind
  | complete
  | roadmapNext
  | codeFix
  | needsInput
  | approvalRequired
  | externalWait
  | semanticRefusal
  | unknown
  deriving DecidableEq, Repr

def ContinuationKind.value : ContinuationKind → String
  | .complete => "complete"
  | .roadmapNext => "roadmap_next"
  | .codeFix => "code_fix"
  | .needsInput => "needs_input"
  | .approvalRequired => "approval_required"
  | .externalWait => "external_wait"
  | .semanticRefusal => "semantic_refusal"
  | .unknown => "unknown"

def ContinuationKind.all : List ContinuationKind :=
  [.complete, .roadmapNext, .codeFix, .needsInput, .approvalRequired, .externalWait,
    .semanticRefusal, .unknown]

/-- `ContinuationKind(text)`; `none` is the `ValueError`. -/
def ContinuationKind.ofString? (s : String) : Option ContinuationKind :=
  ContinuationKind.all.find? fun k => k.value == s

inductive Confidence
  | structured
  | flatMetadata
  | textExplicit
  | deterministicGrammar
  | modelCompiled
  | none
  deriving DecidableEq, Repr

inductive PyError
  | envelope (message : String)
  | typeError
  | valueError
  | attributeError
  deriving DecidableEq, Repr

def genericOwnerInputContract : String := "generic.owner-input.v1"

structure RequirementRef where
  name : String
  authority : String := "owner"

/-- The fields every parser passes through unchanged from the board event. -/
structure SourceRef where
  eventId : String
  board : String
  sourceTaskId : String
  sourceGraphId : String
  originRef : String
  returnToRef : String
  workspaceRef : String

/-- The fields a parser decides. -/
structure Draft where
  verdict : Verdict
  continuationKind : ContinuationKind
  contractRef : String := ""
  requirements : List RequirementRef := []
  nextTransition : String := ""
  confidence : Confidence

def SourceRef.Complete (c : SourceRef) : Prop :=
  c.eventId ≠ "" ∧ c.board ≠ "" ∧ c.sourceTaskId ≠ "" ∧ c.sourceGraphId ≠ ""

instance (c : SourceRef) : Decidable c.Complete := by unfold SourceRef.Complete; infer_instance

def Draft.Coherent (d : Draft) : Prop :=
  ¬(d.verdict = .go ∧ d.continuationKind = .codeFix) ∧
  (d.continuationKind = .needsInput → d.contractRef ≠ "") ∧
  (d.continuationKind = .roadmapNext → d.nextTransition ≠ "")

instance (d : Draft) : Decidable d.Coherent := by unfold Draft.Coherent; infer_instance

structure OutcomeEnvelope extends SourceRef, Draft where
  complete : toSourceRef.Complete
  coherent : toDraft.Coherent

/-- The message of the first structural check that fails. -/
def envelopeError (c : SourceRef) (d : Draft) : String :=
  if c.eventId = "" then "event_id is required"
  else if c.board = "" then "board is required"
  else if c.sourceTaskId = "" then "source_task_id is required"
  else if c.sourceGraphId = "" then "source_graph_id is required"
  else if d.verdict = .go ∧ d.continuationKind = .codeFix then "GO + code_fix is not a valid continuation"
  else if d.continuationKind = .needsInput ∧ d.contractRef = "" then "needs_input requires contract_ref"
  else "roadmap_next requires next_transition"

/-- `OutcomeEnvelope(**common, ..)` with its `__post_init__`. -/
def OutcomeEnvelope.make (c : SourceRef) (d : Draft) : Except PyError OutcomeEnvelope :=
  if h : c.Complete ∧ d.Coherent then .ok ⟨c, d, h.1, h.2⟩ else .error (.envelope (envelopeError c d))

theorem OutcomeEnvelope.make_ok {c : SourceRef} {d : Draft} {e : OutcomeEnvelope}
    (h : OutcomeEnvelope.make c d = .ok e) : e.toSourceRef = c ∧ e.toDraft = d := by
  unfold OutcomeEnvelope.make at h
  split at h
  next => cases h; exact ⟨rfl, rfl⟩
  next => cases h

theorem OutcomeEnvelope.make_eq {c : SourceRef} {d : Draft} (hc : c.Complete) (hd : d.Coherent) :
    OutcomeEnvelope.make c d = .ok ⟨c, d, hc, hd⟩ := dif_pos ⟨hc, hd⟩

/-- `except OutcomeEnvelopeError`: other errors pass through. -/
def catchEnvelope {α : Type} (x : Except PyError α) (fallback : Except PyError α) : Except PyError α :=
  match x with
  | .error (.envelope _) => fallback
  | r => r

def unknownEnvelope (c : SourceRef) (verdict : Verdict) : Except PyError OutcomeEnvelope :=
  OutcomeEnvelope.make c { verdict := verdict, continuationKind := .unknown, confidence := .none }

section

variable (T : PyText)

def outcomeKindRe : Pattern :=
  .all [T.boundary, lit "Outcome-Kind", T.spaces, .one ':', T.spaces,
    .group (.plus (.char fun c => foldedLetter c || c == '_'))]

def continuationContractRe : Pattern :=
  .all [T.boundary, lit "Continuation-Contract", T.spaces, .one ':', T.spaces,
    .group (.plus (.char fun c => T.isWord c || c == '.' || c == '-'))]

def operatorMustRe : Pattern :=
  .all [T.boundary, lit "operator", T.spaces1, lit "must", T.spaces1,
    .any [lit "provide", lit "approve", lit "confirm"], T.boundary]

def lowerText (g : List Char) : String := String.ofList (g.flatMap lowerChars)

def extractStructured (runMetadata : Json) : Option Json :=
  match runMetadata.get? "agentflow_outcome" with
  | some block => if block.isDict then some block else none
  | none => none

def structuredRequirement (item : Json) : Option RequirementRef :=
  match item with
  | .obj _ =>
    match item.get? "name" with
    | some name => if name.truthy then
        some ⟨T.str name, T.strOr (item.get? "authority") "owner"⟩ else none
    | none => none
  | .str s => some ⟨s, "owner"⟩
  | _ => none

/-- `block.get(key) or ()` under a `for` loop. -/
def loopItems (block : Json) (key : String) : Except PyError (List Json) :=
  match block.get? key with
  | some v =>
    if v.truthy then
      match v.iter? with
      | some items => .ok items
      | none => .error .typeError
    else .ok []
  | none => .ok []

/-- `_from_structured`: `none` is the caller's fail-closed answer. -/
def fromStructured (c : SourceRef) (block : Json) : Except PyError (Option OutcomeEnvelope) :=
  if (block.get? "schema_version").all (fun v => !v.equalsOne) then .ok none
  else match Verdict.ofString? (T.strOr (block.get? "verdict") ""),
      ContinuationKind.ofString? (T.strOr (block.get? "continuation_kind") "") with
  | some verdict, some kind => do
    let items ← loopItems block "required_inputs"
    let contract := T.strOr (block.get? "contract_ref") ""
    catchEnvelope
      (some <$> OutcomeEnvelope.make c {
        verdict := verdict
        continuationKind := kind
        contractRef := if kind = .needsInput ∧ contract = "" then genericOwnerInputContract else contract
        requirements := items.filterMap (structuredRequirement T)
        nextTransition := T.strOr (block.get? "resume_transition") (T.strOr (block.get? "next_transition") "")
        confidence := .structured })
      (.ok none)
  | _, _ => .ok none

def summaryVerdict (text : String) : Verdict :=
  (Verdict.ofString? (parseVerdictSummary T text).verdict).getD .unknown

/-- The `Outcome-Kind` branch: `none` when the marker does not settle the outcome. -/
def fromMarker (c : SourceRef) (text : String) (marker : List Char) :
    Option (Except PyError OutcomeEnvelope) :=
  let contract := searchGroup (continuationContractRe T) text.toList
  let kind := ContinuationKind.ofString? (lowerText marker)
  let contractRef := (contract.map String.ofList).getD ""
  let contractRef := if kind = some .needsInput ∧ contractRef = "" then genericOwnerInputContract else contractRef
  match kind with
  | some k =>
    if contract.isSome ∨ k = .needsInput then
      some (catchEnvelope
        (OutcomeEnvelope.make c {
          verdict := summaryVerdict T text
          continuationKind := k
          contractRef := contractRef
          confidence := .textExplicit })
        (unknownEnvelope c .unknown))
    else none
  | none => none

/-- What `_from_text_fallback` does once no marker has settled the outcome. -/
def fromVerdictText (c : SourceRef) (text : String) : Except PyError OutcomeEnvelope :=
  let verdict := summaryVerdict T text
  if verdict.blocking ∧ search (operatorMustRe T) text.toList then
    OutcomeEnvelope.make c {
      verdict := verdict
      continuationKind := .needsInput
      contractRef := ((searchGroup (continuationContractRe T) text.toList).map String.ofList).getD
        genericOwnerInputContract
      confidence := .textExplicit }
  else if verdict = .block ∧ (parseVerdictSummary T text).blockers ≠ [] then
    OutcomeEnvelope.make c { verdict := verdict, continuationKind := .codeFix, confidence := .textExplicit }
  else if verdict = .go then
    OutcomeEnvelope.make c { verdict := verdict, continuationKind := .complete, confidence := .textExplicit }
  else unknownEnvelope c verdict

def fromTextFallback (c : SourceRef) (text : String) : Except PyError OutcomeEnvelope :=
  match searchGroup (outcomeKindRe T) text.toList with
  | some marker => (fromMarker T c text marker).getD (fromVerdictText T c text)
  | none => fromVerdictText T c text

end

end AgentflowHermes
