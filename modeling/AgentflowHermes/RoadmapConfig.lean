import AgentflowHermes.MinimalYaml
import AgentflowHermes.RoadmapTransitions

namespace AgentflowHermes.Config

/-- `RepoRoadmapConfig`. -/
structure RepoRoadmapConfig where
  enabled : Bool := false
  killSwitch : Bool := false
  board : String := ""
  applyMode : Bool := false
  sameBoardOnly : Bool := true
  allowedTransitions : List String := []
  transitions : List (String × Roadmap.Transition) := []
  implAssignee : String := ""
  reviewAssignee : String := ""
  ackTriggerAgent : String := ""
  trustedAssignees : List String := []
  expectedOrigin : String := ""
  expectedReturnTo : String := ""
  maxChainDepth : Int := 3
  maxPromotionsPerRoadmap : Int := 6
  promoteCooldownSeconds : Int := 900
  requireReviewEdge : Bool := true
  requireAckEdge : Bool := true
  requireTrustedAssignee : Bool := true
  requireOriginMatch : Bool := true
  requirePolicyResolution : Bool := true
  sourceRef : String := ""

inductive LoadError
  | parse (e : ParseError)
  | notMapping
  | invalidTransition (key : String)
  | notIterable
  | template (message : String)

/-- `_bool`. -/
def boolOr (default : Bool) : Option Json → Bool
  | some (.bool b) => b
  | _ => default

/-- `_int`. -/
def intOr (default : Int) : Option Json → Int
  | some (.int n) => n
  | _ => default

section

variable (r : Reader)

/-- `_str_tuple`. -/
def strTuple : Option Json → List String
  | some (.arr items) => items.map r.text.str
  | _ => []

/-- `tuple(str(x) for x in (value or ()))`; what cannot be gone through raises. -/
def strItems (value : Option Json) : Except LoadError (List String) := match value.filter Json.truthy with
  | none => .ok []
  | some value => match value.iter? with
    | none => .error .notIterable
    | some items => .ok (items.map r.text.str)

/-- An entry of `_load_transitions`. -/
def loadTransition (key : String) (value : Json) : Except LoadError Roadmap.Transition :=
  match value with
  | .obj fields => do
    let text (field : String) : String := r.text.strOr (fields.lookup field) ""
    let templatePreset := text "template_preset"
    let rawSliceTemplate ← strItems r (fields.lookup "slice_template")
    let goalAnchor := text "goal_anchor"
    match Roadmap.resolveTemplate r.text templatePreset rawSliceTemplate goalAnchor with
    | .error message => .error (.template message)
    | .ok template =>
      let policyRefs ← strItems r (fields.lookup "policy_refs")
      return {
        transitionId := r.text.strOr (fields.lookup "transition_id") key
        roadmapId := text "roadmap_id"
        fromSlice := text "from_slice"
        toSlice := text "to_slice"
        sliceTemplate := template.steps.map (·.kind)
        policyRefs
        maxChainDepth := intOr 3 (fields.lookup "max_chain_depth")
        version := text "version"
        templatePreset
        goalAnchor }
  | _ => .error (.invalidTransition key)

/-- `_load_transitions`. -/
def loadTransitions : Option Json → Except LoadError (List (String × Roadmap.Transition))
  | some (.obj fields) => fields.foldlM (fun transitions f => do
      let transition ← loadTransition r f.1 f.2
      return Dicts.set f.1 transition transitions) []
  | _ => .ok []

/-- `_load_config_payload`. -/
def loadConfigPayload (text : String) : Except LoadError (List (String × Json)) :=
  let payload : Except LoadError Json := match r.loads text with
    | some value => .ok value
    | none => (parseMinimalYaml r text).mapError .parse
  match payload with
  | .error e => .error e
  | .ok (.obj fields) => .ok fields
  | .ok _ => .error .notMapping

/-- The agent that `ack_trigger_agent` names: one of the others where it is true. -/
def ackTriggerAgent (reviewAssignee : String) (trustedAssignees : List String) : Option Json → String
  | some (.bool true) => if reviewAssignee = "" then trustedAssignees.headD "" else reviewAssignee
  | some (.str s) => s
  | _ => ""

/-- The config of a payload with its transitions. -/
def configOf (path : String) (payload : List (String × Json)) (transitions : List (String × Roadmap.Transition)) :
    RepoRoadmapConfig :=
  let text (field : String) : String := r.text.strOr (payload.lookup field) ""
  let flag (default : Bool) (field : String) : Bool := boolOr default (payload.lookup field)
  let trustedAssignees := strTuple r (payload.lookup "trusted_assignees")
  let reviewAssignee := text "review_assignee"
  { enabled := flag false "enabled"
    killSwitch := flag false "kill_switch"
    board := text "board"
    applyMode := flag false "apply_mode"
    sameBoardOnly := flag true "same_board_only"
    allowedTransitions := strTuple r (payload.lookup "allowed_transitions")
    transitions
    implAssignee := text "impl_assignee"
    reviewAssignee
    ackTriggerAgent := ackTriggerAgent reviewAssignee trustedAssignees (payload.lookup "ack_trigger_agent")
    trustedAssignees
    expectedOrigin := text "expected_origin"
    expectedReturnTo := text "expected_return_to"
    maxChainDepth := intOr 3 (payload.lookup "max_chain_depth")
    maxPromotionsPerRoadmap := intOr 6 (payload.lookup "max_promotions_per_roadmap")
    promoteCooldownSeconds := intOr 900 (payload.lookup "promote_cooldown_seconds")
    requireReviewEdge := flag true "require_review_edge"
    requireAckEdge := flag true "require_ack_edge"
    requireTrustedAssignee := flag true "require_trusted_assignee"
    requireOriginMatch := flag true "require_origin_match"
    requirePolicyResolution := flag true "require_policy_resolution"
    sourceRef := path }

/-- `load_repo_roadmap_config`, of the text at a path. -/
def loadRepoRoadmapConfig (path text : String) : Except LoadError RepoRoadmapConfig := do
  let payload ← loadConfigPayload r text
  let transitions ← loadTransitions r (payload.lookup "transitions")
  return configOf r path payload transitions

end

/-- `_ORIGIN_RE`. -/
def isOrigin (s : String) : Bool :=
  1 ≤ s.toList.length && s.toList.length ≤ 240 && s.toList.all fun c => !(['"', '\'', '\\', '\r', '\n', '\t'].contains c)

def isLetterOrDigit (c : Char) : Bool := ('A' ≤ c && c ≤ 'Z') || ('a' ≤ c && c ≤ 'z') || ('0' ≤ c && c ≤ '9')

def isIdentChar (c : Char) : Bool := isLetterOrDigit c || ['.', '_', ':', '>', '#', '/', '+', '-'].contains c

/-- `_IDENT_RE`. -/
def isIdent (s : String) : Bool := match s.toList with
  | [] => false
  | c :: cs => isLetterOrDigit c && cs.all isIdentChar && cs.length ≤ 120

def Origin : Type := { s : String // isOrigin s = true }

def Ident : Type := { s : String // isIdent s = true }

/-- The flags of `init-config`. -/
structure ConfigFlags where
  board : String
  origin : String
  transition : String
  fromSlice : String
  toSlice : String
  returnTo : String := ""
  implAssignee : String := "ccsupervisor"
  reviewAssignee : String := "ccreviewer"
  roadmapId : String := ""
  templatePreset : String := ""
  goalAnchor : String := ""
  applyMode : Bool := false

/-- The values that a config is rendered of. -/
structure ConfigValues (T : PyText) where
  board : Ident
  origin : Origin
  transition : Ident
  fromSlice : Ident
  toSlice : Ident
  returnTo : Origin
  implAssignee : Ident
  reviewAssignee : Ident
  roadmapId : Option Ident
  templatePreset : Option Ident
  goalAnchor : Option Origin
  applyMode : Bool
  template : Roadmap.ResolvedTemplate T
  resolved : Roadmap.resolveTemplate T ((templatePreset.map Subtype.val).getD "") [] ((goalAnchor.map Subtype.val).getD "") =
    .ok template

section

variable (T : PyText)

/-- `_safe_origin`. -/
def safeOrigin (value : String) : Except String Origin :=
  let text := PyText.strip T.isSpace value
  if h : isOrigin text = true then .ok ⟨text, h⟩ else .error "invalid_value"

/-- `_safe_ident`. -/
def safeIdent (value : String) : Except String Ident :=
  let text := PyText.strip T.isSpace value
  if h : isIdent text = true then .ok ⟨text, h⟩ else .error "invalid_value"

/-- A value that is checked where it is given. -/
def ifGiven {α : Type} (check : String → Except String α) (value : String) : Except String (Option α) :=
  if value = "" then .ok none else (check value).map some

/-- What `render_roadmap_config` makes of its flags before it renders them. -/
def ConfigFlags.accept (f : ConfigFlags) : Except String (ConfigValues T) := do
  let board ← safeIdent T f.board
  let transition ← safeIdent T f.transition
  let fromSlice ← safeIdent T f.fromSlice
  let toSlice ← safeIdent T f.toSlice
  let implAssignee ← safeIdent T f.implAssignee
  let reviewAssignee ← safeIdent T f.reviewAssignee
  let origin ← safeOrigin T f.origin
  let returnTo ← ifGiven (safeOrigin T) f.returnTo
  let roadmapId ← ifGiven (safeIdent T) f.roadmapId
  let templatePreset ← ifGiven (safeIdent T) f.templatePreset
  let goalAnchor ← ifGiven (safeOrigin T) f.goalAnchor
  match resolved : Roadmap.resolveTemplate T ((templatePreset.map Subtype.val).getD "") []
      ((goalAnchor.map Subtype.val).getD "") with
  | .error message => .error message
  | .ok template => return {
      board, origin, transition, fromSlice, toSlice, returnTo := returnTo.getD origin, implAssignee, reviewAssignee,
      roadmapId, templatePreset, goalAnchor, applyMode := f.applyMode, template, resolved }

namespace ConfigValues

variable {T} (v : ConfigValues T)

/-- The roadmap, which the board names where no flag does. -/
def roadmap : String := (v.roadmapId.map Subtype.val).getD (v.board.1 ++ ".roadmap")

def version : String := if v.templatePreset.isSome then "template-v2" else "template-v1"

/-- The lines of `render_roadmap_config` before the transition. -/
def head : List String := [
    "# agentflow-hermes repo-config roadmap GO autopromoter.",
    "#",
    "# Consumed by `agentflow-hermes roadmap promote|watch --config <this file>`.",
    "# `enabled: false` is the kill switch: no board read or write happens when",
    "# it is false, regardless of --apply.",
    "enabled: true",
    "kill_switch: false",
    "",
    "# same_board_only: true means promote/watch only ever read/write this board.",
    "board: " ++ v.board.1,
    "same_board_only: true",
    "",
    "# apply_mode is the repo-level arm for board writes. A real create also",
    "# requires the operator to pass --apply on the CLI; both gates must be open.",
    "apply_mode: " ++ (if v.applyMode then "true" else "false"),
    "",
    "expected_origin: \"" ++ v.origin.1 ++ "\"",
    "expected_return_to: \"" ++ v.returnTo.1 ++ "\"",
    "",
    "impl_assignee: " ++ v.implAssignee.1,
    "review_assignee: " ++ v.reviewAssignee.1,
    "# true means derive the ack agent from review_assignee/trusted_assignees.",
    "ack_trigger_agent: true",
    "trusted_assignees:",
    "  - " ++ v.reviewAssignee.1,
    "",
    "allowed_transitions:",
    "  - " ++ v.transition.1,
    "",
    "max_chain_depth: 3",
    "max_promotions_per_roadmap: 6",
    "promote_cooldown_seconds: 900",
    "require_review_edge: true",
    "require_ack_edge: true",
    "require_trusted_assignee: true",
    "require_origin_match: true",
    "require_policy_resolution: true",
    "",
    "transitions:",
    "  " ++ v.transition.1 ++ ":"]

/-- The lines of the transition. -/
def tail : List String :=
  ["    roadmap_id: " ++ v.roadmap,
    "    from_slice: " ++ v.fromSlice.1,
    "    to_slice: " ++ v.toSlice.1] ++
  v.templatePreset.toList.map (fun preset => "    template_preset: " ++ preset.1) ++
  v.goalAnchor.toList.map (fun anchor => "    goal_anchor: \"" ++ anchor.1 ++ "\"") ++
  ["    slice_template:"] ++
  v.template.steps.map (fun step => "      - " ++ step.kind) ++ [
    "    policy_refs:",
    "      - design_opus",
    "      - implementation_default",
    "    max_chain_depth: 3",
    "    version: " ++ v.version]

def render : String := "\n".intercalate (v.head ++ v.tail ++ [""])

end ConfigValues

/-- `render_roadmap_config`. -/
def renderRoadmapConfig (f : ConfigFlags) : Except String String := (f.accept T).map ConfigValues.render

end

end AgentflowHermes.Config
