import AgentflowHermes.AdapterOperations
import AgentflowHermes.CardVerdicts
import AgentflowHermes.Dicts
import AgentflowHermes.LoopHonesty

namespace AgentflowHermes.Loop

open Origins

/-- What `create_graph` reads of an intent. -/
structure GraphTask where
  title : String
  body : String
  assignee : String
  acceptance : String
  idempotencyKey : String
  parentKey : String
  origin : String
  returnTo : String
  subscriptionRequired : Bool

def Intent.task (i : Intent) : GraphTask where
  title := i.title
  body := i.body
  assignee := (i.metadata.lookup "assignee").getD ""
  acceptance := (i.metadata.lookup "acceptance_criteria").getD ""
  idempotencyKey := i.idempotencyKey
  parentKey := i.parentKey
  origin := i.origin
  returnTo := i.returnTo
  subscriptionRequired := i.subscriptionRequired

def candidateTask (c : Roadmap.Candidate) : GraphTask where
  title := c.title
  body := c.body
  assignee := c.metadata.assignee
  acceptance := c.metadata.acceptanceCriteria
  idempotencyKey := c.idempotencyKey
  parentKey := c.parentKey
  origin := c.origin
  returnTo := c.returnTo
  subscriptionRequired := c.subscriptionRequired

/-- What a command works with: the `hermes` tool, which may raise, and whether it is installed; the JSON reader, `int()`,
the clock, and what becomes of the board's database after a subscription, which runs no tool. -/
structure CommandEnv (ι : Type) where
  hermes : Bool
  runner : List String → ι → Option (Int × String) × ι
  loads : String → Option Json
  int : Json → Option Int
  board : String := ""
  createdBy : String := ""
  clock : Int := 0
  ensureActiveWakeAck : String → OriginFlags → ι → Bool × ι

/-- The world, with the commands that the tool was run with, the tasks that the real adapter remembers and the proposals
that the fake one does. -/
structure CommandState (ι : Type) where
  world : ι
  commands : List (List String) := []
  taskIds : List (String × String) := []
  proposals : List String := []

section

variable (T : PyText) {ι : Type} (env : CommandEnv ι)

/-- `self.runner(argv)`. -/
def runTool (argv : List String) (s : CommandState ι) : Option (Int × String) × CommandState ι :=
  let (answer, world) := env.runner argv s.world
  (answer, { s with world, commands := s.commands ++ [argv] })

/-- `self.board`, `self.created_by`: the adapter of `_select_loop_adapter` has no endpoint of its own. -/
def kanbanTool (command : List String) : List String := ["hermes", "kanban", "--board", shortText T env.board] ++ command

/-- `_build_argv`. -/
def buildArgv (task : GraphTask) (parentTaskId : String) : List String :=
  let acceptance := "Acceptance criteria:\n" ++ task.acceptance
  let body := if task.acceptance = "" then task.body
    else if task.body = "" then acceptance else task.body ++ "\n\n" ++ acceptance
  kanbanTool T env (["create", task.title, "--body", body, "--assignee", shortText T task.assignee] ++
    Boards.option "--parent" parentTaskId ++ ["--idempotency-key", task.idempotencyKey] ++
    Boards.option "--created-by" (shortText T env.createdBy) ++ ["--json"])

/-- `_subscribe_if_needed`. -/
def subscribeIfNeeded (task : GraphTask) (taskId : String) (s : CommandState ι) : Bool × CommandState ι :=
  if !task.subscriptionRequired then (true, s)
  else match mapOriginToFlags T (orText task.returnTo task.origin) with
    | none => (false, s)
    | some flags =>
      let (answer, s) := runTool env (kanbanTool T env (["notify-subscribe", taskId, "--platform", flags.platform,
        "--chat-id", flags.chatId] ++ Boards.option "--thread-id" flags.threadId ++
        Boards.option "--user-id" flags.userId)) s
      match answer with
      | none => (false, s)
      | some (code, _) =>
        if code ≠ 0 then (false, s)
        else
          let (done, world) := env.ensureActiveWakeAck taskId flags s.world
          (done, { s with world })

/-- `_task_id_from_result`. -/
def taskIdFromResult (result : List (String × Json)) : String :=
  let id := ["task_id", "id", "task"].findSome? fun key => (result.lookup key).filter Json.truthy
  shortText T ((id.map T.str).getD "")

/-- `RealKanbanGraphAdapter.create_graph`; an answer nested too deeply to be read is one that is not JSON. -/
def realCreateGraph (task : GraphTask) (s : CommandState ι) : Roadmap.CreateResult × CommandState ι :=
  let parent := if task.parentKey = "" then "" else (s.taskIds.lookup task.parentKey).getD ""
  let (answer, s) := runTool env (buildArgv T env task parent) s
  match answer with
  | none => ({ success := false }, s)
  | some (code, stdout) =>
    if code ≠ 0 then ({ success := false }, s)
    else match env.loads stdout with
      | some (.obj result) =>
        let taskId := taskIdFromResult T result
        if taskId = "" then ({ success := false }, s)
        else
          let (subscribed, s) := subscribeIfNeeded T env task taskId s
          if !subscribed then ({ success := false }, s)
          else ({ success := true, taskId }, { s with taskIds := (task.idempotencyKey, taskId) :: s.taskIds })
      | _ => ({ success := false }, s)

/-- `RealKanbanGraphAdapter`. -/
def realKanbanGraphAdapter : LoopAdapter (CommandState ι) where
  createGraph c := realCreateGraph T env (candidateTask c)
  recordSourceReceipt _ s := s
  createIntent i := realCreateGraph T env i.task
  listExisting _ _ := false

/-- `FakeKanbanGraphAdapter.create_graph`. -/
def fakeCreateGraph (task : GraphTask) (s : CommandState ι) : Roadmap.CreateResult × CommandState ι :=
  let taskId := "task:" ++ String.ofList ((sha256Hex task.idempotencyKey).toList.take 12)
  ({ success := true, taskId }, { s with proposals := s.proposals ++ [task.idempotencyKey] })

/-- `FakeKanbanGraphAdapter`. -/
def fakeKanbanGraphAdapter : LoopAdapter (CommandState ι) where
  createGraph c := fakeCreateGraph (candidateTask c)
  recordSourceReceipt _ s := s
  createIntent i := fakeCreateGraph i.task
  listExisting key s := s.proposals.any fun p => p = key || (key ++ ":").toList.isPrefixOf p.toList

/-- `_select_loop_adapter`. -/
def selectLoopAdapter (policy : LoopPolicy) : Option (LoopAdapter (CommandState ι)) :=
  let roadmapRealRequested := policy.roadmapBoardAdapterMode = "real" && policy.roadmapApplyEnabled
  if !policy.applyEffectivelyEnabled then none
  else if roadmapRealRequested then
    if env.hermes then some (realKanbanGraphAdapter T env) else none
  else some fakeKanbanGraphAdapter

end

/-- A dict of arguments. -/
abbrev Kwargs := List (String × Json)

/-- The arguments of a fixture that are fields, with the options of the command line over them. -/
def withOptions (allowed overridden : List String) (options fixture : Kwargs) : Kwargs :=
  overridden.foldl (fun kwargs field => match options.lookup field with
    | some value => Dicts.set field value kwargs
    | none => kwargs) (fixture.filter fun f => allowed.contains f.1)

def eventFields : List String := ["event_id", "source_graph_id", "source_task_id", "event_type", "verdict", "summary",
  "blocker_class", "origin", "return_to", "subscription_status", "policy_resolution_ref", "round_no", "occurred_at",
  "source_final_id", "remediation_review_id"]

def strEventFields : List String := eventFields.filter fun field => !(["round_no", "occurred_at"].contains field)

def allEventFields : List String :=
  eventFields ++ ["source_assignee", "chain_depth", "old_final_card", "remediation_review_card"]

def policyFields : List String := ["active_mode", "apply_enabled", "kill_switch", "allowlisted_blockers", "max_rounds",
  "max_same_blocker", "max_auto_creates_per_run", "max_tasks_per_graph", "cooldown_seconds", "backoff_multiplier",
  "require_subscription_verified", "require_origin_match", "require_policy_resolution", "request_only_by_default",
  "expected_origin", "expected_return_to", "roadmap_auto_continue", "roadmap_allowlisted_transitions",
  "roadmap_trusted_assignees", "roadmap_apply_enabled", "roadmap_impl_assignee", "roadmap_review_assignee",
  "roadmap_ack_trigger_agent", "roadmap_board_adapter_mode"]

namespace Kwargs

variable (kwargs : Kwargs)

/-- A field that is a string where it is given. -/
def text (field : String) (default : String := "") : String := match kwargs.lookup field with
  | some (.str s) => s
  | _ => default

def card (field : String) : List (String × Json) := match kwargs.lookup field with
  | some (.obj fields) => fields
  | _ => []

/-- `_validate_event_kwargs`: the field with a wrong type. -/
def badEventField : Option String :=
  let wrong (field : String) (sound : Json → Bool) := match kwargs.lookup field with
    | some value => !sound value
    | none => false
  let strings := strEventFields.find? fun field => wrong field fun value => value matches .str _
  let rest := [("round_no", fun value : Json => (value matches .int _ : Bool)),
    ("occurred_at", fun value => (value matches .int _ | .float _ : Bool)),
    ("old_final_card", fun value => (value matches .null | .obj _ : Bool)),
    ("remediation_review_card", fun value => (value matches .null | .obj _ : Bool))].find? fun f => wrong f.1 f.2
  strings.orElse fun _ => rest.map Prod.fst

/-- `LoopEvent(**kwargs)`, of arguments whose types were looked at; the two others are not looked at there. -/
def event (T : PyText) (assignee : String) (depth : Int) : LoopEvent where
  eventId := kwargs.text "event_id"
  sourceGraphId := kwargs.text "source_graph_id"
  verdict := kwargs.text "verdict"
  summary := kwargs.text "summary"
  eventType := kwargs.text "event_type" "terminal_task_verdict"
  sourceTaskId := kwargs.text "source_task_id"
  blockerClass := kwargs.text "blocker_class"
  origin := kwargs.text "origin"
  returnTo := kwargs.text "return_to"
  subscriptionStatus := kwargs.text "subscription_status" "unverified"
  policyResolutionRef := kwargs.text "policy_resolution_ref"
  roundNo := match kwargs.lookup "round_no" with
    | some (.int n) => n
    | _ => 0
  occurredAt := ((kwargs.lookup "occurred_at").bind T.float).getD 0
  sourceFinalId := kwargs.text "source_final_id"
  remediationReviewId := kwargs.text "remediation_review_id"
  sourceAssignee := assignee
  chainDepth := depth
  oldFinalCard := kwargs.card "old_final_card"
  remediationReviewCard := kwargs.card "remediation_review_card"

/-- The source assignee and `int(chain_depth or 0)`; without them nothing is promoted. -/
def promotable (int : Json → Option Int) : Option (String × Int) :=
  match kwargs.lookup "source_assignee", (kwargs.lookup "chain_depth").filter Json.truthy with
  | some (.str assignee), some depth => (int depth).map (assignee, ·)
  | some (.str assignee), none => some (assignee, 0)
  | none, some depth => (int depth).map ("", ·)
  | none, none => some ("", 0)
  | some _, _ => none

end Kwargs

/-- What is wrong with a policy by the types of its fields; a mode that cannot be looked up in a set raises. -/
inductive PolicyFault
  | malformed
  | raises

namespace Kwargs

variable (kwargs : Kwargs)

def mode (field default : String) (modes : List String) : Except PolicyFault String := match kwargs.lookup field with
  | none => .ok default
  | some (.str s) => if modes.contains s then .ok s else .error .malformed
  | some (.arr _) | some (.obj _) => .error .raises
  | some _ => .error .malformed

def strictBool (field : String) : Except PolicyFault Bool := match kwargs.lookup field with
  | none => .ok false
  | some (.bool b) => .ok b
  | some _ => .error .malformed

def strictText (field : String) : Except PolicyFault String := match kwargs.lookup field with
  | none => .ok ""
  | some (.str s) => .ok s
  | some _ => .error .malformed

/-- A bool is an int. -/
def strictInt (field : String) (default : Int) : Except PolicyFault Int := match kwargs.lookup field with
  | none => .ok default
  | some (.int n) => .ok n
  | some (.bool b) => .ok b.toNat
  | some _ => .error .malformed

/-- A tuple of strings: the items of a list, or what is between the commas of a string. -/
def names (T : PyText) (field : String) : Except PolicyFault (List String) := match kwargs.lookup field with
  | none => .ok []
  | some (.str s) => .ok (((s.splitOn ",").map (PyText.strip T.isSpace)).filter (· ≠ ""))
  | some (.arr items) => items.mapM fun item => match item with
    | .str s => .ok s
    | _ => .error .malformed
  | some _ => .error .malformed

/-- A field that is only looked at as a condition. -/
def flag (field : String) (default : Bool) : Bool := ((kwargs.lookup field).map Json.truthy).getD default

/-- What the origin of an event is compared with: a value that is no string differs from it. -/
def expected (field own : String) : String := match kwargs.lookup field with
  | none => ""
  | some (.str s) => s
  | some value => if value.truthy then own ++ "." else ""

/-- `LoopPolicy(**kwargs)` of the merged arguments, as far as `_coerce_policy` lets it pass by its types. -/
def policy (T : PyText) (ev : LoopEvent) : Except PolicyFault LoopPolicy := do
  let activeMode ← kwargs.mode "active_mode" "request_only" validModes
  let applyEnabled ← kwargs.strictBool "apply_enabled"
  let allowlistedBlockers ← kwargs.names T "allowlisted_blockers"
  let roadmapAutoContinue ← kwargs.strictBool "roadmap_auto_continue"
  let roadmapAllowlistedTransitions ← kwargs.names T "roadmap_allowlisted_transitions"
  let roadmapTrustedAssignees ← kwargs.names T "roadmap_trusted_assignees"
  let roadmapApplyEnabled ← kwargs.strictBool "roadmap_apply_enabled"
  let roadmapImplAssignee ← kwargs.strictText "roadmap_impl_assignee"
  let roadmapReviewAssignee ← kwargs.strictText "roadmap_review_assignee"
  let roadmapAckTriggerAgent ← kwargs.strictText "roadmap_ack_trigger_agent"
  let roadmapBoardAdapterMode ← kwargs.mode "roadmap_board_adapter_mode" "fake" ["fake", "real"]
  let maxRounds ← kwargs.strictInt "max_rounds" 2
  let maxSameBlocker ← kwargs.strictInt "max_same_blocker" 1
  let maxAutoCreatesPerRun ← kwargs.strictInt "max_auto_creates_per_run" 3
  let maxTasksPerGraph ← kwargs.strictInt "max_tasks_per_graph" 9
  let cooldownSeconds ← kwargs.strictInt "cooldown_seconds" 900
  let backoffMultiplier : Rat ← match kwargs.lookup "backoff_multiplier" with
    | none => pure 2
    | some (.bool b) => pure b.toNat
    | some value => match (if value matches .int _ | .float _ then T.float value else none) with
      | some micros => pure (micros / 1000000)
      | none => throw .malformed
  return {
    activeMode, applyEnabled, allowlistedBlockers, maxRounds, maxSameBlocker, maxAutoCreatesPerRun, maxTasksPerGraph,
    cooldownSeconds, backoffMultiplier, roadmapAutoContinue, roadmapAllowlistedTransitions, roadmapTrustedAssignees,
    roadmapApplyEnabled, roadmapImplAssignee, roadmapReviewAssignee, roadmapAckTriggerAgent, roadmapBoardAdapterMode
    killSwitch := kwargs.flag "kill_switch" false
    requireSubscriptionVerified := kwargs.flag "require_subscription_verified" true
    requireOriginMatch := kwargs.flag "require_origin_match" true
    requirePolicyResolution := kwargs.flag "require_policy_resolution" true
    expectedOrigin := kwargs.expected "expected_origin" ev.origin
    expectedReturnTo := kwargs.expected "expected_return_to" ev.returnTo }

end Kwargs

/-- The options of a command line that are given, and `--apply`. -/
structure CommandLine where
  options : Kwargs := []
  apply : Bool := false

/-- The objects of a fixture: its receipts as the ledger has them, `none` where one of them is malformed, and its registry
as `_build_roadmap_registry` makes it. -/
structure Fixture where
  event : Kwargs := []
  policy : Kwargs := []
  receipts : Option LoopLedger := some []
  registry : Option Roadmap.Registry := none

inductive CommandFailure
  | inputFileUnreadable
  | inputJsonInvalid
  | malformedEvent (field : String)
  | malformedLedgerReceipts
  | evaluationFailed

/-- What is evaluated. -/
structure LoopCommand where
  event : LoopEvent
  policy : LoopPolicy
  receipts : LoopLedger
  registry : Option Roadmap.Registry

section

variable (T : PyText) {ι : Type} (env : CommandEnv ι)

/-- The event, the policy and the ledger of a command. A policy that is malformed by its types is one of no mode. -/
def CommandLine.read (line : CommandLine) (input : Except CommandFailure Fixture) : Except CommandFailure LoopCommand := do
  let fixture ← input
  let eventKwargs : Kwargs := withOptions allEventFields eventFields line.options fixture.event
  if let some field := eventKwargs.badEventField then throw (.malformedEvent field)
  let promotable := eventKwargs.promotable env.int
  let event := eventKwargs.event T ((promotable.map Prod.fst).getD "") ((promotable.map Prod.snd).getD 0)
  let merged := withOptions policyFields policyFields line.options fixture.policy
  let policyKwargs : Kwargs := if line.apply then Dicts.set "active_mode" (.str "apply") merged else merged
  match fixture.receipts with
  | none => throw .malformedLedgerReceipts
  | some receipts =>
    let registry := if promotable.isSome then fixture.registry else none
    match policyKwargs.policy T event with
    | .error .raises => throw .evaluationFailed
    | .error .malformed => return { event, policy := { activeMode := "" }, receipts, registry }
    | .ok policy => return { event, policy, receipts, registry }

/-- The ledgers and the board that an evaluation begins with. -/
def LoopCommand.start (c : LoopCommand) (world : ι) : LoopState (CommandState ι) where
  receipts := c.receipts
  promotions := some []
  applied := some []
  board := { world }

def LoopCommand.args (c : LoopCommand) : LoopArgs (CommandState ι) where
  adapter := selectLoopAdapter T env c.policy
  registry := c.registry
  clock := env.clock

/-- The evaluation of a command that was read. An exception comes before any command is run. -/
def LoopCommand.evaluate (c : LoopCommand) (world : ι) : Except CommandFailure LoopDecision × CommandState ι :=
  match evaluateLoopEvent T (some c.policy) (c.args T env) c.event (c.start world) with
  | .ok (decision, s) => (.ok decision, s.board)
  | .error _ => (.error .evaluationFailed, (c.start world).board)

/-- `run_loop_evaluate`. -/
def runLoopEvaluate (line : CommandLine) (input : Except CommandFailure Fixture) (world : ι) :
    Except CommandFailure LoopDecision × CommandState ι :=
  match line.read T env input with
  | .error e => (.error e, { world })
  | .ok c => c.evaluate T env world

end

end AgentflowHermes.Loop
