import AgentflowHermes.LoopHonesty
import AgentflowHermes.RealBoardAdapter
import AgentflowHermes.ReceiptsFile
import AgentflowHermes.RoadmapConfig

namespace AgentflowHermes.Roadmap

open Loop (LoopPolicy LoopEvent LoopAdapter LoopState LoopDecision LoopArgs RoadmapOutcome)

/-- What a watch works with: the `hermes` tool, which may raise, and whether it is installed; the JSON reader; the writer of
the board for a source task; and the hash of a registry's content. -/
structure WatchHost (σ : Type) where
  hermes : Bool
  runner : List String → σ → Option (Int × String) × σ
  loads : String → Boards.Loaded
  adapter : String → LoopAdapter σ
  contentHash : List (String × Transition) → String

/-- Why the tool gives no JSON: an error that is reported, or an exception. -/
inductive ToolFault
  | reported (error : String)
  | raised

abbrev TaskFields := List (String × Json)

section

variable (T : PyText) {σ : Type} (host : WatchHost σ)

/-- `hermes kanban --board … --json`. -/
def kanbanJson (board : String) (command : List String) (w : σ) : Except ToolFault Json × σ :=
  let (answer, w) := host.runner (["hermes", "kanban", "--board", board] ++ command ++ ["--json"]) w
  match answer with
  | none => (.error (.reported "cli_runner_error"), w)
  | some (code, stdout) =>
    if code ≠ 0 then (.error (.reported "cli_runner_failed"), w)
    else match host.loads stdout with
      | .value j => (.ok j, w)
      | .invalid => (.error (.reported "cli_invalid_json"), w)
      | .tooDeep => (.error .raised, w)

def listOf : Option Json → Option (List Json)
  | some (.arr items) => some items
  | _ => none

/-- `fetch_task_via_cli`: the task and its runs. -/
def fetchTask (board taskId : String) (w : σ) : Except ToolFault (TaskFields × List Json) × σ :=
  let (answer, w) := kanbanJson host board ["show", shortText T taskId] w
  match answer with
  | .error fault => (.error fault, w)
  | .ok (.obj data) =>
    let task := match data.lookup "task" with
      | some (.obj nested) => nested
      | _ => data
    (.ok (task, (listOf (data.lookup "runs")).getD ((listOf (task.lookup "runs")).getD [])), w)
  | .ok _ => (.error (.reported "cli_invalid_json"), w)

/-- The id of a listed task. -/
def listedId : Json → String
  | .obj item => T.strOr (item.lookup "id") (T.strOr (item.lookup "task_id") "")
  | item => T.str item

/-- `list_final_tasks_via_cli`; an exception is passed on. -/
def listFinalTasks (board : String) (w : σ) : Except Unit (List String) × σ :=
  let (answer, w) := kanbanJson host board ["list", "--status", "done"] w
  match answer with
  | .error .raised => (.error (), w)
  | .error (.reported _) => (.ok [], w)
  | .ok data =>
    let items := match data with
      | .obj fields => listOf (fields.lookup "tasks")
      | data => listOf (some data)
    (.ok (((items.getD []).map (listedId T)).filter (· ≠ "")), w)

def filledText : Option Json → Option String
  | some (.str s) => if s = "" then none else some s
  | _ => none

/-- `_task_str`. -/
def taskStr (task : TaskFields) (keys : List String) : String :=
  (keys.findSome? fun key => filledText (task.lookup key)).getD ""

/-- A number as a time; `True` is the number one. -/
def timestamp : Json → Option Int
  | .int n => some (n * 1000000)
  | .bool b => some (if b then 1000000 else 0)
  | .float r => T.float (.float r)
  | _ => none

def completed (run : TaskFields) : Bool :=
  ["status", "outcome"].any fun key =>
    ["completed", "done", "success"].contains (lowerText (T.strOr (run.lookup key) "").toList)

/-- The summary of a completed run, with the first of its times that is a number. -/
def completedSummary : Json → Option (Option Int × String)
  | .obj run =>
    if completed T run then (filledText (run.lookup "summary")).map fun summary =>
      (["ended_at", "completed_at", "started_at", "id"].findSome? fun key => (run.lookup key).bind (timestamp T), summary)
    else none
  | _ => none

/-- `_latest_completed_run_summary`: the first of the latest ones, or else the first one of all. -/
def latestCompletedRunSummary (runs : List Json) : String :=
  let candidates := runs.filterMap (completedSummary T)
  match candidates.filterMap fun c => c.1.map fun time => (time, c.2) with
  | first :: rest => (rest.foldl (fun best c => if best.1 < c.1 then c else best) first).2
  | [] => ((candidates.map Prod.snd).head?).getD ""

/-- `_summary_marker`. -/
def summaryMarker (text wanted : String) : String :=
  ((text.toList.splitOnP lineBreak).findSome? fun line =>
    match line.dropWhile (· != ':') with
    | [] => none
    | _ :: value =>
      if lowerText (strip T (String.ofList (line.takeWhile (· != ':')))).toList = wanted then
        some (strip T (String.ofList value))
      else none).getD ""

/-- `loop_event_from_task`. -/
def loopEventFromTask (task : TaskFields) (config : Config.RepoRoadmapConfig) (eventId : String) (runs : List Json) :
    LoopEvent :=
  let taskId := taskStr task ["id", "task_id"]
  let runSummary := orText (latestCompletedRunSummary T runs) (taskStr task ["latest_summary"])
  let summary := orText runSummary (orText (taskStr task ["result", "summary"]) (taskStr task ["body", "title"]))
  { eventId
    sourceGraphId := orText taskId eventId
    sourceTaskId := taskId
    summary
    origin := orText (taskStr task ["origin"]) config.expectedOrigin
    returnTo := orText (taskStr task ["return_to"]) config.expectedReturnTo
    subscriptionStatus := orText (taskStr task ["subscription_status"])
      (orText (summaryMarker T summary "subscription-status") "unverified")
    policyResolutionRef := orText (taskStr task ["policy_resolution_ref"]) (summaryMarker T summary "policy-resolution-ref")
    sourceFinalId := taskId
    sourceAssignee := taskStr task ["assignee"]
    occurredAt := 0 }

/-- `config_to_loop_policy`. -/
def configToLoopPolicy (config : Config.RepoRoadmapConfig) (apply : Bool) : LoopPolicy where
  activeMode := if apply then "apply" else "request_only"
  applyEnabled := apply
  killSwitch := config.killSwitch
  requireOriginMatch := config.requireOriginMatch
  requirePolicyResolution := config.requirePolicyResolution
  expectedOrigin := config.expectedOrigin
  expectedReturnTo := config.expectedReturnTo
  roadmapAutoContinue := true
  roadmapAllowlistedTransitions := config.allowedTransitions
  roadmapMaxChainDepth := config.maxChainDepth
  roadmapMaxPromotionsPerRoadmap := config.maxPromotionsPerRoadmap
  roadmapPromoteCooldownSeconds := config.promoteCooldownSeconds
  roadmapRequireReviewEdge := config.requireReviewEdge
  roadmapRequireAckEdge := config.requireAckEdge
  roadmapRequireTrustedAssignee := config.requireTrustedAssignee
  roadmapTrustedAssignees := config.trustedAssignees
  roadmapRequirePolicyResolution := config.requirePolicyResolution
  roadmapApplyEnabled := apply && config.applyMode
  roadmapImplAssignee := config.implAssignee
  roadmapReviewAssignee := config.reviewAssignee
  roadmapAckTriggerAgent := config.ackTriggerAgent
  roadmapBoardAdapterMode := "real"

/-- `build_registry`. -/
def buildRegistry (config : Config.RepoRoadmapConfig) : Registry where
  transitions := config.transitions
  contentHash := host.contentHash config.transitions
  sourceRef := config.sourceRef

/-- What comes of a listed task: an error, or a decision; an exception outside of the evaluation ends the run. -/
inductive WatchEntry
  | unread (task error : String)
  | unevaluated (task : String)
  | decided (task : String) (event : LoopEvent) (decision : LoopDecision)
  | died (task : String)

def WatchEntry.isDied : WatchEntry → Bool
  | died _ => true
  | _ => false

/-- `_make_adapter`. -/
def makeAdapter (config : Config.RepoRoadmapConfig) (apply : Bool) (sourceTaskId : String) : Option (LoopAdapter σ) :=
  if apply && config.applyMode then some (host.adapter sourceTaskId) else none

/-- What both commands do with a task; `clock` is what the evaluation reads of the clock. -/
def evaluateTask (label : String) (config : Config.RepoRoadmapConfig) (apply : Bool) (taskId : String) (clock : Int)
    (s : LoopState σ) : WatchEntry × LoopState σ :=
  let (fetched, board) := fetchTask T host config.board taskId s.board
  let s := { s with board }
  match fetched with
  | .error .raised => (.died taskId, s)
  | .error (.reported error) => (.unread taskId error, s)
  | .ok (task, runs) =>
    let event := loopEventFromTask T task config (label ++ taskId) runs
    let args : LoopArgs σ := {
      adapter := makeAdapter host config apply taskId
      registry := some (buildRegistry host config)
      clock }
    match Loop.evaluateLoopEvent T (some (configToLoopPolicy config apply)) args event s with
    | .error _ => (.unevaluated taskId, s)
    | .ok (decision, s) => (.decided taskId event decision, s)

/-- The loop of `run_roadmap_watch`. -/
def watchTasks (config : Config.RepoRoadmapConfig) (apply : Bool) : List String → (Nat → Int) → LoopState σ →
    List WatchEntry × LoopState σ
  | [], _, s => ([], s)
  | taskId :: rest, clock, s =>
    let (entry, s) := evaluateTask T host "roadmap-watch:" config apply taskId (clock 0) s
    if entry.isDied then ([entry], s)
    else
      let (entries, s) := watchTasks config apply rest (fun k => clock (k + 1)) s
      (entry :: entries, s)

end

inductive RoadmapCommand
  | watch (once : Bool)
  | promote (task : String)

/-- A call of `roadmap watch` or `roadmap promote`, with what the others do to the board before it, what it reads of the
clock at each task, and whether it can write its receipts. A config that cannot be loaded is `none`. -/
structure RoadmapCall (σ : Type) where
  passes : σ → σ := id
  host : WatchHost σ
  config : Option Config.RepoRoadmapConfig
  command : RoadmapCommand
  apply : Bool
  clock : Nat → Int
  writes : Bool := true

/-- What a call answers; the last one is an exception. -/
inductive WatchAnswer
  | refused (error : String)
  | disabled
  | evaluated (entries : List WatchEntry)
  | died (entries : List WatchEntry)

def WatchAnswer.entries : WatchAnswer → List WatchEntry
  | evaluated entries => entries
  | died entries => entries
  | _ => []

/-- The receipts file, `none` where there is none, and the board. -/
structure WatchState (σ : Type) where
  file : Option ReceiptsText := none
  board : σ

section

variable (T : PyText) {σ : Type} (path : String)

/-- The config that a call goes by, or what it answers without one. -/
def RoadmapCall.ready (call : RoadmapCall σ) : Except WatchAnswer Config.RepoRoadmapConfig :=
  match call.config with
  | none => .error (.refused "malformed_config")
  | some config =>
    if !config.enabled then .error .disabled
    else if !config.sameBoardOnly ∨ config.board = "" then .error (.refused "same_board_required")
    else if !call.host.hermes then .error (.refused "no_board_client")
    else .ok config

/-- The ledgers that a call starts with. -/
def seededLedgers (file : Option ReceiptsText) (board : σ) : LoopState σ where
  promotions := some []
  applied := some (if path = "" then [] else seedApplyLedger [] file.isSome (file.getD none))
  board := board

/-- The end of both commands: the apply ledger is written where a path is given. -/
def persist (call : RoadmapCall σ) (entries : List WatchEntry) (after : LoopState σ) (file : Option ReceiptsText) :
    WatchAnswer × WatchState σ :=
  if path = "" then (.evaluated entries, ⟨file, after.board⟩)
  else if call.writes then (.evaluated entries, ⟨some (persistedText (after.applied.getD [])), after.board⟩)
  else (.died entries, ⟨some none, after.board⟩)

/-- `run_roadmap_watch` over the receipts file at a path. -/
def runRoadmapWatch (call : RoadmapCall σ) (once : Bool) (s : WatchState σ) : WatchAnswer × WatchState σ :=
  if !once then (.refused "continuous_watch_not_supported", s)
  else match call.ready with
    | .error answer => (answer, s)
    | .ok config =>
      match listFinalTasks T call.host config.board s.board with
      | (.error (), board) => (.died [], { s with board })
      | (.ok taskIds, board) =>
        let (entries, after) := watchTasks T call.host config call.apply taskIds call.clock (seededLedgers path s.file board)
        if entries.any WatchEntry.isDied then (.died entries, { s with board := after.board })
        else persist path call entries after s.file

/-- `run_roadmap_promote` over the receipts file at a path. -/
def runRoadmapPromote (call : RoadmapCall σ) (task : String) (s : WatchState σ) : WatchAnswer × WatchState σ :=
  match call.ready with
  | .error answer => (answer, s)
  | .ok config =>
    let (entry, after) := evaluateTask T call.host "roadmap-promote:" config call.apply task (call.clock 0)
      (seededLedgers path s.file s.board)
    match entry with
    | .died _ => (.died [entry], { s with board := after.board })
    | .unread _ error => (.refused error, { s with board := after.board })
    | .unevaluated _ => (.refused "evaluation_failed", { s with board := after.board })
    | .decided .. => persist path call [entry] after s.file

def RoadmapCall.perform (call : RoadmapCall σ) (s : WatchState σ) : WatchAnswer × WatchState σ :=
  let s := { s with board := call.passes s.board }
  match call.command with
  | .watch once => runRoadmapWatch T path call once s
  | .promote task => runRoadmapPromote T path call task s

/-- The entries of a sequence of calls, and what they leave. -/
def performAll : List (RoadmapCall σ) → WatchState σ → List WatchEntry × WatchState σ
  | [], s => ([], s)
  | call :: rest, s =>
    let (answer, s) := call.perform T path s
    let (entries, s) := performAll rest s
    (answer.entries ++ entries, s)

end

/-- Whether a promotion has called the adapter to create its graph. -/
def ApplyAnswer.creates : ApplyAnswer → Bool
  | applied .. => true
  | failed .. => true
  | _ => false

/-- The transition that an event names, and its final task. -/
def PromotionEvent.asks (T : PyText) (ev : PromotionEvent) : Option (String × String) :=
  (parseNextSliceDirective T ev.summary).map fun d => (d.transitionId, safeSource T ev.sourceFinalRef)

/-- The key a graph is recorded under at the first depth. -/
def askedKey (T : PyText) (transitions : List (String × Transition)) (ask : String × String) : Option String :=
  (transitions.lookup ask.1).map fun t => safeDurableRef T (promotionKey T t ask.2 1)

/-- What the promotion ledger of a call is like: only promotions are deep, and all is dated by the call's clock. -/
structure Watched (readings : Int → Prop) (ledger : PromotionLedger) : Prop where
  flat : ∀ r ∈ ledger, r.decision ≠ .propose → r.chainDepth ≤ 0
  timed : ∀ r ∈ ledger, readings r.createdAt

/-- One of the caps leaves room for one promotion of a roadmap. -/
def LeavesOne (policy : Policy) (transitions : List (String × Transition)) (readings : Int → Prop) : Prop :=
  (∀ t ∈ transitions.map Prod.snd, min policy.maxChainDepth t.maxChainDepth ≤ 1) ∨ policy.maxPromotionsPerRoadmap ≤ 1 ∨
    ∀ early late, readings early → readings late → late - early < cooldownMicros policy

section

variable {T : PyText} {policy : Policy} {ledger : PromotionLedger} {registry : Registry} {ev : PromotionEvent}
  {readings : Int → Prop}

/-- A promotion is of the transition that the text names. -/
theorem passGates_named {malformed : Bool} {registry : Option Registry} {a : Admitted T}
    (h : passGates T policy malformed registry ev = .ok a) :
    ∃ directive config, parseNextSliceDirective T ev.summary = some directive ∧ registry = some config ∧
      config.get? directive.transitionId = some a.transition := by
  have asked : ∃ directive, requested T policy registry ev = .ok (directive, a) := by
    unfold passGates at h
    split at h
    · cases h
    split at h
    · cases h
    next directive a' asked =>
    split at h
    · cases h
    · cases h
      exact ⟨directive, asked⟩
  obtain ⟨directive, asked⟩ := asked
  unfold requested at asked
  dsimp only at asked
  split at asked
  · cases asked
  split at asked
  · cases asked
  split at asked
  · cases asked
  next named parsed =>
  split at asked
  · cases asked
  split at asked
  · cases asked
  split at asked
  · cases asked
  next transition found =>
  split at asked
  · cases asked
  next template _ =>
    cases asked
    obtain ⟨config, given, found⟩ := Option.bind_eq_some_iff.mp found
    exact ⟨_, config, parsed, given, found⟩

theorem Watched.nil : Watched readings [] := ⟨nofun, nofun⟩

theorem Watched.record (watched : Watched readings ledger) {r : PromotionReceipt}
    (flat : r.decision ≠ .propose → r.chainDepth ≤ 0) (timed : readings r.createdAt) :
    Watched readings (ledger.record T r) where
  flat r' mem other := by
    rcases List.mem_append.mp mem with old | new
    · exact watched.flat r' old other
    · obtain rfl := List.mem_singleton.mp new
      exact flat other
  timed r' mem := by
    rcases List.mem_append.mp mem with old | new
    · exact watched.timed r' old
    · obtain rfl := List.mem_singleton.mp new
      exact timed

theorem Watched.proposed (watched : Watched readings ledger) {registry : Option Registry} {policy : Option Policy}
    (reading : readings ev.occurredAt) :
    Watched readings (proposeRoadmapPromotion T registry ledger policy ev).2 := by
  have way := Roadmap.proposed T registry ledger policy ev
  generalize proposeRoadmapPromotion T registry ledger policy ev = r at way
  cases way with
  | duplicate known => exact watched
  | declined d new judged => exact watched.record (fun _ => Int.le_refl 0) reading
  | accepted p new judged => exact watched.record (fun other => absurd rfl other) reading

theorem Watched.applied (plain : T.Plain) {σ : Type} {registry : Option Registry} {policy : Option Policy}
    {adapter : Option (GraphAdapter σ)} {s t : ApplyState σ} {answer : ApplyAnswer} (watched : Watched readings s.ledger)
    (reading : readings ev.occurredAt)
    (result : applyRoadmapPromotion T registry policy adapter ev s = .ok (answer, t)) : Watched readings t.ledger := by
  have way := Roadmap.applied plain registry policy adapter ev s
  rw [result] at way
  have accepted (p : Promotion T) : Watched readings (s.ledger.record T (p.receipt T registry ev)) :=
    watched.record (fun other => absurd rfl other) reading
  cases way with
  | duplicate r graph proposal keyed known => exact watched
  | declined r proposal refused => exact proposal ▸ watched.proposed reading
  | disabled p new judged unarmed => exact accepted p
  | stopped p reason judged other bare => exact watched
  | failed p g failure board judged missing created => exact watched
  | applied p g tasks board new judged armed missing created => exact accepted p

/-- With one promotion at most, the ledger that a promotion is judged by has no other of its roadmap. -/
theorem depth_one (watched : Watched readings ledger) {transitions : List (String × Transition)}
    (one : LeavesOne policy transitions readings) {p : Promotion T} (caps : WithinCaps policy ledger ev p)
    (listed : p.transition ∈ transitions.map Prod.snd) (start : ev.chainDepth = 0) (reading : readings ev.occurredAt) :
    p.depth = 1 := by
  have depth := caps.depth
  rw [start] at depth
  have flat (none : ledger.promotions T p.transition.roadmapId = []) : p.depth = 1 := by
    have low : ledger.currentChainDepth T p.transition.roadmapId ≤ 0 := by
      unfold PromotionLedger.currentChainDepth
      cases top : ((ledger.ofRoadmap T p.transition.roadmapId).map (·.chainDepth)).max? with
      | none => exact Int.le_refl 0
      | some top' =>
        obtain ⟨r, mem, deep⟩ := List.mem_map.mp (List.max?_eq_some_iff.mp top).1
        have unpromoted : r.decision ≠ .propose := by
          intro is
          have inside : r ∈ ledger.promotions T p.transition.roadmapId := List.mem_filter.mpr ⟨mem, by simp [is]⟩
          rw [none] at inside
          cases inside
        have := watched.flat r (List.mem_of_mem_filter mem) unpromoted
        rw [Option.getD_some]
        omega
    omega
  rcases one with chain | single | quick
  · have := caps.shallow
    have := chain _ listed
    omega
  · have room := caps.room
    refine flat (List.length_eq_zero_iff.mp ?_)
    unfold PromotionLedger.countPromotions at room
    omega
  · refine flat ?_
    cases latest : ledger.lastPromotionTime T p.transition.roadmapId with
    | none => exact List.map_eq_nil_iff.mp (List.max?_eq_none_iff.mp latest)
    | some last =>
      obtain ⟨r, mem, dated⟩ := List.mem_map.mp (List.max?_eq_some_iff.mp latest).1
      have early := watched.timed r (List.mem_of_mem_filter (List.mem_of_mem_filter mem))
      rw [dated] at early
      have := caps.cooled last latest
      have := quick last ev.occurredAt early reading
      omega

/-- A promotion at the first depth creates a graph only for a key that is not known, and records what it applied. -/
theorem promotion_creates (plain : T.Plain) {σ : Type} {policy : Policy} {adapter : Option (GraphAdapter σ)}
    {s t : ApplyState σ} {answer : ApplyAnswer} (watched : Watched readings s.ledger)
    (one : LeavesOne policy registry.transitions readings) (start : ev.chainDepth = 0) (reading : readings ev.occurredAt)
    (result : applyRoadmapPromotion T (some registry) (some policy) adapter ev s = .ok (answer, t))
    (creates : answer.creates = true) :
    ∃ key, (ev.asks T).bind (askedKey T registry.transitions) = some key ∧ key ∉ s.applied.keys ∧
      (answer.isApplied = true → key ∈ t.applied.keys) := by
  have way := Roadmap.applied plain (some registry) (some policy) adapter ev s
  rw [result] at way
  have asked (p : Promotion T) (judged : judge T (some registry) s.ledger (some policy) ev = .ok p)
      (missing : s.applied.get T p.key = none) :
      (ev.asks T).bind (askedKey T registry.transitions) = some (safeDurableRef T p.key) ∧
        safeDurableRef T p.key ∉ s.applied.keys := by
    obtain ⟨admitted, caps⟩ := judge_ok judged
    rw [coercePolicy_wellFormed (passGates_wellFormed admitted)] at caps
    obtain ⟨directive, config, named, given, found⟩ := passGates_named admitted
    obtain rfl := Option.some.inj given
    have listed : p.transition ∈ registry.transitions.map Prod.snd :=
      List.mem_map.mpr ⟨_, Dicts.mem_of_lookup found, rfl⟩
    have first := depth_one watched one caps listed start reading
    refine ⟨?_, fun known => ?_⟩
    · unfold PromotionEvent.asks
      rw [named, Option.map_some, Option.bind_some]
      unfold askedKey
      rw [show registry.transitions.lookup directive.transitionId = some p.transition from found, Option.map_some, caps.key,
        first]
    · have there := lookup_isSome.mpr known
      rw [show s.applied.lookup (safeDurableRef T p.key) = none from missing] at there
      cases there
  cases way with
  | duplicate | declined | disabled | stopped => cases creates
  | failed p g failure board judged missing created =>
    obtain ⟨keyed, fresh⟩ := asked p judged missing
    exact ⟨_, keyed, fresh, nofun⟩
  | applied p g tasks board new judged armed missing created =>
    obtain ⟨keyed, fresh⟩ := asked p judged missing
    exact ⟨_, keyed, fresh, fun _ => mem_keys_record.mpr (.inl rfl)⟩

theorem promotion_grows (plain : T.Plain) {σ : Type} {registry : Option Registry} {policy : Option Policy}
    {adapter : Option (GraphAdapter σ)} {s t : ApplyState σ} {answer : ApplyAnswer}
    (result : applyRoadmapPromotion T registry policy adapter ev s = .ok (answer, t)) :
    s.applied.keys ⊆ t.applied.keys := by
  have way := Roadmap.applied plain registry policy adapter ev s
  rw [result] at way
  cases way with
  | duplicate | declined | disabled | stopped | failed => exact List.Subset.refl _
  | applied p g tasks board new judged armed missing created => exact fun key mem => mem_keys_record.mpr (.inr mem)

end

namespace WatchEntry

def outcome : WatchEntry → Option RoadmapOutcome
  | decided _ _ decision => decision.roadmap
  | _ => none

/-- Whether the adapter was called for a graph. -/
def creates (e : WatchEntry) : Bool := match e.outcome with
  | some (.applied answer) => answer.creates
  | _ => false

def isApplied (e : WatchEntry) : Bool := match e.outcome with
  | some (.applied answer) => answer.isApplied
  | _ => false

/-- The transition that a task names, and the task. -/
def asks (T : PyText) : WatchEntry → Option (String × String)
  | decided _ event _ => (Loop.promotionEvent event 0).asks T
  | _ => none

end WatchEntry

/-- Entries in a row: none creates a known graph or one that an entry before it has applied. -/
structure CreatesOnce (T : PyText) (transitions : List (String × Transition)) (known : List String)
    (entries : List WatchEntry) (after : List String) : Prop where
  grows : known ⊆ after
  fresh : ∀ e ∈ entries, e.creates = true → ∃ key, (e.asks T).bind (askedKey T transitions) = some key ∧ key ∉ known
  kept : ∀ e ∈ entries, e.isApplied = true → ∃ key, (e.asks T).bind (askedKey T transitions) = some key ∧ key ∈ after
  once : entries.Pairwise fun early late => early.isApplied = true → late.creates = true → early.asks T ≠ late.asks T

namespace CreatesOnce

variable {T : PyText} {transitions : List (String × Transition)} {known mid after : List String}
  {entries later : List WatchEntry} {e : WatchEntry}

theorem nil (grows : known ⊆ after) : CreatesOnce T transitions known [] after where
  grows := grows
  fresh _ mem := absurd mem List.not_mem_nil
  kept _ mem := absurd mem List.not_mem_nil
  once := .nil

theorem quiet (grows : known ⊆ after) (quiet : e.creates = false) (silent : e.isApplied = false) :
    CreatesOnce T transitions known [e] after where
  grows := grows
  fresh e' mem creates := by
    obtain rfl := List.mem_singleton.mp mem
    exact absurd (quiet.symm.trans creates) Bool.false_ne_true
  kept e' mem applied := by
    obtain rfl := List.mem_singleton.mp mem
    exact absurd (silent.symm.trans applied) Bool.false_ne_true
  once := List.pairwise_singleton ..

theorem append (h : CreatesOnce T transitions known entries mid) (h' : CreatesOnce T transitions mid later after) :
    CreatesOnce T transitions known (entries ++ later) after where
  grows := List.Subset.trans h.grows h'.grows
  fresh e mem creates := by
    rcases List.mem_append.mp mem with mem | mem
    · exact h.fresh e mem creates
    · obtain ⟨key, keyed, fresh⟩ := h'.fresh e mem creates
      exact ⟨key, keyed, fun old => fresh (h.grows old)⟩
  kept e mem applied := by
    rcases List.mem_append.mp mem with mem | mem
    · obtain ⟨key, keyed, there⟩ := h.kept e mem applied
      exact ⟨key, keyed, h'.grows there⟩
    · exact h'.kept e mem applied
  once := by
    refine List.pairwise_append.mpr ⟨h.once, h'.once, fun early mem late mem' applied creates same => ?_⟩
    obtain ⟨key, keyed, there⟩ := h.kept early mem applied
    obtain ⟨key', keyed', fresh⟩ := h'.fresh late mem' creates
    rw [same, keyed'] at keyed
    obtain rfl := Option.some.inj keyed
    exact fresh there

theorem congr {known' after' : List String} (h : CreatesOnce T transitions known entries after)
    (before : ∀ key, key ∈ known' ↔ key ∈ known) (since : ∀ key, key ∈ after' ↔ key ∈ after) :
    CreatesOnce T transitions known' entries after' where
  grows key mem := (since key).mpr (h.grows ((before key).mp mem))
  fresh e mem creates := by
    obtain ⟨key, keyed, fresh⟩ := h.fresh e mem creates
    exact ⟨key, keyed, fun old => fresh ((before key).mp old)⟩
  kept e mem applied := by
    obtain ⟨key, keyed, there⟩ := h.kept e mem applied
    exact ⟨key, keyed, (since key).mpr there⟩
  once := h.once

end CreatesOnce

section

variable {T : PyText} {σ : Type} {d : LoopDecision} {s s' : LoopState σ} {args : LoopArgs σ} {readings : Int → Prop}

/-- What an evaluation leaves to the roadmap where it does not come to it. -/
structure Apart (s s' : LoopState σ) (d : LoopDecision) : Prop where
  silent : d.roadmap = none
  promotions : s'.promotions = s.promotions
  applied : s'.applied = s.applied

theorem record_apart {t : LoopState σ} (promotions : t.promotions = s.promotions) (applied : t.applied = s.applied)
    (silent : d.roadmap = none) : Apart s (Loop.record t d).2 (Loop.record t d).1 := ⟨silent, promotions, applied⟩

theorem evaluateSupersession_apart {ev : LoopEvent} {policy : LoopPolicy} {now : Int} {adapter : Option (LoopAdapter σ)} :
    Apart s (Loop.evaluateSupersession T ev policy now adapter s).2
      (Loop.evaluateSupersession T ev policy now adapter s).1 := by
  unfold Loop.evaluateSupersession
  extract_lets stale
  split
  · exact record_apart rfl rfl rfl
  split
  · exact record_apart rfl rfl rfl
  split
  split <;> exact record_apart rfl rfl rfl

theorem evaluateBlock_apart {ev : LoopEvent} {policy : LoopPolicy} {now : Int} {blocker : String}
    {adapter : Option (LoopAdapter σ)} :
    Apart s (Loop.evaluateBlock T ev policy now blocker args adapter s).2
      (Loop.evaluateBlock T ev policy now blocker args adapter s).1 := by
  unfold Loop.evaluateBlock
  split
  · exact record_apart rfl rfl rfl
  split <;> exact record_apart rfl rfl rfl

/-- Only a GO comes to the roadmap. -/
theorem evaluateLoopEvent_apart {given : Option LoopPolicy} {ev : LoopEvent}
    (h : Loop.evaluateLoopEvent T given args ev s = .ok (d, s')) :
    Loop.ReachesGo T given ev s.receipts ∨ Apart s s' d := by
  by_cases reached : Loop.ReachesGo T given ev s.receipts
  · exact .inl reached
  right
  unfold Loop.evaluateLoopEvent at h
  dsimp only at h
  split at h
  · cases h
    exact ⟨rfl, rfl, rfl⟩
  next new =>
  split at h
  · cases h
    exact ⟨rfl, rfl, rfl⟩
  next sound =>
  split at h
  · cases h
    exact ⟨rfl, rfl, rfl⟩
  next alive =>
  split at h
  · cases h
    exact ⟨rfl, rfl, rfl⟩
  next active =>
  split at h
  · cases h
    exact ⟨rfl, rfl, rfl⟩
  next origin =>
  split at h
  · show Apart s (d, s').2 (d, s').1
    rw [← Except.ok.inj h]
    exact evaluateSupersession_apart
  next plain =>
  split at h
  next go => exact absurd ⟨by simpa using new, by simpa using sound, by simpa using alive, active, by simpa using origin,
      by simpa using plain, go⟩ reached
  split at h
  · cases h
    exact ⟨rfl, rfl, rfl⟩
  split at h
  · cases h
    exact ⟨rfl, rfl, rfl⟩
  · show Apart s (d, s').2 (d, s').1
    rw [← Except.ok.inj h]
    exact evaluateBlock_apart

end

end AgentflowHermes.Roadmap
