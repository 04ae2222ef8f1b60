import AgentflowHermes.BoardIngest

namespace AgentflowHermes

/-- A row of `tasks`. -/
structure Task where
  id : String
  assignee : String := ""
  title : String := ""
  workspacePath : String := ""
  workflowTemplateId : String := ""

/-- A row of `task_runs`; a JSON column is `none` where its text is empty or no JSON. -/
structure TaskRun where
  id : Int
  stepKey : String := ""
  summary : String := ""
  metadata : Option Json := none

/-- A row of `task_events`. -/
structure TaskEvent where
  id : Int
  taskId : String
  runId : Option Int := none
  kind : String
  payload : Option Json := none

/-- A row of `kanban_notify_subs`. -/
structure NotifySub where
  taskId : String
  platform : String
  chatId : String
  threadId : String := ""
  createdAt : Nat := 0

/-- What a board's Kanban database holds for the event source; the events are in the order of their ids. -/
structure KanbanDb where
  tasks : List Task := []
  runs : List TaskRun := []
  events : List TaskEvent := []
  notifySubs : List NotifySub := []
  ordered : events.Pairwise fun e f => e.id < f.id

def terminalKinds : List String := ["completed", "blocked", "failed", "crashed", "timed_out"]

def TaskEvent.terminal (e : TaskEvent) : Bool := terminalKinds.contains e.kind

namespace KanbanDb

def empty : KanbanDb := ⟨[], [], [], [], .nil⟩

def task (db : KanbanDb) (id : String) : Option Task := db.tasks.find? fun t => t.id == id

def run (db : KanbanDb) (id : Option Int) : Option TaskRun := id.bind fun id => db.runs.find? fun r => r.id == id

/-- The joins of the event query: the task is there, and so is the run an event names. -/
def visible (db : KanbanDb) (e : TaskEvent) : Bool := (db.task e.taskId).isSome && (e.runId.isNone || (db.run e.runId).isSome)

/-- `select .. where e.id > ? and e.kind in (..) order by e.id asc limit ?`. -/
def selectEvents (db : KanbanDb) (lastSeq : Int) (limit : Nat) : List TaskEvent :=
  (db.events.filter fun e => decide (lastSeq < e.id) && e.terminal && db.visible e).take limit

/-- `select coalesce(max(id), 0)`. -/
def maxId (db : KanbanDb) : Int := (db.events.map TaskEvent.id).max?.getD 0

/-- A new event; its id is above every id there is. -/
def addEvent (db : KanbanDb) (e : TaskEvent) (above : ∀ f ∈ db.events, f.id < e.id) : KanbanDb :=
  { db with
    events := db.events ++ [e]
    ordered := List.pairwise_append.mpr
      ⟨db.ordered, List.pairwise_singleton _ _, fun f hf _ hg => List.mem_singleton.mp hg ▸ above f hf⟩ }

end KanbanDb

def canonicalBoardEventId (eventSeq : Int) : String := "kanban-event-" ++ toString eventSeq

/-- `_parse_json_dict` of a decoded column. -/
def parseJsonDict (raw : Option Json) : Json := (raw.filter Json.isDict).getD .null

def payloadSummary (raw : Option Json) : String :=
  (["summary", "verdict", "message"].findSome? fun key => match (parseJsonDict raw).get? key with
    | some (.str s) => if s = "" then none else some s
    | _ => none).getD ""

/-- `_typed_notify_endpoint`: the newest subscription of the task. -/
def typedNotifyEndpoint (db : KanbanDb) (taskId : String) : String :=
  let newest := ((db.notifySubs.filter fun n => n.taskId == taskId).mergeSort fun m n => decide (n.createdAt ≤ m.createdAt)).head?
  match newest with
  | none => ""
  | some n =>
    if taskId = "" ∨ n.platform = "" ∨ n.chatId = "" then ""
    else n.platform ++ ":" ++ n.chatId ++ if n.threadId = "" then "" else ":" ++ n.threadId

/-- `LiveBoardEventSource`; its limit is at least one. -/
structure LiveBoardEventSource where
  board : String
  dbIdentity : String
  defaultEndpoint : String := ""
  limit : Nat := 200
  positive : 0 < limit := by decide

namespace LiveBoardEventSource

def rowToEvent (src : LiveBoardEventSource) (db : KanbanDb) (e : TaskEvent) : BoardEvent :=
  let task := db.task e.taskId
  let run := db.run e.runId
  let endpoint := orText (typedNotifyEndpoint db e.taskId) src.defaultEndpoint
  { eventId := canonicalBoardEventId e.id
    eventSeq := e.id
    sourceTaskId := e.taskId
    sourceGraphId := orText (orText ((run.map TaskRun.stepKey).getD "") ((task.map Task.workflowTemplateId).getD ""))
      ("graph:" ++ e.taskId)
    summary := orText ((run.map TaskRun.summary).getD "") (payloadSummary e.payload)
    runMetadata := parseJsonDict (run.bind TaskRun.metadata)
    originRef := endpoint
    returnToRef := endpoint
    workspaceRef := (task.map Task.workspacePath).getD ""
    assignee := (task.map Task.assignee).getD ""
    eventKind := e.kind
    title := (task.map Task.title).getD "" }

/-- A database that is missing, locked or erroring reads as one without events. -/
def fetchEventsSince (src : LiveBoardEventSource) (db : Option KanbanDb) (lastSeq : Int) : List BoardEvent :=
  match db with
  | none => []
  | some db => (db.selectEvents lastSeq src.limit).map (src.rowToEvent db)

def currentMaxSeq (db : Option KanbanDb) : Int :=
  match db with
  | none => 0
  | some db => db.maxId

end LiveBoardEventSource

section

variable {db : KanbanDb} {src : LiveBoardEventSource} {last : Int} {limit : Nat} {e f : TaskEvent}

theorem KanbanDb.mem_selectEvents (h : e ∈ db.selectEvents last limit) :
    e ∈ db.events ∧ last < e.id ∧ e.terminal ∧ db.visible e := by
  obtain ⟨mem, hp⟩ := List.mem_filter.mp (List.mem_of_mem_take h)
  simp only [Bool.and_eq_true, decide_eq_true_eq] at hp
  exact ⟨mem, hp.1.1, hp.1.2, hp.2⟩

/-- In a list in order, what stands at or below a taken element is taken. -/
theorem mem_take_of_le {xs : List TaskEvent} (ordered : xs.Pairwise fun e f => e.id < f.id) (hf : f ∈ xs.take limit)
    (he : e ∈ xs) (le : e.id ≤ f.id) : e ∈ xs.take limit := by
  induction xs generalizing limit with
  | nil => cases he
  | cons x xs ih =>
    cases limit with
    | zero => cases hf
    | succ limit =>
      obtain ⟨first, ordered⟩ := List.pairwise_cons.mp ordered
      rw [List.take_succ_cons, List.mem_cons] at hf ⊢
      rcases List.mem_cons.mp he with heq | mem
      · exact .inl heq
      · rcases hf with heq | hf
        · have lt := first e mem
          rw [← heq] at lt
          omega
        · exact .inr (ih ordered hf mem)

/-- The query skips no visible event below one it returns. -/
theorem KanbanDb.selectEvents_below (hf : f ∈ db.selectEvents last limit) (he : e ∈ db.events) (above : last < e.id)
    (terminal : e.terminal) (visible : db.visible e) (le : e.id ≤ f.id) : e ∈ db.selectEvents last limit := by
  refine mem_take_of_le (db.ordered.filter _) hf (List.mem_filter.mpr ⟨he, ?_⟩) le
  simp [above, terminal, visible]

theorem LiveBoardEventSource.mem_fetchEventsSince {db : Option KanbanDb} {ev : BoardEvent}
    (h : ev ∈ src.fetchEventsSince db last) :
    ∃ d e, db = some d ∧ e ∈ d.selectEvents last src.limit ∧ ev = src.rowToEvent d e := by
  cases db with
  | none => cases h
  | some d =>
    obtain ⟨e, he, rfl⟩ := List.mem_map.mp h
    exact ⟨d, e, rfl, he, rfl⟩

theorem KanbanDb.id_le_maxId (h : e ∈ db.events) : e.id ≤ db.maxId := by
  unfold KanbanDb.maxId
  have mem := List.mem_map_of_mem (f := TaskEvent.id) h
  cases hm : (db.events.map TaskEvent.id).max? with
  | none =>
    rw [List.max?_eq_none_iff] at hm
    rw [hm] at mem
    cases mem
  | some m => exact (List.max?_le_iff hm).mp (Int.le_refl m) _ mem

end

end AgentflowHermes
