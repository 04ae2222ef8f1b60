import AgentflowHermes.BoardEnrollment
import AgentflowHermes.ExecutorOutcome

namespace AgentflowHermes

open CrashProgram Relation

/-- `RepoRoadmapConfig`, as far as the router looks at it. -/
structure RepoRoadmapConfig where
  enabled : Bool := false
  killSwitch : Bool := false
  applyMode : Bool := false

/-- `InMemoryRoadmapApplyLedger.applied`: the receipts by their idempotency keys. -/
abbrev ApplyLedger := List (String × Json)

namespace ApplyLedger

def has (applied : ApplyLedger) (key : String) : Bool := (applied.lookup key).isSome

/-- A dict assignment. -/
def record (applied : ApplyLedger) (key : String) (receipt : Json) : ApplyLedger :=
  if applied.has key then applied.map fun f => if f.1 = key then (key, receipt) else f
  else applied ++ [(key, receipt)]

end ApplyLedger

/-- `RealKanbanGraphAdapter` on the board databases. -/
structure GraphAdapter (δ : Type) where
  createGraph : Json → δ → AdapterResult × δ
  recordSourceReceipt : Json → δ → δ

/-- An answer of `propose_roadmap_promotion`: whether it is a fresh proposal, its key and that key as a
durable reference, and what the graph of a known transition is made of. -/
structure Proposal where
  success : Bool := true
  fresh : Bool := false
  key : String := ""
  safeKey : String := ""
  known : Bool := false
  candidates : List Json := []
  receipt : List String → Json := fun _ => .obj []

def maxApplyTasksPerGraph : Nat := 5

section

variable {δ φ : Type}

/-- The graph's tasks, up to the first that the adapter refuses or returns no id for. -/
def createGraphs (adapter : GraphAdapter δ) : List Json → δ → Option (List String) × δ
  | [], d => (some [], d)
  | candidate :: rest, d =>
    let created := adapter.createGraph candidate d
    if !created.1.success || created.1.taskId == "" then (none, created.2)
    else
      let later := createGraphs adapter rest created.2
      (later.1.map (created.1.taskId :: ·), later.2)

/-- `apply_roadmap_promotion`: the answer's `success`, the apply ledger and the boards. -/
def applyRoadmapPromotion (p : Proposal) (applyEnabled : Bool) (adapter : Option (GraphAdapter δ)) (applied : ApplyLedger)
    (d : δ) : Bool × ApplyLedger × δ :=
  if p.key ≠ "" ∧ applied.has p.safeKey then (true, applied, d)
  else if !p.fresh || !applyEnabled || !p.known then (p.success, applied, d)
  else match adapter with
    | none => (p.success, applied, d)
    | some adapter =>
      if p.candidates.length > maxApplyTasksPerGraph then (p.success, applied, d)
      else match createGraphs adapter p.candidates d with
        | (none, d) => (false, applied, d)
        | (some ids, d) => (true, applied.record p.safeKey (p.receipt ids), adapter.recordSourceReceipt (p.receipt ids) d)

abbrev Bytes := List UInt8

/-- A `BoardRegistryEntry` with what a tick reads by it. The config is `none` when there is no path or it
cannot be loaded, and a missing or erroring database is one without events. -/
structure BoardRegistryEntry (δ : Type) where
  board : String
  dbIdentity : String
  defaultEndpoint : String := ""
  roadmapConfig : Option RepoRoadmapConfig := none
  roadmapReceiptsFile : String := ""
  currentMaxSeq : δ → Int
  fetchEventsSince : δ → Int → List BoardEvent
  propose : String → Proposal

/-- What an invocation of the daemon runs with: its code, its files' format, the real boards and itself.
`own` answers for the clock, the checkers, the proposers and every `FakeBoardAdapter`. -/
structure Daemon (δ φ : Type) where
  text : PyText
  contracts : String → Option InputContract
  resolve : String → List Requirement → Json → Except PyError Resolution
  inbox : Option Nat := none
  loads : Bytes → Option Json
  dumps : Json → Bytes
  cli : Env Response δ
  graph : BoardRegistryEntry δ → GraphAdapter δ
  own : Env Response φ

/-- What is outside of the ledger while an invocation runs. Receipts files are written without fail. -/
structure Outside (δ φ : Type) where
  boards : δ
  files : String → Option Bytes
  memory : φ
  ledger : ApplyLedger

namespace Daemon

variable (D : Daemon δ φ)

/-- `load_roadmap_apply_ledger`: a missing or unreadable file has no receipts. -/
def loadRoadmapApplyLedger (path : String) (files : String → Option Bytes) : ApplyLedger :=
  if path = "" then []
  else match (files path).bind D.loads with
    | some (.obj fields) => fields.filter fun f => f.2.isDict
    | _ => []

/-- `_persist_roadmap_apply_ledger`. -/
def persistRoadmapApplyLedger (path : String) (o : Outside δ φ) : Outside δ φ :=
  { o with files := fun file => if file = path then some (D.dumps (.obj o.ledger)) else o.files file }

/-- The promotion of one GO event, and the receipts file after it. -/
def promote (apply : Bool) (b : BoardRegistryEntry δ) (eventId : String) (o : Outside δ φ) : Bool × Outside δ φ :=
  let applyEnabled := apply && b.roadmapConfig.any RepoRoadmapConfig.applyMode
  let adapter := if apply then some (D.graph b) else none
  let r := applyRoadmapPromotion (b.propose eventId) applyEnabled adapter o.ledger o.boards
  let promoted := { o with boards := r.2.2, ledger := r.2.1 }
  (r.1, if b.roadmapReceiptsFile = "" then promoted else D.persistRoadmapApplyLedger b.roadmapReceiptsFile promoted)

def onBoards (q : Request) (o : Outside δ φ) : Response q × Outside δ φ :=
  ((D.cli q o.boards).1, { o with boards := (D.cli q o.boards).2 })

def onItself (q : Request) (o : Outside δ φ) : Response q × Outside δ φ :=
  ((D.own q o.memory).1, { o with memory := (D.own q o.memory).2 })

/-- The adapters are real ones with `--apply` and fakes else; a promotion is made for the board at its turn. -/
def env (apply : Bool) (turn : Option (BoardRegistryEntry δ)) : Env Response (Outside δ φ)
  | .routeRoadmap eventId, o => match turn with
    | some b => D.promote apply b eventId o
    | none => D.onItself (.routeRoadmap eventId) o
  | .mutate a row m, o => if apply then D.onBoards (.mutate a row m) o else D.onItself (.mutate a row m) o
  | .probe a row p, o => if apply then D.onBoards (.probe a row p) o else D.onItself (.probe a row p) o
  | q, o => D.onItself q o

def ingestConfig (apply : Bool) (b : BoardRegistryEntry δ) : IngestConfig where
  board := b.board
  dbIdentity := b.dbIdentity
  contracts := D.contracts
  resolve := D.resolve
  adapter := some { board := b.board }
  roadmap := match b.roadmapConfig with
    | none => .noConfig
    | some config => if !config.enabled || config.killSwitch then .disabled else .promotion
  defaultEndpoint := b.defaultEndpoint
  inbox := D.inbox
  apply := apply

/-- The board at its turn in a tick, with the apply ledger loaded for it. -/
def loaded (b : BoardRegistryEntry δ) (c : Outside δ φ × Store) : Outside δ φ × Store :=
  ({ c.1 with ledger := D.loadRoadmapApplyLedger b.roadmapReceiptsFile c.1.files }, c.2)

def tickBoard (apply : Bool) (b : BoardRegistryEntry δ) (c : Outside δ φ × Store) : Outside δ φ × Store :=
  let c := D.loaded b c
  (run (D.env apply (some b)) (routeBoardEvents D.text (D.ingestConfig apply b) (b.currentMaxSeq c.1.boards)
    (b.fetchEventsSince c.1.boards)) c.1 c.2).2

def adapterByBoard (registry : List (BoardRegistryEntry δ)) (board : String) : Option Adapter :=
  if registry.any fun b => b.board == board then some { board := board } else none

def pollWaits (apply : Bool) (c : Outside δ φ × Store) : Outside δ φ × Store :=
  (run (D.env apply none) (pollExternalWaitConditions none) c.1 c.2).2

def replayOutbox (apply : Bool) (registry : List (BoardRegistryEntry δ)) (c : Outside δ φ × Store) : Outside δ φ × Store :=
  (run (D.env apply none) (reconcileOutbox (adapterByBoard registry)) c.1 c.2).2

/-- `AgentflowDaemon.tick`: the boards of the registry one after the other, then the external waits. -/
def tick (apply : Bool) (registry : List (BoardRegistryEntry δ)) (c : Outside δ φ × Store) : Outside δ φ × Store :=
  D.pollWaits apply (registry.foldl (fun c b => D.tickBoard apply b c) c)

end Daemon

/-- The passes a tick, a reconcile or a run is made of: the boards of a registry and the external waits, and
the outbox after them. An exception ends the invocation where it is. -/
inductive DaemonPass (D : Daemon δ φ) (apply : Bool) (meets : BoardRegistryEntry δ → Outside δ φ × Store → Prop) :
    Outside δ φ × Store → Outside δ φ × Store → Prop
  | board {c} (b : BoardRegistryEntry δ) (h : meets b (D.loaded b c)) : DaemonPass D apply meets c (D.tickBoard apply b c)
  | waits {c} : DaemonPass D apply meets c (D.pollWaits apply c)
  | outbox {c} (registry : List (BoardRegistryEntry δ)) : DaemonPass D apply meets c (D.replayOutbox apply registry c)

/-- What outlives an invocation: the ledger's file, the board databases and the receipts files. -/
structure Durable (δ : Type) where
  store : Option Store
  boards : δ
  files : String → Option Bytes

/-- `effective_store`: the configured ledger with `--apply`, a copy of it that is thrown away else. -/
inductive Invocation (D : Daemon δ φ) (apply : Bool) (meets : BoardRegistryEntry δ → Outside δ φ × Store → Prop) :
    Durable δ → Durable δ → Prop
  | passes {d o s} (memory : φ)
      (h : ReflTransGen (DaemonPass D apply meets) (⟨d.boards, d.files, memory, []⟩, d.store.getD .empty) (o, s)) :
      Invocation D apply meets d ⟨if apply then some s else d.store, o.boards, o.files⟩

end

end AgentflowHermes
