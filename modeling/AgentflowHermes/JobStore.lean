import AgentflowHermes.ContinuationStore
import AgentflowHermes.JobStates

namespace AgentflowHermes.Jobs

/-- A row of `jobs`. Times are clock readings in microseconds. -/
structure Job where
  id : String
  title : String
  body : String
  target : String
  originReturn : String
  dedupeKey : String
  status : JobStatus := .queued
  correlationId : String
  causationId : String
  sourceKind : String
  sourceId : String
  sourceRef : String
  sourceHash : String
  finalAt : Option Int := none
  liveDeliveredAt : Option Int := none
  liveDeliveryRef : String := ""

/-- A row of `job_events`, its `payload_json` decoded. -/
structure JobEvent where
  jobId : String
  kind : String
  payload : Json
  seq : Nat
  prevStatus : String := ""
  newStatus : String := ""

/-- A row of `deadletter`. -/
structure Deadletter where
  jobId : String
  reason : String
  rawRef : String
  payload : Json

inductive Phase
  | refused
  | attempt
  | failed
  | applied
  deriving DecidableEq

/-- A row of `operator_receipts`. -/
structure Receipt where
  jobId : String
  channel : String
  phase : Phase
  target : String
  idempotencyKey : String
  deliveryRef : String := ""
  reason : String := ""
  createdAt : Int

/-- A row of `idempotency_keys`. -/
structure Delivered where
  key : String
  jobId : String
  target : String
  deliveryRef : String

/-- The tables of an `AgentFlowStore`; `degraded` is the flag of that name in `agentflow_meta`. -/
structure JobStore where
  jobs : List Job := []
  events : List JobEvent := []
  deadletters : List Deadletter := []
  receipts : List Receipt := []
  keys : List Delivered := []
  degraded : Bool := false

namespace JobStore

def job? (s : JobStore) (id : String) : Option Job := s.jobs.find? (·.id == id)

def modify (s : JobStore) (id : String) (f : Job → Job) : JobStore :=
  { s with jobs := s.jobs.map fun j => if j.id = id then f j else j }

def eventsOf (s : JobStore) (id : String) : List JobEvent := s.events.filter (·.jobId = id)

/-- `coalesce(max(seq), 0)`. -/
def maxSeq (s : JobStore) (id : String) : Nat := Store.maxOf ((s.eventsOf id).map JobEvent.seq)

section

variable (T : PyText)

/-- What an event keeps of its payload; the reading that `created_at` is set to stands in microseconds. -/
def eventPayload (payload : Payload) (now : Int) : Payload :=
  setKey "created_at" (.float (toString now)) (safeEntries T payload)

/-- `record_event`; the error is the exception, after which nothing is written. -/
def recordEvent (s : JobStore) (jobId kind : String) (payload : Payload) (now : Int) (prevStatus newStatus : String := "") :
    Except String JobStore :=
  match dumpsEntries (eventPayload T payload now) with
  | none => .error "TypeError"
  | some fields =>
    .ok { s with events := s.events ++
      [{ jobId, kind, payload := .obj fields, seq := s.maxSeq jobId + 1, prevStatus, newStatus }] }

end

def addDeadletter (s : JobStore) (d : Deadletter) : JobStore := { s with deadletters := s.deadletters ++ [d] }

/-- `deadletter`. -/
def deadletter (s : JobStore) (reason : String) (jobId rawRef : String := "") (payload : Payload := []) :
    Except String JobStore :=
  match dumpsEntries payload with
  | none => .error "TypeError"
  | some fields => .ok (s.addDeadletter { jobId, reason, rawRef, payload := .obj fields })

end JobStore

/-- `format(n, "x")`. -/
def hex (n : Int) : String :=
  let digits := String.ofList (Nat.toDigits 16 n.natAbs)
  if n < 0 then "-" ++ digits else digits

/-- `f"job_{int(now * 1000):x}"`. -/
def newJobId (now : Int) : String := "job_" ++ hex (now.tdiv 1000)

/-- The arguments of `enqueue`. -/
structure NewJob where
  title : String
  body : String := ""
  target : String := ""
  originReturn : String := ""
  dedupeKey : String := ""
  correlationId : String := ""
  causationId : String := ""
  sourceKind : String := "manual"
  sourceId : String := ""
  sourceRef : String := ""
  sourceHash : String := ""

section

variable (T : PyText)

/-- The row that `enqueue` inserts. -/
def NewJob.row (n : NewJob) (now : Int) : Job where
  id := newJobId now
  title := safeJobFieldUpTo T 240 "title" n.title
  body := safeJobFieldUpTo T 4000 "body" n.body
  target := safeJobFieldUpTo T 240 "target" n.target
  originReturn := safeJobFieldUpTo T 240 "origin_return" n.originReturn
  dedupeKey := safeJobFieldUpTo T 240 "dedupe_key" n.dedupeKey
  correlationId := safeJobFieldUpTo T 240 "correlation_id"
    (if n.correlationId = "" then newJobId now else n.correlationId)
  causationId := safeJobFieldUpTo T 240 "causation_id" n.causationId
  sourceKind := safeJobFieldUpTo T 120 "source_kind" n.sourceKind
  sourceId := safeJobFieldUpTo T 240 "source_id" n.sourceId
  sourceRef := safeDurableRefSalted T n.sourceHash n.sourceRef
  sourceHash := safeJobFieldUpTo T 128 "source_hash" n.sourceHash

/-- Whether `safe_durable_ref` says that it redacted the value. -/
def refRedacted (value : String) : Bool :=
  let ref := shortText T value
  ref ≠ "" && (containsSensitiveText T ref || !safeRefText ref.toList)

/-- The payload of the `enqueued` event, before it is sanitised once more. -/
def Job.enqueuedPayload (j : Job) (redacted : Bool) : Payload :=
  [("title", .str j.title), ("body", .str j.body), ("target", .str j.target), ("origin_return", .str j.originReturn),
    ("correlation_id", .str j.correlationId), ("causation_id", .str j.causationId), ("source_kind", .str j.sourceKind),
    ("source_id", .str j.sourceId), ("source_ref", .str j.sourceRef), ("source_hash", .str j.sourceHash),
    ("dedupe_key", .str j.dedupeKey), ("source_ref_redacted", .bool redacted)]

namespace JobStore

/-- `enqueue`, with the id of the new job. Ids are a primary key, and no two jobs share a source hash. -/
def enqueue (s : JobStore) (n : NewJob) (now : Int) : Except String (String × JobStore) :=
  let j := n.row T now
  if s.jobs.any fun other => other.id = j.id || (j.sourceHash ≠ "" && other.sourceHash = j.sourceHash) then
    .error "IntegrityError"
  else do
    let s := { s with jobs := s.jobs ++ [j] }
    let s ← s.recordEvent T j.id "enqueued" (safeEntries T (j.enqueuedPayload (refRedacted T n.sourceRef))) now
    return (j.id, s)

end JobStore

end

/-- What `ack` answers. -/
inductive AckResult
  | invalidStatus
  | unknownJob
  | duplicate (status : JobStatus)
  | alreadyFinal
  | illegalTransition
  | applied (status : JobStatus)

/-- The arguments of `ack`. -/
structure Ack where
  jobId : String
  status : String
  summary : String := ""
  payload : Payload := []

namespace JobStore

section

variable (T : PyText)

def statusMeta (status summary : String) : Payload := [("status", .str status), ("summary", .str summary)]

/-- An acknowledgement that the job's status does not admit. -/
def rejectAck (s : JobStore) (j : Job) (new : JobStatus) (fields : Payload) (reason : String) (now : Int) :
    Except String JobStore := do
  let s ← s.recordEvent T j.id "ack_rejected" fields now j.status.value new.value
  s.deadletter reason j.id j.sourceHash fields

/-- `ack`, with the reading of the clock it writes. -/
def ack (s : JobStore) (a : Ack) (now : Int) : Except String (AckResult × JobStore) := do
  match normalizeStatus a.status with
  | none =>
    return (.invalidStatus, ← s.deadletter "invalid_status" a.jobId "" (statusMeta a.status a.summary))
  | some new =>
    match s.job? a.jobId with
    | none =>
      let fields := statusMeta new.value a.summary ++ [("source_hash", .str "")]
      let s ← s.recordEvent T "" "ack_rejected" fields now
      return (.unknownJob, ← s.deadletter "unknown_job" a.jobId "" fields)
    | some j =>
      if new = j.status then
        let s ← s.recordEvent T j.id "duplicate_ack" (statusMeta new.value a.summary) now j.status.value new.value
        return (.duplicate new, s)
      else if j.status.final then
        return (.alreadyFinal, ← s.rejectAck T j new (statusMeta new.value a.summary) "already_final" now)
      else if !j.status.allowedTransitions.contains new then
        let fields := statusMeta new.value a.summary ++ [("current", .str j.status.value)]
        return (.illegalTransition, ← s.rejectAck T j new fields "illegal_transition" now)
      else
        let s := s.modify j.id fun j => { j with status := new, finalAt := if new.final then some now else none }
        let s ← s.recordEvent T j.id "ack_applied" (setKey "summary" (.str a.summary) a.payload) now
          j.status.value new.value
        return (.applied new, s)

/-- `dispatch_dry_run`: whether it moved the job, and the job's status. -/
def dispatchDryRun (s : JobStore) (jobId : String) (now : Int) : Except String (Option (Bool × JobStatus) × JobStore) := do
  match s.job? jobId with
  | none => return (none, s)
  | some j =>
    if j.status = .queued then
      let s := s.modify jobId fun j => { j with status := .dispatched }
      let s ← s.recordEvent T jobId "dispatched_dry_run" [("mode", .str "dry-run")] now j.status.value
        JobStatus.dispatched.value
      return (some (true, .dispatched), s)
    else
      let fields : Payload := [("mode", .str "dry-run"), ("current_status", .str j.status.value)]
      let s ← s.recordEvent T jobId "dispatched_dry_run" fields now j.status.value j.status.value
      return (some (false, j.status), s)

end

end JobStore

end AgentflowHermes.Jobs
