import AgentflowHermes.JobStore

namespace AgentflowHermes.Jobs

/-- What live dispatch reads of a `LivePolicy`. -/
structure LivePolicy where
  liveDispatchEnabled : Bool := false
  allowedTargets : List String := []
  canaryTargets : List String := []
  maxSendsPerMin : Int := 3
  maxSendsPerTargetPerHour : Int := 10
  killSwitch : Bool := false

/-- What a gateway does with a message: it raises, or answers with a `DeliveryResult`. -/
inductive Answer
  | raised
  | failed (receiptRef : String)
  | delivered (receiptRef : String)
  deriving DecidableEq

/-- A gateway, by target, body and idempotency key. -/
abbrev Gateway := String → String → String → Answer

/-- The readings of the clock in one call: at its start, at its first receipt and at what follows. -/
structure Readings where
  now : Int
  receipt : Int
  outcome : Int

def second : Int := 1000000

/-- The start of the bucket of a reading: `float(str(int(now) // width)) * width`. -/
def bucketStart (now width : Int) : Int := now.tdiv second / width * width * second

namespace JobStore

/-- `_count_receipts` of the attempts. -/
def sendsThisMinute (s : JobStore) (now : Int) : Nat :=
  let start := bucketStart now 60
  (s.receipts.filter fun r => r.phase = .attempt ∧ start ≤ r.createdAt ∧ r.createdAt < start + 60 * second).length

/-- `_count_target_receipts`. -/
def sendsThisTargetHour (s : JobStore) (target : String) (now : Int) : Nat :=
  let start := bucketStart now 3600
  (s.receipts.filter fun r =>
    r.phase = .attempt ∧ r.target = target ∧ start ≤ r.createdAt ∧ r.createdAt < start + 3600 * second).length

/-- `check_throttle`: the reason of a refusal. -/
def checkThrottle (s : JobStore) (policy : LivePolicy) (target : String) (now : Int) : Option String :=
  if s.degraded then some "circuit_breaker_degraded"
  else if policy.maxSendsPerMin ≤ s.sendsThisMinute now then some "throttled_per_minute"
  else if policy.maxSendsPerTargetPerHour ≤ s.sendsThisTargetHour target now then some "throttled_per_target_hour"
  else none

def channel : String := "live_dispatch"

def window : Int := 300 * second

def countSince (s : JobStore) (phase : Phase) (cutoff : Int) : Nat :=
  (s.receipts.filter fun r => r.channel = channel ∧ r.phase = phase ∧ cutoff ≤ r.createdAt).length

/-- `consecutive_failures`. -/
def consecutiveFailures (s : JobStore) (now : Int) : Nat :=
  s.countSince .attempt (now - window) - s.countSince .applied (now - window)

def addReceipt (s : JobStore) (r : Receipt) : JobStore := { s with receipts := s.receipts ++ [r] }

end JobStore

/-- `_make_idempotency_key`. -/
def makeIdempotencyKey (jobId target correlationId : String) : String :=
  String.ofList ((sha256Hex (JobStore.channel ++ ":" ++ jobId ++ ":" ++ target ++ ":" ++ correlationId)).toList.take 24)

def Job.idempotencyKey (j : Job) : String :=
  makeIdempotencyKey j.id j.target (if j.correlationId = "" then j.id else j.correlationId)

section

variable (T : PyText)

/-- `safe_source_ref`. -/
def safeSourceRef (value : String) : String :=
  let ref := shortText T value
  if ref = "" then ""
  else if containsSensitiveText T ref || !safeRefText ref.toList then hashedRef ref
  else ref

/-- `safe_body_for_delivery`; a short text is one line, or none. -/
def safeBodyForDelivery (body jobId sourceRef sourceHash : String) : String :=
  let text := shortText T body 2000
  let safe := if containsSensitiveText T text then "" else text
  let safe := if safe = "" then "AgentFlow dispatch notification" else safe
  "job_id: " ++ shortText T jobId ++ "\nsource_ref: " ++ safeSourceRef T sourceRef ++
    "\nsource_hash: " ++ shortText T sourceHash ++ "\n" ++ safe

def Job.message (j : Job) : String := safeBodyForDelivery T j.body j.id j.sourceRef j.sourceHash

end

/-- The arguments of `dispatch_live`, its policy resolved. -/
structure LiveCall where
  jobId : String
  gateway : Option Gateway := none
  policy : LivePolicy
  live : Bool := false
  readings : Readings

/-- Why a dispatch stops before it sends; a duplicate has the reference of the first delivery, where a key keeps it. -/
inductive Stop
  | refused (reason : String)
  | duplicate (deliveryRef : Option String)
  deriving DecidableEq

def Stop.reason : Stop → String
  | .refused reason => reason
  | .duplicate _ => "duplicate"

def Stop.deliveryRef : Stop → String
  | .refused _ => ""
  | .duplicate ref => ref.getD ""

/-- What `dispatch_live` answers. -/
inductive LiveResult
  | unknownJob
  | dryRun (applied : Bool) (status : JobStatus)
  | stopped (stop : Stop)
  | failed (error : String) (deliveryRef : String)
  | delivered (deliveryRef : String)

namespace JobStore

/-- The checks of `dispatch_live` before the send, in their order; what passes them has a gateway. -/
def liveGate (s : JobStore) (j : Job) (c : LiveCall) : Except Stop Gateway :=
  if c.policy.killSwitch then .error (.refused "kill_switch")
  else if !c.policy.liveDispatchEnabled then .error (.refused "live_dispatch_disabled")
  else if !c.policy.allowedTargets.contains j.target || !c.policy.canaryTargets.contains j.target then
    .error (.refused "target_not_allowed")
  else
    match s.keys.find? (·.key == j.idempotencyKey) with
    | some delivered => .error (.duplicate (some delivered.deliveryRef))
    | none =>
      if j.liveDeliveredAt.isSome || j.liveDeliveryRef ≠ "" then .error (.duplicate none)
      else
        match s.checkThrottle c.policy j.target c.readings.now, c.gateway with
        | some reason, _ => .error (.refused reason)
        | none, none => .error (.refused "gateway_unavailable")
        | none, some gateway => .ok gateway

def liveReceipt (j : Job) (phase : Phase) (deliveryRef reason : String) (time : Int) : Receipt where
  jobId := j.id
  channel := channel
  phase := phase
  target := j.target
  idempotencyKey := j.idempotencyKey
  deliveryRef := deliveryRef
  reason := reason
  createdAt := time

/-- What stands open for a job when a call of it reaches its gateway. -/
structure Opened (s : JobStore) (j : Job) (c : LiveCall) (gateway : Gateway) : Prop where
  running : c.policy.killSwitch = false
  enabled : c.policy.liveDispatchEnabled = true
  allowed : c.policy.allowedTargets.contains j.target = true
  canary : c.policy.canaryTargets.contains j.target = true
  fresh : s.keys.find? (·.key == j.idempotencyKey) = none
  undelivered : j.liveDeliveredAt = none ∧ j.liveDeliveryRef = ""
  throttle : s.checkThrottle c.policy j.target c.readings.now = none
  gateway : c.gateway = some gateway

theorem liveGate_ok {s : JobStore} {j : Job} {c : LiveCall} {gateway : Gateway} (h : s.liveGate j c = .ok gateway) :
    s.Opened j c gateway := by
  unfold liveGate at h
  split at h
  · cases h
  next running =>
    split at h
    · cases h
    next enabled =>
      split at h
      · cases h
      next targets =>
        split at h
        · cases h
        next fresh =>
          split at h
          · cases h
          next undelivered =>
            split at h
            · cases h
            · cases h
            next throttle opened =>
              cases h
              simp only [Bool.or_eq_true, Bool.not_eq_true', not_or, Bool.not_eq_false] at targets
              simp only [Bool.or_eq_true, decide_eq_true_eq, not_or, Bool.not_eq_true, Option.isSome_eq_false_iff,
                Option.isNone_iff_eq_none, ne_eq, Decidable.not_not] at undelivered
              exact ⟨by simpa using running, by simpa using enabled, targets.1, targets.2, fresh, undelivered, throttle,
                opened⟩

/-- The row of `record_failure`, which names no job and no key. -/
def failureReceipt (target : String) (now : Int) : Receipt where
  jobId := ""
  channel := channel
  phase := .failed
  target := target
  idempotencyKey := ""
  reason := "gateway_failure"
  createdAt := now

/-- What a send that failed writes. -/
def failLive (s : JobStore) (j : Job) (readings : Readings) (deliveryRef reason : String) : JobStore :=
  let s := s.addReceipt (failureReceipt j.target readings.now)
  let s := if 3 ≤ s.consecutiveFailures readings.now then { s with degraded := true } else s
  s.addReceipt (liveReceipt j .failed deliveryRef reason readings.outcome)

section

variable (T : PyText)

def deliveryPayload (j : Job) (deliveryRef : String) : Payload :=
  [("channel", .str channel), ("delivery_ref", .str deliveryRef), ("target", .str j.target), ("mode", .str "live")]

/-- What a send that succeeded writes. The key of a delivery is a primary key. -/
def deliverLive (s : JobStore) (j : Job) (readings : Readings) (deliveryRef : String) : Except String JobStore :=
  if s.keys.any (·.key == j.idempotencyKey) then .error "IntegrityError"
  else
    let delivered : Delivered := { key := j.idempotencyKey, jobId := j.id, target := j.target, deliveryRef }
    let s := { s with keys := s.keys ++ [delivered] }
    let s := s.modify j.id fun j =>
      { j with status := .dispatched, liveDeliveredAt := some readings.now, liveDeliveryRef := deliveryRef }
    let s := s.addReceipt (liveReceipt j .applied deliveryRef "delivered" readings.outcome)
    s.recordEvent T j.id "passive_delivery" (deliveryPayload j deliveryRef) readings.outcome j.status.value
      JobStatus.dispatched.value

/-- What `dispatch_live` does after the gateway's answer. -/
def settleLive (s : JobStore) (j : Job) (readings : Readings) : Answer → Except String (LiveResult × JobStore)
  | .raised => .ok (.failed "gateway_failure" "", s.failLive j readings "" "gateway_failure")
  | .failed ref => .ok (.failed "delivery_failed" ref, s.failLive j readings ref "delivery_failed")
  | .delivered ref => do return (.delivered ref, ← s.deliverLive T j readings ref)

/-- `dispatch_live`. -/
def dispatchLive (s : JobStore) (c : LiveCall) : Except String (LiveResult × JobStore) :=
  match s.job? c.jobId with
  | none => .ok (.unknownJob, s)
  | some j =>
    if !c.live then do
      let (moved, s) ← s.dispatchDryRun T c.jobId c.readings.receipt
      return (moved.elim .unknownJob fun m => .dryRun m.1 m.2, s)
    else
      match s.liveGate j c with
      | .error stop =>
        .ok (.stopped stop, s.addReceipt (liveReceipt j .refused stop.deliveryRef stop.reason c.readings.receipt))
      | .ok gateway =>
        let s := s.addReceipt (liveReceipt j .attempt "" "" c.readings.receipt)
        s.settleLive T j c.readings (gateway j.target (j.message T) j.idempotencyKey)

theorem settleLive_delivered {T : PyText} {s s' : JobStore} {j : Job} {readings : Readings} {ref : String}
    (h : s.deliverLive T j readings ref = .ok s') :
    s.settleLive T j readings (.delivered ref) = .ok (.delivered ref, s') := by
  show (do return (LiveResult.delivered ref, ← s.deliverLive T j readings ref)) = _
  rw [h]
  rfl

variable {T} {s : JobStore} {j : Job} {c : LiveCall} (found : s.job? c.jobId = some j) (live : c.live = true)

include found live

theorem dispatchLive_stop {stop : Stop} (h : s.liveGate j c = .error stop) :
    s.dispatchLive T c = .ok (.stopped stop,
      s.addReceipt (liveReceipt j .refused stop.deliveryRef stop.reason c.readings.receipt)) := by
  unfold dispatchLive
  rw [found]
  dsimp only
  rw [live, h]
  rfl

/-- A call that gets past the checks leaves its attempt, then what follows from the gateway's answer. -/
theorem dispatchLive_send {gateway : Gateway} (h : s.liveGate j c = .ok gateway) :
    s.dispatchLive T c = (s.addReceipt (liveReceipt j .attempt "" "" c.readings.receipt)).settleLive T j c.readings
      (gateway j.target (j.message T) j.idempotencyKey) := by
  unfold dispatchLive
  rw [found]
  dsimp only
  rw [live, h]
  rfl

end

end JobStore

end AgentflowHermes.Jobs
