import AgentflowHermes.JobLifeCycle

namespace AgentflowHermes.Jobs

open JobStore

def minute : Int := 60 * second

def hour : Int := 3600 * second

/-- A message handed to a gateway: the reading on its attempt receipt, and the one on the receipt of its delivery. -/
structure Send where
  time : Int
  target : String
  deliveredAt : Option Int

section

variable (T : PyText)

/-- The message that a call sends, if its checks let it. -/
def sendOf (s : JobStore) (c : LiveCall) : Option Send :=
  if c.live then
    match s.job? c.jobId with
    | none => none
    | some j =>
      match s.liveGate j c with
      | .error _ => none
      | .ok gateway => some {
          time := c.readings.receipt
          target := j.target
          deliveredAt := match gateway j.target (j.message T) j.idempotencyKey with
            | .delivered _ => some c.readings.outcome
            | _ => none }
  else none

def performLive (s : JobStore) (c : LiveCall) : JobStore := stored s (s.dispatchLive T c)

def runLive (s : JobStore) (calls : List LiveCall) : JobStore := calls.foldl (performLive T) s

/-- The messages of a run, in order. -/
def sends (s : JobStore) : List LiveCall → List Send
  | [] => []
  | c :: rest => (sendOf T s c).toList ++ sends (performLive T s c) rest

end

/-- The last three messages all failed, and all were sent since the start of the window. -/
def ThreeFailures (history : List Send) (now : Int) : Prop :=
  ∃ earlier a b c, history = earlier ++ [a, b, c] ∧ ∀ x ∈ [a, b, c], x.deliveredAt = none ∧ now - window ≤ x.time

/-- Three messages or more since the start of the window, less the deliveries recorded since then. -/
def Overdue (history : List Send) (now : Int) : Prop :=
  3 ≤ (history.filter fun x => now - window ≤ x.time).length -
    ((history.filterMap Send.deliveredAt).filter fun t => now - window ≤ t).length

/-- What is claimed of a run of calls with one policy. -/
structure ThrottleHolds (T : PyText) (s : JobStore) (policy : LivePolicy) (calls : List LiveCall) : Prop where
  perMinute : ∀ before after, calls = before ++ after → ∀ m,
    ((sends T s before).filter fun x => x.time / minute = m).length ≤ policy.maxSendsPerMin.toNat
  perTargetHour : ∀ before after, calls = before ++ after → ∀ target m,
    ((sends T s before).filter fun x => x.target = target ∧ x.time / hour = m).length ≤
      policy.maxSendsPerTargetPerHour.toNat
  closed : ∀ before c after, calls = before ++ c :: after → (runLive T s before).degraded = true →
    sendOf T (runLive T s before) c = none
  breaker : ∀ before c after, calls = before ++ c :: after → (runLive T s before).degraded = false →
    ((performLive T (runLive T s before) c).degraded = true ↔
      ∃ x, sendOf T (runLive T s before) c = some x ∧ ThreeFailures (sends T s before ++ [x]) c.readings.now)

/-- The clock bucket of a reading, as `_bucket` numbers it. -/
def bucketOf (now width : Int) : Int := now.tdiv second / width

/-- The messages since the start of the window are the last ones, and none of them or of those before was delivered
in it. -/
def Undisturbed (history : List Send) (now : Int) : Prop :=
  ∃ earlier late, history = earlier ++ late ∧
    (∀ x ∈ earlier, x.time < now - window ∧ ∀ t, x.deliveredAt = some t → t < now - window) ∧
    ∀ x ∈ late, now - window ≤ x.time ∧ x.deliveredAt = none

/-- What is asked of a message: where the reading on its receipt leaves the bucket that the throttle looked at, its own
bucket has room; and where it fails in a disturbed window, the count comes out right. -/
structure Fair (policy : LivePolicy) (before : List Send) (x : Send) (now : Int) : Prop where
  minute : x.time / minute ≠ bucketOf now 60 →
    ((before.filter fun y => y.time / minute = x.time / minute).length : Int) < policy.maxSendsPerMin
  hour : x.time / hour ≠ bucketOf now 3600 →
    ((before.filter fun y => y.target = x.target ∧ y.time / hour = x.time / hour).length : Int) <
      policy.maxSendsPerTargetPerHour
  counted : x.deliveredAt = none → ¬ Undisturbed (before ++ [x]) now →
    (Overdue (before ++ [x]) now ↔ ThreeFailures (before ++ [x]) now)

/-- What the receipts of a store keep of the messages sent. -/
structure Linked (s : JobStore) (history : List Send) : Prop where
  attempts : (s.receipts.filter fun r => r.phase = .attempt).map (fun r => (r.createdAt, r.target)) =
    history.map fun x => (x.time, x.target)
  applied : (s.receipts.filter fun r => r.phase = .applied).map Receipt.createdAt = history.filterMap Send.deliveredAt
  channels : ∀ r ∈ s.receipts, r.channel = channel

/-- What a call does to the receipts and to the breaker. -/
inductive LiveStep (T : PyText) (s : JobStore) (c : LiveCall) (s' : JobStore) : Prop
  | quiet (rest : List Receipt) (unsent : sendOf T s c = none) (receipts : s'.receipts = s.receipts ++ rest)
      (refused : ∀ r ∈ rest, r.phase = .refused ∧ r.channel = channel) (degraded : s'.degraded = s.degraded)
  | failed (j : Job) (gateway : Gateway) (ref reason : String) (opened : s.Opened j c gateway)
      (sent : sendOf T s c = some ⟨c.readings.receipt, j.target, none⟩)
      (receipts : s'.receipts = s.receipts ++ [liveReceipt j .attempt "" "" c.readings.receipt,
        failureReceipt j.target c.readings.now, liveReceipt j .failed ref reason c.readings.outcome])
      (degraded : s'.degraded = true ↔ s.degraded = true ∨
        3 ≤ ((s.addReceipt (liveReceipt j .attempt "" "" c.readings.receipt)).addReceipt
          (failureReceipt j.target c.readings.now)).consecutiveFailures c.readings.now)
  | delivered (j : Job) (gateway : Gateway) (ref : String) (opened : s.Opened j c gateway)
      (sent : sendOf T s c = some ⟨c.readings.receipt, j.target, some c.readings.outcome⟩)
      (receipts : s'.receipts = s.receipts ++ [liveReceipt j .attempt "" "" c.readings.receipt,
        liveReceipt j .applied ref "delivered" c.readings.outcome])
      (degraded : s'.degraded = s.degraded)

section

variable {T : PyText} {s s' : JobStore} {c : LiveCall} {history : List Send} {policy : LivePolicy}

theorem recordEvent_receipts {id kind prev new : String} {payload : Payload} {now : Int}
    (h : s.recordEvent T id kind payload now prev new = .ok s') :
    s'.receipts = s.receipts ∧ s'.degraded = s.degraded := by
  unfold JobStore.recordEvent at h
  split at h
  · cases h
  · cases h
    exact ⟨rfl, rfl⟩

theorem dispatchDryRun_receipts {id : String} {now : Int} {r : Option (Bool × JobStatus)}
    (h : s.dispatchDryRun T id now = .ok (r, s')) : s'.receipts = s.receipts ∧ s'.degraded = s.degraded := by
  unfold JobStore.dispatchDryRun at h
  split at h
  · cases h
    exact ⟨rfl, rfl⟩
  split at h
  · obtain ⟨after, recorded, h⟩ := bind_ok' h
    cases h
    obtain ⟨receipts, degraded⟩ := recordEvent_receipts recorded
    exact ⟨receipts, degraded⟩
  · obtain ⟨after, recorded, h⟩ := bind_ok' h
    cases h
    exact recordEvent_receipts recorded

theorem failLive_step {j : Job} {readings : Readings} {ref reason : String} :
    (s.failLive j readings ref reason).receipts =
        s.receipts ++ [failureReceipt j.target readings.now, liveReceipt j .failed ref reason readings.outcome] ∧
      ((s.failLive j readings ref reason).degraded = true ↔ s.degraded = true ∨
        3 ≤ (s.addReceipt (failureReceipt j.target readings.now)).consecutiveFailures readings.now) := by
  unfold JobStore.failLive
  dsimp only
  split
  next three => exact ⟨by simp [addReceipt], fun _ => .inr three, fun _ => rfl⟩
  next few =>
    refine ⟨by simp [addReceipt], fun before => .inl before, fun either => ?_⟩
    exact either.resolve_right few

theorem performLive_step (c : LiveCall) : LiveStep T s c (performLive T s c) := by
  by_cases live : c.live = true
  · cases found : s.job? c.jobId with
    | none =>
      have unsent : sendOf T s c = none := by simp [sendOf, live, found]
      have same : performLive T s c = s := by simp [performLive, JobStore.dispatchLive, found, stored]
      rw [same]
      exact .quiet [] unsent (by simp) (by simp) rfl
    | some j =>
      cases gate : s.liveGate j c with
      | error stop =>
        have unsent : sendOf T s c = none := by simp [sendOf, live, found, gate]
        unfold performLive
        rw [dispatchLive_stop found live gate]
        refine .quiet [_] unsent rfl ?_ rfl
        intro r mem
        rw [List.mem_singleton.mp mem]
        exact ⟨rfl, rfl⟩
      | ok gateway =>
        have opened := liveGate_ok gate
        unfold performLive
        rw [dispatchLive_send found live gate]
        cases answered : gateway j.target (j.message T) j.idempotencyKey with
        | raised =>
          have sent : sendOf T s c = some ⟨c.readings.receipt, j.target, none⟩ := by
            simp [sendOf, live, found, gate, answered]
          obtain ⟨receipts, degraded⟩ := @failLive_step (s.addReceipt (liveReceipt j .attempt "" "" c.readings.receipt))
            j c.readings "" "gateway_failure"
          refine .failed j gateway "" "gateway_failure" opened sent (receipts.trans ?_) degraded
          simp [addReceipt]
        | failed ref =>
          have sent : sendOf T s c = some ⟨c.readings.receipt, j.target, none⟩ := by
            simp [sendOf, live, found, gate, answered]
          obtain ⟨receipts, degraded⟩ := @failLive_step (s.addReceipt (liveReceipt j .attempt "" "" c.readings.receipt))
            j c.readings ref "delivery_failed"
          refine .failed j gateway ref "delivery_failed" opened sent (receipts.trans ?_) degraded
          simp [addReceipt]
        | delivered ref =>
          have sent : sendOf T s c = some ⟨c.readings.receipt, j.target, some c.readings.outcome⟩ := by
            simp [sendOf, live, found, gate, answered]
          obtain ⟨after, delivered⟩ : ∃ s', (s.addReceipt (liveReceipt j .attempt "" "" c.readings.receipt)).deliverLive T j
              c.readings ref = .ok s' := deliverLive_succeeds opened.fresh
          have performed : stored s ((s.addReceipt (liveReceipt j .attempt "" "" c.readings.receipt)).settleLive T j
              c.readings (.delivered ref)) = after := by
            rw [settleLive_delivered delivered]
            rfl
          rw [performed]
          unfold deliverLive at delivered
          split at delivered
          · cases delivered
          · obtain ⟨receipts, degraded⟩ := recordEvent_receipts delivered
            exact .delivered j gateway ref opened sent (receipts.trans (by simp [addReceipt, JobStore.modify])) degraded
  · have unsent : sendOf T s c = none := by simp [sendOf, live]
    unfold performLive JobStore.dispatchLive
    cases found : s.job? c.jobId with
    | none => exact .quiet [] unsent (by simp [stored]) (by simp) rfl
    | some j =>
      rw [Bool.not_eq_true] at live
      dsimp only
      rw [live]
      cases dry : s.dispatchDryRun T c.jobId c.readings.receipt with
      | error err => exact .quiet [] unsent (by simp [stored, bind, Except.bind]) (by simp) rfl
      | ok answer =>
        obtain ⟨receipts, degraded⟩ := dispatchDryRun_receipts dry
        exact .quiet [] unsent (by simpa [stored, bind, Except.bind, pure, Except.pure] using receipts) (by simp) degraded

theorem sends_append (before after : List LiveCall) :
    sends T s (before ++ after) = sends T s before ++ sends T (runLive T s before) after := by
  induction before generalizing s with
  | nil => rfl
  | cons c rest ih =>
    show (sendOf T s c).toList ++ sends T (performLive T s c) (rest ++ after) = _
    rw [ih, ← List.append_assoc]
    rfl

theorem sends_snoc (before : List LiveCall) (c : LiveCall) :
    sends T s (before ++ [c]) = sends T s before ++ (sendOf T (runLive T s before) c).toList := by
  rw [sends_append]
  exact congrArg _ (List.append_nil _)

theorem runLive_snoc (before : List LiveCall) (c : LiveCall) :
    runLive T s (before ++ [c]) = performLive T (runLive T s before) c := by
  unfold runLive
  rw [List.foldl_append]
  rfl

namespace Linked

/-- Attempts are counted as the messages they stand for. -/
theorem count_attempts (h : Linked s history) (p : Int → String → Bool) :
    (s.receipts.filter fun r => r.phase = .attempt ∧ p r.createdAt r.target = true).length =
      (history.filter fun x => p x.time x.target).length := by
  have counted := congrArg (List.countP fun pair : Int × String => p pair.1 pair.2) h.attempts
  rw [List.countP_map, List.countP_map, List.countP_filter] at counted
  rw [← List.countP_eq_length_filter, ← List.countP_eq_length_filter]
  refine Eq.trans (List.countP_congr fun r _ => ?_) counted
  simp [and_comm]

theorem count_applied (h : Linked s history) (p : Int → Bool) :
    (s.receipts.filter fun r => r.phase = .applied ∧ p r.createdAt = true).length =
      ((history.filterMap Send.deliveredAt).filter p).length := by
  have counted := congrArg (List.countP p) h.applied
  rw [List.countP_map, List.countP_filter] at counted
  rw [← List.countP_eq_length_filter, ← List.countP_eq_length_filter]
  refine Eq.trans (List.countP_congr fun r _ => ?_) counted
  simp [and_comm]

theorem minute (h : Linked s history) (now : Int) :
    s.sendsThisMinute now = (history.filter fun x => x.time / Jobs.minute = bucketOf now 60).length := by
  have counted := h.count_attempts fun t _ => decide (t / Jobs.minute = bucketOf now 60)
  refine Eq.trans (congrArg List.length (List.filter_congr fun r _ => ?_)) (by simpa using counted)
  have inside : (bucketStart now 60 ≤ r.createdAt ∧ r.createdAt < bucketStart now 60 + 60 * second) ↔
      r.createdAt / Jobs.minute = bucketOf now 60 := by
    unfold bucketStart bucketOf Jobs.minute second
    omega
  simp [inside]

theorem hour (h : Linked s history) (target : String) (now : Int) :
    s.sendsThisTargetHour target now =
      (history.filter fun x => x.target = target ∧ x.time / Jobs.hour = bucketOf now 3600).length := by
  have counted := h.count_attempts fun t dest => decide (dest = target ∧ t / Jobs.hour = bucketOf now 3600)
  refine Eq.trans (congrArg List.length (List.filter_congr fun r _ => ?_)) (by simpa using counted)
  have inside : (bucketStart now 3600 ≤ r.createdAt ∧ r.createdAt < bucketStart now 3600 + 3600 * second) ↔
      r.createdAt / Jobs.hour = bucketOf now 3600 := by
    unfold bucketStart bucketOf Jobs.hour second
    omega
  simp [inside]

theorem overdue (h : Linked s history) (now : Int) :
    3 ≤ s.consecutiveFailures now ↔ Overdue history now := by
  have attempts := h.count_attempts fun t _ => decide (now - window ≤ t)
  have applied := h.count_applied fun t => decide (now - window ≤ t)
  have channel (phase : Phase) : s.countSince phase (now - window) =
      (s.receipts.filter fun r => r.phase = phase ∧ decide (now - window ≤ r.createdAt) = true).length := by
    unfold countSince
    refine congrArg List.length (List.filter_congr fun r mem => ?_)
    simp [h.channels r mem]
  unfold consecutiveFailures Overdue
  rw [channel, channel, attempts, applied]

/-- The receipts that a message leaves, besides those of its failure. -/
theorem snoc (h : Linked s history) (x : Send) (rest : List Receipt) (receipts : s'.receipts = s.receipts ++ rest)
    (attempt : (rest.filter fun r => r.phase = .attempt).map (fun r => (r.createdAt, r.target)) = [(x.time, x.target)])
    (applied : (rest.filter fun r => r.phase = .applied).map Receipt.createdAt = x.deliveredAt.toList)
    (channels : ∀ r ∈ rest, r.channel = channel) : Linked s' (history ++ [x]) where
  attempts := by
    rw [receipts, List.filter_append, List.map_append, h.attempts, attempt]
    simp
  applied := by
    rw [receipts, List.filter_append, List.map_append, h.applied, applied]
    cases hx : x.deliveredAt <;> simp [hx]
  channels := by
    intro r mem
    rw [receipts] at mem
    exact (List.mem_append.mp mem).elim (h.channels r) (channels r)

theorem step (h : Linked s history) (c : LiveCall) : Linked (performLive T s c) (history ++ (sendOf T s c).toList) := by
  cases @performLive_step T s c with
  | quiet rest unsent receipts refused degraded =>
    rw [unsent]
    have attempt : rest.filter (fun r => r.phase = .attempt) = [] := by
      rw [List.filter_eq_nil_iff]
      intro r mem
      simp [(refused r mem).1]
    have applied : rest.filter (fun r => r.phase = .applied) = [] := by
      rw [List.filter_eq_nil_iff]
      intro r mem
      simp [(refused r mem).1]
    refine ⟨?_, ?_, fun r mem => ?_⟩
    · rw [receipts, List.filter_append, List.map_append, h.attempts, attempt]
      simp
    · rw [receipts, List.filter_append, List.map_append, h.applied, applied]
      simp
    · rw [receipts] at mem
      exact (List.mem_append.mp mem).elim (h.channels r) fun new => (refused r new).2
  | failed j gateway ref reason opened sent receipts degraded =>
    rw [sent]
    exact h.snoc _ _ receipts rfl rfl (by simp [liveReceipt, failureReceipt])
  | delivered j gateway ref opened sent receipts degraded =>
    rw [sent]
    exact h.snoc _ _ receipts rfl rfl (by simp [liveReceipt])

theorem run (h : Linked s []) (calls : List LiveCall) : Linked (runLive T s calls) (sends T s calls) := by
  induction calls using List.reverseRec with
  | nil => exact h
  | append_singleton before c ih =>
    rw [runLive_snoc, sends_snoc]
    exact ih.step c

end Linked

/-- A window that holds nothing but failures is counted right. -/
theorem Undisturbed.counted {now : Int} (h : Undisturbed history now) :
    Overdue history now ↔ ThreeFailures history now := by
  obtain ⟨earlier, late, rfl, old, recent⟩ := h
  have inside : (earlier ++ late).filter (fun x => now - window ≤ x.time) = late := by
    have none : earlier.filter (fun x => now - window ≤ x.time) = [] := by
      rw [List.filter_eq_nil_iff]
      intro x mem
      have before := (old x mem).1
      rw [decide_eq_true_eq]
      omega
    have all : late.filter (fun x => now - window ≤ x.time) = late :=
      List.filter_eq_self.mpr fun x mem => by simpa using (recent x mem).1
    rw [List.filter_append, none, all, List.nil_append]
  have undelivered : ((earlier ++ late).filterMap Send.deliveredAt).filter (fun t => now - window ≤ t) = [] := by
    rw [List.filter_eq_nil_iff]
    intro t mem
    obtain ⟨x, hx, delivered⟩ := List.mem_filterMap.mp mem
    rcases List.mem_append.mp hx with early | recently
    · have before := (old x early).2 t delivered
      rw [decide_eq_true_eq]
      omega
    · rw [(recent x recently).2] at delivered
      cases delivered
  have count : Overdue (earlier ++ late) now ↔ 3 ≤ late.length := by
    unfold Overdue
    rw [inside, undelivered]
    simp
  rw [count]
  constructor
  · intro three
    obtain ⟨front, last, rfl, length⟩ : ∃ front last, late = front ++ last ∧ last.length = 3 :=
      ⟨late.take (late.length - 3), late.drop (late.length - 3), (List.take_append_drop _ _).symm, by
        rw [List.length_drop]
        omega⟩
    obtain ⟨a, b, c, rfl⟩ := List.length_eq_three.mp length
    refine ⟨earlier ++ front, a, b, c, by simp, fun x mem => ?_⟩
    obtain ⟨since, failed⟩ := recent x (List.mem_append_right _ mem)
    exact ⟨failed, since⟩
  · rintro ⟨front, a, b, c, same, failed⟩
    have since : ((earlier ++ late).filter fun x => now - window ≤ x.time).length =
        ((front ++ [a, b, c]).filter fun x => now - window ≤ x.time).length := by rw [same]
    have three : [a, b, c].filter (fun x => now - window ≤ x.time) = [a, b, c] :=
      List.filter_eq_self.mpr fun x mem => by simpa using (failed x mem).2
    rw [inside, List.filter_append, three, List.length_append] at since
    rw [since]
    exact Nat.le_add_left _ _

theorem checkThrottle_none {target : String} {now : Int} (h : s.checkThrottle policy target now = none) :
    s.degraded = false ∧ (s.sendsThisMinute now : Int) < policy.maxSendsPerMin ∧
      (s.sendsThisTargetHour target now : Int) < policy.maxSendsPerTargetPerHour := by
  unfold checkThrottle at h
  split at h
  · cases h
  next closed =>
    split at h
    · cases h
    next minute =>
      split at h
      · cases h
      next hour => exact ⟨by simpa using closed, by omega, by omega⟩

/-- Where a call sends, the throttle let it through. -/
theorem send_throttled {x : Send} (sent : sendOf T s c = some x) :
    x.time = c.readings.receipt ∧ s.checkThrottle c.policy x.target c.readings.now = none := by
  cases @performLive_step T s c with
  | quiet rest unsent receipts refused degraded =>
    rw [unsent] at sent
    cases sent
  | failed j gateway ref reason opened this receipts degraded =>
    rw [this] at sent
    cases sent
    exact ⟨rfl, opened.throttle⟩
  | delivered j gateway ref opened this receipts degraded =>
    rw [this] at sent
    cases sent
    exact ⟨rfl, opened.throttle⟩

/-- What the throttle counted, and what is asked besides, leave room for a message. -/
theorem Fair.room (linked : Linked s history) {x : Send} (sent : sendOf T s c = some x)
    (fair : Fair c.policy history x c.readings.now) :
    ((history.filter fun y => y.time / Jobs.minute = x.time / Jobs.minute).length : Int) < c.policy.maxSendsPerMin ∧
      ((history.filter fun y => y.target = x.target ∧ y.time / Jobs.hour = x.time / Jobs.hour).length : Int) <
        c.policy.maxSendsPerTargetPerHour := by
  obtain ⟨_, inMinute, inHour⟩ := checkThrottle_none (send_throttled sent).2
  rw [linked.minute] at inMinute
  rw [linked.hour] at inHour
  constructor
  · by_cases same : x.time / Jobs.minute = bucketOf c.readings.now 60
    · rw [same]
      exact inMinute
    · exact fair.minute same
  · by_cases same : x.time / Jobs.hour = bucketOf c.readings.now 3600
    · rw [same]
      exact inHour
    · exact fair.hour same

theorem filter_snoc_length {p : Send → Bool} {x : Send} (hp : p x = true) :
    ((history ++ [x]).filter p).length = (history.filter p).length + 1 := by
  rw [List.filter_append, List.length_append]
  simp [hp]

/-- One more message stays within a cap that it found room under. -/
theorem filter_snoc_le {p : Send → Bool} {cap : Int} {x : Send} (before : (history.filter p).length ≤ cap.toNat)
    (room : p x = true → ((history.filter p).length : Int) < cap) :
    ((history ++ [x]).filter p).length ≤ cap.toNat := by
  cases hp : p x with
  | false => simpa [hp] using before
  | true =>
    have room := room hp
    rw [filter_snoc_length hp]
    omega

/-- The breaker after a call, told by the messages before it. -/
theorem degraded_iff (linked : Linked s history) (closed : s.degraded = false) :
    (performLive T s c).degraded = true ↔ ∃ x, sendOf T s c = some x ∧ x.deliveredAt = none ∧
      Overdue (history ++ [x]) c.readings.now := by
  cases @performLive_step T s c with
  | quiet rest unsent receipts refused degraded =>
    rw [degraded, closed, unsent]
    simp
  | failed j gateway ref reason opened sent receipts degraded =>
    have counted : Linked ((s.addReceipt (liveReceipt j .attempt "" "" c.readings.receipt)).addReceipt
        (failureReceipt j.target c.readings.now)) (history ++ [⟨c.readings.receipt, j.target, none⟩]) :=
      linked.snoc _ [liveReceipt j .attempt "" "" c.readings.receipt, failureReceipt j.target c.readings.now]
        (by simp [addReceipt]) rfl rfl (by simp [liveReceipt, failureReceipt])
    rw [degraded, closed, sent, counted.overdue]
    simp
  | delivered j gateway ref opened sent receipts degraded =>
    rw [degraded, closed, sent]
    simp

theorem threeFailures_last {x : Send} {now : Int} (h : ThreeFailures (history ++ [x]) now) : x.deliveredAt = none := by
  obtain ⟨earlier, a, b, c, same, failed⟩ := h
  have last : history ++ [x] = (earlier ++ [a, b]) ++ [c] := by simpa using same
  obtain rfl : x = c := by simpa using (List.append_inj' last rfl).2
  exact (failed x (by simp)).1

/-- Once the breaker is open nothing is sent. -/
theorem degraded_closes (open' : s.degraded = true) : sendOf T s c = none := by
  cases sent : sendOf T s c with
  | none => rfl
  | some x =>
    have closed := (checkThrottle_none (send_throttled sent).2).1
    rw [open'] at closed
    cases closed

/-- **Throttle and circuit breaker.** A run of calls keeps to the caps, and the breaker opens on three failures in a row,
just when every message sent is a fair one. -/
theorem throttle_iff (calls : List LiveCall) (fresh : s.receipts = [])
    (same : ∀ c ∈ calls, c.policy = policy) : ThrottleHolds T s policy calls ↔
    ∀ before c after, calls = before ++ c :: after → ∀ x, sendOf T (runLive T s before) c = some x →
      Fair policy (sends T s before) x c.readings.now := by
  have linked (before : List LiveCall) : Linked (runLive T s before) (sends T s before) :=
    Linked.run ⟨by simp [fresh], by simp [fresh], by simp [fresh]⟩ before
  constructor
  · intro h before c after split x sent
    have whole : calls = (before ++ [c]) ++ after := by simpa using split
    have history : sends T s (before ++ [c]) = sends T s before ++ [x] := by
      rw [sends_snoc, sent]
      rfl
    refine ⟨fun _ => ?_, fun _ => ?_, fun failed _ => ?_⟩
    · have within := h.perMinute _ _ whole (x.time / minute)
      rw [history, filter_snoc_length (by simp)] at within
      omega
    · have within := h.perTargetHour _ _ whole x.target (x.time / hour)
      rw [history, filter_snoc_length (by simp)] at within
      omega
    · have closed := (checkThrottle_none (send_throttled sent).2).1
      have opens := @degraded_iff T _ c _ (linked before) closed
      rw [h.breaker before c after split closed, sent] at opens
      simpa [failed] using opens.symm
  · intro fair
    have room {before : List LiveCall} {c : LiveCall} {after : List LiveCall} (split : calls = before ++ c :: after)
        {x : Send} (sent : sendOf T (runLive T s before) c = some x) :
        (((sends T s before).filter fun y => y.time / minute = x.time / minute).length : Int) < policy.maxSendsPerMin ∧
          (((sends T s before).filter fun y => y.target = x.target ∧ y.time / hour = x.time / hour).length : Int) <
            policy.maxSendsPerTargetPerHour := by
      have policyIs : c.policy = policy := same c (by simp [split])
      have fairly := fair before c after split x sent
      rw [← policyIs] at fairly
      have left := fairly.room (linked before) sent
      rwa [policyIs] at left
    refine ⟨fun before => ?_, fun before => ?_, fun before c after split => degraded_closes, fun before c after split closed => ?_⟩
    · induction before using List.reverseRec with
      | nil => exact fun after _ m => Nat.zero_le _
      | append_singleton before c ih =>
        intro after whole m
        have split : calls = before ++ c :: after := by simpa using whole
        rw [sends_snoc]
        cases sent : sendOf T (runLive T s before) c with
        | none => simpa using ih _ split m
        | some x =>
          refine filter_snoc_le (ih _ split m) fun inside => ?_
          have inside : x.time / minute = m := by simpa using inside
          have left := (room split sent).1
          rwa [inside] at left
    · induction before using List.reverseRec with
      | nil => exact fun after _ target m => Nat.zero_le _
      | append_singleton before c ih =>
        intro after whole target m
        have split : calls = before ++ c :: after := by simpa using whole
        rw [sends_snoc]
        cases sent : sendOf T (runLive T s before) c with
        | none => simpa using ih _ split target m
        | some x =>
          refine filter_snoc_le (ih _ split target m) fun inside => ?_
          have inside : x.target = target ∧ x.time / hour = m := by simpa using inside
          have left := (room split sent).2
          rwa [inside.1, inside.2] at left
    · rw [degraded_iff (linked before) closed]
      refine exists_congr fun x => and_congr_right fun sent => ?_
      have fairly := fair before c after split x sent
      constructor
      · rintro ⟨failed, overdue⟩
        by_cases calm : Undisturbed (sends T s before ++ [x]) c.readings.now
        · exact calm.counted.mp overdue
        · exact (fairly.counted failed calm).mp overdue
      · intro three
        have failed := threeFailures_last three
        by_cases calm : Undisturbed (sends T s before ++ [x]) c.readings.now
        · exact ⟨failed, calm.counted.mpr three⟩
        · exact ⟨failed, (fairly.counted failed calm).mpr three⟩

end

def queuedJob (id : String) : Job where
  id := id
  title := "deploy"
  body := ""
  target := "ops"
  originReturn := ""
  dedupeKey := ""
  correlationId := id
  causationId := ""
  sourceKind := "manual"
  sourceId := ""
  sourceRef := ""
  sourceHash := ""

def queuedStore : JobStore := { jobs := [queuedJob "job_0", queuedJob "job_1"] }

/-- A live dispatch at the first second, by a gateway that gives one answer. -/
def dispatchOf (jobId : String) (answer : Answer) : LiveCall where
  jobId := jobId
  gateway := some fun _ _ _ => answer
  policy := { opsPolicy with maxSendsPerMin := 10 }
  live := true
  readings := ⟨second, second, second⟩

theorem throttle_iff_single : ThrottleHolds asciiText queuedStore (dispatchOf "job_0" .raised).policy
    [dispatchOf "job_0" .raised] := by
  refine (throttle_iff _ rfl (by simp)).mpr fun before c after split x _ => ?_
  obtain ⟨rfl, rest⟩ : before = [] ∧ _ := by
    cases before with
    | nil => exact ⟨rfl, split⟩
    | cons d rest => simp at split
  have room : ((0 : Nat) : Int) < 10 := by decide
  refine ⟨fun _ => room, fun _ => room, fun _ _ => ?_⟩
  have few : ¬ Overdue ([] ++ [x]) c.readings.now := by
    unfold Overdue
    have one := List.length_filter_le (fun x : Send => decide (c.readings.now - window ≤ x.time)) [x]
    rw [List.length_singleton] at one
    simp only [List.nil_append]
    omega
  have none : ¬ ThreeFailures ([] ++ [x]) c.readings.now := by
    rintro ⟨earlier, a, b, d, same, -⟩
    have length := congrArg List.length same
    simp at length
  exact iff_of_false few none

/-- A delivery stands between the failures, and yet the breaker opens on the third of them. -/
def flickering : List LiveCall :=
  [dispatchOf "job_0" .raised, dispatchOf "job_1" (.delivered "message 1"), dispatchOf "job_0" .raised]

theorem breaker_opens_early : ¬ ThrottleHolds asciiText queuedStore (dispatchOf "job_0" .raised).policy
    (flickering ++ [dispatchOf "job_0" .raised]) := by
  intro h
  let s := runLive asciiText queuedStore flickering
  obtain ⟨closed, opens, outcomes⟩ : s.degraded = false ∧
      (performLive asciiText s (dispatchOf "job_0" .raised)).degraded = true ∧
      (sends asciiText queuedStore flickering).map (fun x => x.deliveredAt.isSome) = [false, true, false] := by
    decide +kernel
  obtain ⟨x, -, earlier, a, b, c, same, failed⟩ := (h.breaker flickering _ [] rfl closed).mp opens
  have told := congrArg (List.map fun x : Send => x.deliveredAt.isSome) same
  simp only [List.map_append, outcomes, List.map_cons, List.map_nil, (failed a (by simp)).1, (failed b (by simp)).1,
    (failed c (by simp)).1, Option.isSome_none] at told
  match hmap : earlier.map fun x : Send => x.deliveredAt.isSome, told with
  | [], told => simp at told
  | [y], told => simp at told
  | y :: z :: rest, told =>
    have length := congrArg List.length told
    simp at length

end AgentflowHermes.Jobs
