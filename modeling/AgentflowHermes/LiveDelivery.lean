import AgentflowHermes.LiveThrottle
import Mathlib.Logic.Function.Basic
import Mathlib.Logic.Relation

namespace AgentflowHermes.Jobs

open JobStore

/-- The checks of a dispatch that read the policy only. -/
def policyStop (j : Job) (policy : LivePolicy) : Option Stop :=
  if policy.killSwitch then some (.refused "kill_switch")
  else if !policy.liveDispatchEnabled then some (.refused "live_dispatch_disabled")
  else if !policy.allowedTargets.contains j.target || !policy.canaryTargets.contains j.target then
    some (.refused "target_not_allowed")
  else none

/-- The look at the keys of the deliveries, and at the row that was read. -/
def keyStop (s : JobStore) (j : Job) : Option Stop :=
  match s.keys.find? (·.key == j.idempotencyKey) with
  | some delivered => some (.duplicate (some delivered.deliveryRef))
  | none => if j.liveDeliveredAt.isSome || j.liveDeliveryRef ≠ "" then some (.duplicate none) else none

/-- The throttle, and the gateway. -/
def sendGate (s : JobStore) (j : Job) (c : LiveCall) : Except Stop Gateway :=
  match s.checkThrottle c.policy j.target c.readings.now, c.gateway with
  | some reason, _ => .error (.refused reason)
  | none, none => .error (.refused "gateway_unavailable")
  | none, some gateway => .ok gateway

theorem liveGate_eq (s : JobStore) (j : Job) (c : LiveCall) : s.liveGate j c =
    match policyStop j c.policy with
    | some stop => .error stop
    | none =>
      match keyStop s j with
      | some stop => .error stop
      | none => sendGate s j c := by
  unfold liveGate policyStop keyStop sendGate
  split
  · rfl
  split
  · rfl
  split
  · rfl
  cases s.keys.find? (·.key == j.idempotencyKey) with
  | some delivered => rfl
  | none =>
    dsimp only
    split <;> rfl

/-- How far a call of `dispatch_live` has come. From `attempting` on it holds the write lock, and `own` is what its
transaction sees. -/
inductive Stage
  | waiting
  | read (j : Job)
  | unclaimed (j : Job)
  | cleared (j : Job) (gateway : Gateway)
  | refusing (receipt : Receipt)
  | attempting (j : Job) (gateway : Gateway) (own : JobStore)
  | answered (j : Job) (own : JobStore) (answer : Answer)
  | ended

/-- A message that reached the gateway: whether it was delivered, and whether a receipt of an attempt at its job was
committed by then. -/
structure Sent (κ : Type) where
  call : κ
  jobId : String
  delivered : Bool
  recorded : Bool

/-- The committed store, the holder of the write lock, the calls, and the messages sent. -/
structure World (κ : Type) where
  db : JobStore
  lock : Option κ := none
  stage : κ → Stage := fun _ => .waiting
  log : List (Sent κ) := []

inductive Act
  | begin
  | stop
  | lookUp
  | throttle
  | refuse
  | attempt
  | send
  | commit
  | crash
  deriving DecidableEq

def attempted (s : JobStore) (jobId : String) : Bool := s.receipts.any fun r => r.phase = .attempt ∧ r.jobId = jobId

def Answer.isDelivered : Answer → Bool
  | .delivered _ => true
  | _ => false

section

variable (T : PyText) {κ : Type} [DecidableEq κ] (calls : κ → LiveCall)

def World.move (w : World κ) (k : κ) (stage : Stage) : World κ := { w with stage := Function.update w.stage k stage }

def stopReceipt (j : Job) (c : LiveCall) (stop : Stop) : Receipt :=
  liveReceipt j .refused stop.deliveryRef stop.reason c.readings.receipt

/-- One statement of one call, the call of the gateway, a commit, or the end of a call before its commit. -/
inductive Turn (k : κ) (w : World κ) : Act → World κ → Prop
  | unknown (at' : w.stage k = .waiting) (none : w.db.job? (calls k).jobId = none) : Turn k w .begin (w.move k .ended)
  | begin {j : Job} (at' : w.stage k = .waiting) (found : w.db.job? (calls k).jobId = some j) :
      Turn k w .begin (w.move k (.read j))
  | policy {j : Job} {stop : Stop} (at' : w.stage k = .read j) (stops : policyStop j (calls k).policy = some stop) :
      Turn k w .stop (w.move k (.refusing (stopReceipt j (calls k) stop)))
  | duplicate {j : Job} {stop : Stop} (at' : w.stage k = .read j) (passes : policyStop j (calls k).policy = none)
      (stops : keyStop w.db j = some stop) :
      Turn k w .stop (w.move k (.refusing (stopReceipt j (calls k) stop)))
  | lookUp {j : Job} (at' : w.stage k = .read j) (passes : policyStop j (calls k).policy = none)
      (fresh : keyStop w.db j = none) : Turn k w .lookUp (w.move k (.unclaimed j))
  | throttled {j : Job} {stop : Stop} (at' : w.stage k = .unclaimed j) (stops : sendGate w.db j (calls k) = .error stop) :
      Turn k w .stop (w.move k (.refusing (stopReceipt j (calls k) stop)))
  | clear {j : Job} {gateway : Gateway} (at' : w.stage k = .unclaimed j)
      (passes : sendGate w.db j (calls k) = .ok gateway) : Turn k w .throttle (w.move k (.cleared j gateway))
  | refuse {receipt : Receipt} (at' : w.stage k = .refusing receipt) (free : w.lock = none) :
      Turn k w .refuse ({ w with db := w.db.addReceipt receipt }.move k .ended)
  | attempt {j : Job} {gateway : Gateway} (at' : w.stage k = .cleared j gateway) (free : w.lock = none) :
      Turn k w .attempt ({ w with lock := some k }.move k (.attempting j gateway
        (w.db.addReceipt (liveReceipt j .attempt "" "" (calls k).readings.receipt))))
  | send {j : Job} {gateway : Gateway} {own : JobStore} {answer : Answer} (at' : w.stage k = .attempting j gateway own)
      (answers : gateway j.target (j.message T) j.idempotencyKey = answer) :
      Turn k w .send ({ w with log := w.log ++ [(⟨k, j.id, answer.isDelivered, attempted w.db j.id⟩ : Sent κ)] }.move k
        (.answered j own answer))
  | commit {j : Job} {own after : JobStore} {answer : Answer} {result : LiveResult} (at' : w.stage k = .answered j own answer)
      (settled : own.settleLive T j (calls k).readings answer = .ok (result, after)) :
      Turn k w .commit ({ w with db := after, lock := none }.move k .ended)
  | rollback {j : Job} {own : JobStore} {answer : Answer} {err : String} (at' : w.stage k = .answered j own answer)
      (raised : own.settleLive T j (calls k).readings answer = .error err) :
      Turn k w .commit ({ w with lock := none }.move k .ended)
  | crash (begun : w.stage k ≠ .waiting) :
      Turn k w .crash ({ w with lock := if w.lock = some k then none else w.lock }.move k .ended)

/-- A turn that a guard on the call, its act and the world before allows. -/
def Guarded (guard : κ → Act → World κ → Prop) (w w' : World κ) : Prop :=
  ∃ k act, guard k act w ∧ Turn T calls k w act w'

/-- A run of turns that nothing guards. -/
abbrev Alone : World κ → World κ → Prop := Relation.ReflTransGen (Guarded T calls fun _ _ _ => True)

/-- The worlds that calls on a store can come to. -/
def Comes (guard : κ → Act → World κ → Prop) (db : JobStore) (w : World κ) : Prop :=
  Relation.ReflTransGen (Guarded T calls guard) { db := db } w

end

/-- A call that has found no delivery of the job, and is not done. -/
def Stage.Active (jobId : String) : Stage → Prop
  | .unclaimed j | .cleared j _ | .attempting j _ _ | .answered j _ _ => j.id = jobId
  | _ => False

/-- No call looks for a delivery of the job while another one that found none is under way, and none ends between a
delivery and its commit. -/
def Apart {κ : Type} (jobId : String) (k : κ) (act : Act) (w : World κ) : Prop :=
  match act with
  | .lookUp => (∃ j, w.stage k = .read j ∧ j.id = jobId) → ∀ k', ¬ (w.stage k').Active jobId
  | .crash => ∀ j own answer, w.stage k = .answered j own answer → j.id = jobId → answer.isDelivered = false
  | _ => True

/-- The messages of a job that were delivered. -/
def World.deliveries {κ : Type} (w : World κ) (jobId : String) : List (Sent κ) :=
  w.log.filter fun x => x.jobId = jobId ∧ x.delivered = true

/-- At most one delivery of the job, and a committed attempt before each message. -/
structure DeliversOnce {κ : Type} (w : World κ) (jobId : String) : Prop where
  once : (w.deliveries jobId).length ≤ 1
  recorded : ∀ x ∈ w.log, x.jobId = jobId → x.recorded = true

section

variable {T : PyText} {κ : Type} [DecidableEq κ] {calls : κ → LiveCall} {w w' : World κ} {k : κ} {act : Act} {jobId : String}

theorem forall_move {P : Stage → Prop} {stage : Stage} (h : ∀ k', P (w.stage k')) (new : P stage) :
    ∀ k', P ((w.move k stage).stage k') := by
  intro k'
  by_cases same : k' = k
  · subst same
    simpa [World.move] using new
  · simpa [World.move, same] using h k'

theorem attempted_addReceipt (s : JobStore) (r : Receipt) :
    attempted (s.addReceipt r) jobId = (attempted s jobId || decide (r.phase = .attempt ∧ r.jobId = jobId)) := by
  unfold attempted addReceipt
  rw [List.any_append]
  simp

/-- What the end of a transaction adds to what it saw. -/
structure Settled (own after : JobStore) (j : Job) (answer : Answer) : Prop where
  attempts : ∀ jobId, attempted after jobId = attempted own jobId
  keys : ∀ d ∈ own.keys, d ∈ after.keys
  delivered : answer.isDelivered = true → ∃ d ∈ after.keys, d.key = j.idempotencyKey
  jobs : after.jobs = own.jobs ∨ ∃ now ref, after.jobs = (own.modify j.id fun j =>
    { j with status := .dispatched, liveDeliveredAt := some now, liveDeliveryRef := ref }).jobs

theorem failLive_settled {own : JobStore} {j : Job} {readings : Readings} {ref reason : String} {answer : Answer}
    (failed : answer.isDelivered = false) : Settled own (own.failLive j readings ref reason) j answer := by
  have receipts := (@failLive_step own j readings ref reason).1
  have keys : (own.failLive j readings ref reason).keys = own.keys := by
    unfold failLive
    dsimp only
    split <;> rfl
  refine ⟨fun jobId => ?_, fun d mem => keys ▸ mem, fun delivered => ?_, .inl failLive_quiet.2⟩
  · unfold attempted
    rw [receipts]
    simp [failureReceipt, liveReceipt]
  · rw [failed] at delivered
    cases delivered

theorem settleLive_ok {own after : JobStore} {j : Job} {readings : Readings} {answer : Answer} {result : LiveResult}
    (h : own.settleLive T j readings answer = .ok (result, after)) : Settled own after j answer := by
  cases answer with
  | raised =>
    cases h
    exact failLive_settled rfl
  | failed ref =>
    cases h
    exact failLive_settled rfl
  | delivered ref =>
    obtain ⟨_, delivered, h⟩ := bind_ok' h
    cases h
    have jobs := (deliverLive_ok delivered).2
    unfold deliverLive at delivered
    split at delivered
    · cases delivered
    · have receipts := (recordEvent_receipts delivered).1
      have keys : after.keys = own.keys ++ [⟨j.idempotencyKey, j.id, j.target, ref⟩] := by
        unfold recordEvent at delivered
        split at delivered
        · cases delivered
        · cases delivered
          rfl
      refine ⟨fun jobId => ?_, fun d mem => ?_, fun _ => ⟨_, by rw [keys]; exact List.mem_append_right _ List.mem_cons_self, rfl⟩,
        .inr ⟨_, _, jobs⟩⟩
      · unfold attempted
        rw [receipts]
        simp [addReceipt, JobStore.modify, liveReceipt]
      · rw [keys]
        exact List.mem_append_left _ mem

/-- A transaction is undone only where the key of the delivery is there already. -/
theorem settleLive_error {own : JobStore} {j : Job} {readings : Readings} {answer : Answer} {err : String}
    (h : own.settleLive T j readings answer = .error err) : ∃ d ∈ own.keys, d.key = j.idempotencyKey := by
  cases answer with
  | raised => cases h
  | failed ref => cases h
  | delivered ref =>
    cases fresh : own.keys.find? (·.key == j.idempotencyKey) with
    | some d => exact ⟨d, List.mem_of_find?_eq_some fresh, by simpa using List.find?_some fresh⟩
    | none =>
      obtain ⟨after, delivered⟩ := @deliverLive_succeeds T own j readings ref fresh
      rw [settleLive_delivered delivered] at h
      cases h

/-- What is left behind by attempts at a job in an open transaction. -/
def Stage.Clean (jobId : String) : Stage → Prop
  | .attempting j _ own => j.id ≠ jobId → attempted own jobId = false
  | .answered j own _ => j.id ≠ jobId ∧ attempted own jobId = false
  | .refusing receipt => receipt.phase = .refused
  | _ => True

/-- No message of the job was sent, and no attempt at it is committed. -/
structure World.Clean (w : World κ) (jobId : String) : Prop where
  unsent : ∀ x ∈ w.log, x.jobId ≠ jobId
  db : attempted w.db jobId = false
  stages : ∀ k, (w.stage k).Clean jobId

/-- A message of the job was sent without a committed attempt. -/
def World.Spoiled (w : World κ) (jobId : String) : Prop := ∃ x ∈ w.log, x.jobId = jobId ∧ x.recorded = false

theorem Turn.log_grows (turn : Turn T calls k w act w') : ∀ x ∈ w.log, x ∈ w'.log := by
  cases turn <;> simp_all [World.move]

theorem Turn.clean (turn : Turn T calls k w act w') (h : w.Clean jobId) : w'.Clean jobId ∨ w'.Spoiled jobId := by
  have moved {stage : Stage} (clean : stage.Clean jobId) : (w.move k stage).Clean jobId :=
    ⟨h.unsent, h.db, forall_move h.stages clean⟩
  cases turn with
  | unknown at' none => exact .inl (moved trivial)
  | begin at' found => exact .inl (moved trivial)
  | policy at' stops => exact .inl (moved rfl)
  | duplicate at' passes stops => exact .inl (moved rfl)
  | lookUp at' passes fresh => exact .inl (moved trivial)
  | throttled at' stops => exact .inl (moved rfl)
  | clear at' passes => exact .inl (moved trivial)
  | @refuse receipt at' free =>
    have refused := h.stages k
    rw [at'] at refused
    have refused : receipt.phase = .refused := refused
    refine .inl ⟨h.unsent, ?_, forall_move h.stages trivial⟩
    show attempted (w.db.addReceipt receipt) jobId = false
    rw [attempted_addReceipt, h.db, refused]
    simp
  | attempt at' free =>
    refine .inl ⟨h.unsent, h.db, forall_move h.stages fun apart => ?_⟩
    rw [attempted_addReceipt, h.db]
    simpa [liveReceipt] using apart
  | @send j gateway own answer at' answers =>
    by_cases mine : j.id = jobId
    · refine .inr ⟨_, List.mem_append_right _ List.mem_cons_self, mine, ?_⟩
      rw [mine]
      exact h.db
    · have clean := h.stages k
      rw [at'] at clean
      refine .inl ⟨fun x mem => ?_, h.db, forall_move h.stages ⟨mine, clean mine⟩⟩
      rcases List.mem_append.mp mem with old | last
      · exact h.unsent x old
      · rw [List.mem_singleton.mp last]
        exact mine
  | commit at' settled =>
    have clean := h.stages k
    rw [at'] at clean
    refine .inl ⟨h.unsent, ?_, forall_move h.stages trivial⟩
    exact ((settleLive_ok settled).attempts jobId).trans clean.2
  | rollback at' raised => exact .inl ⟨h.unsent, h.db, forall_move h.stages trivial⟩
  | crash begun => exact .inl ⟨h.unsent, h.db, forall_move h.stages trivial⟩

theorem comes_clean {guard : κ → Act → World κ → Prop} {db : JobStore} (fresh : attempted db jobId = false)
    (run : Comes T calls guard db w) : w.Clean jobId ∨ w.Spoiled jobId := by
  induction run with
  | refl => exact .inl ⟨fun x mem => (List.not_mem_nil mem).elim, fresh, fun k => trivial⟩
  | tail _ step ih =>
    obtain ⟨k, act, _, turn⟩ := step
    rcases ih with clean | ⟨x, mem, mine, unrecorded⟩
    · exact turn.clean clean
    · exact .inr ⟨x, turn.log_grows x mem, mine, unrecorded⟩

/-- The row of a stage, and what its transaction sees. -/
def Stage.job? : Stage → Option Job
  | .read j | .unclaimed j | .cleared j _ | .attempting j _ _ | .answered j _ _ => some j
  | _ => none

def Stage.own? : Stage → Option JobStore
  | .attempting _ _ own | .answered _ own _ => some own
  | _ => none

/-- Every row that is read of the job has the same key, and only the holder of the lock has a transaction open. -/
structure World.Tied (w : World κ) (jobId key : String) : Prop where
  row : ∀ j, w.db.job? jobId = some j → j.idempotencyKey = key
  read : ∀ k j, (w.stage k).job? = some j → j.id = jobId → j.idempotencyKey = key
  own : ∀ k own, (w.stage k).own? = some own → w.lock = some k ∧ own.keys = w.db.keys ∧ own.jobs = w.db.jobs

def DeliveredUnder (s : JobStore) (key : String) : Prop := ∃ d ∈ s.keys, d.key = key

/-- A call that has delivered the job, and whose transaction is open. -/
def Stage.Delivering (jobId : String) : Stage → Prop
  | .answered j _ answer => j.id = jobId ∧ answer.isDelivered = true
  | _ => False

/-- How far the delivery of the job is. -/
inductive World.Delivery (w : World κ) (jobId key : String) : Prop
  | none (unsent : w.deliveries jobId = []) (idle : ∀ k, ¬ (w.stage k).Delivering jobId)
  | sent (one : (w.deliveries jobId).length = 1) (k : κ) (sender : (w.stage k).Delivering jobId)
  | settled (one : (w.deliveries jobId).length = 1) (kept : DeliveredUnder w.db key)
      (quiet : ∀ k, ¬ (w.stage k).Active jobId)

structure World.Single (w : World κ) (jobId key : String) : Prop where
  tied : w.Tied jobId key
  alone : ∀ k k', (w.stage k).Active jobId → (w.stage k').Active jobId → k = k'
  delivery : w.Delivery jobId key

theorem Stage.Delivering.active {stage : Stage} (h : stage.Delivering jobId) : stage.Active jobId := by
  cases stage with
  | answered j own answer => exact h.1
  | _ => exact h.elim

theorem job?_modify (s : JobStore) (id : String) (f : Job → Job) (keeps : ∀ j, (f j).id = j.id) :
    (s.modify id f).job? jobId = (s.job? jobId).map fun j => if j.id = id then f j else j := by
  unfold JobStore.job? JobStore.modify
  rw [List.find?_map]
  congr 2
  funext j
  show ((if j.id = id then f j else j).id == jobId) = (j.id == jobId)
  split
  · rw [keeps]
  · rfl

theorem Settled.row {own after : JobStore} {j : Job} {answer : Answer} {key : String} (h : Settled own after j answer)
    (row : ∀ j, own.job? jobId = some j → j.idempotencyKey = key) :
    ∀ j, after.job? jobId = some j → j.idempotencyKey = key := by
  rcases h.jobs with same | ⟨now, ref, moved⟩
  · have found : after.job? jobId = own.job? jobId := by
      unfold JobStore.job?
      rw [same]
    rwa [found]
  · intro k hk
    have found : after.job? jobId = (own.modify j.id fun j =>
        { j with status := .dispatched, liveDeliveredAt := some now, liveDeliveryRef := ref }).job? jobId := by
      unfold JobStore.job?
      rw [moved]
    have keeps (j : Job) : ({ j with
        status := .dispatched, liveDeliveredAt := some now, liveDeliveryRef := ref } : Job).id = j.id := rfl
    rw [found, job?_modify own j.id _ keeps] at hk
    obtain ⟨old, present, rfl⟩ := Option.map_eq_some_iff.mp hk
    split
    · exact row old present
    · exact row old present

namespace World.Tied

variable {key : String} {stage : Stage}

theorem job?_same {s s' : JobStore} (same : s'.jobs = s.jobs) (row : ∀ j, s.job? jobId = some j → j.idempotencyKey = key) :
    ∀ j, s'.job? jobId = some j → j.idempotencyKey = key := by
  have found : s'.job? jobId = s.job? jobId := by
    unfold JobStore.job?
    rw [same]
  rwa [found]

/-- A call moves on, without a transaction. -/
theorem move (h : w.Tied jobId key) (read : ∀ j, stage.job? = some j → j.id = jobId → j.idempotencyKey = key)
    (closed : stage.own? = none) : (w.move k stage).Tied jobId key := by
  refine ⟨h.row, ?_, ?_⟩
  · exact forall_move (P := fun stage => ∀ j, stage.job? = some j → j.id = jobId → j.idempotencyKey = key) h.read read
  · intro k' own seen
    by_cases same : k' = k
    · subst same
      have seen : stage.own? = some own := by simpa [World.move] using seen
      rw [closed] at seen
      cases seen
    · exact h.own k' own (by simpa [World.move, same] using seen)

/-- The transaction of a call ends; nobody else has one. -/
theorem close (h : w.Tied jobId key) {db : JobStore} {own : JobStore} (mine : (w.stage k).own? = some own)
    (row : ∀ j, db.job? jobId = some j → j.idempotencyKey = key) :
    ({ w with db := db, lock := none }.move k .ended).Tied jobId key := by
  refine ⟨row, ?_, ?_⟩
  · exact forall_move (P := fun stage => ∀ j, stage.job? = some j → j.id = jobId → j.idempotencyKey = key) h.read
      (fun j none => by cases none)
  · intro k' own' seen
    by_cases same : k' = k
    · subst same
      have seen : Stage.ended.own? = some own' := by simpa [World.move] using seen
      cases seen
    · have seen : (w.stage k').own? = some own' := by simpa [World.move, same] using seen
      have lock := (h.own k' own' seen).1
      rw [(h.own k own mine).1] at lock
      exact absurd (Option.some.inj lock).symm same

end World.Tied

theorem Turn.tied {key : String} (turn : Turn T calls k w act w') (h : w.Tied jobId key) : w'.Tied jobId key := by
  have readHere {j : Job} (at' : (w.stage k).job? = some j) (j' : Job) (same : some j = some j') (mine : j'.id = jobId) :
      j'.idempotencyKey = key := by
    cases same
    exact h.read k j at' mine
  cases turn with
  | unknown at' none => exact h.move (fun j none => by cases none) rfl
  | @begin j at' found =>
    refine h.move (fun j' same mine => ?_) rfl
    cases same
    refine h.row j ?_
    rw [← mine, (job?_some found).2]
    exact found
  | policy at' stops => exact h.move (fun j none => by cases none) rfl
  | duplicate at' passes stops => exact h.move (fun j none => by cases none) rfl
  | lookUp at' passes fresh => exact h.move (readHere (by rw [at']; rfl)) rfl
  | throttled at' stops => exact h.move (fun j none => by cases none) rfl
  | clear at' passes => exact h.move (readHere (by rw [at']; rfl)) rfl
  | @refuse receipt at' free =>
    have idle : w.Tied jobId key → ({ w with db := w.db.addReceipt receipt } : World κ).Tied jobId key := fun h =>
      ⟨World.Tied.job?_same rfl h.row, h.read, fun k' own seen => by
        have lock := (h.own k' own seen).1
        rw [free] at lock
        cases lock⟩
    exact (idle h).move (fun j none => by cases none) rfl
  | @attempt j gateway at' free =>
    refine ⟨h.row, ?_, ?_⟩
    · exact forall_move (P := fun stage => ∀ j, stage.job? = some j → j.id = jobId → j.idempotencyKey = key) h.read
        (readHere (by rw [at']; rfl))
    · intro k' own seen
      by_cases same : k' = k
      · subst same
        have seen : (Stage.attempting j gateway (w.db.addReceipt
            (liveReceipt j .attempt "" "" (calls k').readings.receipt))).own? = some own := by
          simpa [World.move] using seen
        cases seen
        exact ⟨rfl, rfl, rfl⟩
      · have lock := (h.own k' own (by simpa [World.move, same] using seen)).1
        rw [free] at lock
        cases lock
  | @send j gateway own answer at' answers =>
    refine ⟨h.row, ?_, ?_⟩
    · exact forall_move (P := fun stage => ∀ j, stage.job? = some j → j.id = jobId → j.idempotencyKey = key) h.read
        (readHere (by rw [at']; rfl))
    · intro k' own' seen
      by_cases same : k' = k
      · subst same
        have seen : (Stage.answered j own answer).own? = some own' := by simpa [World.move] using seen
        cases seen
        exact h.own k' own (by rw [at']; rfl)
      · exact h.own k' own' (by simpa [World.move, same] using seen)
  | @commit j own after answer result at' settled =>
    have mine : (w.stage k).own? = some own := by rw [at']; rfl
    exact h.close mine ((settleLive_ok settled).row (World.Tied.job?_same (h.own k own mine).2.2 h.row))
  | @rollback j own answer err at' raised => exact h.close (by rw [at']; rfl) h.row
  | crash begun =>
    cases mine : (w.stage k).own? with
    | some own =>
      rw [if_pos (h.own k own mine).1]
      exact h.close mine h.row
    | none =>
      refine ⟨h.row, ?_, ?_⟩
      · exact forall_move (P := fun stage => ∀ j, stage.job? = some j → j.id = jobId → j.idempotencyKey = key) h.read
          (fun j none => by cases none)
      · intro k' own seen
        by_cases same : k' = k
        · subst same
          have seen : Stage.ended.own? = some own := by simpa [World.move] using seen
          cases seen
        · obtain ⟨lock, rest⟩ := h.own k' own (by simpa [World.move, same] using seen)
          refine ⟨?_, rest⟩
          show (if w.lock = some k then none else w.lock) = some k'
          rw [lock, if_neg fun same' => same (Option.some.inj same')]

/-- A call that moves on leaves the others as active as they were. -/
theorem active_before {w1 : World κ} {stage : Stage} {k' : κ} (stages : w1.stage = w.stage)
    (active : stage.Active jobId → (w.stage k).Active jobId) (now : ((w1.move k stage).stage k').Active jobId) :
    (w.stage k').Active jobId := by
  by_cases same : k' = k
  · subst same
    exact active (by simpa [World.move] using now)
  · simpa [World.move, same, stages] using now

namespace World.Single

variable {key : String} {stage : Stage}

/-- A call moves on without a delivery of the job: nobody else becomes active, and no delivery is left open. -/
theorem move (h : w.Single jobId key) {w1 : World κ} (tied : (w1.move k stage).Tied jobId key) (stages : w1.stage = w.stage)
    (same : w1.deliveries jobId = w.deliveries jobId) (keys : DeliveredUnder w.db key → DeliveredUnder w1.db key)
    (active : stage.Active jobId → (w.stage k).Active jobId) (idle : ¬ stage.Delivering jobId)
    (done : ¬ (w.stage k).Delivering jobId) : (w1.move k stage).Single jobId key := by
  have before {k' : κ} (now : ((w1.move k stage).stage k').Active jobId) : (w.stage k').Active jobId :=
    active_before stages active now
  have deliveries : (w1.move k stage).deliveries jobId = w.deliveries jobId := same
  refine ⟨tied, fun k1 k2 h1 h2 => h.alone k1 k2 (before h1) (before h2), ?_⟩
  cases h.delivery with
  | none unsent quiet =>
    refine .none (deliveries.trans unsent) ?_
    have all : ∀ k', ¬ (w1.stage k').Delivering jobId := by
      rw [stages]
      exact quiet
    exact forall_move (P := fun stage => ¬ stage.Delivering jobId) all idle
  | sent one k' sender =>
    have other : k' ≠ k := fun same => done (same ▸ sender)
    refine .sent (by rw [deliveries]; exact one) k' ?_
    simpa [World.move, other, stages] using sender
  | settled one kept quiet =>
    exact .settled (by rw [deliveries]; exact one) (keys kept) fun k' now => quiet k' (before now)

/-- The call that delivered the job ends, with the key of the delivery in the store. -/
theorem close (h : w.Single jobId key) {w1 : World κ} (tied : (w1.move k .ended).Tied jobId key)
    (stages : w1.stage = w.stage) (same : w1.deliveries jobId = w.deliveries jobId) (kept : DeliveredUnder w1.db key)
    (sender : (w.stage k).Delivering jobId) : (w1.move k .ended).Single jobId key := by
  have quiet : ∀ k', ¬ ((w1.move k .ended).stage k').Active jobId := by
    intro k' now
    by_cases mine : k' = k
    · subst mine
      have now : Stage.ended.Active jobId := by simpa [World.move] using now
      exact now
    · have now : (w.stage k').Active jobId := by simpa [World.move, mine, stages] using now
      exact mine (h.alone k' k now sender.active)
  refine ⟨tied, fun k1 k2 h1 => absurd h1 (quiet k1), ?_⟩
  cases h.delivery with
  | none unsent idle => exact absurd sender (idle k)
  | sent one k' _ => exact .settled (by rw [← same] at one; exact one) kept quiet
  | settled one _ idle => exact absurd sender.active (idle k)

end World.Single

/-- A row that passes the look-up has no delivery under its key. -/
theorem keyStop_none {s : JobStore} {j : Job} (h : keyStop s j = none) : ¬ DeliveredUnder s j.idempotencyKey := by
  unfold keyStop at h
  split at h
  · cases h
  next fresh =>
    rintro ⟨d, mem, same⟩
    have differs := List.find?_eq_none.mp fresh d mem
    exact differs (by simpa using same)

theorem Turn.single {key : String} (turn : Turn T calls k w act w') (apart : Apart jobId k act w)
    (h : w.Single jobId key) : w'.Single jobId key := by
  have tied := turn.tied h.tied
  have gone {stage : Stage} (closed : stage.own? = none) : ¬ stage.Delivering jobId := by
    cases stage <;> first | exact id | cases closed
  have notDelivering {stage : Stage} (at' : w.stage k = stage) (closed : stage.own? = none) :
      ¬ (w.stage k).Delivering jobId := by
    rw [at']
    exact gone closed
  have notDelivering' {j : Job} {gateway : Gateway} {own : JobStore} (at' : w.stage k = .attempting j gateway own) :
      ¬ (w.stage k).Delivering jobId := by
    rw [at']
    exact id
  cases turn with
  | unknown at' none => exact h.move tied rfl rfl id False.elim id (notDelivering at' rfl)
  | begin at' found => exact h.move tied rfl rfl id False.elim id (notDelivering at' rfl)
  | policy at' stops => exact h.move tied rfl rfl id False.elim id (notDelivering at' rfl)
  | duplicate at' passes stops => exact h.move tied rfl rfl id False.elim id (notDelivering at' rfl)
  | @lookUp j at' passes fresh =>
    by_cases mine : j.id = jobId
    · have quiet := apart ⟨j, at', mine⟩
      have only {k' : κ} (now : ((w.move k (.unclaimed j)).stage k').Active jobId) : k' = k := by
        by_contra other
        exact quiet k' (by simpa [World.move, other] using now)
      have none : ¬ DeliveredUnder w.db key := by
        have keyIs := h.tied.read k j (by rw [at']; rfl) mine
        rw [← keyIs]
        exact keyStop_none fresh
      refine ⟨tied, fun k1 k2 h1 h2 => (only h1).trans (only h2).symm, ?_⟩
      cases h.delivery with
      | none unsent idle => exact .none unsent (forall_move (P := fun stage => ¬ stage.Delivering jobId) idle id)
      | sent one k' sender => exact absurd sender.active (quiet k')
      | settled one kept _ => exact absurd kept none
    · exact h.move tied rfl rfl id (fun now => absurd now mine) id (notDelivering at' rfl)
  | throttled at' stops => exact h.move tied rfl rfl id False.elim id (notDelivering at' rfl)
  | clear at' passes => exact h.move tied rfl rfl id (fun now => by rw [at']; exact now) id (notDelivering at' rfl)
  | refuse at' free => exact h.move tied rfl rfl id False.elim id (notDelivering at' rfl)
  | attempt at' free =>
    exact h.move tied rfl rfl id (fun now => by rw [at']; exact now) id (notDelivering at' rfl)
  | @send j gateway own answer at' answers =>
    by_cases delivers : j.id = jobId ∧ answer.isDelivered = true
    · have active : (w.stage k).Active jobId := by
        rw [at']
        exact delivers.1
      have still : ¬ (w.stage k).Delivering jobId := notDelivering' at'
      refine ⟨tied, ?_, ?_⟩
      · intro k1 k2 h1 h2
        exact h.alone k1 k2 (active_before rfl (fun _ => active) h1) (active_before rfl (fun _ => active) h2)
      · have one : ({ w with log := w.log ++ [(⟨k, j.id, answer.isDelivered, attempted w.db j.id⟩ : Sent κ)] }.move k
            (.answered j own answer)).deliveries jobId =
              w.deliveries jobId ++ [⟨k, j.id, answer.isDelivered, attempted w.db j.id⟩] := by
          unfold World.deliveries World.move
          rw [List.filter_append]
          simp [delivers.1, delivers.2]
        cases h.delivery with
        | none unsent idle =>
          refine .sent (by rw [one, unsent]; rfl) k ?_
          have mine : (Stage.answered j own answer).Delivering jobId := delivers
          simpa [World.move] using mine
        | sent _ k' sender =>
          have same := h.alone k' k sender.active active
          exact absurd (same ▸ sender) still
        | settled _ _ quiet => exact absurd active (quiet k)
    · refine h.move tied rfl ?_ id (fun now => by rw [at']; exact now) delivers (notDelivering' at')
      unfold World.deliveries
      rw [List.filter_append]
      simp [delivers]
  | @commit j own after answer result at' settled =>
    have mine : (w.stage k).own? = some own := by rw [at']; rfl
    have keys := (h.tied.own k own mine).2.1
    by_cases delivers : j.id = jobId ∧ answer.isDelivered = true
    · have sender : (w.stage k).Delivering jobId := by
        rw [at']
        exact delivers
      obtain ⟨d, mem, same⟩ := (settleLive_ok settled).delivered delivers.2
      have keyIs := h.tied.read k j (by rw [at']; rfl) delivers.1
      exact h.close tied rfl rfl ⟨d, mem, same.trans keyIs⟩ sender
    · refine h.move tied rfl rfl ?_ False.elim id (by rw [at']; exact delivers)
      rintro ⟨d, mem, same⟩
      exact ⟨d, (settleLive_ok settled).keys d (keys ▸ mem), same⟩
  | @rollback j own answer err at' raised =>
    have mine : (w.stage k).own? = some own := by rw [at']; rfl
    by_cases delivers : j.id = jobId ∧ answer.isDelivered = true
    · have sender : (w.stage k).Delivering jobId := by
        rw [at']
        exact delivers
      obtain ⟨d, mem, same⟩ := settleLive_error raised
      rw [(h.tied.own k own mine).2.1] at mem
      have keyIs := h.tied.read k j (by rw [at']; rfl) delivers.1
      exact h.close tied rfl rfl ⟨d, mem, same.trans keyIs⟩ sender
    · exact h.move tied rfl rfl id False.elim id (by rw [at']; exact delivers)
  | @crash begun =>
    refine h.move tied rfl rfl id False.elim id ?_
    intro delivering
    cases at' : w.stage k with
    | answered j own answer =>
      rw [at'] at delivering
      have undelivered : answer.isDelivered = false := apart j own answer at' delivering.1
      have delivered : answer.isDelivered = true := delivering.2
      rw [undelivered] at delivered
      cases delivered
    | _ =>
      rw [at'] at delivering
      exact delivering

theorem comes_single {db : JobStore} (run : Comes T calls (Apart jobId) db w) :
    w.Single jobId ((db.job? jobId).elim "" Job.idempotencyKey) := by
  induction run with
  | refl =>
    refine ⟨⟨fun j found => ?_, fun k j unread => (Option.some_ne_none j unread.symm).elim,
      fun k own closed => (Option.some_ne_none own closed.symm).elim⟩,
      fun k k' active => active.elim, .none rfl fun k => id⟩
    have found : db.job? jobId = some j := found
    rw [found]
    rfl
  | tail _ step ih =>
    obtain ⟨k, act, apart, turn⟩ := step
    exact turn.single apart ih

omit [DecidableEq κ] in
theorem World.Single.once {key : String} (h : w.Single jobId key) : (w.deliveries jobId).length ≤ 1 := by
  cases h.delivery with
  | none unsent idle =>
    rw [unsent]
    exact Nat.zero_le _
  | sent one k sender => exact Nat.le_of_eq one
  | settled one kept quiet => exact Nat.le_of_eq one

/-- **Live delivery.** No message has a committed attempt before it, so the claim holds of a run just when it sends none;
at most one delivery is made where the calls for the job are kept apart. -/
theorem one_delivery {db : JobStore} (fresh : attempted db jobId = false) :
    (∀ w, Comes T calls (fun _ _ _ => True) db w → (DeliversOnce w jobId ↔ ∀ x ∈ w.log, x.jobId ≠ jobId)) ∧
      ∀ w, Comes T calls (Apart jobId) db w → (w.deliveries jobId).length ≤ 1 := by
  refine ⟨fun w run => ⟨fun once => ?_, fun unsent => ?_⟩, fun w run => (comes_single run).once⟩
  · rcases comes_clean fresh run with clean | ⟨x, mem, mine, unrecorded⟩
    · exact clean.unsent
    · have recorded := once.recorded x mem mine
      rw [unrecorded] at recorded
      cases recorded
  · have none : w.deliveries jobId = [] := by
      unfold World.deliveries
      rw [List.filter_eq_nil_iff]
      intro x mem
      simp [unsent x mem]
    exact ⟨by rw [none]; exact Nat.zero_le _, fun x mem mine => absurd mine (unsent x mem)⟩

/-- The world in which a call has passed its checks. -/
def World.clearedFor (w : World κ) (k : κ) (j : Job) (gateway : Gateway) : World κ :=
  ((w.move k (.read j)).move k (.unclaimed j)).move k (.cleared j gateway)

theorem move_stage (w : World κ) (stage : Stage) : (w.move k stage).stage k = stage := by simp [World.move]

theorem clears {j : Job} {gateway : Gateway} (waits : w.stage k = .waiting) (found : w.db.job? (calls k).jobId = some j)
    (policy : policyStop j (calls k).policy = none) (key : keyStop w.db j = none)
    (send : sendGate w.db j (calls k) = .ok gateway) : Alone T calls w (w.clearedFor k j gateway) := by
  have begun : Alone T calls w (w.move k (.read j)) := .single ⟨k, .begin, trivial, .begin waits found⟩
  have looked := begun.tail ⟨k, .lookUp, trivial, .lookUp (move_stage w _) policy key⟩
  exact looked.tail ⟨k, .throttle, trivial, .clear (move_stage (w.move k (.read j)) _) send⟩

/-- A call that runs by itself does what `dispatch_live` does in one go. -/
theorem dispatchLive_alone (live : (calls k).live = true) (free : w.lock = none) (waits : w.stage k = .waiting) :
    ∃ w', Alone T calls w w' ∧ w'.db = performLive T w.db (calls k) ∧ w'.lock = none ∧ w'.stage k = .ended := by
  have step {w w' : World κ} {act : Act} (turn : Turn T calls k w act w') : Guarded T calls (fun _ _ _ => True) w w' :=
    ⟨k, act, trivial, turn⟩
  cases found : w.db.job? (calls k).jobId with
  | none =>
    refine ⟨_, .single (step (.unknown waits found)), ?_, free, move_stage _ _⟩
    simp [performLive, dispatchLive, found, stored, World.move]
  | some j =>
    let reading := w.move k (.read j)
    let unclaimed := reading.move k (.unclaimed j)
    have begun : Alone T calls w reading := .single (step (.begin waits found))
    have refused {w1 : World κ} {stop : Stop} (run : Alone T calls w (w1.move k (.refusing (stopReceipt j (calls k) stop))))
        (db : w1.db = w.db) (unlocked : w1.lock = none) (gate : w.db.liveGate j (calls k) = .error stop) :
        ∃ w', Alone T calls w w' ∧ w'.db = performLive T w.db (calls k) ∧ w'.lock = none ∧ w'.stage k = .ended := by
      refine ⟨_, run.tail (step (.refuse (move_stage w1 _) unlocked)), ?_, unlocked, move_stage _ _⟩
      unfold performLive
      rw [dispatchLive_stop found live gate, ← db]
      rfl
    cases policy : policyStop j (calls k).policy with
    | some stop =>
      exact refused (begun.tail (step (.policy (move_stage w _) policy))) rfl free (by rw [liveGate_eq, policy])
    | none =>
      cases key : keyStop w.db j with
      | some stop =>
        exact refused (begun.tail (step (.duplicate (move_stage w _) policy key))) rfl free (by rw [liveGate_eq, policy, key])
      | none =>
        have looked : Alone T calls w unclaimed := begun.tail (step (.lookUp (move_stage w _) policy key))
        cases send : sendGate w.db j (calls k) with
        | error stop =>
          exact refused (looked.tail (step (.throttled (move_stage reading _) send))) rfl free
            (by rw [liveGate_eq, policy, key, send])
        | ok gateway =>
          have gate : w.db.liveGate j (calls k) = .ok gateway := by rw [liveGate_eq, policy, key, send]
          let cleared := w.clearedFor k j gateway
          let own := w.db.addReceipt (liveReceipt j .attempt "" "" (calls k).readings.receipt)
          let attempting := { cleared with lock := some k }.move k (.attempting j gateway own)
          let answer := gateway j.target (j.message T) j.idempotencyKey
          let answered := { attempting with
            log := w.log ++ [(⟨k, j.id, answer.isDelivered, attempted w.db j.id⟩ : Sent κ)] }.move k (.answered j own answer)
          have attempts : Alone T calls w attempting := (clears waits found policy key send).tail (step (.attempt (move_stage unclaimed _) free))
          have answers : Alone T calls w answered := attempts.tail (step (.send (move_stage _ _) rfl))
          have performed : performLive T w.db (calls k) = stored w.db (own.settleLive T j (calls k).readings answer) := by
            unfold performLive
            rw [dispatchLive_send found live gate]
          cases settled : own.settleLive T j (calls k).readings answer with
          | error err =>
            refine ⟨_, answers.tail (step (.rollback (move_stage _ _) settled)), ?_, rfl, move_stage _ _⟩
            rw [performed, settled]
            rfl
          | ok result =>
            refine ⟨_, answers.tail (step (.commit (move_stage _ _) settled)), ?_, rfl, move_stage _ _⟩
            rw [performed, settled]
            rfl

end

/-- Two calls for one job, with a gateway that delivers. -/
def racing : Bool → LiveCall := fun _ => dispatchOf "job_0" (.delivered "message 1")

theorem one_delivery_racing :
    (∀ w, Comes asciiText racing (fun _ _ _ => True) queuedStore w →
      (DeliversOnce w "job_0" ↔ ∀ x ∈ w.log, x.jobId ≠ "job_0")) ∧
    ∀ w, Comes asciiText racing (Apart "job_0") queuedStore w → (w.deliveries "job_0").length ≤ 1 :=
  one_delivery (by decide)

/-- Both calls look for a delivery before either of them makes one. -/
theorem delivered_twice : ¬ ∀ w, Alone asciiText racing { db := queuedStore } w → DeliversOnce w "job_0" := by
  intro once
  let j := queuedJob "job_0"
  let gateway : Gateway := fun _ _ _ => .delivered "message 1"
  let own (db : JobStore) := db.addReceipt (liveReceipt j .attempt "" "" second)
  let w0 : World Bool := { db := queuedStore }
  let w1 := w0.clearedFor false j gateway
  let w2 := w1.clearedFor true j gateway
  have policy : policyStop j (racing false).policy = none := by decide
  have cleared : Alone asciiText racing w0 w2 :=
    (clears rfl rfl policy rfl rfl).trans (clears rfl rfl policy rfl rfl)
  let w3 := { w2 with lock := some false }.move false (.attempting j gateway (own queuedStore))
  let sent (db : JobStore) (k : Bool) : Sent Bool := ⟨k, "job_0", true, attempted db "job_0"⟩
  let w4 := { w3 with log := [sent queuedStore false] }.move false (.answered j (own queuedStore) (.delivered "message 1"))
  obtain ⟨after, delivered⟩ := @deliverLive_succeeds asciiText (own queuedStore) j (racing false).readings "message 1" rfl
  let w5 := { w4 with db := after, lock := none }.move false .ended
  let w6 := { w5 with lock := some true }.move true (.attempting j gateway (own after))
  let w7 := { w6 with log := [sent queuedStore false, sent after true] }.move true
    (.answered j (own after) (.delivered "message 1"))
  have first : Alone asciiText racing w0 w5 :=
    ((cleared.tail ⟨false, .attempt, trivial, .attempt rfl rfl⟩).tail ⟨false, .send, trivial, .send rfl rfl⟩).tail
      ⟨false, .commit, trivial, .commit rfl (settleLive_delivered delivered)⟩
  have both : Alone asciiText racing w0 w7 :=
    (first.tail ⟨true, .attempt, trivial, .attempt rfl rfl⟩).tail ⟨true, .send, trivial, .send rfl rfl⟩
  have two : (w7.deliveries "job_0").length = 2 := rfl
  have atMost := (once w7 both).once
  omega

end AgentflowHermes.Jobs
