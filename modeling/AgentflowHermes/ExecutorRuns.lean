import AgentflowHermes.ExecutorOutcome

namespace AgentflowHermes

open CrashProgram RowTable

variable {ι : Type} {B : Behaviour ι} {now : Nat} {a : Adapter} {row : OutboxRow} {i : ι} {s : Store}

/-- The adapter call of a row, which both executors make in the same way. -/
theorem run_callMutation (B : Behaviour ι) (now : Nat) (a : Adapter) (row : OutboxRow) (i : ι) (s : Store) :
    ∃ r j, run (B.env now) (callMutation a row.id row.operation row.payload) (i, []) s = (.ok r, j, s) ∧
      (mutationOf row.operation row.payload = none → hasFailedNestedAck r = false) ∧
      ∀ m, mutationOf row.operation row.payload = some m → r = (B.mutate a m i).1 := by
  unfold callMutation
  cases mutationOf row.operation row.payload with
  | none => exact ⟨_, _, rfl, fun _ => rfl, by simp⟩
  | some m => exact ⟨_, _, rfl, by simp, by rintro _ ⟨⟩; rfl⟩

theorem executeByApply_mutation (h : s.outbox.get? row.id = some row) (hkey : s.outboxOf row.idempotencyKey = some row)
    (hp : row.state = .pending) (due : row.nextAttemptAt ≤ now) (hop : callbackOnly row.operation = false)
    {r : AdapterResult} {j : ι × List Mutation}
    (hc : run (B.env now) (callMutation a row.id row.operation row.payload) (i, []) s = (.ok r, j, s)) :
    executeByApply B now a row i s =
      if r.success ∧ !hasFailedNestedAck r then appliedOutcome row r.taskId j.2 else failedOutcome row j.2 := by
  have body : applyEnqueued row.operation row.payload (some a) row =
      applyMutation row row.operation row.payload (some a) := by
    cases hO : row.operation <;> simp_all [applyEnqueued, callbackOnly]
  have start : run (B.env now) (applyMutation row row.operation row.payload (some a)) (i, []) s =
      run (B.env now) (do
        if r.success ∧ !hasFailedNestedAck r then
          mark row.id .applied r.taskId none none
          return OpResult.ok r.taskId
        let now ← currentTime
        mark row.id .pending "" (some (now + retryDelay (row.attempts + 1))) (some (resultError r))
        return OpResult.failed (resultError r) none) j s := by
    unfold applyMutation
    simp only [hp, reduceCtorEq, if_false]
    rw [run_bind_ok (retryNotDue_due hp due _)]
    simp only [Bool.false_eq_true, if_false]
    rw [run_bind_ok hc]
  by_cases hs : r.success ∧ !hasFailedNestedAck r
  · rw [if_pos hs]
    rw [if_pos hs] at start
    rw [executeByApply_eq hkey body (start.trans (run_bind_ok (run_mark ..)))]
    exact outcome_applied h _ _
  · rw [if_neg hs]
    rw [if_neg hs] at start
    rw [executeByApply_eq hkey body start]
    simp [outcomeOf, get?_outboxMark h, Store.markRow, failedOutcome, hop, Behaviour.env, OpResult.success]

/-- `_origin_wake_satisfied` of an adapter in state `i`. -/
def Behaviour.wake (B : Behaviour ι) (a : Adapter) (row : OutboxRow) (i : ι) : Bool × ι :=
  if a.originWakeSatisfied then
    B.probe a (.originWakeSatisfied (row.payload.text "task_id") (row.payload.text "endpoint")) i
  else (false, i)

def wakeCall (row : OutboxRow) : Mutation :=
  .scheduleOriginWake (row.payload.text "task_id") (row.payload.text "endpoint")

/-- The schedule call of a wake, and whether a receipt check confirms it. -/
def Behaviour.scheduled (B : Behaviour ι) (a : Adapter) (row : OutboxRow) (i : ι) : AdapterResult × Bool :=
  let r := B.mutate a (wakeCall row) i
  (r.1, r.1.success && (B.wake a row r.2).1)

/-- What an executor makes of a wake row, by what it reports without a schedule method and by the
task id it records on success. -/
def wakeOutcome (B : Behaviour ι) (a : Adapter) (row : OutboxRow) (i : ι) (missing : Option Bool)
    (taskId : AdapterResult → String) : RowOutcome :=
  let w := B.wake a row i
  if w.1 then appliedOutcome row "" []
  else if row.lastError = "origin_wake_not_yet_accepted" then failedOutcome row []
  else if !a.scheduleOriginWake then untouchedOutcome row missing []
  else
    let r := B.scheduled a row w.2
    if r.2 then appliedOutcome row (taskId r.1) [wakeCall row] else failedOutcome row [wakeCall row]

theorem run_originWakeSatisfied (j : ι × List Mutation) :
    run (B.env now) (originWakeSatisfied a row.id (row.payload.text "task_id") (row.payload.text "endpoint")) j s =
      (.ok (B.wake a row j.1).1, ((B.wake a row j.1).2, j.2), s) := by
  unfold originWakeSatisfied Behaviour.wake
  split <;> rfl

theorem run_mutate (m : Mutation) (j : ι × List Mutation) :
    run (B.env now) (mutate a row.id m) j s =
      (.ok (B.mutate a m j.1).1, ((B.mutate a m j.1).2, j.2 ++ [m]), s) := rfl

theorem executeByReconcile_raises (h : s.outbox.get? row.id = some row) (hp : row.state = .pending)
    (due : row.nextAttemptAt ≤ now) (e : String) (j : ι × List Mutation)
    (hc : run (B.env now) (reconcileCall a row) (i, []) s = (.error e, j, s)) :
    executeByReconcile B now a row i s = untouchedOutcome row none j.2 := by
  unfold executeByReconcile reconcileRow
  rw [run_bind, hc]
  simp [outcomeOf, untouchedOutcome, h, hp, Nat.sub_eq_zero_of_le due]

theorem executeByReconcile_wake (h : s.outbox.get? row.id = some row) (hp : row.state = .pending)
    (due : row.nextAttemptAt ≤ now) (hop : row.operation = .scheduleOriginWake) :
    executeByReconcile B now a row i s = wakeOutcome B a row i none AdapterResult.taskId := by
  have call : reconcileCall a row = reconcileWake a row := by rw [reconcileCall, hop]
  have settle : ∀ r j, run (B.env now) (reconcileWake a row) (i, []) s = (.ok r, j, s) →
      executeByReconcile B now a row i s =
        if r.success then appliedOutcome row r.taskId j.2 else failedOutcome row j.2 := by
    rw [← call]
    exact fun r j hc => run_reconcileRow h hc
  unfold wakeOutcome Behaviour.scheduled wakeCall
  dsimp only
  split
  next hw =>
    refine (settle { success := true } ((B.wake a row i).2, []) ?_).trans rfl
    simp [reconcileWake, run_bind, run_originWakeSatisfied, hw]
  next hw =>
    split
    next hl =>
      refine (settle { success := false, error := "origin_wake_not_yet_accepted" } ((B.wake a row i).2, []) ?_).trans rfl
      simp [reconcileWake, run_bind, run_originWakeSatisfied, hw, hl]
    next hl =>
      split
      next hm =>
        refine executeByReconcile_raises h hp due "AttributeError" ((B.wake a row i).2, []) ?_
        rw [call]
        simp only [reconcileWake, run_bind, run_originWakeSatisfied, hw, hl, hm]
        simp
      next hm =>
        have hm' : a.scheduleOriginWake = true := by simpa using hm
        generalize hr : B.mutate a (.scheduleOriginWake _ _) (B.wake a row i).2 = r
        by_cases hs : r.1.success
        · by_cases hv : (B.wake a row r.2).1
          · simp only [hs, hv, Bool.and_self, if_true]
            refine (settle r.1 ((B.wake a row r.2).2, [_]) ?_).trans (if_pos hs)
            simp [reconcileWake, run_bind, run_originWakeSatisfied, run_mutate, hw, hl, hm', hr, hs, hv]
          · simp only [hs, hv, Bool.and_false, if_false, Bool.false_eq_true]
            refine (settle { success := false, error := "origin_wake_not_yet_accepted" }
              ((B.wake a row r.2).2, [_]) ?_).trans rfl
            simp [reconcileWake, run_bind, run_originWakeSatisfied, run_mutate, hw, hl, hm', hr, hs, hv]
        · simp only [hs, Bool.false_and, if_false, Bool.false_eq_true]
          refine (settle r.1 (r.2, [_]) ?_).trans (if_neg hs)
          simp [reconcileWake, run_bind, run_originWakeSatisfied, run_mutate, hw, hl, hm', hr, hs]

theorem executeByApply_failed {p : Run OpResult} (h : s.outbox.get? row.id = some row)
    (hkey : s.outboxOf row.idempotencyKey = some row)
    (hp : applyEnqueued row.operation row.payload (some a) row = p)
    (error : String) (result : OutboxState → Option OutboxState) (j : ι × List Mutation)
    (hr : run (B.env now) p (i, []) s =
      run (B.env now) (markOutboxPending row error >>= fun state => pure (OpResult.failed error (result state))) j s) :
    executeByApply B now a row i s = failedOutcome row j.2 := by
  obtain ⟨state, t, hmark, hout⟩ := run_markOutboxPending (B := B) now h error j
  rw [run_bind_ok hmark] at hr
  rw [executeByApply_eq hkey hp hr]
  exact hout

theorem executeByApply_wake (h : s.outbox.get? row.id = some row) (hkey : s.outboxOf row.idempotencyKey = some row)
    (hp : row.state = .pending) (due : row.nextAttemptAt ≤ now) (hop : row.operation = .scheduleOriginWake) :
    executeByApply B now a row i s = wakeOutcome B a row i (some false) fun _ => "" := by
  have body : applyEnqueued row.operation row.payload (some a) row = applyScheduleOriginWake row row.payload (some a) := by
    rw [hop, applyEnqueued]
  have notDue : ∀ j, run (B.env now) (retryNotDue row) j s = (.ok false, j, s) := retryNotDue_due hp due
  have applied : ∀ (j : ι × List Mutation),
      run (B.env now) (applyScheduleOriginWake row row.payload (some a)) (i, []) s =
        (.ok (.ok row.boardTaskId), j, (s.outboxMark row.id .applied "" none none).2) →
      executeByApply B now a row i s = appliedOutcome row "" j.2 := fun j hr =>
    (executeByApply_eq hkey body hr).trans (outcome_applied h _ _)
  have reports : ∀ (error : String) (j : ι × List Mutation),
      run (B.env now) (applyScheduleOriginWake row row.payload (some a)) (i, []) s = (.ok (.failed error none), j, s) →
      executeByApply B now a row i s = untouchedOutcome row (some false) j.2 := fun _ j hr =>
    (executeByApply_eq hkey body hr).trans (outcome_untouched h hp due _ _)
  unfold wakeOutcome Behaviour.scheduled wakeCall
  dsimp only
  split
  next hw =>
    refine applied ((B.wake a row i).2, []) ?_
    simp [applyScheduleOriginWake, run_bind, notDue, run_originWakeSatisfied, run_mark, hp, hw]
  next hw =>
    split
    next hl =>
      refine executeByApply_failed h hkey body "origin_wake_not_yet_accepted" (fun _ => none) ((B.wake a row i).2, []) ?_
      simp [applyScheduleOriginWake, run_bind, notDue, run_originWakeSatisfied, hp, hw, hl]
    next hl =>
      split
      next hm =>
        have hm' : a.scheduleOriginWake = false := by simpa using hm
        refine reports "adapter_missing_schedule_origin_wake" ((B.wake a row i).2, []) ?_
        simp [applyScheduleOriginWake, run_bind, notDue, run_originWakeSatisfied, hp, hw, hl, hm']
      next hm =>
        have hm' : a.scheduleOriginWake = true := by simpa using hm
        generalize hr : B.mutate a (.scheduleOriginWake _ _) (B.wake a row i).2 = r
        by_cases hs : r.1.success
        · by_cases hv : (B.wake a row r.2).1
          · simp only [hs, hv, Bool.and_self, if_true]
            refine applied ((B.wake a row r.2).2, [_]) ?_
            simp [applyScheduleOriginWake, run_bind, notDue, run_originWakeSatisfied, run_mutate, run_mark, hp, hw, hl,
              hm', hr, hs, hv]
          · simp only [hs, hv, Bool.and_false, if_false, Bool.false_eq_true]
            refine executeByApply_failed h hkey body (clip (orText r.1.error "origin_wake_not_yet_accepted")) some
              ((B.wake a row r.2).2, [_]) ?_
            simp [applyScheduleOriginWake, run_bind, notDue, run_originWakeSatisfied, run_mutate, hp, hw, hl, hm', hr,
              hs, hv]
        · simp only [hs, Bool.false_and, if_false, Bool.false_eq_true]
          refine executeByApply_failed h hkey body (clip (orText r.1.error "origin_wake_not_yet_accepted")) some
            (r.2, [_]) ?_
          simp [applyScheduleOriginWake, run_bind, notDue, run_originWakeSatisfied, run_mutate, hp, hw, hl, hm', hr, hs]

def ackCall (row : OutboxRow) : Mutation :=
  .recordConsumerAck (row.payload.text "task_id") (row.payload.text "endpoint") (row.payload.text "status")

/-- `consumer_ack_satisfied` of an adapter in state `i`; `missing` stands in for an absent method. -/
def Behaviour.acked (B : Behaviour ι) (a : Adapter) (row : OutboxRow) (missing : Bool) (i : ι) : Bool × ι :=
  if a.consumerAckSatisfied then
    B.probe a (.consumerAckSatisfied (row.payload.text "task_id") (row.payload.text "endpoint")
      (row.payload.text "status")) i
  else (missing, i)

/-- The record call of an ACK, and whether it stands: without a check the result itself decides. -/
def Behaviour.recorded (B : Behaviour ι) (a : Adapter) (row : OutboxRow) (i : ι) : AdapterResult × Bool :=
  let r := B.mutate a (ackCall row) i
  (r.1, r.1.success && (B.acked a row true r.2).1)

def settledOutcome (row : OutboxRow) (taskId : String) (ok : Bool) (calls : List Mutation) : RowOutcome :=
  if ok then appliedOutcome row taskId calls else failedOutcome row calls

theorem run_consumerAckSatisfied (now : Nat) (row : OutboxRow) (s : Store) (ha : a.consumerAckSatisfied) (missing : Bool)
    (j : ι × List Mutation) :
    run (B.env now) (consumerAckSatisfied a row.id (row.payload.text "task_id") (row.payload.text "endpoint")
      (row.payload.text "status")) j s =
      (.ok (B.acked a row missing j.1).1, ((B.acked a row missing j.1).2, j.2), s) := by
  unfold Behaviour.acked
  rw [if_pos ha]
  rfl

theorem acked_present (ha : a.consumerAckSatisfied) (missing : Bool) (j : ι) :
    B.acked a row missing j = B.acked a row false j := by
  unfold Behaviour.acked
  simp only [ha, if_true]

theorem acked_absent (ha : a.consumerAckSatisfied = false) (missing : Bool) (j : ι) :
    B.acked a row missing j = (missing, j) := by
  unfold Behaviour.acked
  simp only [ha, Bool.false_eq_true, if_false]

theorem executeByReconcile_ack (h : s.outbox.get? row.id = some row) (hop : row.operation = .recordConsumerAck) :
    executeByReconcile B now a row i s =
      let checked := B.acked a row false i
      if checked.1 then appliedOutcome row "" []
      else if !a.recordConsumerAck then failedOutcome row []
      else
        let r := B.recorded a row checked.2
        settledOutcome row r.1.taskId r.2 [ackCall row] := by
  have call : reconcileCall a row = reconcileAck a row := by rw [reconcileCall, hop]
  have settle : ∀ r j, run (B.env now) (reconcileAck a row) (i, []) s = (.ok r, j, s) →
      executeByReconcile B now a row i s =
        if r.success then appliedOutcome row r.taskId j.2 else failedOutcome row j.2 := by
    rw [← call]
    exact fun r j hc => run_reconcileRow h hc
  unfold settledOutcome Behaviour.recorded ackCall
  dsimp only
  cases ha : a.consumerAckSatisfied with
  | true =>
    have checks := fun j => run_consumerAckSatisfied (B := B) now row s ha false j
    split
    next hc =>
      refine (settle { success := true } ((B.acked a row false i).2, []) ?_).trans rfl
      simp [reconcileAck, run_bind, checks, ha, hc]
    next hc =>
      split
      next hm =>
        have hm' : a.recordConsumerAck = false := by simpa using hm
        refine (settle { success := false, error := "adapter_missing_record_consumer_ack" }
          ((B.acked a row false i).2, []) ?_).trans rfl
        simp [reconcileAck, run_bind, checks, ha, hc, hm']
      next hm =>
        have hm' : a.recordConsumerAck = true := by simpa using hm
        generalize hr : B.mutate a (.recordConsumerAck _ _ _) (B.acked a row false i).2 = r
        rw [acked_present ha]
        by_cases hs : r.1.success
        · by_cases hv : (B.acked a row false r.2).1
          · simp only [hs, hv, Bool.and_self, if_true]
            refine (settle r.1 ((B.acked a row false r.2).2, [_]) ?_).trans (if_pos hs)
            simp [reconcileAck, run_bind, checks, run_mutate, ha, hc, hm', hr, hs, hv]
          · simp only [hs, hv, Bool.and_false, if_false, Bool.false_eq_true]
            refine (settle { success := false, error := "consumer_ack_not_verified" }
              ((B.acked a row false r.2).2, [_]) ?_).trans rfl
            simp [reconcileAck, run_bind, checks, run_mutate, ha, hc, hm', hr, hs, hv]
        · simp only [hs, Bool.false_and, if_false, Bool.false_eq_true]
          refine (settle r.1 (r.2, [_]) ?_).trans (if_neg hs)
          simp [reconcileAck, run_bind, checks, run_mutate, ha, hc, hm', hr, hs]
  | false =>
    simp only [acked_absent ha, Bool.false_eq_true, if_false, Bool.and_true]
    split
    next hm =>
      have hm' : a.recordConsumerAck = false := by simpa using hm
      refine (settle { success := false, error := "adapter_missing_record_consumer_ack" } (i, []) ?_).trans rfl
      simp [reconcileAck, ha, hm']
    next hm =>
      have hm' : a.recordConsumerAck = true := by simpa using hm
      generalize hr : B.mutate a (.recordConsumerAck _ _ _) i = r
      refine settle r.1 (r.2, [_]) ?_
      simp [reconcileAck, run_mutate, ha, hm', hr]

theorem executeByApply_ack (h : s.outbox.get? row.id = some row) (hkey : s.outboxOf row.idempotencyKey = some row)
    (hp : row.state = .pending) (due : row.nextAttemptAt ≤ now) (hop : row.operation = .recordConsumerAck) :
    executeByApply B now a row i s =
      if !a.recordConsumerAck then untouchedOutcome row (some false) []
      else settledOutcome row "" (B.recorded a row i).2 [ackCall row] := by
  have body : applyEnqueued row.operation row.payload (some a) row = applyRecordConsumerAck row row.payload (some a) := by
    rw [hop, applyEnqueued]
  have notDue : ∀ j, run (B.env now) (retryNotDue row) j s = (.ok false, j, s) := retryNotDue_due hp due
  have applied : ∀ (j : ι × List Mutation),
      run (B.env now) (applyRecordConsumerAck row row.payload (some a)) (i, []) s =
        (.ok (.ok row.boardTaskId), j, (s.outboxMark row.id .applied "" none none).2) →
      executeByApply B now a row i s = appliedOutcome row "" j.2 := fun j hr =>
    (executeByApply_eq hkey body hr).trans (outcome_applied h _ _)
  have reports : ∀ (error : String) (j : ι × List Mutation),
      run (B.env now) (applyRecordConsumerAck row row.payload (some a)) (i, []) s = (.ok (.failed error none), j, s) →
      executeByApply B now a row i s = untouchedOutcome row (some false) j.2 := fun _ j hr =>
    (executeByApply_eq hkey body hr).trans (outcome_untouched h hp due _ _)
  unfold settledOutcome Behaviour.recorded ackCall
  dsimp only
  split
  next hm =>
    have hm' : a.recordConsumerAck = false := by simpa using hm
    refine reports "adapter_missing_record_consumer_ack" (i, []) ?_
    simp [applyRecordConsumerAck, run_bind, notDue, hp, hm']
  next hm =>
    have hm' : a.recordConsumerAck = true := by simpa using hm
    generalize hr : B.mutate a (.recordConsumerAck _ _ _) i = r
    by_cases hs : r.1.success
    · cases ha : a.consumerAckSatisfied with
      | true =>
        have checks := fun j => run_consumerAckSatisfied (B := B) now row s ha true j
        by_cases hv : (B.acked a row true r.2).1
        · simp only [hs, hv, Bool.and_self, if_true]
          refine applied ((B.acked a row true r.2).2, [_]) ?_
          simp [applyRecordConsumerAck, run_bind, notDue, checks, run_mutate, run_mark, hp, ha, hm', hr, hs, hv]
        · simp only [hs, hv, Bool.and_false, if_false, Bool.false_eq_true]
          refine executeByApply_failed h hkey body "consumer_ack_not_verified" some ((B.acked a row true r.2).2, [_]) ?_
          simp [applyRecordConsumerAck, run_bind, notDue, checks, run_mutate, hp, ha, hm', hr, hs, hv]
      | false =>
        simp only [acked_absent ha, hs, Bool.and_self, if_true]
        refine applied (r.2, [_]) ?_
        simp [applyRecordConsumerAck, run_bind, notDue, run_mutate, run_mark, hp, ha, hm', hr, hs]
    · simp only [hs, Bool.false_and, if_false, Bool.false_eq_true]
      refine executeByApply_failed h hkey body (clip (orText r.1.error "consumer_ack_failed")) some (r.2, [_]) ?_
      simp [applyRecordConsumerAck, run_bind, notDue, run_mutate, hp, hm', hr, hs]

end AgentflowHermes
