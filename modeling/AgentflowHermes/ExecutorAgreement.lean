import AgentflowHermes.ExecutorRuns

namespace AgentflowHermes

open CrashProgram RowTable

variable {ι : Type} {B : Behaviour ι} {now : Nat} {a : Adapter} {row : OutboxRow} {i : ι} {s : Store}

/-- Recording this task id leaves the column as it is. -/
def KeepsTask (row : OutboxRow) (taskId : String) : Prop := taskId = "" ∨ taskId = row.boardTaskId

theorem appliedOutcome_eq_iff {taskId : String} {calls : List Mutation} :
    appliedOutcome row taskId calls = appliedOutcome row "" calls ↔ KeepsTask row taskId := by
  unfold appliedOutcome KeepsTask Store.coalesce
  by_cases ht : taskId = "" <;> simp [ht]

theorem appliedOutcome_ne_failed {taskId : String} {calls calls' : List Mutation} :
    appliedOutcome row taskId calls ≠ failedOutcome row calls' := by
  simp [appliedOutcome, failedOutcome]

theorem settledOutcome_eq_iff {taskId : String} {ok ok' : Bool} {calls : List Mutation} :
    settledOutcome row taskId ok calls = settledOutcome row "" ok' calls ↔
      ok' = ok ∧ (ok → KeepsTask row taskId) := by
  unfold settledOutcome
  cases ok <;> cases ok'
  · simp
  · simpa using appliedOutcome_ne_failed.symm
  · simpa using appliedOutcome_ne_failed
  · simpa using appliedOutcome_eq_iff

/-- The adapter behaviour under which the two executors do the same: no nested ACK fails, a wake or
ACK result brings no task id of its own, and an ACK is not on record before the call. -/
def ExecutorsAgree (B : Behaviour ι) (a : Adapter) (row : OutboxRow) (i : ι) : Prop :=
  match row.operation with
  | .scheduleOriginWake =>
    let w := B.wake a row i
    w.1 ∨ row.lastError = "origin_wake_not_yet_accepted" ∨
      a.scheduleOriginWake ∧ ((B.scheduled a row w.2).2 → KeepsTask row (B.scheduled a row w.2).1.taskId)
  | .recordConsumerAck =>
    let checked := B.acked a row false i
    checked.1 = false ∧ a.recordConsumerAck ∧ (B.recorded a row i).2 = (B.recorded a row checked.2).2 ∧
      ((B.recorded a row checked.2).2 → KeepsTask row (B.recorded a row checked.2).1.taskId)
  | op => ∀ m, mutationOf op row.payload = some m →
      ¬((B.mutate a m i).1.success ∧ hasFailedNestedAck (B.mutate a m i).1)

theorem wakeOutcome_agree_iff :
    wakeOutcome B a row i none AdapterResult.taskId = wakeOutcome B a row i (some false) (fun _ => "") ↔
      (B.wake a row i).1 ∨ row.lastError = "origin_wake_not_yet_accepted" ∨
        a.scheduleOriginWake ∧ ((B.scheduled a row (B.wake a row i).2).2 →
          KeepsTask row (B.scheduled a row (B.wake a row i).2).1.taskId) := by
  unfold wakeOutcome
  dsimp only
  split
  next hw => simp [hw]
  next hw =>
    split
    next hl => simp [hl]
    next hl =>
      split
      next hm => simp_all [untouchedOutcome]
      next hm =>
        split
        next hr => simp_all [appliedOutcome_eq_iff]
        next hr => simp_all

theorem settledOutcome_calls {taskId : String} {ok : Bool} {calls : List Mutation} :
    (settledOutcome row taskId ok calls).calls = calls := by
  unfold settledOutcome
  split <;> rfl

theorem settledOutcome_ne_untouched {taskId : String} {ok : Bool} {calls calls' : List Mutation} {b : Option Bool} :
    settledOutcome row taskId ok calls ≠ untouchedOutcome row b calls' := by
  unfold settledOutcome appliedOutcome failedOutcome untouchedOutcome
  split
  · simp
  · split <;> simp

theorem ackOutcome_agree_iff :
    (let checked := B.acked a row false i
      if checked.1 then appliedOutcome row "" []
      else if !a.recordConsumerAck then failedOutcome row []
      else settledOutcome row (B.recorded a row checked.2).1.taskId (B.recorded a row checked.2).2 [ackCall row]) =
    (if !a.recordConsumerAck then untouchedOutcome row (some false) []
      else settledOutcome row "" (B.recorded a row i).2 [ackCall row]) ↔
    (B.acked a row false i).1 = false ∧ a.recordConsumerAck ∧
      (B.recorded a row i).2 = (B.recorded a row (B.acked a row false i).2).2 ∧
      ((B.recorded a row (B.acked a row false i).2).2 →
        KeepsTask row (B.recorded a row (B.acked a row false i).2).1.taskId) := by
  dsimp only
  cases hm : a.recordConsumerAck with
  | false =>
    have hne : ∀ ok, settledOutcome row "" ok [] ≠ untouchedOutcome row (some false) [] :=
      fun ok => settledOutcome_ne_untouched
    split
    next => simpa [settledOutcome] using hne true
    next => simpa [settledOutcome] using hne false
  | true =>
    cases hc : (B.acked a row false i).1 with
    | true =>
      simp only [if_true, Bool.not_true, Bool.false_eq_true, if_false, reduceCtorEq, false_and, iff_false]
      intro heq
      have := congrArg RowOutcome.calls heq
      rw [settledOutcome_calls] at this
      simp [appliedOutcome] at this
    | false => simpa using settledOutcome_eq_iff

theorem executors_agree_mutation (h : s.outbox.get? row.id = some row)
    (hkey : s.outboxOf row.idempotencyKey = some row) (pending : row.state = .pending)
    (due : row.nextAttemptAt ≤ now) (hop : callbackOnly row.operation = false) :
    executeByReconcile B now a row i s = executeByApply B now a row i s ↔
      ∀ m, mutationOf row.operation row.payload = some m →
        ¬((B.mutate a m i).1.success ∧ hasFailedNestedAck (B.mutate a m i).1) := by
  obtain ⟨r, j, hc, hnone, hsome⟩ := run_callMutation B now a row i s
  have call : reconcileCall a row = callMutation a row.id row.operation row.payload := by
    unfold reconcileCall
    cases hO : row.operation <;> simp_all [callbackOnly]
  have nested : (∀ m, mutationOf row.operation row.payload = some m →
      ¬((B.mutate a m i).1.success ∧ hasFailedNestedAck (B.mutate a m i).1)) ↔
      ¬(r.success ∧ hasFailedNestedAck r) := by
    cases hm : mutationOf row.operation row.payload with
    | none => simp [hnone hm]
    | some m => simp [hsome m hm]
  rw [nested, run_reconcileRow h (call ▸ hc), executeByApply_mutation h hkey pending due hop hc]
  cases hs : r.success with
  | false => simp
  | true =>
    cases hn : hasFailedNestedAck r with
    | false => simp
    | true => simpa using appliedOutcome_ne_failed

theorem executors_agree_iff (B : Behaviour ι) (now : Nat) (a : Adapter) (row : OutboxRow) (i : ι) (s : Store)
    (keys : UniqueBy s.outbox OutboxRow.idempotencyKey) (mem : row ∈ s.outbox.rows) (pending : row.state = .pending)
    (due : row.nextAttemptAt ≤ now) :
    executeByReconcile B now a row i s = executeByApply B now a row i s ↔ ExecutorsAgree B a row i := by
  have h : s.outbox.get? row.id = some row := get?_eq_some.mpr ⟨mem, rfl⟩
  have hkey : s.outboxOf row.idempotencyKey = some row := keys.find? mem
  unfold ExecutorsAgree
  cases hO : row.operation with
  | scheduleOriginWake =>
    rw [executeByReconcile_wake h pending due hO, executeByApply_wake h hkey pending due hO]
    exact wakeOutcome_agree_iff
  | recordConsumerAck =>
    rw [executeByReconcile_ack h hO, executeByApply_ack h hkey pending due hO]
    exact ackOutcome_agree_iff
  | createTask => simpa [hO] using executors_agree_mutation h hkey pending due (by rw [hO]; rfl)
  | subscribe => simpa [hO] using executors_agree_mutation h hkey pending due (by rw [hO]; rfl)
  | completeOwnerAnchor => simpa [hO] using executors_agree_mutation h hkey pending due (by rw [hO]; rfl)
  | other name => simpa [hO] using executors_agree_mutation h hkey pending due (by rw [hO]; rfl)

/-- A subscribe whose nested ACK failed: reconcile takes it as applied, the handlers' executor does not. -/
def nestedAckFailure : Behaviour Unit where
  mutate _ _ i := ({ success := true, ack := some (.dict false none) }, i)
  probe _ _ i := (false, i)

def subscribeRow : Store.NewOutbox := ⟨some 0, .subscribe, [("task_id", .str "t"), ("endpoint", .str "e")], "k"⟩

def subscribeStore : Store := (Store.empty.outboxEnqueue 1 subscribeRow).2

theorem subscribeStore_rows : subscribeStore.outbox.rows = [subscribeRow.row 1 1] := rfl

theorem subscribeStore_keys : UniqueBy subscribeStore.outbox OutboxRow.idempotencyKey := by
  simp [UniqueBy, subscribeStore_rows]

theorem subscribeStore_mem : subscribeRow.row 1 1 ∈ subscribeStore.outbox.rows := by
  simp [subscribeStore_rows]

theorem executors_agree_iff_subscribe :
    executeByReconcile nestedAckFailure 0 { board := "b" } (subscribeRow.row 1 1) () subscribeStore ≠
      executeByApply nestedAckFailure 0 { board := "b" } (subscribeRow.row 1 1) () subscribeStore := by
  rw [Ne, executors_agree_iff nestedAckFailure 0 _ (subscribeRow.row 1 1) () subscribeStore subscribeStore_keys
    subscribeStore_mem rfl (Nat.zero_le _)]
  intro agree
  exact agree _ rfl ⟨rfl, rfl⟩

theorem executors_disagree_on_nested_ack :
    ¬∀ (B : Behaviour Unit) (now : Nat) (a : Adapter) (row : OutboxRow) (s : Store),
      UniqueBy s.outbox OutboxRow.idempotencyKey → row ∈ s.outbox.rows → row.state = .pending →
      row.nextAttemptAt ≤ now → executeByReconcile B now a row () s = executeByApply B now a row () s := by
  intro agree
  have same := congrArg RowOutcome.reported (agree nestedAckFailure 0 { board := "b" } (subscribeRow.row 1 1)
    subscribeStore subscribeStore_keys subscribeStore_mem rfl (Nat.zero_le _))
  have reconciled : (executeByReconcile nestedAckFailure 0 { board := "b" } (subscribeRow.row 1 1) ()
      subscribeStore).reported = some true := rfl
  have applied : (executeByApply nestedAckFailure 0 { board := "b" } (subscribeRow.row 1 1) ()
      subscribeStore).reported = some false := rfl
  rw [reconciled, applied] at same
  cases same

end AgentflowHermes
