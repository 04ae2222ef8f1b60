import AgentflowHermes.BoardOperations
import Mathlib.Tactic.Common

namespace AgentflowHermes

open CrashProgram

/-- `_mark_pending` of `reconcile_outbox`. -/
def reconcileMarkPending (row : OutboxRow) (error : String) : Run Unit :=
  if callbackOnly row.operation ∧ row.attempts + 1 ≥ callbackRetryCap then
    mark row.id .callbackDeadletter "" (some 0) (some (clip error))
  else do
    let now ← currentTime
    mark row.id .pending "" (some (now + retryDelay (row.attempts + 1))) (some (clip error))

def reconcileWake (a : Adapter) (row : OutboxRow) : Run AdapterResult := do
  let taskId := row.payload.text "task_id"
  let endpoint := row.payload.text "endpoint"
  if ← originWakeSatisfied a row.id taskId endpoint then return { success := true }
  if row.lastError = "origin_wake_not_yet_accepted" then
    return { success := false, error := "origin_wake_not_yet_accepted" }
  -- the method is called without a check that the adapter has it
  if !a.scheduleOriginWake then Prog.raise "AttributeError"
  else do
    let result ← mutate a row.id (.scheduleOriginWake taskId endpoint)
    if result.success then
      if ← originWakeSatisfied a row.id taskId endpoint then return result
      return { success := false, error := "origin_wake_not_yet_accepted" }
    return result

def reconcileAck (a : Adapter) (row : OutboxRow) : Run AdapterResult := do
  let taskId := row.payload.text "task_id"
  let endpoint := row.payload.text "endpoint"
  let status := row.payload.text "status"
  let missing : AdapterResult := { success := false, error := "adapter_missing_record_consumer_ack" }
  if a.consumerAckSatisfied then
    if ← consumerAckSatisfied a row.id taskId endpoint status then return { success := true }
    if !a.recordConsumerAck then return missing
    let result ← mutate a row.id (.recordConsumerAck taskId endpoint status)
    if result.success then
      if ← consumerAckSatisfied a row.id taskId endpoint status then return result
      return { success := false, error := "consumer_ack_not_verified" }
    return result
  else if a.recordConsumerAck then mutate a row.id (.recordConsumerAck taskId endpoint status)
  else return missing

def reconcileCall (a : Adapter) (row : OutboxRow) : Run AdapterResult :=
  match row.operation with
  | .scheduleOriginWake => reconcileWake a row
  | .recordConsumerAck => reconcileAck a row
  | op => callMutation a row.id op row.payload

def markStepApplied (id : Nat) (taskId : String) : Run Unit :=
  .write (fun s => (s.markStep id (some .applied) taskId).2) fun _ => .pure ()

/-- One due row; the answer tells whether it was retried with success. -/
def reconcileRow (a : Adapter) (row : OutboxRow) : Run Bool := do
  let result ← reconcileCall a row
  if result.success then
    mark row.id .applied result.taskId none none
    match row.stepId with
    -- an unknown step raises under `suppress`
    | some id => markStepApplied id result.taskId
    | none => pure ()
    return true
  else
    reconcileMarkPending row (clip (orText result.error "adapter_error"))
    return false

/-- The pending, due rows joined with the board of their instance. -/
def dueRows (now : Nat) (s : Store) : List (OutboxRow × String) :=
  (s.outbox.filter fun o => o.state == .pending && decide (o.nextAttemptAt ≤ now)).filterMap fun o =>
    (s.getInstance o.continuationId).map fun i => (o, i.board)

structure ReconcileResult where
  retried : List String
  failed : List String
  pendingBefore : Nat

def reconcileItem (adapterByBoard : String → Option Adapter) (item : OutboxRow × String) : Run (Option Bool) :=
  match adapterByBoard item.2 with
  | none => return none
  | some a => some <$> reconcileRow a item.1

def reconcileOutbox (adapterByBoard : String → Option Adapter) : Run ReconcileResult := do
  let now ← currentTime
  let rows ← Prog.get (dueRows now)
  let outcomes ← Prog.forEach (reconcileItem adapterByBoard) rows
  let keysOf := fun b : Bool =>
    (rows.zip outcomes).filterMap fun p => if p.2 = some b then some p.1.1.idempotencyKey else none
  return ⟨keysOf true, keysOf false, rows.length⟩

/-- One pending row of `continuation retry`. -/
def retryRow (id : Nat) (a : Adapter) (row : OutboxRow) : Run Bool := do
  let result ← applyBoardOperation id ⟨row.stepId, row.operation, row.payload, row.idempotencyKey⟩ (some a)
  match result with
  | .ok taskId =>
    match row.stepId with
    | some step =>
      let marked ← Prog.txn fun s => s.markStep step (some .applied) taskId
      if marked.isNone then Prog.raise "TypeError" else return true
    | none => return true
  | .failed .. => return false

def continuationRetry (id : Nat) (a : Adapter) : Run (List Bool) := do
  let instance? ← Prog.get fun s => s.getInstance id
  if instance?.isNone then return []
  let pending ← Prog.get fun s => s.pendingOf id
  Prog.forEach (retryRow id a) pending

open RowTable

/-- An adapter whose answers may depend on every call it has had. -/
structure Behaviour (ι : Type) where
  mutate : Adapter → Mutation → ι → AdapterResult × ι
  probe : Adapter → Probe → ι → Bool × ι

variable {ι : Type}

/-- Both executors run at one time, and the mutation calls are logged. -/
def Behaviour.env (B : Behaviour ι) (now : Nat) : Env Response (ι × List Mutation)
  | .now, i => (now, i)
  | .mutate a _ m, i => ((B.mutate a m i.1).1, (B.mutate a m i.1).2, i.2 ++ [m])
  | .probe a _ p, i => ((B.probe a p i.1).1, (B.probe a p i.1).2, i.2)
  | .newCaseId, i => ("", i)
  | .checkWait _, i => (none, i)
  | .routeRoadmap _, i => (false, i)
  | .routeCodeFix _, i => (false, i)

/-- What an execution of a row amounts to: the mutation calls it makes, the state, attempt count,
task id and remaining delay it leaves, and the success it reports (`none` when it raises). -/
structure RowOutcome where
  calls : List Mutation
  row : Option (OutboxState × Nat × String × Nat)
  reported : Option Bool

def outcomeOf (now id : Nat) (r : Except String Bool × (ι × List Mutation) × Store) : RowOutcome where
  calls := r.2.1.2
  row := (r.2.2.outbox.get? id).map fun o => (o.state, o.attempts, o.boardTaskId, o.nextAttemptAt - now)
  reported := match r.1 with
    | .ok b => some b
    | .error _ => none

def executeByReconcile (B : Behaviour ι) (now : Nat) (a : Adapter) (row : OutboxRow) (i : ι) (s : Store) : RowOutcome :=
  outcomeOf now row.id (run (B.env now) (reconcileRow a row) (i, []) s)

def executeByApply (B : Behaviour ι) (now : Nat) (a : Adapter) (row : OutboxRow) (i : ι) (s : Store) : RowOutcome :=
  let apply := do
    let r ← applyBoardOperation row.continuationId
      ⟨row.stepId, row.operation, row.payload, row.idempotencyKey⟩ (some a)
    return r.success
  outcomeOf now row.id (run (B.env now) apply (i, []) s)

variable {B : Behaviour ι} {now : Nat} {a : Adapter} {row : OutboxRow} {i : ι} {s : Store}

theorem run_mark {E : Env Response ι} {j : ι} (id : Nat) (state : OutboxState) (taskId : String)
    (next : Option Nat) (error : Option String) :
    run E (mark id state taskId next error) j s = (.ok (), j, (s.outboxMark id state taskId next error).2) := rfl

theorem outboxEnqueue_existing (id : Nat) {n : Store.NewOutbox} (h : s.outboxOf n.idempotencyKey = some row) :
    s.outboxEnqueue id n = ((false, row), s) := by
  rcases s.outboxEnqueue_cases id n with ⟨o, ho, he⟩ | ⟨none', _⟩
  · rw [he, Option.some.inj (ho.symm.trans h)]
  · rw [h] at none'
    cases none'

theorem retryNotDue_due (hp : row.state = .pending) (due : row.nextAttemptAt ≤ now) (j : ι × List Mutation) :
    run (B.env now) (retryNotDue row) j s = (.ok false, j, s) := by
  simp only [retryNotDue, hp, if_true, run_bind, currentTime, run_call, run_pure, run_pure']
  simp [Behaviour.env, Nat.not_lt.mpr due]

/-- The row after a successful attempt. -/
def appliedOutcome (row : OutboxRow) (taskId : String) (calls : List Mutation) : RowOutcome :=
  ⟨calls, some (.applied, row.attempts + 1, Store.coalesce taskId row.boardTaskId, 0), some true⟩

/-- The row after a failed attempt: in backoff, or dead-lettered once a callback has used its retries. -/
def failedOutcome (row : OutboxRow) (calls : List Mutation) : RowOutcome :=
  ⟨calls, some (if callbackOnly row.operation ∧ row.attempts + 1 ≥ callbackRetryCap
    then (.callbackDeadletter, row.attempts + 1, row.boardTaskId, 0)
    else (.pending, row.attempts + 1, row.boardTaskId, retryDelay (row.attempts + 1))), some false⟩

/-- The row as it was, for an execution that recorded no attempt. -/
def untouchedOutcome (row : OutboxRow) (reported : Option Bool) (calls : List Mutation) : RowOutcome :=
  ⟨calls, some (.pending, row.attempts, row.boardTaskId, 0), reported⟩

theorem get?_outboxMark (h : s.outbox.get? row.id = some row) (state : OutboxState) (taskId : String)
    (next : Option Nat) (error : Option String) :
    (s.outboxMark row.id state taskId next error).2.outbox.get? row.id =
      some (Store.markRow state taskId next error row) := by
  unfold Store.outboxMark
  dsimp only
  rw [get?_modify, if_pos rfl, h]
  rfl

theorem run_reconcileRow (h : s.outbox.get? row.id = some row) {r : AdapterResult} {j : ι × List Mutation}
    (hc : run (B.env now) (reconcileCall a row) (i, []) s = (.ok r, j, s)) :
    executeByReconcile B now a row i s =
      if r.success then appliedOutcome row r.taskId j.2 else failedOutcome row j.2 := by
  unfold executeByReconcile reconcileRow
  rw [run_bind_ok hc]
  by_cases hs : r.success
  · simp only [hs, if_true]
    rw [run_bind_ok (run_mark ..)]
    cases row.stepId with
    | none =>
      simp [outcomeOf, get?_outboxMark h, Store.markRow, appliedOutcome]
    | some id =>
      simp [outcomeOf, markStepApplied, Store.markStep, get?_outboxMark h, Store.markRow, appliedOutcome]
  · simp only [hs, if_false, Bool.false_eq_true]
    unfold reconcileMarkPending failedOutcome
    split
    · rw [run_bind_ok (run_mark ..)]
      simp [outcomeOf, get?_outboxMark h, Store.markRow]
    · simp only [run_bind, currentTime, run_call, run_pure, run_mark, run_pure']
      simp [outcomeOf, get?_outboxMark h, Store.markRow, Behaviour.env]

/-- What remains of `apply_board_operation` once the row is found. -/
theorem executeByApply_eq {p : Run OpResult} {r : OpResult} {j : ι × List Mutation} {t : Store}
    (hkey : s.outboxOf row.idempotencyKey = some row)
    (hp : applyEnqueued row.operation row.payload (some a) row = p)
    (hr : run (B.env now) p (i, []) s = (.ok r, j, t)) :
    executeByApply B now a row i s = outcomeOf now row.id (.ok r.success, j, t) := by
  have found := outboxEnqueue_existing row.continuationId
    (n := ⟨row.stepId, row.operation, row.payload, row.idempotencyKey⟩) hkey
  have body : run (B.env now) (applyBoardOperation row.continuationId
      ⟨row.stepId, row.operation, row.payload, row.idempotencyKey⟩ (some a)) (i, []) s = (.ok r, j, t) := by
    unfold applyBoardOperation
    simp only [Prog.txn, Prog.write_bind, Prog.pure_bind', run_write, found]
    exact hp ▸ hr
  unfold executeByApply
  dsimp only
  rw [run_bind_ok body]
  rfl

theorem run_markOutboxPending (now : Nat) (h : s.outbox.get? row.id = some row) (error : String) (j : ι × List Mutation) :
    ∃ state t, run (B.env now) (markOutboxPending row error) j s = (.ok state, j, t) ∧
      outcomeOf now row.id (.ok false, j, t) = failedOutcome row j.2 := by
  unfold markOutboxPending failedOutcome
  split
  · refine ⟨_, _, rfl, ?_⟩
    simp [outcomeOf, get?_outboxMark h, Store.markRow]
  · refine ⟨_, _, rfl, ?_⟩
    simp [outcomeOf, get?_outboxMark h, Store.markRow, Behaviour.env]

theorem outcome_applied (h : s.outbox.get? row.id = some row) (taskId : String) (j : ι × List Mutation) :
    outcomeOf now row.id (.ok true, j, (s.outboxMark row.id .applied taskId none none).2) =
      appliedOutcome row taskId j.2 := by
  simp [outcomeOf, get?_outboxMark h, Store.markRow, appliedOutcome]

theorem outcome_untouched (h : s.outbox.get? row.id = some row) (hp : row.state = .pending)
    (due : row.nextAttemptAt ≤ now) (b : Bool) (j : ι × List Mutation) :
    outcomeOf now row.id (.ok b, j, s) = untouchedOutcome row (some b) j.2 := by
  simp [outcomeOf, untouchedOutcome, h, hp, Nat.sub_eq_zero_of_le due]

end AgentflowHermes
