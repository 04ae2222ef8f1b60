import AgentflowHermes.BoardIngest
import AgentflowHermes.CrashProgram
import AgentflowHermes.ExecutorOutcome
import Mathlib.Algebra.Group.Pi.Basic
import Mathlib.Algebra.Ring.Nat

namespace AgentflowHermes

open CrashProgram RowTable

/-- The mutating calls that a request makes, counted for each row. -/
def mutations : Request → Nat → Nat
  | .mutate _ row _ => Pi.single row 1
  | _ => 0

def dueAt {ι : Type} (E : Env Response ι) (i : ι) (o : OutboxRow) : Bool := decide (o.nextAttemptAt ≤ (E .now i).1)

/-- What one execution makes of a pending row, with `n` calls: nothing before the row is due, and one recorded
attempt from then on. A wake that was accepted meanwhile takes no call. -/
structure Tried (due : Bool) (o : OutboxRow) (s t : Store) (n : Nat) : Prop where
  waits : due = false → t = s ∧ n = 0
  marks : due = true → ∃ state taskId next error, t = (s.outboxMark o.id state taskId next error).2
  calls : due = true → n ≤ 1 ∧ (o.operation ≠ .scheduleOriginWake → n = 1)

section

variable {ι α : Type} {E : Env Response ι} {i j : ι} {s : Store} {o : OutboxRow} {a : Adapter} {payload : Payload}

/-- The program records one attempt of the row and calls nothing. -/
def Marks (E : Env Response ι) (p : Run OpResult) (o : OutboxRow) (i : ι) (s : Store) : Prop :=
  ∃ r j state taskId next error, Completes mutations E p i s r j (s.outboxMark o.id state taskId next error).2 0

/-- The program executes the row. -/
def Tries (E : Env Response ι) (p : Run OpResult) (due : Bool) (o : OutboxRow) (i : ι) (s : Store) : Prop :=
  ∃ r j t n, Completes mutations E p i s r j t (Pi.single o.id n) ∧ Tried due o s t n

theorem Marks.before {p : Run α} {g : α → Run OpResult} {x : α} (first : Completes mutations E p i s x j s 0)
    (next : Marks E (g x) o j s) : Marks E (p >>= g) o i s := by
  obtain ⟨r, k, state, taskId, at', error, ends⟩ := next
  exact ⟨r, k, state, taskId, at', error, first.before ends⟩

theorem marks_mark (state : OutboxState) (taskId : String) (next : Option Nat) (error : Option String) (r : OpResult) :
    Marks E (mark o.id state taskId next error >>= fun _ => pure r) o i s :=
  ⟨r, i, state, taskId, next, error, rfl, rfl⟩

theorem marks_pending (error : String) (g : OutboxState → OpResult) :
    Marks E (markOutboxPending o error >>= fun state => pure (g state)) o i s := by
  unfold markOutboxPending
  split
  · exact ⟨_, _, _, _, _, _, rfl, rfl⟩
  · exact ⟨_, _, _, _, _, _, rfl, rfl⟩

theorem Tries.before {p : Run α} {g : α → Run OpResult} {x : α} {due : Bool}
    (first : Completes mutations E p i s x j s 0)
    (next : Tries E (g x) due o j s) : Tries E (p >>= g) due o i s := by
  obtain ⟨r, k, t, n, ends, tried⟩ := next
  exact ⟨r, k, t, n, first.before ends, tried⟩

/-- The call of a row, and what is recorded of it. -/
theorem Tries.call {p : Run α} {g : α → Run OpResult} {x : α}
    (first : Completes mutations E p i s x j s (Pi.single o.id 1))
    (next : Marks E (g x) o j s) : Tries E (p >>= g) true o i s := by
  obtain ⟨r, k, state, taskId, at', error, ends⟩ := next
  exact ⟨r, k, _, 1, first.after ends, nofun, fun _ => ⟨state, taskId, at', error, rfl⟩, fun _ =>
    ⟨Nat.le_refl 1, fun _ => rfl⟩⟩

theorem Marks.tries {p : Run OpResult} (h : Marks E p o i s) (wake : o.operation = .scheduleOriginWake) :
    Tries E p true o i s := by
  obtain ⟨r, k, state, taskId, at', error, ends⟩ := h
  refine ⟨r, k, _, 0, ?_, nofun, fun _ => ⟨state, taskId, at', error, rfl⟩, fun _ =>
    ⟨Nat.zero_le 1, fun other => absurd wake other⟩⟩
  rw [Pi.single_zero]
  exact ends

theorem tries_early (r : OpResult) : Tries E (pure r) false o i s := by
  refine ⟨r, i, s, 0, ?_, fun _ => ⟨rfl, rfl⟩, nofun, nofun⟩
  rw [Pi.single_zero]
  exact completes_pure r i s

theorem completes_mutate (m : Mutation) : Completes mutations E (mutate a o.id m) i s (E (.mutate a o.id m) i).1
    (E (.mutate a o.id m) i).2 s (Pi.single o.id 1) := completes_ask (Request.mutate a o.id m) i s

theorem completes_probe (p : Probe) : Completes mutations E (probe a o.id p) i s (E (.probe a o.id p) i).1
    (E (.probe a o.id p) i).2 s 0 := completes_ask (Request.probe a o.id p) i s

theorem completes_currentTime : Completes mutations E currentTime i s (E .now i).1 (E .now i).2 s 0 :=
  completes_ask Request.now i s

theorem completes_retryNotDue (pending : o.state = .pending) :
    Completes mutations E (retryNotDue o) i s (!dueAt E i o) (E .now i).2 s 0 := by
  have answer : (!dueAt E i o) = decide ((E .now i).1 < o.nextAttemptAt) := by
    unfold dueAt
    rw [← decide_not]
    exact decide_eq_decide.mpr Nat.not_le
  unfold retryNotDue
  rw [if_pos pending, answer]
  exact completes_currentTime.before (completes_pure _ _ _)

theorem completes_originWakeSatisfied (taskId endpoint : String) : ∃ b j,
    Completes mutations E (originWakeSatisfied a o.id taskId endpoint) i s b j s 0 := by
  unfold originWakeSatisfied
  split
  · exact ⟨_, _, completes_probe _⟩
  · exact ⟨_, _, completes_pure _ _ _⟩

/-- A pending row is left alone until it is due. -/
theorem tries_due {g : Bool → Run OpResult} (pending : o.state = .pending) {r : OpResult} (early : g true = pure r)
    (late : ∀ j, Tries E (g false) true o j s) : Tries E (retryNotDue o >>= g) (dueAt E i o) o i s := by
  have asked := @completes_retryNotDue ι E i s o pending
  refine Tries.before asked ?_
  cases dueAt E i o with
  | false =>
    rw [Bool.not_false, early]
    exact tries_early r
  | true => exact late _

theorem tries_applyMutation (pending : o.state = .pending) {op : Operation} {m : Mutation}
    (call : mutationOf op payload = some m) : Tries E (applyMutation o op payload (some a)) (dueAt E i o) o i s := by
  unfold applyMutation callMutation
  rw [if_neg (by simp [pending]), call]
  refine tries_due pending rfl fun j => Tries.call (completes_mutate m) ?_
  split
  · exact marks_mark ..
  · exact .before completes_currentTime (marks_mark ..)

theorem tries_applyScheduleOriginWake (pending : o.state = .pending) (can : a.scheduleOriginWake = true)
    (wake : o.operation = .scheduleOriginWake) :
    Tries E (applyScheduleOriginWake o payload (some a)) (dueAt E i o) o i s := by
  unfold applyScheduleOriginWake
  dsimp only
  rw [if_neg (by simp [pending]), if_neg (by simp [pending])]
  refine tries_due pending rfl fun j => ?_
  obtain ⟨seen, k, probed⟩ := @completes_originWakeSatisfied ι E j s o a (payload.text "task_id")
    (payload.text "endpoint")
  refine .before probed ?_
  cases seen with
  | true => exact Marks.tries (marks_mark ..) wake
  | false =>
    rw [if_neg Bool.false_ne_true]
    split
    · exact Marks.tries (marks_pending ..) wake
    · rw [if_neg (by simp [can])]
      refine Tries.call (completes_mutate _) ?_
      split
      · obtain ⟨seen, l, probed⟩ := @completes_originWakeSatisfied ι E
          (E (.mutate a o.id (.scheduleOriginWake (payload.text "task_id") (payload.text "endpoint"))) k).2 s o a
          (payload.text "task_id") (payload.text "endpoint")
        refine .before probed ?_
        cases seen with
        | true => exact marks_mark ..
        | false => exact marks_pending ..
      · exact marks_pending ..

theorem tries_applyRecordConsumerAck (pending : o.state = .pending) (can : a.recordConsumerAck = true) :
    Tries E (applyRecordConsumerAck o payload (some a)) (dueAt E i o) o i s := by
  unfold applyRecordConsumerAck
  dsimp only
  rw [if_neg (by simp [pending]), if_neg (by simp [pending])]
  refine tries_due pending rfl fun j => ?_
  rw [if_neg Bool.false_ne_true, if_neg (by simp [can])]
  refine Tries.call (completes_mutate _) ?_
  split
  · split
    · refine .before (completes_probe _) ?_
      split
      · exact marks_mark ..
      · exact marks_pending ..
    · exact .before (completes_pure true _ _) (marks_mark ..)
  · exact marks_pending ..

/-- The command's adapter, which has all the callback methods. -/
theorem tries_applyEnqueued (pending : o.state = .pending) (known : ∀ name, o.operation ≠ .other name)
    (wakes : a.scheduleOriginWake = true)
    (acks : a.recordConsumerAck = true) :
    Tries E (applyEnqueued o.operation o.payload (some a) o) (dueAt E i o) o i s := by
  unfold applyEnqueued
  cases op : o.operation with
  | scheduleOriginWake => exact tries_applyScheduleOriginWake pending wakes op
  | recordConsumerAck => exact tries_applyRecordConsumerAck pending acks
  | createTask => exact tries_applyMutation pending rfl
  | subscribe => exact tries_applyMutation pending rfl
  | completeOwnerAnchor => exact tries_applyMutation pending rfl
  | other name => exact absurd op (known name)

/-- A step of the instance. -/
def OwnStep (s : Store) (id step : Nat) : Prop := ∃ p, s.steps.get? step = some p ∧ p.continuationId = id

/-- What the turn of a row changes: the row, and at most the step that it was written for. -/
structure Turned (id : Nat) (o : OutboxRow) (due : Bool) (s t : Store) (n : Nat) : Prop where
  tried : ∃ u, Tried due o s u n ∧ t.outbox = u.outbox
  steps : ∀ k, t.steps.get? k = s.steps.get? k ∨ OwnStep s id k ∧ OwnStep t id k

theorem Tried.steps {due : Bool} {t : Store} {n : Nat} (h : Tried due o s t n) : t.steps = s.steps := by
  cases due with
  | false => rw [(h.waits rfl).1]
  | true =>
    obtain ⟨_, _, _, _, marked⟩ := h.marks rfl
    rw [marked]
    rfl

/-- A step of the instance is there to be marked, and the other steps are left alone. -/
theorem markStep_own {id k : Nat} {t : Store} (own : OwnStep s id k) (same : t.steps = s.steps) (taskId : String) :
    ∃ p, (t.markStep k (some .applied) taskId).1 = some p ∧
      (∀ m, (t.markStep k (some .applied) taskId).2.steps.get? m = s.steps.get? m ∨
        OwnStep s id m ∧ OwnStep (t.markStep k (some .applied) taskId).2 id m) ∧
      (t.markStep k (some .applied) taskId).2.outbox = t.outbox := by
  obtain ⟨p, there, mine⟩ := own
  have marked : (t.markStep k (some .applied) taskId).2.steps.get? k =
      some { p with state := .applied, boardTaskId := Store.coalesce taskId p.boardTaskId } := by
    unfold Store.markStep
    dsimp only
    rw [get?_modify, if_pos rfl, same, there]
    rfl
  refine ⟨_, marked, fun m => ?_, rfl⟩
  by_cases hm : m = k
  · subst hm
    exact .inr ⟨⟨p, there, mine⟩, ⟨_, marked, by exact mine⟩⟩
  · left
    unfold Store.markStep
    dsimp only
    rw [get?_modify, if_neg hm, same]

theorem run_retryRow {id : Nat} (keys : UniqueBy s.outbox OutboxRow.idempotencyKey) (mem : o ∈ s.outbox.rows)
    (pending : o.state = .pending) (known : ∀ name, o.operation ≠ .other name)
    (own : ∀ k, o.stepId = some k → OwnStep s id k) (wakes : a.scheduleOriginWake = true)
    (acks : a.recordConsumerAck = true) :
    ∃ b j t n, Completes mutations E (retryRow id a o) i s b j t (Pi.single o.id n) ∧
      Turned id o (dueAt E i o) s t n := by
  obtain ⟨r, j, t, n, ends, tried⟩ := @tries_applyEnqueued ι E i s o a pending known wakes acks
  have found : s.outboxOf o.idempotencyKey = some o := keys.find? mem
  have enqueued := outboxEnqueue_existing id (n := ⟨o.stepId, o.operation, o.payload, o.idempotencyKey⟩) found
  have applied : Completes mutations E (applyBoardOperation id
      ⟨o.stepId, o.operation, o.payload, o.idempotencyKey⟩ (some a)) i s r j t (Pi.single o.id n) := by
    have entered := completes_txn (w := mutations) (E := E)
      (fun s : Store => s.outboxEnqueue id ⟨o.stepId, o.operation, o.payload, o.idempotencyKey⟩) i s
    rw [enqueued] at entered
    exact entered.before ends
  unfold retryRow
  cases r with
  | failed error state =>
    exact ⟨false, j, t, n, applied.after (completes_pure _ _ _), ⟨t, tried, rfl⟩, fun k => .inl (by rw [tried.steps])⟩
  | ok taskId =>
    cases step : o.stepId with
    | none =>
      rw [step] at applied
      exact ⟨true, j, t, n, applied.after (completes_pure _ _ _), ⟨t, tried, rfl⟩, fun k => .inl (by rw [tried.steps])⟩
    | some k =>
      rw [step] at applied
      obtain ⟨marked, there, steps, outbox⟩ := markStep_own (own k step) tried.steps taskId
      have done := completes_txn (w := mutations) (E := E) (fun s : Store => s.markStep k (some .applied) taskId) j t
      rw [there] at done
      exact ⟨true, j, _, n, applied.after (done.before (completes_pure _ _ _)), ⟨t, tried, outbox⟩, steps⟩

/-- A row after a retry with `calls` calls for it: it has one attempt more if it was due, and is as it was otherwise. -/
structure RowExecuted (due : Bool) (o : OutboxRow) (calls : Nat) (t : Store) : Prop where
  attempt : ∃ o', t.outbox.get? o.id = some o' ∧ o'.attempts = o.attempts + due.toNat
  waits : due = false → t.outbox.get? o.id = some o
  calls : calls ≤ due.toNat ∧ (o.operation ≠ .scheduleOriginWake → calls = due.toNat)

theorem RowExecuted.congr {due : Bool} {n : Nat} {t u : Store} (h : RowExecuted due o n t)
    (same : u.outbox.get? o.id = t.outbox.get? o.id) : RowExecuted due o n u :=
  ⟨same ▸ h.attempt, fun w => same.trans (h.waits w), h.calls⟩

theorem Tried.executed {due : Bool} {t : Store} {n : Nat} (h : Tried due o s t n)
    (there : s.outbox.get? o.id = some o) :
    RowExecuted due o n t := by
  cases due with
  | false =>
    obtain ⟨same, none'⟩ := h.waits rfl
    rw [same, none']
    exact ⟨⟨o, there, rfl⟩, fun _ => there, Nat.le_refl 0, fun _ => rfl⟩
  | true =>
    obtain ⟨_, _, _, _, marked⟩ := h.marks rfl
    rw [marked]
    exact ⟨⟨_, get?_outboxMark there _ _ _ _, rfl⟩, nofun, h.calls rfl⟩

theorem Tried.others {due : Bool} {t : Store} {n : Nat} (h : Tried due o s t n) {k : Nat} (other : k ≠ o.id) :
    t.outbox.get? k = s.outbox.get? k := by
  cases due with
  | false => rw [(h.waits rfl).1]
  | true =>
    obtain ⟨_, _, _, _, marked⟩ := h.marks rfl
    rw [marked]
    unfold Store.outboxMark
    dsimp only
    rw [get?_modify, if_neg other]

theorem Tried.keys {due : Bool} {t : Store} {n : Nat} (h : Tried due o s t n)
    (keys : UniqueBy s.outbox OutboxRow.idempotencyKey) : UniqueBy t.outbox OutboxRow.idempotencyKey := by
  cases due with
  | false => rwa [(h.waits rfl).1]
  | true =>
    obtain ⟨_, _, _, _, marked⟩ := h.marks rfl
    rw [marked]
    exact UniqueBy.modify keys (by exact fun _ _ => rfl) fun _ => by rfl

theorem OwnStep.turned {id k n : Nat} {due : Bool} {t : Store} (own : OwnStep s id k) (turn : Turned id o due s t n) :
    OwnStep t id k := by
  rcases turn.steps k with same | ⟨_, still⟩
  · unfold OwnStep
    rwa [same]
  · exact still

/-- Where the environment is when a row has its turn, after the rows before it. -/
def turnStart (E : Env Response ι) (id : Nat) (a : Adapter) (before : List OutboxRow) (i : ι) (s : Store) : ι :=
  (run E (Prog.forEach (retryRow id a) before) i s).2.1

theorem turnStart_cons {id : Nat} {b : Bool} {t : Store} {c : Nat → Nat}
    (first : Completes mutations E (retryRow id a o) i s b j t c)
    (pre : List OutboxRow) : turnStart E id a (o :: pre) i s = turnStart E id a pre j t := by
  have rest : run E (Prog.forEach (retryRow id a) (o :: pre)) i s =
      run E (Prog.forEach (retryRow id a) pre >>= fun ys => .pure (b :: ys)) j t := run_bind_ok first.run
  unfold turnStart
  rw [rest, run_bind]
  split
  next same => rw [same, run_pure]
  next same => rw [same]

/-- The rows that a retry can go through in a store. -/
structure Retriable (s : Store) (id : Nat) (rows : List OutboxRow) : Prop where
  keys : UniqueBy s.outbox OutboxRow.idempotencyKey
  ids : (rows.map OutboxRow.id).Nodup
  there : ∀ o ∈ rows, s.outbox.get? o.id = some o
  pending : ∀ o ∈ rows, o.state = .pending
  known : ∀ o ∈ rows, ∀ name, o.operation ≠ .other name
  own : ∀ o ∈ rows, ∀ k, o.stepId = some k → OwnStep s id k

theorem Retriable.next {id n : Nat} {due : Bool} {t : Store} {rows : List OutboxRow} (h : Retriable s id (o :: rows))
    (turn : Turned id o due s t n) : Retriable t id rows := by
  obtain ⟨u, tried, outbox⟩ := turn.tried
  have apart := List.nodup_cons.mp h.ids
  refine ⟨by rw [outbox]; exact tried.keys h.keys, apart.2, fun o' mem => ?_, fun o' mem => h.pending o' (.tail _ mem),
    fun o' mem => h.known o' (.tail _ mem), fun o' mem k step => (h.own o' (.tail _ mem) k step).turned turn⟩
  have other : o'.id ≠ o.id := fun same => apart.1 (same ▸ List.mem_map_of_mem mem)
  rw [outbox, tried.others other]
  exact h.there o' (.tail _ mem)

/-- The loop over the pending rows. -/
theorem run_retryRows (id : Nat) (wakes : a.scheduleOriginWake = true) (acks : a.recordConsumerAck = true)
    (rows : List OutboxRow) {i : ι} {s : Store} (ready : Retriable s id rows) :
    ∃ outcomes j t c, Completes mutations E (Prog.forEach (retryRow id a) rows) i s outcomes j t c ∧
      outcomes.length = rows.length ∧
      (∀ pre o post, rows = pre ++ o :: post → RowExecuted (dueAt E (turnStart E id a pre i s) o) o (c o.id) t) ∧
      (∀ k, k ∉ rows.map OutboxRow.id → t.outbox.get? k = s.outbox.get? k ∧ c k = 0) ∧
      (∀ k, t.steps.get? k = s.steps.get? k ∨ OwnStep s id k) ∧ UniqueBy t.outbox OutboxRow.idempotencyKey := by
  induction rows generalizing i s with
  | nil => exact ⟨[], i, s, 0, completes_pure _ _ _, rfl, by simp, fun _ _ => ⟨rfl, rfl⟩, fun _ => .inl rfl, ready.keys⟩
  | cons o rows ih =>
    have head : o ∈ o :: rows := List.mem_cons_self
    have stored := (get?_eq_some.mp (ready.there o head)).1
    obtain ⟨b, j, t, n, first, turn⟩ := @run_retryRow ι E i s o a id ready.keys stored (ready.pending o head)
      (ready.known o head) (ready.own o head) wakes acks
    obtain ⟨outcomes, k, u, c, rest, length, each, others, steps, keys⟩ := @ih j t (ready.next turn)
    have apart := List.nodup_cons.mp ready.ids
    obtain ⟨v, tried, outbox⟩ := turn.tried
    have whole : Completes mutations E (Prog.forEach (retryRow id a) (o :: rows)) i s (b :: outcomes) k u
        (Pi.single o.id n + c) :=
      first.bind (rest.after (completes_pure _ _ _))
    refine ⟨b :: outcomes, k, u, _, whole, by rw [List.length_cons, length, List.length_cons], ?_, ?_, ?_, keys⟩
    · rintro pre o' post split
      cases pre with
      | nil =>
        obtain ⟨rfl, rfl⟩ := List.cons.inj split
        obtain ⟨kept, uncalled⟩ := others o.id apart.1
        have here := tried.executed (ready.there o List.mem_cons_self)
        rw [Pi.add_apply, Pi.single_eq_same, uncalled]
        exact here.congr (by rw [kept, outbox])
      | cons o'' pre =>
        obtain ⟨rfl, rfl⟩ := List.cons.inj split
        have mem : o' ∈ pre ++ o' :: post := List.mem_append_right _ List.mem_cons_self
        have other : o'.id ≠ o.id := fun same => apart.1 (same ▸ List.mem_map_of_mem mem)
        rw [turnStart_cons first, Pi.add_apply, Pi.single_eq_of_ne other, Nat.zero_add]
        exact each pre o' post rfl
    · intro m absent
      rw [List.map_cons, List.mem_cons, not_or] at absent
      obtain ⟨kept, uncalled⟩ := others m absent.2
      rw [Pi.add_apply, Pi.single_eq_of_ne absent.1, uncalled, kept, outbox, tried.others absent.1]
      exact ⟨rfl, rfl⟩
    · intro m
      rcases steps m with kept | own
      · rw [kept]
        exact (turn.steps m).imp_right And.left
      · rcases turn.steps m with same | own'
        · unfold OwnStep at own ⊢
          rw [same] at own
          exact .inr own
        · exact .inr own'.1

end

/-- A pending row as the handlers write it: one of the five operations, for a step of its instance or under the
placeholder step id `0`. -/
structure Written (s : Store) (id : Nat) (o : OutboxRow) : Prop where
  operation : ∀ name, o.operation ≠ .other name
  step : ∀ k, o.stepId = some k → k = 0 ∨ OwnStep s id k

/-- The keys a retry reports its rows under, by their outcome. -/
def reportedKeys (rows : List OutboxRow) (outcomes : List Bool) (retried : Bool) : List String :=
  (rows.zip outcomes).filterMap fun p => if p.2 = retried then some p.1.idempotencyKey else none

/-- A retry returns, has executed every row that was due at its turn once, reports every pending row once as
retried or failed, and has changed no step but those of the instance. -/
def Finishes {ι : Type} (E : Env Response ι) (id : Nat) (board : String) (i : ι) (s : Store) : Prop :=
  ∃ outcomes j t, run E (runContinuationRetry id board) i s = (.ok (.retried outcomes), j, t) ∧
    (∀ pre o post, s.pendingOf id = pre ++ o :: post →
      RowExecuted (dueAt E (turnStart E id { board := board } pre i s) o) o
        (cost mutations E (runContinuationRetry id board) i s o.id) t) ∧
    (reportedKeys (s.pendingOf id) outcomes true ++ reportedKeys (s.pendingOf id) outcomes false).Perm
      ((s.pendingOf id).map OutboxRow.idempotencyKey) ∧
    ∀ k, t.steps.get? k = s.steps.get? k ∨ OwnStep s id k

section

variable {id : Nat} {board : String} {s : Store} {inst : Instance}

theorem reportedKeys_perm {rows : List OutboxRow} {outcomes : List Bool} (same : outcomes.length = rows.length) :
    (reportedKeys rows outcomes true ++ reportedKeys rows outcomes false).Perm (rows.map OutboxRow.idempotencyKey) := by
  induction rows generalizing outcomes with
  | nil => exact .refl []
  | cons o rows ih =>
    cases outcomes with
    | nil => cases same
    | cons b outcomes =>
      have rest := ih (Nat.succ.inj same)
      cases b with
      | true => exact rest.cons o.idempotencyKey
      | false => exact List.perm_middle.trans (rest.cons o.idempotencyKey)

theorem pendingOf_ids : ((s.pendingOf id).map OutboxRow.id).Nodup := by
  have distinct : (s.outbox.rows.map OutboxRow.id).Nodup := s.outbox.sorted.imp Nat.ne_of_lt
  exact distinct.sublist (List.filter_sublist.map OutboxRow.id)

theorem mem_pendingOf {o : OutboxRow} (mem : o ∈ s.pendingOf id) :
    s.outbox.get? o.id = some o ∧ o.state = .pending := by
  obtain ⟨there, holds⟩ := List.mem_filter.mp mem
  have both := Bool.and_eq_true_iff.mp holds
  exact ⟨get?_eq_some.mpr ⟨there, rfl⟩, eq_of_beq both.2⟩

theorem ready_of_written (keys : UniqueBy s.outbox OutboxRow.idempotencyKey) {rows : List OutboxRow}
    (sub : rows.Sublist (s.pendingOf id)) (written : ∀ o ∈ rows, Written s id o)
    (real : ∀ o ∈ rows, o.stepId ≠ some 0) :
    Retriable s id rows where
  keys := keys
  ids := pendingOf_ids.sublist (sub.map OutboxRow.id)
  there o mem := (mem_pendingOf (sub.subset mem)).1
  pending o mem := (mem_pendingOf (sub.subset mem)).2
  known o mem := (written o mem).operation
  own o mem k step := by
    rcases (written o mem).step k step with rfl | own
    · exact absurd step (real o mem)
    · exact own

/-- The command of a known instance under a board of its own goes through the pending rows. -/
theorem runContinuationRetry_known {ι : Type} {E : Env Response ι} {i : ι} (there : s.getInstance id = some inst)
    (named : board ≠ "") :
    let rows := Prog.forEach (retryRow id { board := board }) (s.pendingOf id) >>= fun outcomes =>
      (Prog.pure (CommandResult.retried outcomes) : Run CommandResult)
    run E (runContinuationRetry id board) i s = run E rows i s ∧
      cost mutations E (runContinuationRetry id board) i s = cost mutations E rows i s := by
  unfold runContinuationRetry cliAdapter continuationRetry
  rw [if_neg named]
  simp only [Prog.get, Prog.read_bind, Prog.pure_bind', run_read, cost, there]
  exact ⟨rfl, rfl⟩

/-- Where every call succeeds, so does every row that is due. -/
theorem run_applyEnqueued_steady {o : OutboxRow} {now : Nat} {t : Store} (pending : o.state = .pending)
    (known : ∀ name, o.operation ≠ .other name) (due : o.nextAttemptAt ≤ now) : ∃ taskId u,
    run (steadyEnv now { success := true } true) (applyEnqueued o.operation o.payload (some { board := board }) o)
      () t = (.ok (.ok taskId), (), u) ∧ u.steps = t.steps := by
  have turn : dueAt (steadyEnv now { success := true } true) () o = true := decide_eq_true due
  have asked := (@completes_retryNotDue Unit (steadyEnv now { success := true } true) () t o pending).run
  rw [turn] at asked
  unfold applyEnqueued
  cases op : o.operation with
  | scheduleOriginWake =>
    unfold applyScheduleOriginWake
    dsimp only
    rw [if_neg (by simp [pending]), if_neg (by simp [pending]), run_bind_ok asked]
    exact ⟨_, _, rfl, rfl⟩
  | recordConsumerAck =>
    unfold applyRecordConsumerAck
    dsimp only
    rw [if_neg (by simp [pending]), if_neg (by simp [pending]), run_bind_ok asked]
    exact ⟨_, _, rfl, rfl⟩
  | other name => exact absurd op (known name)
  | _ =>
    unfold applyMutation
    dsimp only
    rw [if_neg (by simp [pending]), run_bind_ok asked]
    exact ⟨_, _, rfl, rfl⟩

/-- A row under the placeholder step id raises once its call succeeds. -/
theorem run_retryRow_placeholder {o : OutboxRow} {now : Nat} {t : Store}
    (keys : UniqueBy t.outbox OutboxRow.idempotencyKey)
    (mem : o ∈ t.outbox.rows) (pending : o.state = .pending) (known : ∀ name, o.operation ≠ .other name)
    (due : o.nextAttemptAt ≤ now) (placeholder : o.stepId = some 0) : ∃ r,
    run (steadyEnv now { success := true } true) (retryRow id { board := board } o) () t = (.error "TypeError", r) := by
  obtain ⟨taskId, u, applied, steps⟩ := @run_applyEnqueued_steady board o now t pending known due
  have found : t.outboxOf o.idempotencyKey = some o := keys.find? mem
  have enqueued := outboxEnqueue_existing id (n := ⟨o.stepId, o.operation, o.payload, o.idempotencyKey⟩) found
  have body : run (steadyEnv now { success := true } true) (applyBoardOperation id
      ⟨o.stepId, o.operation, o.payload, o.idempotencyKey⟩ (some { board := board })) () t =
        (.ok (.ok taskId), (), u) := by
    unfold applyBoardOperation
    simp only [Prog.txn, Prog.write_bind, Prog.pure_bind', run_write, enqueued]
    exact applied
  have unknown : (u.markStep 0 (some .applied) taskId).1 = none := by
    unfold Store.markStep
    dsimp only
    rw [get?_modify, if_pos rfl]
    cases there : u.steps.get? 0 with
    | none => rfl
    | some p =>
      obtain ⟨mem', zero⟩ := get?_eq_some.mp there
      exact absurd (u.steps.positive.2 p mem') (by omega)
  unfold retryRow
  rw [run_bind_ok body, placeholder]
  simp only [Prog.txn, Prog.write_bind, Prog.pure_bind', run_write, unknown, Option.isNone_none, if_true, run_raise]
  exact ⟨_, rfl⟩

/-- A retry of the rows that handlers write finishes, whatever the adapter answers, exactly when none of them has
the placeholder step id. -/
theorem retry_finishes_iff (keys : UniqueBy s.outbox OutboxRow.idempotencyKey) (there : s.getInstance id = some inst)
    (named : board ≠ "") (written : ∀ o ∈ s.pendingOf id, Written s id o) :
    (∀ (ι : Type) (E : Env Response ι) (i : ι), Finishes E id board i s) ↔ ∀ o ∈ s.pendingOf id, o.stepId ≠ some 0 := by
  constructor
  · intro finishes o mem placeholder
    have listed : ((s.pendingOf id).find? fun o => o.stepId == some 0).isSome = true :=
      List.find?_isSome.mpr ⟨o, mem, beq_iff_eq.mpr placeholder⟩
    obtain ⟨first, found⟩ := Option.isSome_iff_exists.mp listed
    obtain ⟨stands, pre, post, split, before⟩ := List.find?_eq_some_iff_append.mp found
    have sub : pre.Sublist (s.pendingOf id) := split ▸ List.sublist_append_left pre _
    have here : first ∈ s.pendingOf id := List.mem_of_find?_eq_some found
    obtain ⟨row, pending⟩ := mem_pendingOf here
    have ready : Retriable s id pre := by
      refine ready_of_written keys sub (fun o mem => written o (sub.subset mem)) fun o mem => ?_
      simpa using before o mem
    obtain ⟨outcomes, j, t, c, ends, _, _, others, _, keys'⟩ :=
      run_retryRows id (a := { board := board }) rfl rfl pre
        (E := steadyEnv first.nextAttemptAt { success := true } true) (i := ()) ready
    have apart : first.id ∉ pre.map OutboxRow.id := by
      have distinct := @pendingOf_ids id s
      rw [split, List.map_append, List.nodup_append] at distinct
      intro mem'
      exact distinct.2.2 _ mem' _ List.mem_cons_self rfl
    have still : first ∈ t.outbox.rows := (get?_eq_some.mp ((others _ apart).1.trans row)).1
    obtain ⟨r, stops⟩ := @run_retryRow_placeholder id board first first.nextAttemptAt t keys' still pending
      (written first here).operation (Nat.le_refl _) (eq_of_beq stands)
    obtain ⟨_, _, _, finished, _⟩ := finishes Unit (steadyEnv first.nextAttemptAt { success := true } true) ()
    have loop := run_forEach_raise pre post ends.run stops
    rw [(runContinuationRetry_known there named).1, split, run_bind, loop] at finished
    cases finished
  · intro real ι E i
    obtain ⟨outcomes, j, t, c, ends, length, each, _, steps, _⟩ :=
      run_retryRows id (a := { board := board }) rfl rfl (s.pendingOf id) (E := E) (i := i)
        (ready_of_written keys (List.Sublist.refl _) written real)
    obtain ⟨same, spent⟩ := @runContinuationRetry_known id board s inst ι E i there named
    have whole : Completes mutations E (Prog.forEach (retryRow id { board := board }) (s.pendingOf id) >>=
        fun outcomes => (Prog.pure (CommandResult.retried outcomes) : Run CommandResult)) i s (.retried outcomes) j t c :=
      ends.after (completes_pure _ _ _)
    refine ⟨outcomes, j, t, same.trans whole.run, fun pre o post split => ?_, reportedKeys_perm length, steps⟩
    rw [spent, whole.cost]
    exact each pre o post split

end

section Samples

/-- An instance on a board with a step, and one pending row. -/
def retryStore (row : Store.NewOutbox) : Store :=
  let created := (Store.empty.createInstance ⟨"b", "t", "e", "", "", "", "CODE_FIX", "", "", ""⟩).2
  ((created.addStep 1 .codeFix "fix" "" none).2.outboxEnqueue 1 row).2

variable {row : Store.NewOutbox}

theorem retryStore_rows : (retryStore row).outbox.rows = [row.row 1 1] := rfl

theorem retryStore_pending : (retryStore row).pendingOf 1 = [row.row 1 1] := rfl

theorem retryStore_keys : UniqueBy (retryStore row).outbox OutboxRow.idempotencyKey := by
  simp [UniqueBy, retryStore_rows]

theorem retryStore_instance : ((retryStore row).getInstance 1).isSome = true := rfl

def fixRow : Store.NewOutbox := ⟨some 1, .createTask, [("title", .str "fix")], "code_fix"⟩

theorem fixRow_written : ∀ o ∈ (retryStore fixRow).pendingOf 1, Written (retryStore fixRow) 1 o := by
  intro o mem
  rw [retryStore_pending] at mem
  obtain rfl := List.mem_singleton.mp mem
  refine ⟨fun name other => (by cases other), fun k step => .inr ?_⟩
  have one : some 1 = some k := step
  obtain rfl := Option.some.inj one
  exact ⟨_, rfl, rfl⟩

theorem fixRow_retried : Finishes (steadyEnv 0 { success := true } true) 1 "b" () (retryStore fixRow) := by
  obtain ⟨inst, there⟩ := Option.isSome_iff_exists.mp (@retryStore_instance fixRow)
  refine (retry_finishes_iff retryStore_keys there (by decide) fixRow_written).mpr ?_ Unit _ ()
  intro o mem
  rw [retryStore_pending] at mem
  obtain rfl := List.mem_singleton.mp mem
  decide

def returnEdgeRow : Store.NewOutbox :=
  ⟨some 0, .subscribe, [("task_id", .str "t"), ("endpoint", .str "e")], "code_fix_subscribe"⟩

theorem returnEdgeRow_written : ∀ o ∈ (retryStore returnEdgeRow).pendingOf 1,
    Written (retryStore returnEdgeRow) 1 o := by
  intro o mem
  rw [retryStore_pending] at mem
  obtain rfl := List.mem_singleton.mp mem
  refine ⟨fun name other => (by cases other), fun k step => .inl ?_⟩
  have zero : some 0 = some k := step
  exact (Option.some.inj zero).symm

/-- The return edge of a code fix that is still pending is subscribed, and the retry raises. -/
theorem return_edge_retry_raises :
    ¬∀ (s : Store) (id : Nat) (board : String) (inst : Instance), UniqueBy s.outbox OutboxRow.idempotencyKey →
      s.getInstance id = some inst → board ≠ "" → (∀ o ∈ s.pendingOf id, Written s id o) →
      ∀ (E : Env Response Unit), Finishes E id board () s := by
  intro finishes
  obtain ⟨inst, there⟩ := Option.isSome_iff_exists.mp (@retryStore_instance returnEdgeRow)
  obtain ⟨_, _, _, finished, _⟩ := finishes (retryStore returnEdgeRow) 1 "b" inst retryStore_keys there (by decide)
    returnEdgeRow_written (steadyEnv 0 { success := true } true)
  have raised : (run (steadyEnv 0 { success := true } true) (runContinuationRetry 1 "b") ()
    (retryStore returnEdgeRow)).1 =
      .error "TypeError" := rfl
  rw [finished] at raised
  cases raised

end Samples

end AgentflowHermes
