import AgentflowHermes.RefusalWakes

namespace AgentflowHermes

open CrashProgram RowTable SemanticRefusalHandler

/-- Facts that neither an attempt outcome nor the wakes of the tally bear on. -/
structure Framed (G : Tally → Store → Prop) : Prop where
  mark : ∀ {n s}, G n s → ∀ id state taskId next error, G n (s.outboxMark id state taskId next error).2
  wakes : ∀ {n s}, G n s → ∀ wakes, G { n with wakes := wakes } s

/-- Wakes are scheduled once each, and `G` holds. -/
def Once (G : Tally → Store → Prop) (n : Tally) (s : Store) : Prop := OnceEach n s ∧ G n s

/-- The row has been scheduled, and the outcome is not written yet. -/
def Called (G : Tally → Store → Prop) (id : Nat) (n : Tally) (s : Store) : Prop := OnceCalled id n s ∧ G n s

/-- A wake row is about to be worked on: as long as it is open and unmarked it was not scheduled. -/
structure Ready (G : Tally → Store → Prop) (row : OutboxRow) (n : Tally) (s : Store) : Prop where
  once : OnceEach n s
  frame : G n s
  wake : WakeRow row.id s
  unscheduled : row.state ≠ .applied → ¬row.waked → n.wakes row.id = 0

/-- A fact about the tally and the store, next to an environment. -/
abbrev On {ι : Type} (P : Tally → Store → Prop) (i : ι × Tally) (s : Store) : Prop := P i.2 s

section

variable {ι : Type} {E : Env Response ι} {G P : Tally → Store → Prop} {X : ι × Tally → Store → Prop} {row : OutboxRow}
  {id : Nat} {a : Adapter} {taskId endpoint : String} {n : Tally} {s : Store}

theorem Ready.called (h : Ready G row n s) : Called G row.id n s := ⟨h.once.called h.wake, h.frame⟩

/-- A request that is not counted. -/
theorem triple_quiet {q : Request} (quiet : ∀ n r, Tally.record n q r = n) :
    Triple (tallied E) (On P) (.call q .pure) (fun _ => On P) X := by
  refine triple_call (R := fun _ => On P) (fun i s h => ?_) fun _ => triple_pure fun _ _ h => h
  show P (i.2.record q _) s
  rw [quiet]
  exact h

theorem triple_currentTime : Triple (tallied E) (On P) currentTime (fun _ => On P) X := triple_quiet fun _ _ => rfl

theorem triple_probe {p : Probe} : Triple (tallied E) (On P) (probe a id p) (fun _ => On P) X := triple_quiet fun _ _ => rfl

theorem triple_originWakeSatisfied :
    Triple (tallied E) (On P) (originWakeSatisfied a id taskId endpoint) (fun _ => On P) X := by
  unfold originWakeSatisfied
  exact triple_ite (fun _ => triple_probe) fun _ => triple_return _

theorem triple_mark {P : ι × Tally → Store → Prop} {state : OutboxState} {next : Option Nat} {error : Option String}
    {Q : Unit → ι × Tally → Store → Prop} (h : ∀ i s, P i s → Q () i (s.outboxMark id state taskId next error).2) :
    Triple (tallied E) P (mark id state taskId next error) Q X :=
  triple_write h fun _ => triple_pure fun _ _ hq => hq

/-- An outcome that remembers the call. -/
theorem triple_settle (frame : Framed G) {state : OutboxState} {next : Option Nat} {error : Option String}
    (settles : state = .applied ∨ error = some "origin_wake_not_yet_accepted") :
    Triple (tallied E) (On (Called G id)) (mark id state taskId next error) (fun _ => On (Once G)) X :=
  triple_mark fun _ _ h => ⟨h.1.settle taskId next settles, frame.mark h.2 ..⟩

/-- Any outcome of a row that was not scheduled. -/
theorem triple_unscheduled (frame : Framed G) {state : OutboxState} {next : Option Nat} {error : Option String} :
    Triple (tallied E) (On fun n s => Once G n s ∧ n.wakes id = 0) (mark id state taskId next error)
      (fun _ => On (Once G)) X :=
  triple_mark fun _ _ h => ⟨h.1.1.mark h.2 .., frame.mark h.1.2 ..⟩

theorem triple_rememberWake (frame : Framed G) : Triple (tallied E) (On (Called G row.id))
    (markWakePending row "origin_wake_not_yet_accepted") (fun _ => On (Once G)) X :=
  triple_bind triple_currentTime fun _ => triple_settle frame (.inr rfl)

theorem triple_markWakePending (frame : Framed G) {error : String} :
    Triple (tallied E) (On fun n s => Once G n s ∧ n.wakes row.id = 0) (markWakePending row error)
      (fun _ => On (Once G)) X :=
  triple_bind triple_currentTime fun _ => triple_unscheduled frame

/-- A call that schedules the wake; it counts only when it succeeds. -/
theorem triple_scheduleOriginWake (free : ∀ {n s}, G n s → ∀ wakes, G { n with wakes := wakes } s) (opened : row.state ≠ .applied) (unmarked : ¬row.waked) :
    Triple (tallied E) (On (Ready G row)) (mutate a row.id (.scheduleOriginWake taskId endpoint))
      (fun r => On fun n s => if r.success then Called G row.id n s else Once G n s ∧ n.wakes row.id = 0) X := by
  refine triple_call
    (R := fun r : AdapterResult => On fun n s => if r.success then Called G row.id n s else Once G n s ∧ n.wakes row.id = 0)
    (fun i s h => ?_) fun _ => triple_pure fun _ _ h => h
  have zero := h.unscheduled opened unmarked
  unfold On tallied Tally.record
  dsimp only
  split
  next =>
    refine ⟨⟨h.once.filed, fun other apart => ?_, ?_, h.wake⟩, free h.frame _⟩
    · simp only [if_neg apart]
      exact h.once.once other
    · simp only [if_true, zero]
      exact Nat.le_refl 1
  next => exact ⟨⟨h.once, h.frame⟩, zero⟩

theorem triple_executeWake (frame : Framed G) : Triple (tallied E) (On (Ready G row)) (executeWake a row taskId endpoint)
    (fun _ => On (Once G)) X := by
  have stop : ∀ r : OpResult, Triple (tallied E) (On (Ready G row)) (pure r) (fun _ => On (Once G)) X :=
    fun r => triple_pure fun _ _ h => ⟨h.once, h.frame⟩
  have remember : ∀ r : OpResult, Triple (tallied E) (On (Called G row.id))
      (markWakePending row "origin_wake_not_yet_accepted" >>= fun _ => pure r) (fun _ => On (Once G)) X :=
    fun r => triple_bind (triple_rememberWake frame) fun _ => triple_return r
  have deliver : ∀ r : OpResult, Triple (tallied E) (On (Called G row.id))
      (mark row.id .applied "" none none >>= fun _ => pure r) (fun _ => On (Once G)) X :=
    fun r => triple_bind (triple_settle frame (.inl rfl)) fun _ => triple_return r
  unfold executeWake
  refine triple_ite (fun _ => ?_) fun opened => ?_
  · refine triple_bind triple_originWakeSatisfied fun b => triple_ite (fun _ => stop _) fun _ => ?_
    exact (remember _).of_imp fun _ _ h => h.called
  · refine triple_bind triple_originWakeSatisfied fun b => triple_ite (fun _ => ?_) fun _ => ?_
    · exact (deliver _).of_imp fun _ _ h => h.called
    · refine triple_bind triple_currentTime fun now => triple_ite (fun _ => stop _) fun _ => ?_
      refine triple_ite (fun _ => ?_) fun unmarked => ?_
      · exact (remember _).of_imp fun _ _ h => h.called
      · refine triple_ite (fun _ => stop _) fun _ => ?_
        refine triple_bind (triple_scheduleOriginWake frame.wakes opened unmarked) fun r => triple_ite (fun failed => ?_) fun done => ?_
        · have failed : r.success = false := by simpa using failed
          simp only [failed, Bool.false_eq_true, if_false]
          exact triple_bind (triple_markWakePending frame) fun _ => triple_return _
        · have done : r.success = true := by simpa using done
          simp only [done, if_true]
          refine triple_bind triple_originWakeSatisfied fun b => triple_ite (fun _ => deliver _) fun _ => remember _

/-- The row of the wake is ready: it is filed as one, and an open unmarked row was never scheduled. -/
theorem OnceEach.ready (h : OnceEach n s) (frame : G n s) (hrow : row ∈ s.outbox.rows)
    (wake : row.operation = .scheduleOriginWake) : Ready G row n s :=
  ⟨h, frame, ⟨row, hrow, rfl, wake⟩, fun opened unmarked => h.unscheduled hrow (.inr ⟨opened, unmarked⟩)⟩

/-- An attempt for a row that is no wake. -/
theorem triple_markOutboxPending (frame : Framed G) {error : String} :
    Triple (tallied E) (On fun n s => Once G n s ∧ n.wakes row.id = 0) (markOutboxPending row error)
      (fun _ => On (Once G)) X := by
  unfold markOutboxPending
  refine triple_ite (fun _ => ?_) fun _ => ?_
  · exact triple_bind (triple_unscheduled frame) fun _ => triple_return _
  · exact triple_bind triple_currentTime fun _ => triple_bind (triple_unscheduled frame) fun _ => triple_return _

theorem triple_retryNotDue : Triple (tallied E) (On P) (retryNotDue row) (fun _ => On P) X := by
  unfold retryNotDue
  exact triple_ite (fun _ => triple_bind triple_currentTime fun _ => triple_return _)
    fun _ => triple_return _

theorem triple_applyRecordConsumerAck (frame : Framed G) {payload : Payload} :
    Triple (tallied E) (On fun n s => Once G n s ∧ n.wakes row.id = 0) (applyRecordConsumerAck row payload (some a))
      (fun _ => On (Once G)) X := by
  have stop : ∀ r : OpResult, Triple (tallied E) (On fun n s => Once G n s ∧ n.wakes row.id = 0) (pure r)
      (fun _ => On (Once G)) X := fun r => triple_pure fun i s h => h.1
  have fail : ∀ error (result : OutboxState → OpResult), Triple (tallied E) (On fun n s => Once G n s ∧ n.wakes row.id = 0)
      (markOutboxPending row error >>= fun state => pure (result state)) (fun _ => On (Once G)) X :=
    fun error result => triple_bind (triple_markOutboxPending frame) fun _ => triple_return _
  have deliver : ∀ r : OpResult, Triple (tallied E) (On fun n s => Once G n s ∧ n.wakes row.id = 0)
      (mark row.id .applied "" none none >>= fun _ => pure r) (fun _ => On (Once G)) X :=
    fun r => triple_bind (triple_unscheduled frame) fun _ => triple_return r
  unfold applyRecordConsumerAck
  dsimp only
  refine triple_ite (fun _ => stop _) fun _ => triple_ite (fun _ => ?_) fun _ => ?_
  · refine triple_ite (fun _ => ?_) fun _ => fail _ _
    exact triple_bind triple_probe fun b => triple_ite (fun _ => stop _) fun _ => fail _ _
  · refine triple_bind triple_retryNotDue fun early => triple_ite (fun _ => stop _) fun _ => ?_
    refine triple_ite (fun _ => stop _) fun _ => triple_bind (triple_quiet fun _ _ => rfl) fun r => ?_
    refine triple_ite (fun _ => ?_) fun _ => fail _ _
    refine triple_ite (fun _ => triple_bind triple_probe ?_) fun _ => triple_bind (triple_return true) ?_
    · exact fun b => triple_ite (fun _ => deliver _) fun _ => fail _ _
    · exact fun b => triple_ite (fun _ => deliver _) fun _ => fail _ _

end

/-- What an attempt on one row makes of a fact about the store. -/
structure Attempted (id : Nat) (H H' : Store → Prop) : Prop where
  mark : ∀ {s}, H s → ∀ state taskId next error, H' (s.outboxMark id state taskId next error).2
  step : ∀ {s}, H' s → ∀ step taskId, H' (s.markStep step (some .applied) taskId).2

/-- A row with its result: it was not scheduled, or the outcome will remember that it was. -/
def Reported (H : Store → Prop) (id : Nat) (r : AdapterResult) (n : Tally) (s : Store) : Prop :=
  H s ∧ (OnceEach n s ∧ n.wakes id = 0 ∨ OnceCalled id n s ∧ (r.success ∨ r.error = "origin_wake_not_yet_accepted"))

section

variable {ι : Type} {E : Env Response ι} {H H' : Store → Prop} {X : ι × Tally → Store → Prop} {row : OutboxRow}
  {id : Nat} {a : Adapter} {n : Tally} {s : Store} {r : AdapterResult}

theorem Reported.settled (h : Reported H id r n s) {state : OutboxState} (taskId : String) (next : Option Nat)
    {error : Option String} (remembers : r.success ∨ r.error = "origin_wake_not_yet_accepted" →
      state = .applied ∨ error = some "origin_wake_not_yet_accepted") :
    OnceEach n (s.outboxMark id state taskId next error).2 := by
  rcases h.2 with ⟨once, zero⟩ | ⟨called, remembered⟩
  · exact once.mark zero ..
  · exact called.settle taskId next (remembers remembered)

theorem triple_reconcileMarkPending (att : Attempted row.id H H') (failed : ¬r.success) :
    Triple (tallied E) (On (Reported H row.id r)) (reconcileMarkPending row (clip (orText r.error "adapter_error")))
      (fun _ => On (Once fun _ => H')) X := by
  have remembers : r.success ∨ r.error = "origin_wake_not_yet_accepted" →
      some (clip (clip (orText r.error "adapter_error"))) = some "origin_wake_not_yet_accepted" := by
    intro remembered
    rw [remembered.resolve_left failed]
    decide +kernel
  have settle : ∀ state next, Triple (tallied E) (On (Reported H row.id r))
      (mark row.id state "" next (some (clip (clip (orText r.error "adapter_error"))))) (fun _ => On (Once fun _ => H')) X :=
    fun state next => triple_mark fun _ _ h => ⟨h.settled "" next fun m => .inr (remembers m), att.mark h.1 ..⟩
  unfold reconcileMarkPending
  refine triple_ite (fun _ => settle _ _) fun _ => ?_
  exact triple_bind triple_currentTime fun _ => settle _ _

theorem triple_markStepApplied (att : Attempted id H H') {step : Nat} {taskId : String} :
    Triple (tallied E) (On (Once fun _ => H')) (markStepApplied step taskId) (fun _ => On (Once fun _ => H')) X :=
  triple_write (fun _ _ h => ⟨h.1.frame rfl, att.step h.2 step taskId⟩) fun _ => triple_return _

theorem triple_reconcileWake (raised : ∀ i s, OnceEach i.2 s → H s → X i s) (opened : row.state ≠ .applied) :
    Triple (tallied E) (On (Ready (fun _ => H) row)) (reconcileWake a row) (fun r => On (Reported H row.id r)) X := by
  have called : ∀ {i : ι × Tally} {s} {r : AdapterResult}, Called (fun _ => H) row.id i.2 s →
      (r.success ∨ r.error = "origin_wake_not_yet_accepted") → Reported H row.id r i.2 s :=
    fun h remembered => ⟨h.2, .inr ⟨h.1, remembered⟩⟩
  unfold reconcileWake
  dsimp only
  refine triple_bind triple_originWakeSatisfied fun b => triple_ite (fun _ => ?_) fun _ => ?_
  · exact triple_pure fun _ _ h => called h.called (.inl rfl)
  · refine triple_ite (fun _ => triple_pure fun _ _ h => called h.called (.inr rfl)) fun unmarked => ?_
    refine triple_ite (fun _ => triple_raise fun i s h => raised i s h.once h.frame) fun _ => ?_
    refine triple_bind (triple_scheduleOriginWake (fun h _ => h) opened unmarked) fun r => triple_ite (fun done => ?_) fun failed => ?_
    · simp only [done, if_true]
      refine triple_bind triple_originWakeSatisfied fun b => triple_ite (fun _ => ?_) fun _ => ?_
      · exact triple_pure fun _ _ h => called h (.inl done)
      · exact triple_pure fun _ _ h => called h (.inr rfl)
    · simp only [failed]
      exact triple_pure fun _ _ h => ⟨h.1.2, .inl ⟨h.1.1, h.2⟩⟩

theorem triple_reconcileAck : Triple (tallied E) (On fun n s => Once (fun _ => H) n s ∧ n.wakes row.id = 0)
    (reconcileAck a row) (fun r => On (Reported H row.id r)) X := by
  have stop : ∀ r : AdapterResult, Triple (tallied E) (On fun n s => Once (fun _ => H) n s ∧ n.wakes row.id = 0) (pure r)
      (fun r => On (Reported H row.id r)) X := fun r => triple_pure fun _ _ h => ⟨h.1.2, .inl ⟨h.1.1, h.2⟩⟩
  have record : ∀ m : Mutation, (∀ n r, Tally.record n (.mutate a row.id m) r = n) → ∀ k : AdapterResult → Run AdapterResult,
      (∀ r, Triple (tallied E) (On fun n s => Once (fun _ => H) n s ∧ n.wakes row.id = 0) (k r)
        (fun r => On (Reported H row.id r)) X) →
      Triple (tallied E) (On fun n s => Once (fun _ => H) n s ∧ n.wakes row.id = 0) (mutate a row.id m >>= k)
        (fun r => On (Reported H row.id r)) X := fun m quiet k next => triple_bind (triple_quiet quiet) next
  unfold reconcileAck
  dsimp only
  refine triple_ite (fun _ => ?_) fun _ => triple_ite (fun _ => ?_) fun _ => stop _
  · refine triple_bind triple_probe fun b => triple_ite (fun _ => stop _) fun _ => triple_ite (fun _ => stop _) fun _ => ?_
    refine record _ (fun _ _ => rfl) _ fun r => triple_ite (fun _ => ?_) fun _ => stop _
    exact triple_bind triple_probe fun b => triple_ite (fun _ => stop _) fun _ => stop _
  · exact record _ (fun _ _ => rfl) pure stop

/-- An operation without a callback protocol schedules nothing. -/
theorem triple_callMutation {op : Operation} {payload : Payload} :
    Triple (tallied E) (On fun n s => Once (fun _ => H) n s ∧ n.wakes row.id = 0) (callMutation a row.id op payload)
      (fun r => On (Reported H row.id r)) X := by
  have asked : ∀ m, mutationOf op payload = some m → ∀ n r, (Tally.record n (.mutate a row.id m) r).wakes = n.wakes := by
    intro m hm n r
    unfold mutationOf at hm
    split at hm
    · obtain rfl := Option.some.inj hm
      rfl
    · obtain rfl := Option.some.inj hm
      rfl
    · obtain rfl := Option.some.inj hm
      rfl
    · cases hm
  unfold callMutation
  split
  next m hm =>
    refine triple_call (R := fun r => On (Reported H row.id r)) (fun i s h => ?_) fun _ => triple_pure fun _ _ h => h
    have same := asked m hm i.2 (E (.mutate a row.id m) i.1).1
    refine ⟨h.1.2, .inl ⟨⟨h.1.1.filed, ?_⟩, ?_⟩⟩
    · show ∀ id, ScheduledOnce ((Tally.record i.2 _ _).wakes id) id s
      rw [same]
      exact h.1.1.once
    · show (Tally.record i.2 _ _).wakes row.id = 0
      rw [same]
      exact h.2
  next => exact triple_pure fun _ _ h => ⟨h.1.2, .inl ⟨h.1.1, h.2⟩⟩

theorem triple_reconcileRow (att : Attempted row.id H H') (raised : ∀ i s, OnceEach i.2 s → H s → X i s)
    (pending : row.state = .pending) :
    Triple (tallied E) (On fun n s => Once (fun _ => H) n s ∧ row ∈ s.outbox.rows) (reconcileRow a row)
      (fun _ => On (Once fun _ => H')) X := by
  have opened : row.state ≠ .applied := by rw [pending]; simp
  have plain : row.operation ≠ .scheduleOriginWake → ∀ (i : ι × Tally) s,
      Once (fun _ => H) i.2 s ∧ row ∈ s.outbox.rows → Once (fun _ => H) i.2 s ∧ i.2.wakes row.id = 0 :=
    fun other i s h => ⟨h.1, h.1.1.unscheduled h.2 (.inl other)⟩
  have call : Triple (tallied E) (On fun n s => Once (fun _ => H) n s ∧ row ∈ s.outbox.rows) (reconcileCall a row)
      (fun r => On (Reported H row.id r)) X := by
    unfold reconcileCall
    split
    next wake => exact (triple_reconcileWake raised opened).of_imp fun _ _ h => h.1.1.ready h.1.2 h.2 wake
    next ack => exact triple_reconcileAck.of_imp (plain (by rw [ack]; simp))
    next op other _ => exact triple_callMutation.of_imp (plain other)
  refine triple_bind call fun r => triple_ite (fun done => ?_) fun failed => ?_
  · have applied : Triple (tallied E) (On (Reported H row.id r)) (mark row.id .applied r.taskId none none)
        (fun _ => On (Once fun _ => H')) X :=
      triple_mark fun _ _ h => ⟨h.settled r.taskId none fun _ => .inl rfl, att.mark h.1 ..⟩
    refine triple_bind applied fun _ => ?_
    split
    · exact triple_bind (triple_markStepApplied att) fun _ => triple_return _
    · exact triple_bind (triple_return _) fun _ => triple_return _
  · exact triple_bind (triple_reconcileMarkPending att failed) fun _ => triple_return _

/-- A pass schedules every wake at most once, however it ends. -/
theorem triple_reconcileOutbox (boards : String → Option Adapter)
    (marks : ∀ {s}, H s → ∀ id state taskId next error, H (s.outboxMark id state taskId next error).2)
    (steps : ∀ {s}, H s → ∀ step taskId, H (s.markStep step (some .applied) taskId).2) :
    Triple (tallied E) (On (Once fun _ => H)) (reconcileOutbox boards) (fun _ => On (Once fun _ => H)) (On (Once fun _ => H)) := by
  let left : List (OutboxRow × String) → Store → Prop := fun items s => H s ∧ Snapshot items s
  have item : ∀ x xs, Triple (tallied E) (On (Once fun _ => left (x :: xs))) (reconcileItem boards x)
      (fun _ => On (Once fun _ => left xs)) (On (Once fun _ => H)) := by
    intro x xs
    have att : Attempted x.1.id (left (x :: xs)) (left xs) := {
      mark := fun h state taskId next error => ⟨marks h.1 .., h.2.mark ..⟩
      step := fun h step taskId => ⟨steps h.1 .., h.2.rows, h.2.distinct⟩ }
    have first : ∀ s, left (x :: xs) s → x.1 ∈ s.outbox.rows ∧ x.1.state = .pending := fun s h => h.2.rows x (by simp)
    unfold reconcileItem
    split
    next => exact triple_pure fun _ _ h => ⟨h.1, h.2.1, h.2.2.tail⟩
    next a _ =>
      refine ⟨fun i s h => ?_⟩
      have row := triple_bind (triple_reconcileRow (E := E) (X := On (Once fun _ => H)) (a := a) att
        (fun _ _ once h => ⟨once, h.1⟩) (first s h.2).2)
        fun b => triple_return (some b)
      exact row.ends i s ⟨h, (first s h.2).1⟩
  have loop : ∀ items, Triple (tallied E) (On (Once fun _ => left items)) (Prog.forEach (reconcileItem boards) items)
      (fun _ => On (Once fun _ => left [])) (On (Once fun _ => H)) :=
    fun _ => triple_forEach (I := fun items => On (Once fun _ => left items)) item
  refine triple_bind triple_currentTime fun now => triple_get fun s => ?_
  refine triple_bind ((loop (dueRows now s)).of_imp fun i t h => ?_) fun _ => triple_pure fun _ _ h => ⟨h.1, h.2.1⟩
  obtain ⟨⟨once, frame⟩, rfl⟩ := h
  exact ⟨once, frame, snapshot_dueRows t now⟩

end

end AgentflowHermes
