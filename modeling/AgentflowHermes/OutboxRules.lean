import AgentflowHermes.CallbackRules

namespace AgentflowHermes

open CrashProgram RowTable

variable {K : Terms} {s : Store} {row : OutboxRow}

/-- A result the adapter may give for the mutation of an operation; an unknown operation fails. -/
def Answers (K : Terms) (a : Adapter) (id : Nat) (op : Operation) (payload : Payload) (r : AdapterResult) : Prop :=
  (∀ m, mutationOf op payload = some m → K.ok (.mutate a id m) r) ∧ (mutationOf op payload = none → r.success = false)

theorem wp_callMutation {a : Adapter} {op : Operation} {payload : Payload} {Q : AdapterResult → Store → Prop}
    (inv : K.inv s) (may : ∀ q, q.about a row.id → K.may q s) (h : ∀ r, Answers K a row.id op payload r → Q r s) :
    wp K (callMutation a row.id op payload) Q s := by
  unfold callMutation
  split
  next m hm =>
    refine wp_mutate inv (may _ ⟨rfl, rfl⟩) fun r hr => h r ⟨fun m' hm' => ?_, fun none' => ?_⟩
    · obtain rfl : m = m' := Option.some.inj (hm.symm.trans hm')
      exact hr
    · rw [hm] at none'
      cases none'
  next hm =>
    refine ⟨inv, h _ ⟨fun m hm' => ?_, fun _ => rfl⟩⟩
    rw [hm] at hm'
    cases hm'

/-- What the executor of the operations without a callback protocol needs. -/
structure MutationTerms (K : Terms) (s : Store) (row : OutboxRow) (op : Operation) (payload : Payload)
    (adapter : Option Adapter) (Q : OpResult → Store → Prop) : Prop where
  inv : K.inv s
  now : K.may .now s
  applied : row.state = .applied → Q (.ok row.boardTaskId) s
  early : ∀ t, K.ok .now t → row.state = .pending → t < row.nextAttemptAt → ∀ error, Q (.failed error none) s
  absent : adapter = none → row.state ≠ .applied → ∀ error, Q (.failed error none) s
  may : row.state ≠ .applied → ∀ a, adapter = some a → ∀ q, q.about a row.id → K.may q s
  done : row.state ≠ .applied → ∀ a, adapter = some a → ∀ r, Answers K a row.id op payload r → r.success →
    hasFailedNestedAck r = false → Commits K s (markedApplied s row r.taskId) (Q (.ok r.taskId))
  failed : row.state ≠ .applied → ∀ a, adapter = some a → ∀ r, Answers K a row.id op payload r →
    ¬(r.success ∧ hasFailedNestedAck r = false) → ∀ next error,
      Commits K s (markedPending s row next error) (Q (.failed error none))

theorem wp_applyMutation {op : Operation} {payload : Payload} {adapter : Option Adapter}
    {Q : OpResult → Store → Prop} (h : MutationTerms K s row op payload adapter Q) :
    wp K (applyMutation row op payload adapter) Q s := by
  unfold applyMutation
  split
  next ha => exact ⟨h.inv, h.applied ha⟩
  next ha =>
    refine wp_bind.mpr (wp_retryNotDue h.inv h.now ?_ fun t ht hp hlt => ⟨h.inv, h.early t ht hp hlt _⟩)
    cases adapter with
    | none => exact ⟨h.inv, h.absent rfl ha _⟩
    | some a =>
      refine wp_bind.mpr (wp_callMutation h.inv (h.may ha a rfl) fun r hr => ?_)
      split
      next hok =>
        obtain ⟨hs, hn⟩ := hok
        have done := h.done ha a rfl r hr hs (by simpa using hn)
        exact wp_bind.mpr (wp_mark h.inv (done.mono fun u hu hq => ⟨hu, hq⟩))
      next hok =>
        have failed := h.failed ha a rfl r hr fun hboth => hok ⟨hboth.1, by simp [hboth.2]⟩
        refine wp_bind.mpr (wp_currentTime h.inv h.now fun now _ => wp_bind.mpr (wp_mark h.inv ?_))
        exact (failed _ _).mono fun u hu hq => ⟨hu, hq⟩

/-- The row `apply_board_operation` works on, and the store with it. -/
theorem wp_applyBoardOperation {id : Nat} {n : Store.NewOutbox} {adapter : Option Adapter}
    {Q : OpResult → Store → Prop} (inv : K.inv s)
    (h : Commits K s (s.outboxEnqueue id n).2
      (wp K (applyEnqueued n.operation n.payload adapter (s.outboxEnqueue id n).1.2) Q)) :
    wp K (applyBoardOperation id n adapter) Q s := wp_bind.mpr ⟨inv, h⟩

theorem wp_reconcileMarkPending {error : String} {Q : Store → Prop} (inv : K.inv s) (now : K.may .now s)
    (h : FailureCommits K s row Q) : wp K (reconcileMarkPending row error) (fun _ => Q) s := by
  unfold reconcileMarkPending
  split
  next hc => exact wp_mark inv (h.1 _ hc.1 hc.2)
  next hc =>
    have below : callbackOnly row.operation → row.attempts + 1 < callbackRetryCap := fun hop => by
      by_contra hge
      exact hc ⟨hop, by omega⟩
    exact wp_bind.mpr (wp_currentTime inv now fun t _ => wp_mark inv (h.2 _ _ below))

theorem wp_reconcileWake {a : Adapter} {Q : AdapterResult → Store → Prop} (inv : K.inv s)
    (may : ∀ q, q.about a row.id → K.may q s) (raises : K.raises "AttributeError") (h : ∀ r, Q r s) :
    wp K (reconcileWake a row) Q s := by
  have stop : ∀ r, wp K (pure r) Q s := fun r => ⟨inv, h r⟩
  refine wp_bind.mpr (wp_originWakeSatisfied inv may fun b => ?_)
  split
  · exact stop _
  · split
    · exact stop _
    · split
      · exact ⟨inv, raises⟩
      · refine wp_bind.mpr (wp_mutate inv (may _ ⟨rfl, rfl⟩) fun r _ => ?_)
        split
        · refine wp_bind.mpr (wp_originWakeSatisfied inv may fun b => ?_)
          split <;> exact stop _
        · exact stop _

theorem wp_reconcileAck {a : Adapter} {Q : AdapterResult → Store → Prop} (inv : K.inv s)
    (may : ∀ q, q.about a row.id → K.may q s) (h : ∀ r, Q r s) : wp K (reconcileAck a row) Q s := by
  have stop : ∀ r, wp K (pure r) Q s := fun r => ⟨inv, h r⟩
  unfold reconcileAck
  dsimp only
  split
  · refine wp_bind.mpr (wp_consumerAckSatisfied inv may fun b => ?_)
    split
    · exact stop _
    · split
      · exact stop _
      · refine wp_bind.mpr (wp_mutate inv (may _ ⟨rfl, rfl⟩) fun r _ => ?_)
        split
        · refine wp_bind.mpr (wp_consumerAckSatisfied inv may fun b => ?_)
          split <;> exact stop _
        · exact stop _
  · split
    · exact wp_mutate inv (may _ ⟨rfl, rfl⟩) fun r _ => h r
    · exact stop _

/-- What `reconcile_outbox` needs to execute one row. -/
structure ReconcileTerms (K : Terms) (s : Store) (a : Adapter) (row : OutboxRow) (Q : Store → Prop) : Prop where
  inv : K.inv s
  may : ∀ q, q.about a row.id → K.may q s
  raises : K.raises "AttributeError"
  done : ∀ r, r.success → (∀ m, mutationOf row.operation row.payload = some m → K.ok (.mutate a row.id m) r) →
    Commits K s (markedApplied s row r.taskId) fun t =>
      (row.stepId = none → Q t) ∧ ∀ id, row.stepId = some id → Commits K t (t.markStep id (some .applied) r.taskId).2 Q
  failed : FailureCommits K s row Q

theorem wp_reconcileRow {a : Adapter} {Q : Store → Prop} (h : ReconcileTerms K s a row Q) :
    wp K (reconcileRow a row) (fun _ => Q) s := by
  have settle : ∀ (r : AdapterResult) (next : Run Bool),
      (row.stepId = none → next = pure true) →
      (∀ id, row.stepId = some id → next = do markStepApplied id r.taskId; return true) →
      (∀ m, mutationOf row.operation row.payload = some m → K.ok (.mutate a row.id m) r) →
      wp K (do
        if r.success then
          mark row.id .applied r.taskId none none
          next
        else
          reconcileMarkPending row (clip (orText r.error "adapter_error"))
          return false) (fun _ => Q) s := by
    intro r next hnone hsome hr
    split
    next hs =>
      refine wp_bind.mpr (wp_mark h.inv ((h.done r hs hr).mono fun u hu hq => ?_))
      cases hstep : row.stepId with
      | none =>
        rw [hnone hstep]
        exact ⟨hu, hq.1 hstep⟩
      | some id =>
        rw [hsome id hstep]
        have step := hq.2 id hstep
        have marked : wp K (markStepApplied id r.taskId) (fun _ t => K.inv t ∧ Q t) u :=
          ⟨hu, step.1, step.2.1, step.2.1, step.2.2⟩
        exact wp_bind.mpr (wp_mono marked fun _ _ _ ht => ht)
    next => exact wp_bind.mpr (wp_reconcileMarkPending h.inv (h.may _ trivial) (h.failed.mono fun u hu hq => ⟨hu, hq⟩))
  refine wp_bind.mpr ?_
  unfold reconcileCall
  split
  next hop => exact wp_reconcileWake h.inv h.may h.raises fun r => settle r _ (fun hn => by rw [hn]) (fun _ hs => by rw [hs]) (by simp [hop, mutationOf])
  next hop => exact wp_reconcileAck h.inv h.may fun r => settle r _ (fun hn => by rw [hn]) (fun _ hs => by rw [hs]) (by simp [hop, mutationOf])
  next => exact wp_callMutation h.inv h.may fun r hr => settle r _ (fun hn => by rw [hn]) (fun _ hs => by rw [hs]) hr.1

/-- The rows `reconcile_outbox` has still to execute are in the store as it read them. -/
structure Snapshot (items : List (OutboxRow × String)) (s : Store) : Prop where
  rows : ∀ item ∈ items, item.1 ∈ s.outbox.rows ∧ item.1.state = .pending
  distinct : items.Pairwise fun item item' => item.1.id ≠ item'.1.id

variable {item : OutboxRow × String} {items : List (OutboxRow × String)}

theorem Snapshot.tail (h : Snapshot (item :: items) s) : Snapshot items s :=
  ⟨fun y hy => h.rows y (List.mem_cons_of_mem _ hy), (List.pairwise_cons.mp h.distinct).2⟩

/-- Executing the first row leaves the others as they were read. -/
theorem Snapshot.mark (h : Snapshot (item :: items) s) (state : OutboxState) (taskId : String) (next : Option Nat)
    (error : Option String) : Snapshot items (s.outboxMark item.1.id state taskId next error).2 := by
  obtain ⟨hne, distinct⟩ := List.pairwise_cons.mp h.distinct
  refine ⟨fun y hy => ?_, distinct⟩
  obtain ⟨hmem, hp⟩ := h.rows y (List.mem_cons_of_mem _ hy)
  have mem := modified_mem (t := s.outbox) (i := item.1.id) (f := Store.markRow state taskId next error) hmem
  rw [if_neg (show ¬Keyed.rowId y.1 = item.1.id from (hne y hy).symm)] at mem
  exact ⟨mem, hp⟩

theorem snapshot_dueRows (s : Store) (now : Nat) : Snapshot (dueRows now s) s := by
  have below : s.outbox.rows.Pairwise fun o o' => o.id < o'.id := List.pairwise_map.mp s.outbox.sorted
  refine ⟨fun item hi => ?_, ?_⟩
  · obtain ⟨o, ho, hmap⟩ := List.mem_filterMap.mp hi
    obtain ⟨i, _, rfl⟩ := Option.map_eq_some_iff.mp hmap
    obtain ⟨hmem, hp⟩ := List.mem_filter.mp ho
    simp only [Bool.and_eq_true, beq_iff_eq] at hp
    exact ⟨hmem, hp.1⟩
  · refine List.Pairwise.filterMap _ ?_ (below.filter _)
    intro o o' hlt item hitem item' hitem'
    obtain ⟨i, _, rfl⟩ := Option.map_eq_some_iff.mp hitem
    obtain ⟨i', _, rfl⟩ := Option.map_eq_some_iff.mp hitem'
    exact Nat.ne_of_lt hlt

theorem ReconcileTerms.snapshot {a : Adapter} {Q : Store → Prop} (h : ReconcileTerms K s a item.1 Q)
    (snap : Snapshot (item :: items) s) : ReconcileTerms K s a item.1 fun t => Q t ∧ Snapshot items t where
  inv := h.inv
  may := h.may
  raises := h.raises
  done r hs hr := by
    have rest := snap.mark .applied r.taskId none none
    obtain ⟨guar, inv, stepless, step⟩ := h.done r hs hr
    refine ⟨guar, inv, fun hnone => ⟨stepless hnone, rest⟩, fun id hid => ?_⟩
    obtain ⟨guar', inv', hq⟩ := step id hid
    exact ⟨guar', inv', hq, rest.rows, rest.distinct⟩
  failed := by
    refine ⟨fun error hop hcap => ?_, fun next error hlt => ?_⟩
    · obtain ⟨guar, inv, hq⟩ := h.failed.1 error hop hcap
      exact ⟨guar, inv, hq, snap.mark ..⟩
    · obtain ⟨guar, inv, hq⟩ := h.failed.2 next error hlt
      exact ⟨guar, inv, hq, snap.mark ..⟩

/-- The pass as a whole: every due row is executed from the state in which it was read. -/
theorem wp_reconcileOutbox (boards : String → Option Adapter) {P : Store → Prop} (inv : ∀ t, P t → K.inv t)
    (now : K.may .now s)
    (row : ∀ t a x, P t → x ∈ t.outbox.rows → x.state = .pending → ReconcileTerms K t a x P) (start : P s) :
    wp K (reconcileOutbox boards) (fun _ t => P t) s := by
  refine wp_bind.mpr (wp_currentTime (inv s start) now fun t _ => wp_get_bind.mpr ?_)
  have loop : wp K (Prog.forEach (reconcileItem boards) (dueRows t s)) (fun _ u => P u ∧ Snapshot [] u) s := by
    refine wp_forEach (I := fun items u => P u ∧ Snapshot items u) ?_ (fun u hu => inv u hu.1) ⟨start, snapshot_dueRows s t⟩
    rintro item items u ⟨hu, snap⟩
    obtain ⟨hmem, hp⟩ := snap.rows item (by simp)
    unfold reconcileItem
    split
    next => exact ⟨inv u hu, hu, snap.tail⟩
    next a _ =>
      have executed := wp_reconcileRow ((row u a item.1 hu hmem hp).snapshot snap)
      exact wp_bind.mpr (wp_mono executed fun _ v hv hr => ⟨hv, hr⟩)
  exact wp_bind.mpr (wp_mono loop fun _ u hu hp => ⟨hu, hp.1⟩)

end AgentflowHermes
