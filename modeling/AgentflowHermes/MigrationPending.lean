import AgentflowHermes.MigrationReferences
import AgentflowHermes.ReconcileCoupling

namespace AgentflowHermes

open CrashProgram RowTable

/-- What is left of a row by its attempts: how many there were, and whether it is done or given up. -/
structure SameAttempts (o c : OutboxRow) : Prop where
  key : o.idempotencyKey = c.idempotencyKey
  state : o.state = c.state
  attempts : o.attempts = c.attempts

/-- Whatever clock and boards answer, passes of the reconciler over the two stores report the same keys in the same
order, have made the same calls, and leave the rows after the same attempts. -/
structure SamePending (s t : Store) : Prop where
  passes : ∀ {ι : Type} (E : Env Response ι), RowBlind E → ∀ (boards : List (String → Option Adapter)) (i : ι),
    let left := run E (Prog.forEach reconcileOutbox boards) i s
    let right := run E (Prog.forEach reconcileOutbox boards) i t
    left.1 = right.1 ∧ left.2.1 = right.2.1 ∧ List.Forall₂ SameAttempts left.2.2.outbox.rows right.2.2.outbox.rows

/-- No pending row waits for its next attempt, and no wake for its acceptance. -/
def NoRetryState (l : Ledger) : Prop :=
  ∀ o ∈ l.outbox.rows, o.state = .pending → o.nextAttemptAt = 0 ∧ (o.operation = .scheduleOriginWake → ¬o.waked)

/-- The copy of a legacy row in a store that was empty. -/
structure PlainCopy (s t : Store) (o c : OutboxRow) : Prop where
  key : c.idempotencyKey = o.idempotencyKey
  operation : c.operation = o.operation
  payload : c.payload = o.payload
  stepId : c.stepId = o.stepId
  attempts : c.attempts = o.attempts
  state : c.state = o.state
  next : c.nextAttemptAt = 0
  error : c.lastError = ""
  board : s.boardOf o = t.boardOf c

section

variable {legacy : Ledger}

/-- In an empty store every row is copied, in order, and its retry columns start over. -/
theorem copied_plainly (hl : LedgerInvariant legacy) :
    List.Forall₂ (PlainCopy legacy.toStore (copyLedger legacy .empty).toStore) legacy.outbox.rows
      (copyLedger legacy .empty).outbox.rows := by
  have all : ((legacy.outbox.rows.filterMap (idMapOf legacy .empty).outboxRow).filter fun o =>
      decide (o.idempotencyKey ∉ Ledger.empty.outbox.rows.map OutboxRow.idempotencyKey)) =
        legacy.outbox.rows.filterMap (idMapOf legacy .empty).outboxRow :=
    List.filter_eq_self.mpr fun _ _ => rfl
  rw [outbox_rows hl, all]
  refine filterMap_forall₂ (fun o ho => ?_) (fun o b n hb => ?_) _
  · obtain ⟨n, found⟩ := mapped_of_owned .empty (hl.outbox o ho)
    exact ⟨_, congrArg (Option.map _) found⟩
  · obtain ⟨k, found, rfl⟩ := Option.map_eq_some_iff.mp hb
    refine ⟨rfl, rfl, rfl, rfl, rfl, rfl, rfl, rfl, ?_⟩
    obtain ⟨l, hmem, here, c, hc, same, rfl⟩ := lookup_idMap_some found
    have left : legacy.getInstance o.continuationId = some l := get?_eq_some.mpr ⟨hmem, here⟩
    have right : (copyLedger legacy .empty).getInstance c.id = some c := get?_eq_some.mpr ⟨hc, rfl⟩
    change (legacy.getInstance o.continuationId).map (fun i => i.board) =
      ((copyLedger legacy .empty).getInstance c.id).map fun i => i.board
    rw [left, right]
    exact congrArg some (congrArg Prod.fst same).symm

/-- Legacy and canonical ids of one key. -/
def keyIds (s t : Store) (a b : Nat) : Prop :=
  ∃ o ∈ s.outbox.rows, ∃ c ∈ t.outbox.rows, o.id = a ∧ c.id = b ∧ o.idempotencyKey = c.idempotencyKey

theorem keyIds_oneToOne {s t : Store} (hs : UniqueBy s.outbox OutboxRow.idempotencyKey)
    (ht : UniqueBy t.outbox OutboxRow.idempotencyKey) : OneToOne (keyIds s t) := by
  rintro a b c d ⟨o, ho, p, hp, rfl, rfl, key⟩ ⟨o', ho', p', hp', rfl, rfl, key'⟩
  constructor
  · intro same
    obtain rfl : o = o' := rowId_inj ho ho' same
    rw [ht.eq hp hp' (key.symm.trans key')]
  · intro same
    obtain rfl : p = p' := rowId_inj hp hp' same
    rw [hs.eq ho ho' (key.trans key'.symm)]

theorem copied_unique (legacy : Ledger) :
    UniqueBy (copyLedger legacy .empty).outbox OutboxRow.idempotencyKey :=
  merge_unique (fun _ _ => rfl) (show UniqueBy Ledger.empty.outbox OutboxRow.idempotencyKey from .nil)

theorem not_waked_empty {o : OutboxRow} (h : o.lastError = "") : ¬o.waked := by
  unfold OutboxRow.waked
  rw [h]
  decide

theorem PlainCopy.plan {s t : Store} {o c : OutboxRow} (h : PlainCopy s t o c)
    (ready : o.state = .pending → o.nextAttemptAt = 0 ∧ (o.operation = .scheduleOriginWake → ¬o.waked)) : SamePlan o c where
  key := h.key.symm
  operation := h.operation.symm
  payload := h.payload.symm
  stepId := h.stepId.symm
  attempts := h.attempts.symm
  state := h.state.symm
  due hp := (ready hp).1.trans h.next.symm
  memory hp hop := iff_of_false ((ready hp).2 hop) (not_waked_empty h.error)

theorem copied_sameOutbox (hl : LedgerInvariant legacy) (ready : NoRetryState legacy) :
    SameOutbox (keyIds legacy.toStore (copyLedger legacy .empty).toStore) legacy.toStore (copyLedger legacy .empty).toStore :=
  forall₂_upgrade (copied_plainly hl) fun o ho c hc copy =>
    ⟨⟨o, ho, c, hc, rfl, rfl, copy.key.symm⟩, copy.plan (ready o ho), copy.board⟩

theorem samePending_of_ready (hl : LedgerInvariant legacy) (ready : NoRetryState legacy) :
    SamePending legacy.toStore (copyLedger legacy .empty).toStore := by
  refine ⟨fun E blind boards i => ?_⟩
  have one := keyIds_oneToOne hl.log.uniqueOutbox (copied_unique legacy)
  obtain ⟨results, env, outbox⟩ := (coupled_passes one blind boards).runs i _ _ (copied_sameOutbox hl ready)
  refine ⟨?_, env, outbox.imp ?_⟩
  · revert results
    generalize (run E (Prog.forEach reconcileOutbox boards) i legacy.toStore).1 = left
    generalize (run E (Prog.forEach reconcileOutbox boards) i (copyLedger legacy .empty).toStore).1 = right
    rintro (_ | _)
    next same => rw [same]
    next => rfl
  · rintro o c ⟨_, plan, _⟩
    exact ⟨plan.key, plan.state, plan.attempts⟩

end

section

variable {α β : Type} {p q : α → Bool} {xs : List α}

theorem forall₂_countP {R : α → β → Prop} {p : α → Bool} {q : β → Bool} {ys : List β} (h : List.Forall₂ R xs ys)
    (same : ∀ x y, R x y → p x = q y) : xs.countP p = ys.countP q := by
  induction h with
  | nil => rfl
  | cons hxy _ ih => rw [List.countP_cons, List.countP_cons, ih, same _ _ hxy]

theorem forall₂_source {R : α → β → Prop} {ys : List β} (h : List.Forall₂ R xs ys) {y : β} (hy : y ∈ ys) :
    ∃ x ∈ xs, R x y := by
  induction h with
  | nil => cases hy
  | cons hxy _ ih =>
    rcases List.mem_cons.mp hy with rfl | hy
    · exact ⟨_, List.mem_cons_self, hxy⟩
    · obtain ⟨x, hx, hr⟩ := ih hy
      exact ⟨x, List.mem_cons_of_mem _ hx, hr⟩

/-- A stronger test that counts as many is passed by the same elements. -/
theorem countP_eq_mem (stronger : ∀ x, p x → q x) (h : xs.countP p = xs.countP q) : ∀ x ∈ xs, q x → p x := by
  induction xs with
  | nil => exact fun _ hx => absurd hx List.not_mem_nil
  | cons y xs ih =>
    have tail : xs.countP p ≤ xs.countP q := List.countP_mono_left fun x _ => stronger x
    rw [List.countP_cons, List.countP_cons] at h
    intro x hx hq
    by_cases hp : p y
    · rw [if_pos hp, if_pos (stronger y hp)] at h
      rcases List.mem_cons.mp hx with rfl | hx
      · exact hp
      · exact ih (Nat.succ.inj h) x hx hq
    · by_cases hqy : q y
      · rw [if_neg hp, if_pos hqy] at h
        omega
      · rw [if_neg hp, if_neg hqy] at h
        rcases List.mem_cons.mp hx with rfl | hx
        · exact absurd hq hqy
        · exact ih h x hx hq

end

section

variable {s : Store} {now : Nat}

/-- What is counted among the due rows is counted in the outbox. -/
theorem dueRows_countP (owned : ∀ o ∈ s.outbox.rows, ∃ i, s.getInstance o.continuationId = some i) (p : OutboxRow → Bool) :
    (dueRows now s).countP (fun x => p x.1) =
      s.outbox.rows.countP fun o => p o && (o.state == .pending && decide (o.nextAttemptAt ≤ now)) := by
  unfold dueRows Table.filter
  generalize s.outbox.rows = rows at owned ⊢
  induction rows with
  | nil => rfl
  | cons o rows ih =>
    have later := ih fun o ho => owned o (List.mem_cons_of_mem _ ho)
    obtain ⟨i, hi⟩ := owned o List.mem_cons_self
    rw [List.filter_cons, List.countP_cons]
    split
    next due =>
      rw [List.filterMap_cons_some (by rw [hi]; rfl), List.countP_cons, later, due, Bool.and_true]
    next due =>
      rw [later, Bool.eq_false_iff.mpr due, Bool.and_false]
      rfl

/-- Nobody delivers, and the scheduled wakes are counted. -/
def wakeCounter : Env Response Nat
  | .now, n => (0, n)
  | .mutate _ _ (.scheduleOriginWake _ _), n => ({ success := false }, n + 1)
  | .mutate .., n => ({ success := false }, n)
  | .probe .., n => (false, n)
  | .newCaseId, n => ("", n)
  | .checkWait _, n => (none, n)
  | .routeRoadmap _, n => (false, n)
  | .routeCodeFix _, n => (false, n)

theorem wakeCounter_blind : RowBlind wakeCounter where
  mutate _ _ _ m _ := by cases m <;> rfl
  probe _ _ _ _ _ := rfl

def countedWake (o : OutboxRow) : Bool :=
  o.operation == .scheduleOriginWake && decide (o.lastError ≠ "origin_wake_not_yet_accepted")

theorem run_counted_call (board : String) (o : OutboxRow) (n : Nat) (s : Store) :
    ∃ r : AdapterResult, r.success = false ∧
      run wakeCounter (reconcileCall { board := board } o) n s = (.ok r, n + (countedWake o).toNat, s) := by
  unfold reconcileCall countedWake
  cases o.operation with
  | createTask => exact ⟨_, rfl, rfl⟩
  | subscribe => exact ⟨_, rfl, rfl⟩
  | completeOwnerAnchor => exact ⟨_, rfl, rfl⟩
  | recordConsumerAck => exact ⟨_, rfl, rfl⟩
  | other name => exact ⟨_, rfl, rfl⟩
  | scheduleOriginWake =>
    have unseen : run wakeCounter (originWakeSatisfied { board := board } o.id (o.payload.text "task_id")
        (o.payload.text "endpoint")) n s = (.ok false, n, s) := rfl
    unfold reconcileWake
    dsimp only
    by_cases waked : o.lastError = "origin_wake_not_yet_accepted"
    · refine ⟨{ success := false, error := "origin_wake_not_yet_accepted" }, rfl, ?_⟩
      rw [run_bind_ok unseen]
      simp only [waked, Bool.false_eq_true, if_false, if_true]
      rfl
    · refine ⟨{ success := false }, rfl, ?_⟩
      rw [run_bind_ok unseen]
      simp only [waked, Bool.false_eq_true, if_false, ne_eq, not_false_eq_true, decide_true]
      rfl

theorem run_counted_row (board : String) (o : OutboxRow) (n : Nat) (s : Store) :
    ∃ t, run wakeCounter (reconcileRow { board := board } o) n s = (.ok false, n + (countedWake o).toNat, t) := by
  obtain ⟨r, failed, called⟩ := run_counted_call board o n s
  unfold reconcileRow
  rw [run_bind_ok called, failed]
  simp only [Bool.false_eq_true, if_false]
  unfold reconcileMarkPending
  split
  · exact ⟨_, rfl⟩
  · exact ⟨_, rfl⟩

theorem run_counted_items (items : List (OutboxRow × String)) (n : Nat) (s : Store) :
    ∃ outcomes t, run wakeCounter (Prog.forEach (reconcileItem fun board => some { board := board }) items) n s =
      (.ok outcomes, n + items.countP (fun x => countedWake x.1), t) := by
  induction items generalizing n s with
  | nil => exact ⟨[], s, rfl⟩
  | cons x items ih =>
    obtain ⟨t, first⟩ := run_counted_row x.2 x.1 n s
    obtain ⟨outcomes, u, later⟩ := ih (n + (countedWake x.1).toNat) t
    have one : run wakeCounter (reconcileItem (fun board => some { board := board }) x) n s =
        (.ok (some false), n + (countedWake x.1).toNat, t) := run_bind_ok first
    refine ⟨some false :: outcomes, u, ?_⟩
    unfold Prog.forEach
    rw [run_bind_ok one, run_bind_ok later, run_pure, List.countP_cons]
    cases countedWake x.1 with
    | false => rfl
    | true => simp only [Bool.toNat_true, if_true, Nat.add_assoc, Nat.add_comm 1]

/-- One pass schedules the due wakes that are not remembered. -/
theorem run_counted (s : Store) :
    ∃ r t, r.pendingBefore = (dueRows 0 s).length ∧
      run wakeCounter (Prog.forEach reconcileOutbox [fun board => some { board := board }]) 0 s =
        (.ok [r], (dueRows 0 s).countP (fun x => countedWake x.1), t) := by
  obtain ⟨outcomes, t, loop⟩ := run_counted_items (dueRows 0 s) 0 s
  rw [Nat.zero_add] at loop
  let keys (b : Bool) : List String := ((dueRows 0 s).zip outcomes).filterMap fun p =>
    if p.2 = some b then some p.1.1.idempotencyKey else none
  have pass : run wakeCounter (reconcileOutbox fun board => some { board := board }) 0 s =
      (.ok ⟨keys true, keys false, (dueRows 0 s).length⟩, (dueRows 0 s).countP (fun x => countedWake x.1), t) := by
    unfold reconcileOutbox
    change run wakeCounter (Prog.forEach (reconcileItem fun board => some { board := board }) (dueRows 0 s) >>= _) 0 s = _
    rw [run_bind_ok loop]
    rfl
  refine ⟨⟨keys true, keys false, (dueRows 0 s).length⟩, t, rfl, ?_⟩
  unfold Prog.forEach
  rw [run_bind_ok pass]
  rfl

/-- Two stores with the same pending behaviour have as many due rows and as many wakes to schedule. -/
theorem SamePending.counts {s t : Store} (h : SamePending s t) :
    (dueRows 0 s).length = (dueRows 0 t).length ∧
      (dueRows 0 s).countP (fun x => countedWake x.1) = (dueRows 0 t).countP fun x => countedWake x.1 := by
  obtain ⟨results, env, _⟩ := h.passes wakeCounter wakeCounter_blind [fun board => some { board := board }] 0
  obtain ⟨r, u, pending, left⟩ := run_counted s
  obtain ⟨r', u', pending', right⟩ := run_counted t
  rw [left, right] at results env
  have same : r = r' := List.head_eq_of_cons_eq (Except.ok.inj results)
  exact ⟨by rw [← pending, ← pending', same], env⟩

end

/-- A migration into an empty store keeps the pending behaviour exactly when there is no retry state to lose. -/
theorem samePending_iff {legacy : Ledger} (hl : LedgerInvariant legacy) :
    SamePending legacy.toStore (copyLedger legacy .empty).toStore ↔ NoRetryState legacy := by
  refine ⟨fun same => ?_, samePending_of_ready hl⟩
  obtain ⟨due, wakes⟩ := same.counts
  have copies := copied_plainly hl
  have owned : ∀ c ∈ (copyLedger legacy .empty).outbox.rows,
      ∃ i, (copyLedger legacy .empty).getInstance c.continuationId = some i := by
    intro c hc
    obtain ⟨o, ho, copy⟩ := forall₂_source copies hc
    obtain ⟨i, hi⟩ := hl.outbox o ho
    have board := copy.board
    unfold Store.boardOf at board
    rw [hi] at board
    obtain ⟨j, hj, _⟩ := Option.map_eq_some_iff.mp board.symm
    exact ⟨j, hj⟩
  have isDue : ∀ {o c}, PlainCopy legacy.toStore (copyLedger legacy .empty).toStore o c →
      (c.state == .pending && decide (c.nextAttemptAt ≤ 0)) = (o.state == .pending) := by
    intro o c copy
    rw [copy.state, copy.next]
    exact Bool.and_true _
  have sameDue : legacy.outbox.rows.countP (fun o => true && (o.state == .pending && decide (o.nextAttemptAt ≤ 0))) =
      legacy.outbox.rows.countP fun o => o.state == .pending := by
    rw [← dueRows_countP hl.outbox fun _ => true, List.countP_true, due, ← List.countP_true,
      dueRows_countP owned fun _ => true]
    exact (forall₂_countP copies fun o c copy => (isDue copy).symm).symm
  have sameWakes : legacy.outbox.rows.countP (fun o => countedWake o &&
      (o.state == .pending && decide (o.nextAttemptAt ≤ 0))) =
      legacy.outbox.rows.countP fun o => o.operation == .scheduleOriginWake && o.state == .pending := by
    rw [← dueRows_countP hl.outbox countedWake, wakes, dueRows_countP owned countedWake]
    refine (forall₂_countP copies fun o c copy => ?_).symm
    have fresh : decide (c.lastError ≠ "origin_wake_not_yet_accepted") = true := decide_eq_true (not_waked_empty copy.error)
    rw [isDue copy, countedWake, fresh, Bool.and_true, copy.operation]
  have ready := countP_eq_mem (fun o h => (Bool.and_eq_true_iff.mp ((Bool.true_and _).symm.trans h)).1) sameDue
  have unwaked := countP_eq_mem (fun o h => ?_) sameWakes
  · intro o ho pending
    have dueNow := ready o ho (beq_iff_eq.mpr pending)
    refine ⟨Nat.le_zero.mp (of_decide_eq_true (Bool.and_eq_true_iff.mp (Bool.and_eq_true_iff.mp dueNow).2).2), fun wake waked => ?_⟩
    have counted := unwaked o ho (by rw [wake, pending]; rfl)
    have fresh := (Bool.and_eq_true_iff.mp (Bool.and_eq_true_iff.mp counted).1).2
    exact of_decide_eq_true fresh waked
  · obtain ⟨wake, later⟩ := Bool.and_eq_true_iff.mp h
    exact Bool.and_eq_true_iff.mpr ⟨(Bool.and_eq_true_iff.mp wake).1, (Bool.and_eq_true_iff.mp later).1⟩

section Samples

/-- A row whose first attempt has failed, five seconds before the next one. -/
def backoffLedger : Ledger :=
  bareLedger [.createInstance { board := "a", sourceTaskId := "t1", sourceEventId := "e1" },
    .outboxEnqueue 1 ⟨some 0, .subscribe, [], "ob:1"⟩, .outboxMark 1 .pending "" (some 5000000) (some "timeout")]

theorem backoffLedger_invariant : LedgerInvariant backoffLedger :=
  bareLedger_invariant (by decide) (by decide) (by decide) (by decide) rfl rfl rfl rfl rfl

theorem samePending_iff_waiting :
    SamePending (waitingLedger noReplies).toStore (copyLedger (waitingLedger noReplies) .empty).toStore :=
  (samePending_iff waitingOwner_invariant).mpr fun o ho _ =>
    (by decide : ∀ o ∈ (waitingLedger noReplies).outbox.rows,
      o.nextAttemptAt = 0 ∧ (o.operation = .scheduleOriginWake → ¬o.lastError = "origin_wake_not_yet_accepted")) o ho

/-- The migrated row is due at once. -/
theorem backoff_forgotten : LedgerInvariant backoffLedger ∧
    ¬SamePending backoffLedger.toStore (copyLedger backoffLedger .empty).toStore :=
  ⟨backoffLedger_invariant, fun same => absurd same.counts.1 (by decide)⟩

end Samples

end AgentflowHermes
