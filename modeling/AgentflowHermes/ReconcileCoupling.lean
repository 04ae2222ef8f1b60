import AgentflowHermes.OutboxRules
import AgentflowHermes.RunCoupling

namespace AgentflowHermes

open CrashProgram RowTable

/-- Row ids are local to a store: no board sees the row an adapter call is made for. -/
structure RowBlind {ι : Type} (E : Env Response ι) : Prop where
  mutate : ∀ a row row' m i, E (.mutate a row m) i = E (.mutate a row' m) i
  probe : ∀ a row row' p i, E (.probe a row p) i = E (.probe a row' p) i

/-- A wake that has been scheduled and not yet accepted is remembered by its error text. -/
def OutboxRow.waked (o : OutboxRow) : Prop := o.lastError = "origin_wake_not_yet_accepted"

/-- All that the reconciler reads of a pending row, except for ids. -/
structure SamePlan (o c : OutboxRow) : Prop where
  key : o.idempotencyKey = c.idempotencyKey
  operation : o.operation = c.operation
  payload : o.payload = c.payload
  stepId : o.stepId = c.stepId
  attempts : o.attempts = c.attempts
  state : o.state = c.state
  due : o.state = .pending → o.nextAttemptAt = c.nextAttemptAt
  memory : o.state = .pending → o.operation = .scheduleOriginWake → (o.waked ↔ c.waked)

def Store.boardOf (s : Store) (o : OutboxRow) : Option String := (s.getInstance o.continuationId).map fun i => i.board

/-- The outboxes hold the same plans for the same boards, in the same order; `ids` says which rows correspond. -/
def SameOutbox (ids : Nat → Nat → Prop) (s t : Store) : Prop :=
  List.Forall₂ (fun o c => ids o.id c.id ∧ SamePlan o c ∧ s.boardOf o = t.boardOf c) s.outbox.rows t.outbox.rows

/-- Corresponding ids are different ones when the others are. -/
def OneToOne (ids : Nat → Nat → Prop) : Prop := ∀ a b c d, ids a b → ids c d → (a = c ↔ b = d)

/-- Two due rows that the reconciler treats alike. -/
structure SameItem (ids : Nat → Nat → Prop) (x y : OutboxRow × String) : Prop where
  ids : ids x.1.id y.1.id
  plan : SamePlan x.1 y.1
  pending : x.1.state = .pending
  board : x.2 = y.2

section

variable {ι : Type} {E : Env Response ι} {ids : Nat → Nat → Prop} {s t : Store} {o c : OutboxRow}

theorem SamePlan.mark (h : SamePlan o c) {state : OutboxState} {taskId : String} {next : Option Nat} {error : Option String}
    (planned : state = .pending → ∃ n e, next = some n ∧ error = some e) :
    SamePlan (Store.markRow state taskId next error o) (Store.markRow state taskId next error c) where
  key := h.key
  operation := h.operation
  payload := h.payload
  stepId := h.stepId
  attempts := congrArg (· + 1) h.attempts
  state := rfl
  due hp := by
    obtain rfl : state = .pending := hp
    obtain ⟨n, e, rfl, rfl⟩ := planned rfl
    rfl
  memory hp _ := by
    obtain rfl : state = .pending := hp
    obtain ⟨n, e, rfl, rfl⟩ := planned rfl
    exact Iff.rfl

theorem SameOutbox.mark (one : OneToOne ids) (h : SameOutbox ids s t) {a b : Nat} (hab : ids a b) {state : OutboxState}
    (taskId : String) {next : Option Nat} {error : Option String}
    (planned : state = .pending → ∃ n e, next = some n ∧ error = some e) :
    SameOutbox ids (s.outboxMark a state taskId next error).2 (t.outboxMark b state taskId next error).2 := by
  refine List.forall₂_map_left_iff.mpr (List.forall₂_map_right_iff.mpr (h.imp ?_))
  rintro o c ⟨hid, plan, board⟩
  by_cases here : o.id = a
  · have there : c.id = b := (one _ _ _ _ hid hab).mp here
    rw [if_pos (show Keyed.rowId o = a from here), if_pos (show Keyed.rowId c = b from there)]
    exact ⟨hid, plan.mark planned, board⟩
  · have elsewhere : c.id ≠ b := fun there => here ((one _ _ _ _ hid hab).mpr there)
    rw [if_neg (show ¬Keyed.rowId o = a from here), if_neg (show ¬Keyed.rowId c = b from elsewhere)]
    exact ⟨hid, plan, board⟩

/-- The same rows are due. -/
theorem SameOutbox.dueRows (h : SameOutbox ids s t) (now : Nat) :
    List.Forall₂ (SameItem ids) (dueRows now s) (dueRows now t) := by
  unfold AgentflowHermes.dueRows Table.filter
  unfold SameOutbox at h
  generalize s.outbox.rows = rows at h ⊢
  generalize t.outbox.rows = rows' at h ⊢
  induction h with
  | nil => exact .nil
  | @cons o c os cs hrow _ ih =>
    obtain ⟨hid, plan, board⟩ := hrow
    have sameDue : (o.state == .pending && decide (o.nextAttemptAt ≤ now)) =
        (c.state == .pending && decide (c.nextAttemptAt ≤ now)) := by
      rw [← plan.state]
      by_cases hp : o.state = .pending
      · rw [plan.due hp]
      · rw [beq_eq_false_iff_ne.mpr hp]
        rfl
    rw [List.filter_cons, List.filter_cons, sameDue]
    split
    next due =>
      rw [← sameDue, Bool.and_eq_true, beq_iff_eq] at due
      unfold Store.boardOf at board
      cases hi : s.getInstance o.continuationId with
      | none =>
        rw [hi] at board
        have none' : t.getInstance c.continuationId = none := Option.map_eq_none_iff.mp board.symm
        rw [List.filterMap_cons_none (by rw [hi]; rfl), List.filterMap_cons_none (by rw [none']; rfl)]
        exact ih
      | some i =>
        rw [hi] at board
        obtain ⟨j, hj, same⟩ := Option.map_eq_some_iff.mp board.symm
        rw [List.filterMap_cons_some (by rw [hi]; rfl), List.filterMap_cons_some (by rw [hj]; rfl)]
        exact .cons ⟨hid, plan, due.1, same.symm⟩ ih
    next => exact ih

/-- The keys of the rows with one outcome. -/
theorem sameItem_keys {items items' : List (OutboxRow × String)} (same : List.Forall₂ (SameItem ids) items items')
    (outcomes : List (Option Bool)) (b : Bool) :
    ((items.zip outcomes).filterMap fun p => if p.2 = some b then some p.1.1.idempotencyKey else none) =
      (items'.zip outcomes).filterMap fun p => if p.2 = some b then some p.1.1.idempotencyKey else none := by
  induction same generalizing outcomes with
  | nil => rfl
  | cons hxy _ ih =>
    cases outcomes with
    | nil => rfl
    | cons outcome outcomes =>
      rw [List.zip_cons_cons, List.zip_cons_cons, List.filterMap_cons, List.filterMap_cons, hxy.plan.key, ih]

section

variable (blind : RowBlind E)
include blind

theorem coupled_mutate {S : Store → Store → Prop} (a : Adapter) (row row' : Nat) (m : Mutation) :
    Coupled E S Eq (mutate a row m) (mutate a row' m) := by
  refine ⟨fun i s t hs => ?_⟩
  have same := blind.mutate a row row' m i
  unfold mutate
  rw [run_call, run_call, same]
  exact ⟨.ok rfl, rfl, hs⟩

theorem coupled_probe {S : Store → Store → Prop} (a : Adapter) (row row' : Nat) (p : Probe) :
    Coupled E S Eq (probe a row p) (probe a row' p) := by
  refine ⟨fun i s t hs => ?_⟩
  have same := blind.probe a row row' p i
  unfold probe
  rw [run_call, run_call, same]
  exact ⟨.ok rfl, rfl, hs⟩

theorem coupled_originWakeSatisfied {S : Store → Store → Prop} (a : Adapter) (row row' : Nat) (taskId endpoint : String) :
    Coupled E S Eq (originWakeSatisfied a row taskId endpoint) (originWakeSatisfied a row' taskId endpoint) :=
  coupled_ite Iff.rfl (fun _ => coupled_probe blind ..) fun _ => coupled_pure rfl

theorem coupled_reconcileWake {S : Store → Store → Prop} (a : Adapter) (payload : o.payload = c.payload)
    (memory : o.waked ↔ c.waked) : Coupled E S Eq (reconcileWake a o) (reconcileWake a c) := by
  unfold reconcileWake
  rw [payload]
  refine coupled_bind (coupled_originWakeSatisfied blind ..) ?_
  rintro seen _ rfl
  refine coupled_ite Iff.rfl (fun _ => coupled_pure rfl) fun _ => ?_
  refine coupled_ite memory (fun _ => coupled_pure rfl) fun _ => ?_
  refine coupled_ite Iff.rfl (fun _ => coupled_raise _) fun _ => ?_
  refine coupled_bind (coupled_mutate blind ..) ?_
  rintro result _ rfl
  refine coupled_ite Iff.rfl (fun _ => ?_) fun _ => coupled_pure rfl
  refine coupled_bind (coupled_originWakeSatisfied blind ..) ?_
  rintro accepted _ rfl
  exact coupled_ite Iff.rfl (fun _ => coupled_pure rfl) fun _ => coupled_pure rfl

theorem coupled_reconcileAck {S : Store → Store → Prop} (a : Adapter) (payload : o.payload = c.payload) :
    Coupled E S Eq (reconcileAck a o) (reconcileAck a c) := by
  unfold reconcileAck
  rw [payload]
  refine coupled_ite Iff.rfl (fun _ => ?_) fun _ => ?_
  · refine coupled_bind (coupled_probe blind ..) ?_
    rintro verified _ rfl
    refine coupled_ite Iff.rfl (fun _ => coupled_pure rfl) fun _ => ?_
    refine coupled_ite Iff.rfl (fun _ => coupled_pure rfl) fun _ => ?_
    refine coupled_bind (coupled_mutate blind ..) ?_
    rintro result _ rfl
    refine coupled_ite Iff.rfl (fun _ => ?_) fun _ => coupled_pure rfl
    refine coupled_bind (coupled_probe blind ..) ?_
    rintro recorded _ rfl
    exact coupled_ite Iff.rfl (fun _ => coupled_pure rfl) fun _ => coupled_pure rfl
  · exact coupled_ite Iff.rfl (fun _ => coupled_mutate blind ..) fun _ => coupled_pure rfl

theorem coupled_reconcileCall {S : Store → Store → Prop} (a : Adapter) (plan : SamePlan o c) (pending : o.state = .pending) :
    Coupled E S Eq (reconcileCall a o) (reconcileCall a c) := by
  have memory := plan.memory pending
  unfold reconcileCall
  rw [← plan.operation]
  cases hop : o.operation with
  | scheduleOriginWake => exact coupled_reconcileWake blind a plan.payload (memory hop)
  | recordConsumerAck => exact coupled_reconcileAck blind a plan.payload
  | createTask =>
    rw [plan.payload]
    exact coupled_mutate blind ..
  | subscribe =>
    rw [plan.payload]
    exact coupled_mutate blind ..
  | completeOwnerAnchor =>
    rw [plan.payload]
    exact coupled_mutate blind ..
  | other name => exact coupled_pure rfl

end

variable (one : OneToOne ids)
include one

theorem coupled_mark {a b : Nat} (hab : ids a b) {state : OutboxState} (taskId : String) {next : Option Nat}
    {error : Option String} (planned : state = .pending → ∃ n e, next = some n ∧ error = some e) :
    Coupled E (SameOutbox ids) Eq (mark a state taskId next error) (mark b state taskId next error) :=
  coupled_write (fun _ _ hs => hs.mark one hab taskId planned) fun _ _ => coupled_pure rfl

theorem coupled_reconcileMarkPending (hid : ids o.id c.id) (plan : SamePlan o c) (error : String) :
    Coupled E (SameOutbox ids) Eq (reconcileMarkPending o error) (reconcileMarkPending c error) := by
  unfold reconcileMarkPending
  rw [← plan.operation, ← plan.attempts]
  refine coupled_ite Iff.rfl (fun _ => coupled_mark one hid _ fun h => nomatch h) fun _ => ?_
  refine coupled_bind (V := Eq) (coupled_call Request.now fun _ => coupled_pure rfl) ?_
  rintro now _ rfl
  exact coupled_mark one hid _ fun _ => ⟨_, _, rfl, rfl⟩

theorem coupled_reconcileRow (blind : RowBlind E) (a : Adapter) (hid : ids o.id c.id) (plan : SamePlan o c)
    (pending : o.state = .pending) :
    Coupled E (SameOutbox ids) Eq (reconcileRow a o) (reconcileRow a c) := by
  refine coupled_bind (coupled_reconcileCall blind a plan pending) ?_
  rintro result _ rfl
  refine coupled_ite Iff.rfl (fun _ => ?_) fun _ => ?_
  · refine coupled_bind (coupled_mark one hid _ fun h => nomatch h) fun _ _ _ => ?_
    rw [← plan.stepId]
    cases o.stepId with
    | none => exact coupled_pure rfl
    | some id =>
      refine coupled_bind (V := Eq) ?_ fun _ _ _ => coupled_pure rfl
      exact coupled_write (fun _ _ hs => hs) fun _ _ => coupled_pure rfl
  · exact coupled_bind (coupled_reconcileMarkPending one hid plan _) fun _ _ _ => coupled_pure rfl

theorem coupled_reconcileItem (blind : RowBlind E) (boards : String → Option Adapter) {x y : OutboxRow × String}
    (same : SameItem ids x y) :
    Coupled E (SameOutbox ids) Eq (reconcileItem boards x) (reconcileItem boards y) := by
  unfold reconcileItem
  rw [same.board]
  cases boards y.2 with
  | none => exact coupled_pure rfl
  | some a =>
    refine coupled_bind (coupled_reconcileRow one blind a same.ids same.plan same.pending) ?_
    rintro outcome _ rfl
    exact coupled_pure rfl

/-- A pass goes the same way over outboxes that hold the same plans. -/
theorem coupled_reconcileOutbox (blind : RowBlind E) (boards : String → Option Adapter) :
    Coupled E (SameOutbox ids) Eq (reconcileOutbox boards) (reconcileOutbox boards) := by
  refine coupled_bind (V := Eq) (coupled_call Request.now fun _ => coupled_pure rfl) ?_
  rintro now _ rfl
  refine coupled_bind (coupled_get fun s t hs => hs.dueRows now) fun items items' same => ?_
  refine coupled_bind (coupled_forEach same fun x y hxy => coupled_reconcileItem one blind boards hxy) ?_
  intro outcomes outcomes' eq
  obtain rfl : outcomes = outcomes' := List.forall₂_eq_eq_eq ▸ eq
  refine coupled_pure ?_
  dsimp only
  rw [same.length_eq, sameItem_keys same, sameItem_keys same]

/-- And so does every sequence of passes. -/
theorem coupled_passes (blind : RowBlind E) (passes : List (String → Option Adapter)) :
    Coupled E (SameOutbox ids) Eq (Prog.forEach reconcileOutbox passes) (Prog.forEach reconcileOutbox passes) := by
  have loop : Coupled E (SameOutbox ids) (List.Forall₂ Eq) (Prog.forEach reconcileOutbox passes)
      (Prog.forEach reconcileOutbox passes) := by
    refine coupled_forEach (V := Eq) (List.forall₂_same.mpr fun _ _ => rfl) ?_
    rintro boards _ rfl
    exact coupled_reconcileOutbox one blind boards
  exact loop.mono fun results results' eq => List.forall₂_eq_eq_eq ▸ eq

end

end AgentflowHermes
