import AgentflowHermes.ContinuationStore
import Mathlib.Tactic.Common

namespace AgentflowHermes

open RowTable

/-- The writing operations of the store; `outbox_pending_retry_at` and the lists only read. -/
inductive StoreOp
  | createInstance (n : NewInstance)
  | transition (id : Nat) (new : ContinuationState) (reason : String)
  | addStep (id : Nat) (kind : StepKind) (key boardTaskId : String) (parent : Option Nat)
  | markStep (id : Nat) (state : Option StepState) (boardTaskId : String)
  | addOwnerReceipt (id : Nat) (ownerRef : String) (fields : List (String × Json)) (sourceRef : String)
      (supersedes : Option Nat)
  | outboxEnqueue (id : Nat) (n : Store.NewOutbox)
  | outboxMark (id : Nat) (state : OutboxState) (boardTaskId : String) (nextAttemptAt : Option Nat)
      (lastError : Option String)
  | outboxReinterpretPending (id : Nat) (fromOp : Operation) (keyPrefix : String) (toOp : Operation)
      (newKey : String)
  | advanceCursor (board dbIdentity : String) (lastEventId : Int)

inductive StoreError
  | transition (e : Store.TransitionError)
  | unknownRow
  deriving DecidableEq, Repr

namespace StoreOp

def orUnknown {α : Type} : Option α → Except StoreError Unit
  | some _ => .ok ()
  | none => .error .unknownRow

def reported {α : Type} : Except Store.TransitionError α → Except StoreError Unit
  | .ok _ => .ok ()
  | .error e => .error (.transition e)

/-- One operation, with the error it reports and the store it leaves. -/
def apply : StoreOp → Store → Except StoreError Unit × Store
  | createInstance n, s => (.ok (), (s.createInstance n).2)
  | transition id new reason, s =>
    (reported (s.transition id new reason).1, (s.transition id new reason).2)
  | addStep id kind key taskId parent, s => (.ok (), (s.addStep id kind key taskId parent).2)
  | markStep id state taskId, s => (orUnknown (s.markStep id state taskId).1, (s.markStep id state taskId).2)
  | addOwnerReceipt id owner fields source supersedes, s =>
    (.ok (), (s.addOwnerReceipt id owner fields source supersedes).2)
  | outboxEnqueue id n, s => (.ok (), (s.outboxEnqueue id n).2)
  | outboxMark id state taskId next error, s =>
    (orUnknown (s.outboxMark id state taskId next error).1, (s.outboxMark id state taskId next error).2)
  | outboxReinterpretPending id fromOp pre toOp newKey, s =>
    (.ok (), (s.outboxReinterpretPending id fromOp pre toOp newKey).2)
  | advanceCursor board db last, s => (.ok (), s.upsertCursor board db (max (s.getCursor board db) last))

def runAll (ops : List StoreOp) (s : Store) : Store := ops.foldl (fun t op => (op.apply t).2) s

end StoreOp

def EventKind.transition? : EventKind → Option (ContinuationState × ContinuationState)
  | .stateTransition source target _ => some (source, target)
  | _ => none

/-- The transitions the log records for a continuation, in order. -/
def Store.transitionsOf (s : Store) (id : Nat) : List (ContinuationState × ContinuationState) :=
  (s.eventsOf id).filterMap fun e => e.kind.transition?

/-- The recorded moves follow `legal` from `a` and end in `b`. -/
def LegalPath : ContinuationState → List (ContinuationState × ContinuationState) → ContinuationState → Prop
  | a, [], b => a = b
  | a, (source, target) :: rest, b => source = a ∧ legal source target ∧ LegalPath target rest b

theorem LegalPath.snoc {a b c : ContinuationState} {moves : List (ContinuationState × ContinuationState)}
    (h : LegalPath a moves b) (hl : legal b c) : LegalPath a (moves ++ [(b, c)]) c := by
  induction moves generalizing a with
  | nil => exact ⟨h.symm, hl, rfl⟩
  | cons m rest ih => exact ⟨h.1, h.2.1, ih h.2.2⟩

theorem legalPath_append {a b : ContinuationState} {moves more : List (ContinuationState × ContinuationState)} :
    LegalPath a (moves ++ more) b ↔ ∃ c, LegalPath a moves c ∧ LegalPath c more b := by
  induction moves generalizing a with
  | nil =>
    constructor
    · intro h
      exact ⟨a, rfl, h⟩
    · rintro ⟨_, rfl, h⟩
      exact h
  | cons m rest ih =>
    constructor
    · rintro ⟨hs, hl, h⟩
      obtain ⟨c, first, last⟩ := ih.mp h
      exact ⟨c, ⟨hs, hl, first⟩, last⟩
    · rintro ⟨c, ⟨hs, hl, first⟩, last⟩
      exact ⟨hs, hl, ih.mpr ⟨c, first, last⟩⟩

/-- The recorded moves determine where they end. -/
theorem LegalPath.unique {a b c : ContinuationState} {moves : List (ContinuationState × ContinuationState)}
    (h : LegalPath a moves b) (h' : LegalPath a moves c) : b = c := by
  induction moves generalizing a with
  | nil => exact h.symm.trans h'
  | cons m rest ih => exact ih h.2.2 h'.2.2

structure LogInvariant (s : Store) : Prop where
  eventSeqs : ∀ id, (s.eventsOf id).map Event.seq = List.range' 1 (s.eventsOf id).length
  receiptVersions : ∀ id, (s.receiptsOf id).map OwnerReceipt.version = List.range' 1 (s.receiptsOf id).length
  paths : ∀ i ∈ s.instances.rows, LegalPath .detected (s.transitionsOf i.id) i.state
  unborn : ∀ id, s.getInstance id = none → s.transitionsOf id = []
  uniqueTuple : UniqueBy s.instances fun i => i.tuple
  uniqueStep : UniqueBy s.steps fun p => (p.continuationId, p.idempotencyKey)
  uniqueOutbox : UniqueBy s.outbox OutboxRow.idempotencyKey

theorem maxOf_range' (n : Nat) : Store.maxOf (List.range' 1 n) = n := by
  have bound : ∀ k m, (List.range' k (m + 1)).foldr max 0 = k + m := by
    intro k m
    induction m generalizing k with
    | zero => simp
    | succ m ih =>
      rw [List.range'_succ, List.foldr_cons, ih]
      omega
  cases n with
  | zero => rfl
  | succ n =>
    have := bound 1 n
    unfold Store.maxOf
    omega

/-- The next number of a sequence that is exactly `1..n`. -/
theorem range'_snoc {α : Type} {xs : List α} {f : α → Nat} {x : α} (h : xs.map f = List.range' 1 xs.length)
    (hx : f x = Store.maxOf (xs.map f) + 1) : (xs ++ [x]).map f = List.range' 1 (xs ++ [x]).length := by
  rw [h, maxOf_range'] at hx
  rw [List.map_append, h, List.length_append, List.length_singleton, List.range'_concat]
  simp [hx, Nat.add_comm]

variable {s : Store} {id : Nat}

theorem recordEvent_filter (events : Table Event) (kind : EventKind) (j : Nat) :
    (Store.recordEvent events id kind).filter (fun e => e.continuationId == j) =
      events.filter (fun e => e.continuationId == j) ++
        if id = j then
          [⟨events.next, id,
            Store.maxOf ((events.filter fun e => e.continuationId == id).map Event.seq) + 1, kind⟩]
        else [] := by
  rw [Store.recordEvent, filter_insert]
  by_cases h : id = j <;> simp [h]

theorem recordEvent_seqs {events : Table Event} (kind : EventKind)
    (h : ∀ j, (events.filter fun e => e.continuationId == j).map Event.seq =
      List.range' 1 (events.filter fun e => e.continuationId == j).length) (j : Nat) :
    ((Store.recordEvent events id kind).filter fun e => e.continuationId == j).map Event.seq =
      List.range' 1 ((Store.recordEvent events id kind).filter fun e => e.continuationId == j).length := by
  rw [recordEvent_filter]
  split
  next hj =>
    subst hj
    exact range'_snoc (h id) rfl
  next => simpa using h j

theorem recordEvent_transitions (t : Store) (kind : EventKind) (h : t.events = Store.recordEvent s.events id kind)
    (j : Nat) : t.transitionsOf j = s.transitionsOf j ++ if id = j then kind.transition?.toList else [] := by
  unfold Store.transitionsOf Store.eventsOf
  rw [h, recordEvent_filter, List.filterMap_append]
  congr 1
  split
  · cases hk : kind.transition? <;> simp [hk]
  · rfl

namespace LogInvariant

theorem empty : LogInvariant .empty where
  eventSeqs _ := rfl
  receiptVersions _ := rfl
  paths _ h := by cases h
  unborn _ _ := rfl
  uniqueTuple := .nil
  uniqueStep := .nil
  uniqueOutbox := .nil

/-- Tables other than these five take no part in the invariant. -/
theorem congr {t : Store} (h : LogInvariant s) (hi : t.instances = s.instances) (hs : t.steps = s.steps)
    (hr : t.receipts = s.receipts) (he : t.events = s.events) (ho : t.outbox = s.outbox) : LogInvariant t := by
  obtain ⟨ti, ts, tr, te, tc, tb, ta, tw, tx, tm⟩ := t
  cases hi; cases hs; cases hr; cases he; cases ho
  exact ⟨h.eventSeqs, h.receiptVersions, h.paths, h.unborn, h.uniqueTuple, h.uniqueStep, h.uniqueOutbox⟩

theorem createInstance (h : LogInvariant s) (n : NewInstance) : LogInvariant (s.createInstance n).2 := by
  rcases s.createInstance_cases n with ⟨i, _, he⟩ | ⟨absent, he⟩
  · rw [he]
    exact h
  · rw [he]
    have fresh : s.getInstance s.instances.next = none := by
      cases hg : s.getInstance s.instances.next with
      | none => rfl
      | some i => exact absurd (find?_lt_next hg) (by simp [(get?_eq_some.mp hg).2])
    refine ⟨recordEvent_seqs _ h.eventSeqs, h.receiptVersions, ?_, ?_, ?_, h.uniqueStep, h.uniqueOutbox⟩
    · intro i hi
      rw [recordEvent_transitions _ _ rfl]
      rcases mem_insert hi with hi | rfl
      · simpa [EventKind.transition?] using h.paths i hi
      · simp [EventKind.transition?, h.unborn _ fresh, LegalPath]
    · intro j hj
      rw [recordEvent_transitions _ _ rfl]
      have hj' : s.getInstance j = none := by
        rw [Store.getInstance, get?_insert] at hj
        split at hj
        · cases hj
        · exact hj
      simp [EventKind.transition?, h.unborn j hj']
    · refine h.uniqueTuple.insert (fun i hi heq => ?_) fun _ => rfl
      have differs : (i.tuple == n.tuple) = false := find?_none absent i hi
      exact absurd heq (by simpa using differs)

theorem transition (h : LogInvariant s) (id : Nat) (new : ContinuationState) (reason : String) :
    LogInvariant (s.transition id new reason).2 := by
  rcases s.transition_cases id new reason with ⟨e, he⟩ | ⟨row, hrow, hl, he⟩
  · rw [he]
    exact h
  · rw [he]
    refine ⟨recordEvent_seqs _ h.eventSeqs, h.receiptVersions, ?_, ?_, ?_, h.uniqueStep, h.uniqueOutbox⟩
    · intro i hi
      rw [recordEvent_transitions _ _ rfl]
      rcases mem_modify hi with ⟨hi, hne⟩ | ⟨i', hi', hid, rfl⟩
      · simpa [Ne.symm (show i.id ≠ id from hne)] using h.paths i hi
      · have hrow' : row = i' := rowId_inj (mem_of_find? hrow) hi' ((get?_eq_some.mp hrow).2.trans hid.symm)
        subst hrow'
        have hp := (h.paths row hi').snoc hl
        subst hid
        simpa [EventKind.transition?] using hp
    · intro j hj
      rw [recordEvent_transitions _ _ rfl]
      have hne : id ≠ j := by
        rintro rfl
        rw [Store.getInstance, Store.setState, get?_modify, if_pos rfl, ← Store.getInstance, hrow] at hj
        cases hj
      have hj' : s.getInstance j = none := by
        rwa [Store.getInstance, Store.setState, get?_modify, if_neg (Ne.symm hne), ← Store.getInstance] at hj
      simp [hne, h.unborn j hj']
    · refine h.uniqueTuple.modify ?_ fun _ => by rfl
      exact fun _ _ => rfl

theorem addStep (h : LogInvariant s) (id : Nat) (kind : StepKind) (key taskId : String) (parent : Option Nat) :
    LogInvariant (s.addStep id kind key taskId parent).2 := by
  rcases s.addStep_cases id kind key taskId parent with ⟨p, _, he⟩ | ⟨absent, he⟩
  · rw [he]
    exact h
  · rw [he]
    refine { h with uniqueStep := h.uniqueStep.insert (fun p hp heq => ?_) fun _ => rfl }
    have differs : (p.continuationId == id && p.idempotencyKey == key) = false := find?_none absent p hp
    simp_all

theorem markStep (h : LogInvariant s) (id : Nat) (state : Option StepState) (taskId : String) :
    LogInvariant (s.markStep id state taskId).2 :=
  { h with
    uniqueStep := by
      refine h.uniqueStep.modify ?_ fun _ => by rfl
      exact fun _ _ => rfl }

theorem addOwnerReceipt (h : LogInvariant s) (id : Nat) (owner : String) (fields : List (String × Json))
    (source : String) (supersedes : Option Nat) :
    LogInvariant (s.addOwnerReceipt id owner fields source supersedes).2 := by
  have same : ∀ j, (s.addOwnerReceipt id owner fields source supersedes).2.transitionsOf j = s.transitionsOf j := by
    intro j
    rw [recordEvent_transitions _ _ rfl]
    simp [EventKind.transition?]
  refine ⟨recordEvent_seqs _ h.eventSeqs, fun j => ?_, fun i hi => ?_, fun j hj => ?_, h.uniqueTuple, h.uniqueStep,
    h.uniqueOutbox⟩
  · change List.map _ (Table.filter (Table.insert _ _ _) _) = _
    unfold Store.receiptsOf Store.addOwnerReceipt
    simp only [filter_insert]
    by_cases hj : id = j
    · subst hj
      simp only [beq_self_eq_true, if_true]
      exact range'_snoc (h.receiptVersions id) rfl
    · simpa [hj, Store.receiptsOf] using h.receiptVersions j
  · rw [same]
    exact h.paths i hi
  · rw [same]
    exact h.unborn j hj

theorem outboxEnqueue (h : LogInvariant s) (id : Nat) (n : Store.NewOutbox) :
    LogInvariant (s.outboxEnqueue id n).2 := by
  rcases s.outboxEnqueue_cases id n with ⟨o, _, he⟩ | ⟨absent, he⟩
  · rw [he]
    exact h
  · rw [he]
    refine { h with uniqueOutbox := h.uniqueOutbox.insert (fun o hm heq => ?_) fun _ => rfl }
    have differs : (o.idempotencyKey == n.idempotencyKey) = false := find?_none absent o hm
    simp_all [Store.NewOutbox.row]

theorem outboxMark (h : LogInvariant s) (id : Nat) (state : OutboxState) (taskId : String) (next : Option Nat)
    (error : Option String) : LogInvariant (s.outboxMark id state taskId next error).2 :=
  { h with
    uniqueOutbox := by
      refine h.uniqueOutbox.modify ?_ fun _ => by rfl
      exact fun _ _ => rfl }

theorem outboxReinterpretPending (h : LogInvariant s) (id : Nat) (fromOp : Operation) (pre : String)
    (toOp : Operation) (newKey : String) :
    LogInvariant (s.outboxReinterpretPending id fromOp pre toOp newKey).2 := by
  rcases s.outboxReinterpretPending_cases id fromOp pre toOp newKey with he | ⟨o, ho, _, _, hnone, he⟩
  · rw [he]
    exact h
  · rw [he]
    refine { h with uniqueOutbox := ?_ }
    refine UniqueBy.rekey h.uniqueOutbox o.id ?_ (fun r hr => by simpa using find?_none hnone r hr) fun _ => by rfl
    exact fun _ _ => rfl

theorem upsertCursor (h : LogInvariant s) (board db : String) (value : Int) :
    LogInvariant (s.upsertCursor board db value) := h.congr rfl rfl rfl rfl rfl

theorem apply (h : LogInvariant s) (op : StoreOp) : LogInvariant (op.apply s).2 := by
  cases op with
  | createInstance n => exact h.createInstance n
  | transition id new reason => exact h.transition id new reason
  | addStep id kind key taskId parent => exact h.addStep id kind key taskId parent
  | markStep id state taskId => exact h.markStep id state taskId
  | addOwnerReceipt id owner fields source supersedes => exact h.addOwnerReceipt id owner fields source supersedes
  | outboxEnqueue id n => exact h.outboxEnqueue id n
  | outboxMark id state taskId next error => exact h.outboxMark id state taskId next error
  | outboxReinterpretPending id fromOp pre toOp newKey =>
    exact h.outboxReinterpretPending id fromOp pre toOp newKey
  | advanceCursor board db last => exact h.upsertCursor board db _

theorem runAll (h : LogInvariant s) (ops : List StoreOp) : LogInvariant (StoreOp.runAll ops s) := by
  induction ops generalizing s with
  | nil => exact h
  | cons op ops ih => exact ih (h.apply op)

end LogInvariant

/-- An update by an id that is not there changes nothing. -/
theorem modify_absent {α : Type} [Keyed α] {t : Table α} {f : α → α} {hk} (h : (t.modify id f hk).get? id = none) :
    t.modify id f hk = t := by
  have absent : ∀ r ∈ t.rows, Keyed.rowId r ≠ id := by
    intro r hr heq
    rw [get?_modify, if_pos rfl, get?_eq_some.mpr ⟨hr, heq⟩] at h
    cases h
  have rows : (t.modify id f hk).rows = t.rows := by
    rw [rows_modify]
    refine (List.map_congr_left fun r hr => if_neg (absent r hr)).trans (List.map_id _)
  cases t
  unfold Table.modify at rows ⊢
  congr

theorem apply_error {op : StoreOp} {e : StoreError} (h : (op.apply s).1 = .error e) : (op.apply s).2 = s := by
  have unknown : ∀ {α : Type} {o : Option α}, StoreOp.orUnknown o = .error e → o = none := by
    rintro _ (_ | _) ho
    · rfl
    · cases ho
  cases op with
  | createInstance => cases h
  | addStep => cases h
  | addOwnerReceipt => cases h
  | outboxEnqueue => cases h
  | outboxReinterpretPending => cases h
  | advanceCursor => cases h
  | transition id new reason =>
    unfold StoreOp.apply at h ⊢
    rcases s.transition_cases id new reason with ⟨e', he⟩ | ⟨row, _, _, he⟩
    · simp [he]
    · simp [he, StoreOp.reported] at h
  | markStep id state taskId =>
    have same := modify_absent (unknown h)
    unfold StoreOp.apply Store.markStep
    simp only [same]
  | outboxMark id state taskId next error =>
    have same := modify_absent (unknown h)
    unfold StoreOp.apply Store.outboxMark
    simp only [same]

/-- A terminal instance keeps its row and its log. -/
theorem apply_terminal {i : Instance} (op : StoreOp) (hi : i ∈ s.instances.rows) (ht : i.state.terminal) :
    i ∈ (op.apply s).2.instances.rows ∧ (op.apply s).2.transitionsOf i.id = s.transitionsOf i.id := by
  cases op with
  | createInstance n =>
    rcases s.createInstance_cases n with ⟨j, _, he⟩ | ⟨_, he⟩
    · exact ⟨by simpa [StoreOp.apply, he] using hi, by simp [StoreOp.apply, he]⟩
    · simp only [StoreOp.apply, he]
      refine ⟨List.mem_append_left _ hi, ?_⟩
      rw [recordEvent_transitions _ _ rfl]
      simp [EventKind.transition?]
  | transition id new reason =>
    rcases s.transition_cases id new reason with ⟨e, he⟩ | ⟨row, hrow, hl, he⟩
    · exact ⟨by simpa [StoreOp.apply, he] using hi, by simp [StoreOp.apply, he]⟩
    · have hne : i.id ≠ id := by
        rintro rfl
        obtain rfl : row = i := rowId_inj (mem_of_find? hrow) hi (get?_eq_some.mp hrow).2
        rw [legal_not_terminal hl] at ht
        cases ht
      simp only [StoreOp.apply, he]
      refine ⟨?_, ?_⟩
      · have := modified_mem (t := s.instances) (f := fun i : Instance => { i with state := new }) (i := id) hi
        rwa [if_neg (show ¬Keyed.rowId i = id from hne)] at this
      · rw [recordEvent_transitions _ _ rfl]
        simp [Ne.symm hne]
  | addOwnerReceipt id owner fields source supersedes =>
    refine ⟨hi, (recordEvent_transitions _ _ rfl _).trans ?_⟩
    simp [EventKind.transition?]
  | addStep => exact ⟨hi, rfl⟩
  | markStep => exact ⟨hi, rfl⟩
  | outboxEnqueue => exact ⟨hi, rfl⟩
  | outboxMark => exact ⟨hi, rfl⟩
  | outboxReinterpretPending => exact ⟨hi, rfl⟩
  | advanceCursor => exact ⟨hi, rfl⟩

theorem runAll_terminal {i : Instance} (ops : List StoreOp) (hi : i ∈ s.instances.rows) (ht : i.state.terminal) :
    i ∈ (StoreOp.runAll ops s).instances.rows ∧ (StoreOp.runAll ops s).transitionsOf i.id = s.transitionsOf i.id := by
  induction ops generalizing s with
  | nil => exact ⟨hi, rfl⟩
  | cons op ops ih =>
    obtain ⟨hi', same⟩ := apply_terminal op hi ht
    obtain ⟨hi'', same'⟩ := ih hi'
    exact ⟨hi'', same'.trans same⟩

/-- Every store reached from the empty one keeps the log invariant, closes a log once its instance is
terminal, and is left as it is by an operation that reports an error. -/
theorem runAll_log_invariant (ops : List StoreOp) :
    LogInvariant (StoreOp.runAll ops .empty) ∧
    (∀ i ∈ (StoreOp.runAll ops .empty).instances.rows, i.state.terminal → ∀ more,
      (StoreOp.runAll more (StoreOp.runAll ops .empty)).transitionsOf i.id =
        (StoreOp.runAll ops .empty).transitionsOf i.id) ∧
    ∀ op e, (StoreOp.apply op (StoreOp.runAll ops .empty)).1 = .error e →
      (StoreOp.apply op (StoreOp.runAll ops .empty)).2 = StoreOp.runAll ops .empty :=
  ⟨LogInvariant.empty.runAll ops, fun _ hi ht more => (runAll_terminal more hi ht).2, fun _ _ h => apply_error h⟩

end AgentflowHermes
