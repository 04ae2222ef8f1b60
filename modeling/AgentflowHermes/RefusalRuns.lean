import AgentflowHermes.CodeFixProgress
import AgentflowHermes.RefusalReconcile

namespace AgentflowHermes

open RowTable

def SatisfiedAt (key : Nat × String) (s : Store) : Prop := ∃ r ∈ s.satisfactions.rows, satisfactionKey r = key

def WakeAt (key : String) (s : Store) : Prop :=
  ∃ o ∈ s.outbox.rows, o.idempotencyKey = key ∧ o.operation = .scheduleOriginWake

/-- What a refusal has settled stays settled. -/
structure Stays (s t : Store) : Prop where
  ended : ∀ n i, s.instanceOf n = some i → i.state.terminal → t.instanceOf n = some i
  satisfied : ∀ key, SatisfiedAt key s → SatisfiedAt key t
  wakes : ∀ key, WakeAt key s → WakeAt key t

section

variable {s t u : Store} {n : NewInstance} {i : Instance} {id : Nat} {key : String}

theorem Stays.refl (s : Store) : Stays s s := ⟨fun _ _ h _ => h, fun _ h => h, fun _ h => h⟩

theorem Stays.trans (h : Stays s t) (h' : Stays t u) : Stays s u where
  ended n i found ended := h'.ended n i (h.ended n i found ended) ended
  satisfied key at' := h'.satisfied key (h.satisfied key at')
  wakes key at' := h'.wakes key (h.wakes key at')

/-- A change of the outbox that keeps the wake rows. -/
theorem stays_outbox (instances : t.instances = s.instances) (satisfactions : t.satisfactions = s.satisfactions)
    (wakes : ∀ key, WakeAt key s → WakeAt key t) : Stays s t where
  ended n i found _ := by
    unfold Store.instanceOf
    rw [instances]
    exact found
  satisfied key at' := by
    unfold SatisfiedAt
    rw [satisfactions]
    exact at'
  wakes := wakes

theorem instanceOf_get (h : s.instanceOf n = some i) : s.getInstance i.id = some i :=
  get?_eq_some.mpr ⟨mem_of_find? h, rfl⟩

theorem createInstance_found (s : Store) (n : NewInstance) :
    (s.createInstance n).2.instanceOf n = some (s.createInstance n).1.2 := by
  rcases s.createInstance_cases n with ⟨i, hi, he⟩ | ⟨absent, he⟩
  · rw [he]
    exact hi
  · rw [he]
    show (s.instances.insert _ _).find? _ = _
    rw [find?_insert]
    rw [show s.instances.find? (fun i => i.tuple == n.tuple) = none from absent]
    simp [NewInstance.tuple]

theorem instanceOf_transition (s : Store) (id : Nat) (new : ContinuationState) (reason : String) (n : NewInstance) :
    (s.transition id new reason).2.instanceOf n =
      (s.instanceOf n).map fun i => if i.id = id then Store.movedTo new i else i := by
  rcases s.transition_cases id new reason with ⟨e, he⟩ | ⟨row, hrow, hl, he⟩
  · rw [he]
    cases hf : s.instanceOf n with
    | none => rfl
    | some i =>
      have unmoved : i.id = id → ¬legal i.state new := by
        rintro rfl hl
        rw [Store.transition_legal (instanceOf_get hf) hl] at he
        cases he
      by_cases hid : i.id = id
      · simp [hid, Store.movedTo, unmoved hid]
      · simp [hid]
  · rw [he]
    show (Store.setState s.instances id new).find? _ = _
    unfold Store.setState
    rw [find?_modify (f := fun i : Instance => { i with state := new }) fun _ _ => rfl]
    cases hf : s.instanceOf n with
    | none =>
      rw [show s.instances.find? (fun i => i.tuple == n.tuple) = none from hf]
      rfl
    | some i =>
      rw [show s.instances.find? (fun i => i.tuple == n.tuple) = some i from hf]
      by_cases hid : i.id = id
      · obtain rfl : i = row := Option.some.inj ((instanceOf_get hf).symm.trans (hid ▸ hrow))
        simp [hid, Store.movedTo, hl]
      · simp [hid]

theorem stays_createInstance (s : Store) (n : NewInstance) : Stays s (s.createInstance n).2 := by
  rcases s.createInstance_cases n with ⟨i, hi, he⟩ | ⟨absent, he⟩
  · rw [he]
    exact Stays.refl s
  · rw [he]
    refine ⟨fun m i found _ => ?_, fun _ h => h, fun _ h => h⟩
    show (s.instances.insert _ _).find? _ = _
    rw [find?_insert, show s.instances.find? (fun i => i.tuple == m.tuple) = some i from found]
    rfl

theorem stays_transition (s : Store) (id : Nat) (new : ContinuationState) (reason : String) :
    Stays s (s.transition id new reason).2 := by
  refine ⟨fun n i found ended => ?_, fun _ h => h, fun _ h => h⟩
  have unmoved : ¬legal i.state new := fun hl => by simp [legal_not_terminal hl] at ended
  rw [instanceOf_transition, found]
  simp [Store.movedTo, unmoved]

/-- One satisfaction per field of a continuation, whatever was recorded before. -/
theorem recordSatisfaction_kept (s : Store) (id : Nat) (field : String) (value : Json) (kind ref policy : String) :
    let t := s.recordSatisfaction id field value kind ref policy
    Stays s t ∧ SatisfiedAt (id, field) t ∧
      (UniqueBy s.satisfactions satisfactionKey → UniqueBy t.satisfactions satisfactionKey) := by
  unfold Store.recordSatisfaction
  dsimp only
  split
  next r hr =>
    have mem := mem_of_find? hr
    have key : satisfactionKey r = (id, field) := by
      have found := pred_of_find? hr
      simp only [Bool.and_eq_true, beq_iff_eq] at found
      exact Prod.ext found.1 found.2
    have kept : ∀ x ∈ s.satisfactions.rows, satisfactionKey (if Keyed.rowId x = r.id then
        { x with value := value, sourceKind := kind, sourceRef := ref, policyId := policy } else x) = satisfactionKey x := by
      intro x hx
      split
      · rfl
      · rfl
    refine ⟨⟨fun _ _ h _ => h, ?_, fun _ h => h⟩, ⟨_, modified_mem mem, (kept r mem).trans key⟩, fun unique => ?_⟩
    · rintro key' ⟨x, hx, rfl⟩
      exact ⟨_, modified_mem hx, kept x hx⟩
    · refine unique.modify ?_ fun _ => by rfl
      exact fun _ _ => rfl
  next absent =>
    refine ⟨⟨fun _ _ h _ => h, ?_, fun _ h => h⟩, ⟨_, List.mem_append_right _ (List.mem_singleton_self _), rfl⟩, fun unique => ?_⟩
    · rintro key ⟨x, hx, same⟩
      exact ⟨x, List.mem_append_left _ hx, same⟩
    · refine unique.insert (fun r hr => ?_) fun _ => rfl
      have differs := find?_none absent r hr
      simp only [Bool.and_eq_false_iff, beq_eq_false_iff_ne] at differs
      intro same
      obtain ⟨hid, hfield⟩ := Prod.mk.inj same
      exact differs.elim (fun h => h hid) fun h => h hfield

theorem wakeAt_mark (id : Nat) (state : OutboxState) (taskId : String) (next : Option Nat) (error : Option String)
    (h : WakeAt key s) : WakeAt key (s.outboxMark id state taskId next error).2 := by
  obtain ⟨o, ho, same, wake⟩ := h
  refine ⟨_, modified_mem (t := s.outbox) (i := id) (f := Store.markRow state taskId next error) ho, ?_⟩
  split
  · exact ⟨same, wake⟩
  · exact ⟨same, wake⟩

theorem wakeAt_enqueue (owner : Nat) (o : Store.NewOutbox) (h : WakeAt key s) : WakeAt key (s.outboxEnqueue owner o).2 := by
  rcases s.outboxEnqueue_cases owner o with ⟨_, _, he⟩ | ⟨_, he⟩
  · rw [he]
    exact h
  · rw [he]
    obtain ⟨r, hr, same⟩ := h
    exact ⟨r, List.mem_append_left _ hr, same⟩

/-- Only a subscription is turned into a wake. -/
theorem wakeAt_reinterpret (owner : Nat) (pre newKey : String) (h : WakeAt key s) :
    WakeAt key (s.outboxReinterpretPending owner .subscribe pre .scheduleOriginWake newKey).2 := by
  rcases s.outboxReinterpretPending_cases owner .subscribe pre .scheduleOriginWake newKey with
    he | ⟨o, ho, _, subscribe, _, he⟩
  · rw [he]
    exact h
  · rw [he]
    obtain ⟨r, hr, same, wake⟩ := h
    have apart : ¬Keyed.rowId r = o.id := by
      intro hid
      obtain rfl : r = o := rowId_inj hr ho hid
      rw [subscribe] at wake
      cases wake
    have mem := modified_mem (t := s.outbox) (i := o.id)
      (f := fun o : OutboxRow => { o with operation := .scheduleOriginWake, idempotencyKey := newKey }) hr
    rw [if_neg apart] at mem
    exact ⟨r, mem, same, wake⟩

end

end AgentflowHermes

namespace AgentflowHermes

open CrashProgram RowTable SemanticRefusalHandler

/-- BLOCKED_INVALID, unless the instance had ended before. -/
def quarantineState : Option Instance → ContinuationState
  | some i => if i.state.terminal then i.state else .blockedInvalid
  | none => .blockedInvalid

/-- What a refusal replay leaves behind. -/
structure Quarantined (e : OutcomeEnvelope) (s t : Store) : Prop where
  stays : Stays s t
  unique : UniqueBy s.satisfactions satisfactionKey → UniqueBy t.satisfactions satisfactionKey
  row : ∃ i, t.instanceOf e.toInstance = some i ∧ i.state = quarantineState (s.instanceOf e.toInstance) ∧
    SatisfiedAt (i.id, "semantic_refusal") t ∧ (endpointOf e ≠ "" → WakeAt (wakeKey (stableDigest i) (endpointOf e)) t)

/-- The store between the steps of a replay: nothing but the instance has been written. -/
structure Opened (s : Store) (m : NewInstance) (i : Instance) (t : Store) : Prop where
  stays : Stays s t
  outbox : t.outbox = s.outbox
  satisfactions : t.satisfactions = s.satisfactions
  found : t.instanceOf m = some i

/-- The quarantine is durable, and no callback was tried yet. -/
structure Sealed (s : Store) (m : NewInstance) (i : Instance) (t : Store) : Prop where
  stays : Stays s t
  outbox : t.outbox = s.outbox
  unique : UniqueBy s.satisfactions satisfactionKey → UniqueBy t.satisfactions satisfactionKey
  found : t.instanceOf m = some i
  satisfied : SatisfiedAt (i.id, "semantic_refusal") t

/-- A callback leaves the sealed store as it is, but for the outbox. -/
structure CallbackFrame (c : Nat) (u : Store) (n : Tally) (t : Store) : Prop where
  creates : n.creates = c
  instances : t.instances = u.instances
  satisfactions : t.satisfactions = u.satisfactions
  wakes : ∀ key, WakeAt key u → WakeAt key t

section

variable {ι : Type} {E : Env Response ι} {X : ι × Tally → Store → Prop} {s t u : Store} {m : NewInstance} {i j : Instance}
  {a : Adapter} {c : Nat} {n : Tally} {digest : String}

theorem CallbackFrame.stays (h : CallbackFrame c u n t) : Stays u t := stays_outbox h.instances h.satisfactions h.wakes

theorem framed_callback : Framed (CallbackFrame c u) where
  mark h id state taskId next error :=
    ⟨h.creates, h.instances, h.satisfactions, fun key at' => wakeAt_mark id state taskId next error (h.wakes key at')⟩
  wakes h _ := ⟨h.creates, h.instances, h.satisfactions, h.wakes⟩

theorem CallbackFrame.enqueue (h : CallbackFrame c u n t) (owner : Nat) (o : Store.NewOutbox) :
    CallbackFrame c u n (t.outboxEnqueue owner o).2 :=
  ⟨h.creates, h.instances, h.satisfactions, fun key at' => wakeAt_enqueue owner o (h.wakes key at')⟩

theorem CallbackFrame.reinterpret (h : CallbackFrame c u n t) (owner : Nat) (pre newKey : String) :
    CallbackFrame c u n (t.outboxReinterpretPending owner .subscribe pre .scheduleOriginWake newKey).2 :=
  ⟨h.creates, h.instances, h.satisfactions, fun key at' => wakeAt_reinterpret owner pre newKey (h.wakes key at')⟩

/-- The row an enqueue answers with. -/
theorem outboxEnqueue_row (s : Store) (owner : Nat) (o : Store.NewOutbox) :
    (s.outboxEnqueue owner o).1.2 ∈ (s.outboxEnqueue owner o).2.outbox.rows ∧
      (s.outboxEnqueue owner o).1.2.idempotencyKey = o.idempotencyKey := by
  rcases s.outboxEnqueue_cases owner o with ⟨r, hr, he⟩ | ⟨_, he⟩
  · rw [he]
    exact ⟨mem_of_find? hr, by simpa using pred_of_find? hr⟩
  · rw [he]
    exact ⟨List.mem_append_right _ (List.mem_singleton_self _), rfl⟩

theorem framed_wakeAt (key : String) : Framed fun n t => CallbackFrame c u n t ∧ WakeAt key t where
  mark h id state taskId next error := ⟨framed_callback.mark h.1 .., wakeAt_mark id state taskId next error h.2⟩
  wakes h wakes := ⟨framed_callback.wakes h.1 wakes, h.2⟩

theorem triple_wakeRow {owner : Nat} {taskId endpoint : String} :
    Triple (tallied E) (On (Once (CallbackFrame c u))) (wakeRow owner digest (wakeOp taskId endpoint digest))
      (fun row => On (Ready (fun n t => CallbackFrame c u n t ∧ WakeAt (wakeKey digest endpoint) t) row)) X := by
  refine triple_txn (R := fun _ => On (Once (CallbackFrame c u)))
    (fun i s h => ⟨h.1.reinterpret .., h.2.reinterpret ..⟩) fun _ => ?_
  refine triple_txn (R := fun r : Bool × OutboxRow => On (Ready (fun n t => CallbackFrame c u n t ∧
    WakeAt (wakeKey digest endpoint) t) r.2)) (fun i s h => ?_) fun _ => triple_pure fun _ _ h => h
  obtain ⟨mem, key⟩ := outboxEnqueue_row s owner (wakeOp taskId endpoint digest)
  have foreign : ¬∃ d e, wakeKey digest endpoint = refusalAckKey d e := by
    rintro ⟨d, e, same⟩
    exact wakeKey_ne_ackKey digest endpoint d e same
  have once := h.1.enqueue owner (wakeOp taskId endpoint digest) (fun _ => rfl) fun acks => absurd acks foreign
  have wake := once.filed.wakes _ mem ⟨digest, endpoint, key⟩
  exact once.ready ⟨h.2.enqueue .., _, mem, key, wake⟩ mem wake

theorem triple_ensureOriginWake {owner : Nat} {taskId endpoint : String} :
    Triple (tallied E) (On (Once (CallbackFrame c u))) (ensureOriginWake owner taskId endpoint digest a)
      (fun _ => On (Once fun n t => CallbackFrame c u n t ∧ WakeAt (wakeKey digest endpoint) t)) X :=
  triple_bind triple_wakeRow fun _ => triple_executeWake (framed_wakeAt _)

/-- The ACK is recorded under a key no wake has. -/
theorem triple_refusalAck {key taskId endpoint : String} {owner : Nat} :
    Triple (tallied E) (On (Once fun n t => CallbackFrame c u n t ∧ WakeAt key t))
      (applyBoardOperation owner (refusalAckOp taskId endpoint digest) (some a))
      (fun _ => On (Once fun n t => CallbackFrame c u n t ∧ WakeAt key t)) X := by
  refine triple_txn (R := fun r : Bool × OutboxRow => On fun n t => Once (fun n t => CallbackFrame c u n t ∧ WakeAt key t) n t ∧
    n.wakes r.2.id = 0) (fun i s h => ?_) fun r => triple_applyRecordConsumerAck (framed_wakeAt key)
  obtain ⟨mem, same⟩ := outboxEnqueue_row s owner (refusalAckOp taskId endpoint digest)
  have foreign : ¬∃ d e, refusalAckKey digest endpoint = wakeKey d e := by
    rintro ⟨d, e, same⟩
    exact wakeKey_ne_ackKey d e digest endpoint same.symm
  have once := h.1.enqueue owner (refusalAckOp taskId endpoint digest) (fun wakes => absurd wakes foreign)
    fun _ => by simp [refusalAckOp]
  have plain := once.filed.acks _ mem ⟨digest, endpoint, same⟩
  exact ⟨⟨once, h.2.1.enqueue .., wakeAt_enqueue _ _ h.2.2⟩, once.unscheduled mem (.inl plain)⟩

theorem triple_callbacks {e : OutcomeEnvelope} {owner : Nat} :
    Triple (tallied E) (On (Once (CallbackFrame c u))) (callbacks e owner digest a)
      (fun _ => On (Once fun n t => CallbackFrame c u n t ∧ (endpointOf e ≠ "" → WakeAt (wakeKey digest (endpointOf e)) t))) X := by
  unfold callbacks
  refine triple_ite (fun none' => ?_) fun _ => ?_
  · exact triple_pure fun _ _ h => ⟨h.1, h.2, fun some' => absurd none' some'⟩
  · refine triple_bind triple_ensureOriginWake fun _ => triple_bind triple_refusalAck fun _ => ?_
    exact triple_pure fun _ _ h => ⟨h.1, h.2.1, fun _ => h.2.2⟩

theorem opened_createInstance (s : Store) (m : NewInstance) : Opened s m (s.createInstance m).1.2 (s.createInstance m).2 := by
  refine ⟨stays_createInstance s m, ?_, ?_, createInstance_found s m⟩
  · rfl
  · rfl

theorem Opened.transition (h : Opened s m i t) (new : ContinuationState) (reason : String) :
    Opened s m (Store.movedTo new i) (t.transition i.id new reason).2 := by
  refine ⟨h.stays.trans (stays_transition t i.id new reason), h.outbox, h.satisfactions, ?_⟩
  rw [instanceOf_transition, h.found]
  simp

/-- The same instance, which has not ended unless it had before. -/
def SameEnd (i j : Instance) : Prop :=
  j.id = i.id ∧ j.toNewInstance = i.toNewInstance ∧ (j.state = i.state ∨ i.state.terminal = false ∧ j.state.terminal = false)

theorem movedTo_materializing {i : Instance} (h : i.state = .detected ∨ i.state = .failedRetryable) :
    SameEnd i (Store.movedTo .materializing i) := by
  have legal' : legal i.state .materializing := by rcases h with h | h <;> rw [h] <;> rfl
  unfold Store.movedTo
  rw [if_pos legal']
  refine ⟨rfl, rfl, .inr ⟨legal_not_terminal legal', rfl⟩⟩

theorem triple_enter {reason : String} {once : Tally → Prop} : Triple (tallied E) (On fun n t => once n ∧ Opened s m i t)
    (CodeFixHandler.enter i reason) (fun j => On fun n t => once n ∧ Opened s m j t ∧ SameEnd i j) X := by
  unfold CodeFixHandler.enter
  refine triple_ite (fun early => ?_) fun _ => triple_pure fun _ _ h => ⟨h.1, h.2, rfl, rfl, .inl rfl⟩
  refine triple_write (M := On fun n t => once n ∧ Opened s m (Store.movedTo .materializing i) t)
    (fun _ _ h => ⟨h.1, h.2.transition ..⟩) fun _ => triple_read fun t => ?_
  refine ⟨fun k t' h => ?_⟩
  obtain ⟨⟨counted, opened⟩, rfl⟩ := h
  have same := movedTo_materializing early
  have there := instanceOf_get opened.found
  rw [same.1] at there
  rw [there]
  exact ⟨counted, opened, same⟩

theorem Sealed.transition (h : Sealed s m i t) (new : ContinuationState) (reason : String) :
    Sealed s m (Store.movedTo new i) (t.transition i.id new reason).2 := by
  have sameId : (Store.movedTo new i).id = i.id := by
    unfold Store.movedTo
    split
    · rfl
    · rfl
  refine ⟨h.stays.trans (stays_transition t i.id new reason), h.outbox, h.unique, ?_, ?_⟩
  · rw [instanceOf_transition, h.found]
    simp
  · rw [sameId]
    exact h.satisfied

theorem movedTo_blockedInvalid (i : Instance) : (Store.movedTo .blockedInvalid i).id = i.id ∧
    (Store.movedTo .blockedInvalid i).toNewInstance = i.toNewInstance ∧
    (Store.movedTo .blockedInvalid i).state = quarantineState (some i) := by
  unfold Store.movedTo quarantineState legal
  cases ended : i.state.terminal with
  | true => simp [ended]
  | false => simp [ended]

/-- The quarantine, up to the callbacks. -/
theorem triple_quarantine {blockers categories : List String} {once : Tally → Prop} :
    Triple (tallied E) (On fun n t => once n ∧ Opened s m i t) (quarantine i blockers categories)
      (fun _ => On fun n t => once n ∧ Sealed s m (Store.movedTo .blockedInvalid i) t) X := by
  unfold quarantine recordSatisfaction
  refine triple_write (M := On fun n t => once n ∧ Sealed s m i t) (fun k t h => ?_) fun _ => ?_
  · obtain ⟨kept, at', unique⟩ := recordSatisfaction_kept t i.id "semantic_refusal"
      (.obj [("categories", .arr (categories.map .str)), ("blockers", .arr (blockers.map .str))]) "semantic_refusal_ack"
      (",".intercalate categories) ""
    refine ⟨h.1, h.2.stays.trans kept, h.2.outbox, fun before => unique ?_, h.2.found, at'⟩
    rw [h.2.satisfactions]
    exact before
  · refine triple_ite (fun _ => ?_) fun blocked => ?_
    · exact triple_write (fun _ _ h => ⟨h.1, h.2.transition ..⟩) fun _ => triple_return _
    · refine triple_pure fun _ _ h => ⟨h.1, ?_⟩
      have blocked : i.state = .blockedInvalid := by simpa using blocked
      have unmoved : Store.movedTo .blockedInvalid i = i := by simp [Store.movedTo, legal, blocked, ContinuationState.terminal]
      rw [unmoved]
      exact h.2

theorem quarantineState_of_same {i j : Instance} (h : SameEnd i j) : quarantineState (some j) = quarantineState (some i) := by
  obtain ⟨_, _, same | ⟨hi, hj⟩⟩ := h
  · simp only [quarantineState, same]
  · simp only [quarantineState, hi, hj, Bool.false_eq_true, if_false]

theorem quarantineState_created (s : Store) (m : NewInstance) :
    quarantineState (some (s.createInstance m).1.2) = quarantineState (s.instanceOf m) := by
  rcases s.createInstance_cases m with ⟨i, hi, he⟩ | ⟨absent, he⟩
  · rw [he, hi]
  · rw [he, absent]
    rfl

theorem triple_readState {id : Nat} {P : Tally → Store → Prop} (there : ∀ n t, P n t → ∃ i, t.getInstance id = some i) :
    Triple (tallied E) (On P) (readState id) (fun _ => On P) X := by
  refine triple_bind (triple_read fun t => ⟨fun k t' h => ?_⟩) fun _ => triple_pure fun _ _ h => h
  obtain ⟨holds, rfl⟩ := h
  obtain ⟨i, found⟩ := there k.2 t' holds
  rw [found]
  exact holds

/-- A refusal replay ends with its answer, asks for no task, and leaves the refusal behind. -/
theorem triple_materialize (e : OutcomeEnvelope) (a : Adapter) (blockers categories : List String) (s : Store) (c : Nat) :
    Triple (tallied E) (On fun n t => (OnceEach n s ∧ n.creates = c) ∧ t = s) (materialize e (some a) blockers categories)
      (fun _ => On fun n t => OnceEach n t ∧ n.creates = c ∧ Quarantined e s t) fun _ _ => False := by
  let started : Instance → Tally → Prop := fun i n => (OnceEach n s ∧ n.creates = c) ∧
    quarantineState (some i) = quarantineState (s.instanceOf e.toInstance)
  unfold materialize
  refine triple_txn (R := fun r : Bool × Instance => On fun n t => started r.2 n ∧ Opened s e.toInstance r.2 t)
    (fun k t h => ?_) fun r => ?_
  · obtain ⟨counted, rfl⟩ := h
    exact ⟨⟨counted, quarantineState_created t e.toInstance⟩, opened_createInstance t e.toInstance⟩
  refine triple_bind triple_enter fun i => ?_
  have entered : Triple (tallied E) (On fun n t => started r.2 n ∧ Opened s e.toInstance i t ∧ SameEnd r.2 i)
      (quarantine i blockers categories)
      (fun _ => On fun n t => started i n ∧ Sealed s e.toInstance (Store.movedTo .blockedInvalid i) t) fun _ _ => False :=
    triple_quarantine.of_imp fun _ _ h => ⟨⟨h.1.1, (quarantineState_of_same h.2.2).trans h.1.2⟩, h.2.1⟩
  refine triple_bind entered fun _ => ⟨fun k u h => ?_⟩
  obtain ⟨⟨⟨once, asked⟩, ends⟩, quarantined⟩ := h
  obtain ⟨sameId, sameNew, state⟩ := movedTo_blockedInvalid i
  have digest : stableDigest (Store.movedTo .blockedInvalid i) = stableDigest i :=
    (stableDigest_eq sameNew).trans (stableDigest_eq rfl).symm
  have start : Once (CallbackFrame c u) k.2 u := ⟨once.frame quarantined.outbox, asked, rfl, rfl, fun _ h => h⟩
  have called := @triple_callbacks ι E (fun _ _ => False) u a c (stableDigest i) e i.id
  refine (triple_bind called fun outcome => triple_bind (triple_readState fun n t h => ?_) fun _ =>
    triple_pure fun k t h => ⟨h.1, h.2.1.creates, ?_⟩).ends k u start
  · refine ⟨Store.movedTo .blockedInvalid i, ?_⟩
    rw [← sameId]
    unfold Store.getInstance
    rw [h.2.1.instances]
    exact instanceOf_get quarantined.found
  · have frame := h.2.1
    refine ⟨quarantined.stays.trans frame.stays, fun before => ?_, _, ?_, state.trans ends, ?_, ?_⟩
    · rw [frame.satisfactions]
      exact quarantined.unique before
    · unfold Store.instanceOf
      rw [frame.instances]
      exact quarantined.found
    · exact frame.stays.satisfied _ quarantined.satisfied
    · rw [digest]
      exact h.2.2

end

end AgentflowHermes
