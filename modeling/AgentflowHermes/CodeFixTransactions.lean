import AgentflowHermes.CodeFixProgress

namespace AgentflowHermes

open CrashProgram RowTable

namespace CodeFixJob

variable {J : CodeFixJob} {s : Store}

/-- Later steps extend earlier ones: same ids, and what is applied stays applied. -/
def StepsKept (J : CodeFixJob) (steps steps' : Table Step) : Prop :=
  ∀ key p, J.StepAt steps key p → ∃ p', J.StepAt steps' key p' ∧ p'.id = p.id ∧ (p.state = .applied → p'.state = .applied)

theorem RowOk.mono {steps steps' : Table Step} {o : OutboxRow} (h : J.RowOk steps o) (kept : J.StepsKept steps steps') :
    J.RowOk steps' o where
  fix hk := by
    obtain ⟨hc, ho, hp, ⟨p, hstep, hid⟩, hs⟩ := h.fix hk
    obtain ⟨p', hstep', hid', _⟩ := kept _ p hstep
    exact ⟨hc, ho, hp, ⟨p', hstep', by rw [hid, hid']⟩, hs⟩
  review hk := by
    obtain ⟨hc, ho, hp, ⟨p, hstep, hid⟩, hs⟩ := h.review hk
    obtain ⟨p', hstep', hid', _⟩ := kept _ p hstep
    exact ⟨hc, ho, hp, ⟨p', hstep', by rw [hid, hid']⟩, hs⟩
  subscribe := h.subscribe
  ack := h.ack
  other := h.other

theorem Done.mono {steps steps' : Table Step} {outbox outbox' : Table OutboxRow} (h : J.Done steps outbox)
    (kept : J.StepsKept steps steps') (rows : RowApplied outbox J.subscribe → RowApplied outbox' J.subscribe) :
    J.Done steps' outbox' := by
  have carry : ∀ key, (∃ p, J.StepAt steps key p ∧ p.state = .applied) → ∃ p, J.StepAt steps' key p ∧ p.state = .applied := by
    rintro key ⟨p, hp, ha⟩
    obtain ⟨p', hp', _, ha'⟩ := kept key p hp
    exact ⟨p', hp', ha' ha⟩
  exact ⟨carry _ h.fix, carry _ h.review, fun he => rows (h.subscribe he)⟩

theorem Live.mono {s t : Store} {state : ContinuationState} (h : J.Live s state) (done : J.Done s.steps s.outbox → J.Done t.steps t.outbox) :
    J.Live t state := by
  rcases h with h | h | h | ⟨h, hd⟩
  · exact .inl h
  · exact .inr (.inl h)
  · exact .inr (.inr (.inl h))
  · exact .inr (.inr (.inr ⟨h, done hd⟩))

theorem stepsKept_refl (steps : Table Step) : J.StepsKept steps steps := fun _ p hp => ⟨p, hp, rfl, id⟩

/-- A mark takes no applied row of the graph back. -/
theorem rowApplied_mark {outbox : Table OutboxRow} {x : OutboxRow} {key : String} {f : OutboxRow → OutboxRow}
    (keeps : ∀ r, Keyed.rowId (f r) = Keyed.rowId r) (hx : x ∈ outbox.rows)
    (kept : x.state = .applied → x.idempotencyKey ≠ key) (h : RowApplied outbox key) :
    RowApplied (outbox.modify x.id f keeps) key := by
  obtain ⟨o, ho, hk, ha⟩ := h
  refine ⟨o, ?_, hk, ha⟩
  have hne : o.id ≠ x.id := by
    intro he
    obtain rfl : o = x := rowId_inj ho hx he
    exact kept ha hk
  have mem := modified_mem (t := outbox) (i := x.id) (f := f) ho
  rwa [if_neg (show ¬Keyed.rowId o = x.id from hne)] at mem

/-- An attempt on a row that is not applied, or on the ACK. -/
theorem Progress.mark (h : J.Progress s) {x : OutboxRow} (hx : x ∈ s.outbox.rows) (state : OutboxState)
    (taskId : String) (next : Option Nat) (error : Option String)
    (ok : J.RowOk s.steps (Store.markRow state taskId next error x))
    (kept : x.state = .applied → x.idempotencyKey = J.ack) :
    J.Progress (s.outboxMark x.id state taskId next error).2 := by
  have applied : ∀ key, key ≠ J.ack → RowApplied s.outbox key →
      RowApplied (s.outboxMark x.id state taskId next error).2.outbox key := fun key hne hr =>
    rowApplied_mark (Store.markRow_rowId state taskId next error) hx (fun ha he => hne (he.symm.trans (kept ha))) hr
  have done : J.Done s.steps s.outbox → J.Done s.steps (s.outboxMark x.id state taskId next error).2.outbox := fun hd =>
    hd.mono (stepsKept_refl _) (applied _ J.subscribe_ne_ack)
  exact {
    rowKeys := by
      refine h.rowKeys.modify ?_
      exact fun _ _ => rfl
    stepKeys := h.stepKeys
    tuples := h.tuples
    stage := h.stage.imp id fun ⟨i, hi, hid, hn, hl⟩ => ⟨i, hi, hid, hn, hl.mono done⟩
    fix := fun p hp => by
      obtain ⟨hk, hpar, hs⟩ := h.fix p hp
      exact ⟨hk, hpar, hs.mono (applied _ J.fix_ne_ack)⟩
    review := fun p hp => by
      obtain ⟨hk, hpar, hs⟩ := h.review p hp
      exact ⟨hk, hpar, hs.mono (applied _ J.review_ne_ack)⟩
    steps := h.steps
    first := h.first
    rows := fun o ho => by
      rcases mem_modify ho with ⟨ho, _⟩ | ⟨r, hr, hid, rfl⟩
      · exact h.rows o ho
      · obtain rfl : r = x := rowId_inj hr hx hid
        exact ok }

/-- Enqueueing one of the rows of the graph. -/
theorem Progress.enqueue (h : J.Progress s) (n : Store.NewOutbox)
    (ok : ∀ id, J.RowOk s.steps (n.row J.instanceId id)) :
    J.Progress (s.outboxEnqueue J.instanceId n).2 ∧
      (s.outboxEnqueue J.instanceId n).1.2 ∈ (s.outboxEnqueue J.instanceId n).2.outbox.rows ∧
      (s.outboxEnqueue J.instanceId n).1.2.idempotencyKey = n.idempotencyKey := by
  rcases s.outboxEnqueue_cases J.instanceId n with ⟨o, ho, he⟩ | ⟨hnone, he⟩
  · rw [he]
    exact ⟨h, mem_of_find? ho, by simpa using pred_of_find? ho⟩
  · rw [he]
    have applied : ∀ key, RowApplied s.outbox key → RowApplied (s.outbox.insert (n.row J.instanceId)) key := by
      rintro key ⟨o, ho, hk, ha⟩
      exact ⟨o, List.mem_append_left _ ho, hk, ha⟩
    refine ⟨?_, List.mem_append_right _ (List.mem_singleton_self _), rfl⟩
    exact {
      rowKeys := h.rowKeys.insert fun r hr => by
        have fresh := find?_none hnone r hr
        simpa [Store.NewOutbox.row] using fresh
      stepKeys := h.stepKeys
      tuples := h.tuples
      stage := h.stage.imp id fun ⟨i, hi, hid, hn, hl⟩ =>
        ⟨i, hi, hid, hn, hl.mono fun hd => hd.mono (stepsKept_refl _) (applied _)⟩
      fix := fun p hp => by
        obtain ⟨hk, hpar, hs⟩ := h.fix p hp
        exact ⟨hk, hpar, hs.mono (applied _)⟩
      review := fun p hp => by
        obtain ⟨hk, hpar, hs⟩ := h.review p hp
        exact ⟨hk, hpar, hs.mono (applied _)⟩
      steps := h.steps
      first := h.first
      rows := fun o ho => by
        rcases mem_insert ho with ho | rfl
        · exact h.rows o ho
        · exact ok _ }

theorem stepsKept_insert {t : Table Step} {f : Nat → Step} {h : ∀ n, Keyed.rowId (f n) = n} :
    J.StepsKept t (t.insert f h) :=
  fun _ p hp => ⟨p, ⟨List.mem_append_left _ hp.1, hp.2⟩, rfl, id⟩

/-- Adding the fix step, or the review step once the fix task exists. -/
theorem Progress.addStep (h : J.Progress s) (kind : StepKind) (key : String) (parent : Option Nat)
    (ours : key = J.fix ∨ key = J.review) (fix : key = J.fix → kind = .codeFix ∧ parent = none)
    (review : key = J.review → kind = .review ∧
      ∃ f, J.StepAt s.steps J.fix f ∧ f.state = .applied ∧ parent = some f.id) :
    J.Progress (s.addStep J.instanceId kind key "" parent).2 ∧
      J.StepAt (s.addStep J.instanceId kind key "" parent).2.steps key (s.addStep J.instanceId kind key "" parent).1.2 ∧
      J.StepsKept s.steps (s.addStep J.instanceId kind key "" parent).2.steps := by
  rcases s.addStep_cases J.instanceId kind key "" parent with ⟨p, hp, he⟩ | ⟨hnone, he⟩
  · rw [he]
    have found := pred_of_find? hp
    simp only [Bool.and_eq_true, beq_iff_eq] at found
    exact ⟨h, ⟨mem_of_find? hp, found⟩, stepsKept_refl _⟩
  · rw [he]
    have absent : ∀ p ∈ s.steps.rows, p.continuationId = J.instanceId → p.idempotencyKey ≠ key := by
      intro p hp hc hk
      have := find?_none hnone p hp
      simp [hc, hk] at this
    have kept := stepsKept_insert (J := J) (t := s.steps)
      (f := fun n => ⟨n, J.instanceId, kind, .pending, "", parent, key⟩) (h := fun _ => rfl)
    refine ⟨?_, ⟨List.mem_append_right _ (List.mem_singleton_self _), rfl, rfl⟩, kept⟩
    exact {
      rowKeys := h.rowKeys
      stepKeys := h.stepKeys.insert fun p hp he => by
        obtain ⟨hc, hk⟩ := Prod.mk.inj he
        exact absent p hp hc hk
      tuples := h.tuples
      stage := h.stage.imp id fun ⟨i, hi, hid, hn, hl⟩ => ⟨i, hi, hid, hn, hl.mono fun hd => hd.mono kept id⟩
      fix := fun p hp => by
        obtain ⟨hmem, hc, hk⟩ := hp
        rcases mem_insert hmem with hmem | rfl
        · exact h.fix p ⟨hmem, hc, hk⟩
        · obtain ⟨hkind, hpar⟩ := fix hk
          exact ⟨hkind, hpar, .inl ⟨rfl, rfl⟩⟩
      review := fun p hp => by
        obtain ⟨hmem, hc, hk⟩ := hp
        have carry : ∀ {q : Step}, (∃ f, J.StepAt s.steps J.fix f ∧ f.state = .applied ∧ q.parentStepId = some f.id) →
            ∃ f, J.StepAt (s.steps.insert fun n => ⟨n, J.instanceId, kind, .pending, "", parent, key⟩) J.fix f ∧
              f.state = .applied ∧ q.parentStepId = some f.id := by
          rintro q ⟨f, hf, ha, hpar⟩
          obtain ⟨f', hf', hid, ha'⟩ := kept _ f hf
          exact ⟨f', hf', ha' ha, by rw [hpar, hid]⟩
        rcases mem_insert hmem with hmem | rfl
        · obtain ⟨hkind, hpar, hs⟩ := h.review p ⟨hmem, hc, hk⟩
          exact ⟨hkind, carry hpar, hs⟩
        · obtain ⟨hkind, hpar⟩ := review hk
          exact ⟨hkind, carry hpar, .inl ⟨rfl, rfl⟩⟩
      steps := fun p hp hc => by
        rcases mem_insert hp with hp | rfl
        · exact h.steps p hp hc
        · exact ⟨h.first.2, ours⟩
      first := ⟨h.first.1, Nat.le_succ_of_le h.first.2⟩
      rows := fun o ho => (h.rows o ho).mono kept }

/-- Recording a created task on its step, or touching a step of another instance. -/
theorem Progress.markStep (h : J.Progress s) (id : Nat) (taskId : String)
    (ok : ∀ key p, J.StepAt s.steps key p → p.id = id → taskId = J.taskFor key ∧ RowApplied s.outbox key) :
    J.Progress (s.markStep id (some .applied) taskId).2 ∧
      J.StepsKept s.steps (s.markStep id (some .applied) taskId).2.steps := by
  have kept : J.StepsKept s.steps (s.markStep id (some .applied) taskId).2.steps := by
    intro key p hp
    have mem := modified_mem (t := s.steps) (i := id)
      (f := fun p : Step => { p with state := .applied, boardTaskId := Store.coalesce taskId p.boardTaskId }) hp.1
    by_cases hid : p.id = id
    · rw [if_pos (show Keyed.rowId p = id from hid)] at mem
      exact ⟨_, ⟨mem, hp.2⟩, rfl, fun _ => rfl⟩
    · rw [if_neg (show ¬Keyed.rowId p = id from hid)] at mem
      exact ⟨p, ⟨mem, hp.2⟩, rfl, fun ha => ha⟩
  have settled : ∀ key p, J.StepAt s.steps key p → p.id = id → StepSettles p (J.taskFor key) (RowApplied s.outbox key) →
      StepSettles { p with state := .applied, boardTaskId := Store.coalesce taskId p.boardTaskId } (J.taskFor key)
        (RowApplied s.outbox key) := by
    intro key p hp hid hs
    obtain ⟨htask, happ⟩ := ok key p hp hid
    refine .inr ⟨rfl, ?_, happ⟩
    show (if taskId = "" then p.boardTaskId else taskId) = J.taskFor key
    split
    next ht =>
      rcases hs with ⟨_, hb⟩ | ⟨_, hb, _⟩
      · rw [hb, ← htask, ht]
      · exact hb
    next => exact htask
  refine ⟨?_, kept⟩
  exact {
    rowKeys := h.rowKeys
    stepKeys := by
      refine h.stepKeys.modify ?_
      exact fun _ _ => rfl
    tuples := h.tuples
    stage := h.stage.imp (fun hn => hn) fun ⟨i, hi, hid, hn, hl⟩ => ⟨i, hi, hid, hn, hl.mono fun hd => hd.mono kept fun hr => hr⟩
    fix := fun p hp => by
      obtain ⟨hmem, hc, hk⟩ := hp
      rcases mem_modify hmem with ⟨hmem, _⟩ | ⟨q, hq, hid, rfl⟩
      · exact h.fix p ⟨hmem, hc, hk⟩
      · obtain ⟨hkind, hpar, hs⟩ := h.fix q ⟨hq, hc, hk⟩
        exact ⟨hkind, hpar, settled _ q ⟨hq, hc, hk⟩ hid hs⟩
    review := fun p hp => by
      obtain ⟨hmem, hc, hk⟩ := hp
      have carry : ∀ {q : Step}, (∃ f, J.StepAt s.steps J.fix f ∧ f.state = .applied ∧ q.parentStepId = some f.id) →
          ∃ f, J.StepAt (s.markStep id (some .applied) taskId).2.steps J.fix f ∧
            f.state = .applied ∧ q.parentStepId = some f.id := by
        rintro q ⟨f, hf, ha, hpar⟩
        obtain ⟨f', hf', hid, ha'⟩ := kept _ f hf
        exact ⟨f', hf', ha' ha, by rw [hpar, hid]⟩
      rcases mem_modify hmem with ⟨hmem, _⟩ | ⟨q, hq, hid, rfl⟩
      · obtain ⟨hkind, hpar, hs⟩ := h.review p ⟨hmem, hc, hk⟩
        exact ⟨hkind, carry hpar, hs⟩
      · obtain ⟨hkind, hpar, hs⟩ := h.review q ⟨hq, hc, hk⟩
        exact ⟨hkind, carry hpar, settled _ q ⟨hq, hc, hk⟩ hid hs⟩
    steps := fun p hp hc => by
      rcases mem_modify hp with ⟨hp, _⟩ | ⟨q, hq, _, rfl⟩
      · exact h.steps p hp hc
      · exact h.steps q hq hc
    first := h.first
    rows := fun o ho => (h.rows o ho).mono kept }

/-- The row of the instance, once it exists. -/
def InstanceIs (J : CodeFixJob) (s : Store) (i : Instance) : Prop :=
  i ∈ s.instances.rows ∧ i.id = J.instanceId ∧ i.toNewInstance = J.envelope.toInstance

theorem InstanceIs.get (h : J.InstanceIs s i) : s.getInstance J.instanceId = some i :=
  get?_eq_some.mpr ⟨h.1, h.2.1⟩

/-- A move of the instance; WAITING_REVIEW is only entered over a complete graph. -/
theorem Progress.transition (h : J.Progress s) (new : ContinuationState) (reason : String)
    (live : J.Live s new) : J.Progress (s.transition J.instanceId new reason).2 := by
  rcases s.transition_cases J.instanceId new reason with ⟨_, he⟩ | ⟨row, hrow, hl, he⟩
  · rw [he]
    exact h
  · rw [he]
    obtain ⟨hmem, hid⟩ := get?_eq_some.mp hrow
    exact {
      rowKeys := h.rowKeys
      stepKeys := h.stepKeys
      tuples := fun i hi ht => by
        rcases mem_modify hi with ⟨hi, _⟩ | ⟨j, hj, hjid, rfl⟩
        · exact h.tuples i hi ht
        · exact hjid
      stage := by
        rcases h.stage with hn | ⟨i, hi, hiid, hn, _⟩
        · have := s.instances.below row hmem
          omega
        · refine .inr ⟨{ i with state := new }, ?_, hiid, hn, live.mono fun hd => hd⟩
          have mem := modified_mem (t := s.instances) (i := J.instanceId)
            (f := fun i : Instance => { i with state := new }) hi
          rwa [if_pos (show Keyed.rowId i = J.instanceId from hiid)] at mem
      fix := h.fix
      review := h.review
      steps := h.steps
      first := h.first
      rows := h.rows }

/-- The instance of the event is created once, under the id the job names. -/
theorem Progress.createInstance (h : J.Progress s) :
    J.Progress (s.createInstance J.envelope.toInstance).2 ∧
      J.InstanceIs (s.createInstance J.envelope.toInstance).2 (s.createInstance J.envelope.toInstance).1.2 ∧
      J.Live (s.createInstance J.envelope.toInstance).2 (s.createInstance J.envelope.toInstance).1.2.state := by
  rcases s.createInstance_cases J.envelope.toInstance with ⟨i, hi, he⟩ | ⟨hnone, he⟩
  · rw [he]
    have hmem := mem_of_find? hi
    have hid := h.tuples i hmem (by simpa using pred_of_find? hi)
    rcases h.stage with hn | ⟨j, hj, hjid, hjn, hl⟩
    · have := s.instances.below i hmem
      simp only [rowId_instance] at this
      omega
    · obtain rfl : i = j := rowId_inj hmem hj (hid.trans hjid.symm)
      exact ⟨h, ⟨hmem, hid, hjn⟩, hl⟩
  · rw [he]
    have absent : ∀ i ∈ s.instances.rows, i.tuple ≠ J.envelope.toInstance.tuple := fun i hi => by
      simpa using find?_none hnone i hi
    have hnext : s.instances.next = J.instanceId := by
      rcases h.stage with hn | ⟨i, hi, _, hn, _⟩
      · exact hn
      · exact absurd (by rw [hn]) (absent i hi)
    have added := List.mem_append_right s.instances.rows
      (List.mem_singleton_self ({ J.envelope.toInstance with id := s.instances.next, state := .detected } : Instance))
    refine ⟨?_, ⟨added, hnext, rfl⟩, .inl rfl⟩
    exact {
      rowKeys := h.rowKeys
      stepKeys := h.stepKeys
      tuples := fun i hi ht => by
        rcases mem_insert hi with hi | rfl
        · exact absurd ht (absent i hi)
        · exact hnext
      stage := .inr ⟨_, added, hnext, rfl, .inl rfl⟩
      fix := h.fix
      review := h.review
      steps := h.steps
      first := h.first
      rows := h.rows }

/-- What a mark leaves alone. -/
theorem RowOk.marked {steps : Table Step} {o : OutboxRow} (h : J.RowOk steps o) {state : OutboxState} {taskId : String}
    {next : Option Nat} {error : Option String}
    (settled : ∀ key, o.idempotencyKey = key → key = J.fix ∨ key = J.review →
      RowSettles (Store.markRow state taskId next error o) (J.taskFor key))
    (alive : o.idempotencyKey = J.subscribe → state ≠ .callbackDeadletter) :
    J.RowOk steps (Store.markRow state taskId next error o) where
  fix hk := by
    obtain ⟨hc, ho, hp, hs, _⟩ := h.fix hk
    exact ⟨hc, ho, hp, hs, settled _ hk (.inl rfl)⟩
  review hk := by
    obtain ⟨hc, ho, hp, hs, _⟩ := h.review hk
    exact ⟨hc, ho, hp, hs, settled _ hk (.inr rfl)⟩
  subscribe hk := by
    obtain ⟨hc, he, ho, hp, hs, _⟩ := h.subscribe hk
    exact ⟨hc, he, ho, hp, hs, alive hk⟩
  ack := h.ack
  other := h.other

/-- A row of the graph that is retried later. -/
theorem RowOk.settles_pending {steps : Table Step} {o : OutboxRow} (h : J.RowOk steps o) (live : o.state ≠ .applied)
    {next : Option Nat} {error : Option String} {key : String} (hk : o.idempotencyKey = key)
    (ours : key = J.fix ∨ key = J.review) : RowSettles (Store.markRow .pending "" next error o) (J.taskFor key) := by
  have hs : RowSettles o (J.taskFor key) := by
    rcases ours with rfl | rfl
    · exact (h.fix hk).2.2.2.2
    · exact (h.review hk).2.2.2.2
  rcases hs with ⟨_, hb⟩ | ⟨ha, _⟩
  · exact .inl ⟨rfl, hb⟩
  · exact absurd ha live

/-- A row of the graph whose task was created. -/
theorem settles_applied (o : OutboxRow) (key : String) :
    RowSettles (Store.markRow .applied (J.taskFor key) none none o) (J.taskFor key) := by
  refine .inr ⟨rfl, ?_⟩
  show (if J.taskFor key = "" then o.boardTaskId else J.taskFor key) = J.taskFor key
  rw [if_neg (J.created key)]

end CodeFixJob

end AgentflowHermes
