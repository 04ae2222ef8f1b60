import AgentflowHermes.IngestRules
import AgentflowHermes.OwnerRoutes

namespace AgentflowHermes

open CrashProgram RowTable

/-- The board, the task and the event a continuation comes from. -/
def NewInstance.source (n : NewInstance) : String × String × String := (n.board, n.sourceTaskId, n.sourceEventId)

def SourceRef.source (c : SourceRef) : String × String × String := (c.board, c.sourceTaskId, c.eventId)

/-- No instance is lost, and none changes what it was created with. -/
def Kept (s t : Store) : Prop :=
  ∀ i ∈ s.instances.rows, ∃ j ∈ t.instances.rows, j.id = i.id ∧ j.toNewInstance = i.toNewInstance

/-- A create-task row of the continuation under this key. -/
def HasIntent (x : Nat) (key : String) (s : Store) : Prop :=
  ∃ o ∈ s.outbox.rows, o.continuationId = x ∧ o.operation = .createTask ∧ o.idempotencyKey = key

def HasStep (x : Nat) (kind : StepKind) (key : String) (s : Store) : Prop :=
  ∃ p ∈ s.steps.rows, p.continuationId = x ∧ p.stepKind = kind ∧ p.idempotencyKey = key

def HasReceipt (x : Nat) (s : Store) : Prop := ∃ r ∈ s.receipts.rows, r.continuationId = x

section

variable {s t u : Store} {x id : Nat} {key : String}

theorem Kept.refl (s : Store) : Kept s s := fun i hi => ⟨i, hi, rfl, rfl⟩

theorem Kept.trans (h : Kept s t) (h' : Kept t u) : Kept s u := fun i hi =>
  have ⟨j, hj, hid, same⟩ := h i hi
  have ⟨k, hk, hid', same'⟩ := h' j hj
  ⟨k, hk, hid'.trans hid, same'.trans same⟩

theorem kept_of_eq (h : t.instances = s.instances) : Kept s t := fun i hi => ⟨i, h ▸ hi, rfl, rfl⟩

theorem kept_createInstance (s : Store) (n : NewInstance) : Kept s (s.createInstance n).2 := by
  rcases s.createInstance_cases n with ⟨_, _, he⟩ | ⟨_, he⟩
  · rw [he]
    exact Kept.refl s
  · rw [he]
    exact fun i hi => ⟨i, List.mem_append_left _ hi, rfl, rfl⟩

theorem kept_transition (s : Store) (id : Nat) (new : ContinuationState) (reason : String) :
    Kept s (s.transition id new reason).2 := by
  rcases s.transition_cases id new reason with ⟨_, he⟩ | ⟨_, _, _, he⟩
  · rw [he]
    exact Kept.refl s
  · rw [he]
    intro i hi
    have mem := modified_mem (t := s.instances) (i := id) (f := fun i : Instance => { i with state := new }) hi
    refine ⟨_, mem, ?_⟩
    split
    · exact ⟨rfl, rfl⟩
    · exact ⟨rfl, rfl⟩

theorem hasIntent_enqueue (s : Store) (id : Nat) (n : Store.NewOutbox) : HasIntent x key (s.outboxEnqueue id n).2 ↔
    HasIntent x key s ∨
      x = id ∧ n.operation = .createTask ∧ n.idempotencyKey = key ∧ s.outboxOf n.idempotencyKey = none := by
  rcases s.outboxEnqueue_cases id n with ⟨o, hfound, he⟩ | ⟨hnone, he⟩
  · rw [he]
    simp [hfound]
  · rw [he]
    constructor
    · rintro ⟨o, ho, hx, hop, hk⟩
      rcases mem_insert ho with ho | rfl
      · exact .inl ⟨o, ho, hx, hop, hk⟩
      · exact .inr ⟨hx.symm, hop, hk, hnone⟩
    · rintro (⟨o, ho, h⟩ | ⟨hx, hop, hk, _⟩)
      · exact ⟨o, List.mem_append_left _ ho, h⟩
      · exact ⟨_, List.mem_append_right _ (List.mem_singleton_self _), hx.symm, hop, hk⟩

theorem hasIntent_mark (s : Store) (id : Nat) (state : OutboxState) (taskId : String) (next : Option Nat)
    (error : Option String) : HasIntent x key (s.outboxMark id state taskId next error).2 ↔ HasIntent x key s := by
  constructor
  · rintro ⟨o, ho, h⟩
    rcases mem_modify ho with ⟨ho, _⟩ | ⟨r, hr, _, rfl⟩
    · exact ⟨o, ho, h⟩
    · exact ⟨r, hr, h⟩
  · rintro ⟨o, ho, h⟩
    refine ⟨_, modified_mem (t := s.outbox) (i := id) (f := Store.markRow state taskId next error) ho, ?_⟩
    split
    · exact h
    · exact h

theorem hasIntent_reinterpret (s : Store) (id : Nat) (pre newKey : String) :
    HasIntent x key (s.outboxReinterpretPending id .subscribe pre .scheduleOriginWake newKey).2 ↔ HasIntent x key s := by
  rcases s.outboxReinterpretPending_cases id .subscribe pre .scheduleOriginWake newKey with he | ⟨o, ho, _, hsub, _, he⟩
  · rw [he]
  · rw [he]
    constructor
    · rintro ⟨r, hr, hx, hop, hk⟩
      rcases mem_modify hr with ⟨hr, _⟩ | ⟨r, hr, _, rfl⟩
      · exact ⟨r, hr, hx, hop, hk⟩
      · cases hop
    · rintro ⟨r, hr, hx, hop, hk⟩
      have hne : ¬Keyed.rowId r = o.id := by
        intro hid
        obtain rfl : r = o := rowId_inj hr ho hid
        rw [hsub] at hop
        cases hop
      have mem := modified_mem (t := s.outbox) (i := o.id)
        (f := fun o : OutboxRow => { o with operation := .scheduleOriginWake, idempotencyKey := newKey }) hr
      rw [if_neg hne] at mem
      exact ⟨r, mem, hx, hop, hk⟩

theorem hasStep_add (s : Store) (id : Nat) (kind : StepKind) (newKey taskId : String) (parent : Option Nat) {k : StepKind} :
    HasStep x k key (s.addStep id kind newKey taskId parent).2 ↔
      HasStep x k key s ∨ x = id ∧ kind = k ∧ newKey = key ∧ s.stepOf id newKey = none := by
  rcases s.addStep_cases id kind newKey taskId parent with ⟨p, hfound, he⟩ | ⟨hnone, he⟩
  · rw [he]
    simp [hfound]
  · rw [he]
    constructor
    · rintro ⟨p, hp, hx, hk, hkey⟩
      rcases mem_insert hp with hp | rfl
      · exact .inl ⟨p, hp, hx, hk, hkey⟩
      · exact .inr ⟨hx.symm, hk, hkey, hnone⟩
    · rintro (⟨p, hp, h⟩ | ⟨hx, hk, hkey, _⟩)
      · exact ⟨p, List.mem_append_left _ hp, h⟩
      · exact ⟨_, List.mem_append_right _ (List.mem_singleton_self _), hx.symm, hk, hkey⟩

theorem hasStep_mark (s : Store) (id : Nat) (state : Option StepState) (taskId : String) {k : StepKind} :
    HasStep x k key (s.markStep id state taskId).2 ↔ HasStep x k key s := by
  constructor
  · rintro ⟨p, hp, h⟩
    rcases mem_modify hp with ⟨hp, _⟩ | ⟨q, hq, _, rfl⟩
    · exact ⟨p, hp, h⟩
    · exact ⟨q, hq, h⟩
  · rintro ⟨p, hp, h⟩
    refine ⟨_, modified_mem (t := s.steps) (i := id) (f := fun p : Step =>
      { p with state := state.getD p.state, boardTaskId := Store.coalesce taskId p.boardTaskId }) hp, ?_⟩
    split
    · exact h
    · exact h

theorem hasReceipt_add (s : Store) (id : Nat) (owner : String) (fields : List (String × Json)) (ref : String)
    (supersedes : Option Nat) :
    HasReceipt x (s.addOwnerReceipt id owner fields ref supersedes).2 ↔ HasReceipt x s ∨ x = id := by
  constructor
  · rintro ⟨r, hr, hx⟩
    rcases mem_insert hr with hr | rfl
    · exact .inl ⟨r, hr, hx⟩
    · exact .inr hx.symm
  · rintro (⟨r, hr, hx⟩ | hx)
    · exact ⟨r, List.mem_append_left _ hr, hx⟩
    · exact ⟨_, List.mem_append_right _ (List.mem_singleton_self _), hx.symm⟩

end

/-- The records of a continuation are what they were. -/
structure RecordsKept (x : Nat) (s t : Store) : Prop where
  receipt : HasReceipt x t ↔ HasReceipt x s
  step : ∀ kind key, HasStep x kind key t ↔ HasStep x kind key s
  intent : ∀ key, HasIntent x key t ↔ HasIntent x key s

/-- The continuations of the source, and their records, are what they were. -/
structure Apart (src : String × String × String) (s t : Store) : Prop where
  instances : ∀ i : Instance, i.source = src → (i ∈ t.instances.rows ↔ i ∈ s.instances.rows)
  records : ∀ i ∈ s.instances.rows, i.source = src → RecordsKept i.id s t

section

variable {src : String × String × String} {s t u : Store} {x : Nat}

theorem RecordsKept.refl (x : Nat) (s : Store) : RecordsKept x s s := ⟨Iff.rfl, fun _ _ => Iff.rfl, fun _ => Iff.rfl⟩

theorem RecordsKept.trans (h : RecordsKept x s t) (h' : RecordsKept x t u) : RecordsKept x s u :=
  ⟨h'.receipt.trans h.receipt, fun kind key => (h'.step kind key).trans (h.step kind key),
    fun key => (h'.intent key).trans (h.intent key)⟩

theorem Apart.refl (src : String × String × String) (s : Store) : Apart src s s :=
  ⟨fun _ _ => Iff.rfl, fun i _ _ => RecordsKept.refl i.id s⟩

theorem Apart.trans (h : Apart src s t) (h' : Apart src t u) : Apart src s u :=
  ⟨fun i hi => (h'.instances i hi).trans (h.instances i hi),
    fun i hi hsrc => (h.records i hi hsrc).trans (h'.records i ((h.instances i hsrc).mpr hi) hsrc)⟩

/-- The instance is one of another source. -/
def Foreign (src : String × String × String) (id : Nat) (s : Store) : Prop :=
  ∃ j ∈ s.instances.rows, j.id = id ∧ j.source ≠ src

theorem Foreign.ne {id : Nat} (h : Foreign src id s) {i : Instance} (hi : i ∈ s.instances.rows) (hsrc : i.source = src) :
    i.id ≠ id := by
  obtain ⟨j, hj, rfl, hne⟩ := h
  intro hid
  obtain rfl : i = j := rowId_inj hi hj hid
  exact hne hsrc

theorem Foreign.kept {id : Nat} (h : Foreign src id s) (kept : Kept s t) : Foreign src id t := by
  obtain ⟨j, hj, hid, hne⟩ := h
  obtain ⟨k, hk, hkid, same⟩ := kept j hj
  exact ⟨k, hk, hkid.trans hid, fun hsrc => hne ((congrArg NewInstance.source same).symm.trans hsrc)⟩

theorem foreign_created (s : Store) {n : NewInstance} (hn : n.source ≠ src) :
    Foreign src (s.createInstance n).1.2.id (s.createInstance n).2 := by
  obtain ⟨hmem, hid⟩ := get?_eq_some.mp (s.createInstance_get n)
  refine ⟨_, hmem, rfl, fun hsrc => hn ?_⟩
  rcases s.createInstance_cases n with ⟨i, hi, he⟩ | ⟨_, he⟩
  · rw [he] at hsrc
    have tuple : i.tuple = n.tuple := by simpa using pred_of_find? hi
    have parts : i.source = n.source := congrArg (fun x => (x.1, x.2.1, x.2.2.1)) tuple
    exact parts.symm.trans hsrc
  · rw [he] at hsrc
    exact hsrc

/-- A write that leaves the instances alone is apart when the records are kept. -/
theorem apart_of_records (h : t.instances = s.instances)
    (records : ∀ i ∈ s.instances.rows, i.source = src → RecordsKept i.id s t) : Apart src s t :=
  ⟨fun i _ => by rw [h], records⟩

theorem recordsKept_eq (hr : t.receipts = s.receipts) (hp : t.steps = s.steps) (ho : t.outbox = s.outbox) :
    RecordsKept x s t := by
  refine ⟨?_, fun _ _ => ?_, fun _ => ?_⟩
  · unfold HasReceipt
    rw [hr]
  · unfold HasStep
    rw [hp]
  · unfold HasIntent
    rw [ho]

theorem apart_createInstance (s : Store) {n : NewInstance} (hn : n.source ≠ src) :
    Apart src s (s.createInstance n).2 := by
  rcases s.createInstance_cases n with ⟨_, _, he⟩ | ⟨_, he⟩
  · rw [he]
    exact Apart.refl src s
  · rw [he]
    refine ⟨fun i hsrc => ⟨fun hi => ?_, fun hi => List.mem_append_left _ hi⟩, fun _ _ _ => recordsKept_eq rfl rfl rfl⟩
    rcases mem_insert hi with hi | rfl
    · exact hi
    · exact absurd hsrc hn

theorem apart_transition {id : Nat} (h : Foreign src id s) (new : ContinuationState) (reason : String) :
    Apart src s (s.transition id new reason).2 := by
  rcases s.transition_cases id new reason with ⟨_, he⟩ | ⟨_, _, _, he⟩
  · rw [he]
    exact Apart.refl src s
  · rw [he]
    refine ⟨fun i hsrc => ⟨fun hi => ?_, fun hi => ?_⟩, fun _ _ _ => recordsKept_eq rfl rfl rfl⟩
    · rcases mem_modify hi with ⟨hold, _⟩ | ⟨j, hj, hid, rfl⟩
      · exact hold
      · exact absurd hid (h.ne hj hsrc)
    · have mem := modified_mem (t := s.instances) (i := id) (f := fun i : Instance => { i with state := new }) hi
      rwa [if_neg (show ¬Keyed.rowId i = id from h.ne hi hsrc)] at mem

theorem recordsKept_addStep {id : Nat} (hne : x ≠ id) (s : Store) (kind : StepKind) (key taskId : String)
    (parent : Option Nat) : RecordsKept x s (s.addStep id kind key taskId parent).2 :=
  ⟨Iff.rfl, fun _ _ => (hasStep_add s ..).trans (or_iff_left fun h => hne h.1), fun _ => Iff.rfl⟩

theorem recordsKept_markStep (s : Store) (id : Nat) (state : Option StepState) (taskId : String) :
    RecordsKept x s (s.markStep id state taskId).2 :=
  ⟨Iff.rfl, fun _ _ => hasStep_mark s .., fun _ => Iff.rfl⟩

theorem recordsKept_receipt {id : Nat} (hne : x ≠ id) (s : Store) (owner : String) (fields : List (String × Json))
    (ref : String) (supersedes : Option Nat) : RecordsKept x s (s.addOwnerReceipt id owner fields ref supersedes).2 :=
  ⟨(hasReceipt_add s ..).trans (or_iff_left hne), fun _ _ => Iff.rfl, fun _ => Iff.rfl⟩

theorem recordsKept_enqueue {id : Nat} (s : Store) {n : Store.NewOutbox} (hne : x = id → n.operation ≠ .createTask) :
    RecordsKept x s (s.outboxEnqueue id n).2 :=
  ⟨Iff.rfl, fun _ _ => Iff.rfl, fun _ => (hasIntent_enqueue s id n).trans (or_iff_left fun h => hne h.1 h.2.1)⟩

theorem recordsKept_mark (s : Store) (id : Nat) (state : OutboxState) (taskId : String) (next : Option Nat)
    (error : Option String) : RecordsKept x s (s.outboxMark id state taskId next error).2 :=
  ⟨Iff.rfl, fun _ _ => Iff.rfl, fun _ => hasIntent_mark s ..⟩

theorem recordsKept_reinterpret (s : Store) (id : Nat) (pre key : String) :
    RecordsKept x s (s.outboxReinterpretPending id .subscribe pre .scheduleOriginWake key).2 :=
  ⟨Iff.rfl, fun _ _ => Iff.rfl, fun _ => hasIntent_reinterpret s ..⟩

end

/-- Work on continuations of other sources, from the store `s₀` on. -/
def apartTerms (ok : ∀ q, Response q → Prop) (src : String × String × String) (s₀ : Store) : Terms where
  ok := ok
  inv := Apart src s₀
  may _ _ := True
  guar := Kept

def otherSources (src : String × String × String) : Permits where
  creates n := n.source ≠ src
  own := Foreign src
  moves := True
  step _ := True
  enqueue _ := True
  receipts := True

theorem otherSources_open (src : String × String × String) : (otherSources src).Open where
  moves := trivial
  step _ := trivial
  enqueue _ := trivial
  receipts := trivial

section

variable {ok : ∀ q, Response q → Prop} {src : String × String × String} {s₀ : Store}

theorem apart_write {s t : Store} (hs : Apart src s₀ s) (instances : t.instances = s.instances)
    (records : ∀ i ∈ s.instances.rows, i.source = src → RecordsKept i.id s t) :
    (apartTerms ok src s₀).guar s t ∧ (apartTerms ok src s₀).inv t :=
  ⟨kept_of_eq instances, hs.trans (apart_of_records instances records)⟩

theorem stable_foreign (id : Nat) : Stable (apartTerms ok src s₀) (Foreign src id) :=
  ⟨fun _ _ _ kept _ h => h.kept kept⟩

theorem outboxTerms_apart : OutboxTerms (apartTerms ok src s₀) (Foreign src) fun _ => True where
  may _ _ _ _ _ := trivial
  enqueue _ _ s _ own hs := apart_write hs rfl fun _ hi hsrc =>
    recordsKept_enqueue s fun hid => absurd hid (own.ne hi hsrc)
  mark _ _ _ _ _ _ hs := apart_write hs rfl fun _ _ _ => recordsKept_mark ..
  reinterpret _ _ _ _ hs := apart_write hs rfl fun _ _ _ => recordsKept_reinterpret ..

theorem handlerTerms_apart : HandlerTerms (apartTerms ok src s₀) (otherSources src) where
  stable := stable_foreign
  create n s hn hs := ⟨kept_createInstance s n, Apart.trans hs (apart_createInstance s hn), foreign_created s hn⟩
  move id new reason s _ own hs := ⟨kept_transition s id new reason, Apart.trans hs (apart_transition own new reason)⟩
  addStep _ _ _ _ _ s _ own hs := apart_write hs rfl fun _ hi hsrc => recordsKept_addStep (own.ne hi hsrc) s ..
  markStep _ _ _ _ hs := apart_write hs rfl fun _ _ _ => recordsKept_markStep ..
  receipt _ _ _ _ s _ own hs :=
    .intro (apart_write hs rfl fun _ hi hsrc => recordsKept_receipt (own.ne hi hsrc) s ..) trivial
  other _ _ hs same := apart_write hs same.instances fun _ _ _ => recordsKept_eq same.receipts same.steps same.outbox
  apply id n adapter _ _ := outboxTerms_apart.safe_applyBoardOperation id n adapter trivial
  wake id taskId endpoint digest a _ _ _ :=
    outboxTerms_apart.safe_ensureOriginWake stable_foreign id taskId endpoint digest a trivial

/-- An event of another source. -/
theorem safe_routeEvent_apart {T : PyText} {cfg : IngestConfig} {ev : BoardEvent}
    (other : (eventSource cfg ev).source ≠ src) :
    Safe (apartTerms ok src s₀) (fun _ => True) (routeEvent T cfg ev) := by
  refine handlerTerms_apart.whole ((otherSources_open src).routeEvent T cfg ev fun c hc ref => ?_)
  show c.envelope.toSourceRef.source ≠ src
  rw [compileEvent_source hc]
  exact other

theorem routeEvent_apart {T : PyText} {cfg : IngestConfig} {ev : BoardEvent} {s t : Store}
    {tr : List (Act Request Store)} {o : Option (Except String Routed)}
    (other : (eventSource cfg ev).source ≠ src) (e : Exec ok (routeEvent T cfg ev) s tr o t) : Apart src s t :=
  ((safe_routeEvent_apart other).exec (Apart.refl src s) trivial e).2

end

end AgentflowHermes
