import AgentflowHermes.IngestCursor
import AgentflowHermes.SourceFrames

namespace AgentflowHermes

open CrashProgram RowTable

/-- The instances and the receipts are what they were. -/
structure Calm (s t : Store) : Prop where
  instances : t.instances = s.instances
  receipt : ∀ x, HasReceipt x t ↔ HasReceipt x s

/-- The task intents are what they were as well. -/
structure Quiet (s t : Store) : Prop extends Calm s t where
  intent : ∀ x key, HasIntent x key t ↔ HasIntent x key s

theorem Calm.refl (s : Store) : Calm s s := ⟨rfl, fun _ => Iff.rfl⟩

theorem Calm.trans {s t u : Store} (h : Calm s t) (h' : Calm t u) : Calm s u :=
  ⟨h'.instances.trans h.instances, fun x => (h'.receipt x).trans (h.receipt x)⟩

theorem Quiet.refl (s : Store) : Quiet s s := ⟨Calm.refl s, fun _ _ => Iff.rfl⟩

theorem Quiet.trans {s t u : Store} (h : Quiet s t) (h' : Quiet t u) : Quiet s u :=
  ⟨h.toCalm.trans h'.toCalm, fun x key => (h'.intent x key).trans (h.intent x key)⟩

theorem SameRecords.refl (s : Store) : SameRecords s s := ⟨rfl, rfl, rfl, rfl, rfl⟩

theorem SameRecords.trans {s t u : Store} (h : SameRecords s t) (h' : SameRecords t u) : SameRecords s u :=
  ⟨h'.instances.trans h.instances, h'.steps.trans h.steps, h'.receipts.trans h.receipts, h'.outbox.trans h.outbox,
    h'.cursors.trans h.cursors⟩

theorem quiet_of_records {s t : Store} (h : t.instances = s.instances) (records : ∀ x, RecordsKept x s t) : Quiet s t :=
  ⟨⟨h, fun x => (records x).receipt⟩, fun x => (records x).intent⟩

theorem SameRecords.quiet {s t : Store} (h : SameRecords s t) : Quiet s t :=
  quiet_of_records h.instances fun _ => recordsKept_eq h.receipts h.steps h.outbox

/-- Every commit stays in a relation. -/
def relationTerms (ok : ∀ q, Response q → Prop) (R : Store → Store → Prop) : Terms where
  ok := ok
  inv _ := True
  may _ _ := True
  guar := R

def outboxPermits (allowed : Store.NewOutbox → Prop) : Permits where
  creates _ := False
  own _ _ := True
  moves := False
  step _ := True
  enqueue := allowed
  receipts := False
  wakes := False

section

variable {ok : ∀ q, Response q → Prop}

/-- Work on steps and outbox rows that moves no instance. -/
theorem handlerTerms_relation {R : Store → Store → Prop} {allowed : Store.NewOutbox → Prop}
    (quiet : ∀ s t, Quiet s t → R s t) (enqueue : ∀ id n s, allowed n → R s (s.outboxEnqueue id n).2) :
    OutboxTerms (relationTerms ok R) (fun _ _ => True) allowed ∧
      HandlerTerms (relationTerms ok R) (outboxPermits allowed) := by
  have outbox : OutboxTerms (relationTerms ok R) (fun _ _ => True) allowed := {
    may := fun _ _ _ _ _ => trivial
    enqueue := fun id n s hn _ _ => ⟨enqueue id n s hn, trivial⟩
    mark := fun _ _ _ _ _ s _ => ⟨quiet _ _ (quiet_of_records rfl fun _ => recordsKept_mark ..), trivial⟩
    reinterpret := fun _ _ _ s _ => ⟨quiet _ _ (quiet_of_records rfl fun _ => recordsKept_reinterpret ..), trivial⟩ }
  refine ⟨outbox, ?_⟩
  exact {
    other := fun s t _ same => ⟨quiet s t same.quiet, trivial⟩
    stable := fun _ => stable_true
    create := fun _ _ hn => hn.elim
    move := fun _ _ _ _ hm => hm.elim
    addStep := fun _ _ _ _ _ s _ _ _ => ⟨quiet _ _ ⟨⟨rfl, fun _ => Iff.rfl⟩, fun _ _ => Iff.rfl⟩, trivial⟩
    markStep := fun _ _ s _ _ => ⟨quiet _ _ (quiet_of_records rfl fun _ => recordsKept_markStep ..), trivial⟩
    receipt := fun _ _ _ _ _ hr => hr.elim
    apply := fun id n adapter hn _ => outbox.safe_applyBoardOperation id n adapter hn
    wake := fun _ _ _ _ _ hw => hw.elim }

theorem handlerTerms_calm : OutboxTerms (relationTerms ok Calm) (fun _ _ => True) (fun _ => True) ∧
    HandlerTerms (relationTerms ok Calm) (outboxPermits fun _ => True) :=
  handlerTerms_relation (fun _ _ h => h.toCalm) fun _ _ _ _ => ⟨rfl, fun _ => Iff.rfl⟩

theorem handlerTerms_quiet : OutboxTerms (relationTerms ok Quiet) (fun _ _ => True) (fun n => n.operation ≠ .createTask) ∧
    HandlerTerms (relationTerms ok Quiet) (outboxPermits fun n => n.operation ≠ .createTask) :=
  handlerTerms_relation (fun _ _ h => h) fun _ _ s hn => quiet_of_records rfl fun _ => recordsKept_enqueue s fun _ => hn

/-- Programs that leave the records alone. -/
def plainPermits : Permits where
  creates _ := False
  own _ _ := True
  moves := False
  step _ := False
  enqueue _ := False
  receipts := False
  marks := False
  wakes := False

theorem handlerTerms_same : HandlerTerms (relationTerms ok SameRecords) plainPermits where
  stable _ := stable_true
  create _ _ hn := hn.elim
  move _ _ _ _ hm := hm.elim
  addStep _ _ _ _ _ _ hk := hk.elim
  markStep _ _ _ hm := hm.elim
  receipt _ _ _ _ _ hr := hr.elim
  other _ _ _ same := ⟨same, trivial⟩
  apply _ _ _ hn := hn.elim
  wake _ _ _ _ _ hw := hw.elim

variable {α : Type} {p : Run α} {P : Store → Prop} {s : Store}

theorem wp_calm (h : Safe (relationTerms ok Calm) P p) (hs : P s) :
    wp (anything ok) p (fun _ t => Calm s t) s :=
  wp_mono (wp_relates (h.wp s trivial hs) Calm.refl (fun _ _ _ => Calm.trans) fun _ _ h => h) fun _ _ _ hq => hq.2

theorem wp_quiet (h : Safe (relationTerms ok Quiet) P p) (hs : P s) :
    wp (anything ok) p (fun _ t => Quiet s t) s :=
  wp_mono (wp_relates (h.wp s trivial hs) Quiet.refl (fun _ _ _ => Quiet.trans) fun _ _ h => h) fun _ _ _ hq => hq.2

theorem wp_same (h : Safe (relationTerms ok SameRecords) P p) (hs : P s) :
    wp (anything ok) p (fun _ t => SameRecords s t) s :=
  wp_mono (wp_relates (h.wp s trivial hs) SameRecords.refl (fun _ _ _ => SameRecords.trans) fun _ _ h => h)
    fun _ _ _ hq => hq.2

end

/-- The instance a detection hands on: the one of the tuple as it stands, or a new one that waits. -/
inductive Detected (s : Store) (n : NewInstance) : Bool × Instance → Store → Prop
  | found {i : Instance} (h : s.instanceOf n = some i) : Detected s n (false, i) s
  | created {u : Store} (h : s.instanceOf n = none)
      (rows : u.instances.rows = s.instances.rows ++ [{ n with id := s.instances.next, state := .waitingOwner }])
      (receipts : u.receipts = s.receipts) (steps : u.steps = s.steps) (outbox : u.outbox = s.outbox) :
      Detected s n (true, { n with id := s.instances.next, state := .waitingOwner }) u

/-- An update of the row just inserted. -/
theorem rows_insert_modify {α : Type} [Keyed α] (t : Table α) {mk : Nat → α} {f : α → α} {hk} {hf} :
    ((t.insert mk hk).modify t.next f hf).rows = t.rows ++ [f (mk t.next)] := by
  have old : ∀ r ∈ t.rows, ¬Keyed.rowId r = t.next := fun r hr => Nat.ne_of_lt (t.below r hr)
  rw [rows_modify, rows_insert, List.map_append]
  have kept : t.rows.map (fun r => if Keyed.rowId r = t.next then f r else r) = t.rows :=
    (List.map_congr_left fun r hr => if_neg (old r hr)).trans (List.map_id _)
  rw [kept]
  simp [hk]

theorem wp_detect_eq {ok : ∀ q, Response q → Prop} {s : Store} (n : NewInstance) (reason : String) :
    wp (anything ok) (OwnerInputHandler.detect n reason) (fun d u => Detected s n d u) s := by
  refine wp_txn_bind.mpr ⟨trivial, trivial, ?_⟩
  rcases s.createInstance_cases n with ⟨i, hi, he⟩ | ⟨hnone, he⟩
  · rw [he]
    exact ⟨trivial, .found hi⟩
  · have made := s.createInstance_get n
    rw [he] at made ⊢
    have hl : legal ContinuationState.detected .waitingOwner := by decide
    have moved := Store.transition_legal made hl reason
    dsimp only at moved
    have rows := @rows_insert_modify _ _ s.instances (fun id => { n with id := id, state := .detected })
      (fun i : Instance => { i with state := .waitingOwner }) (fun _ => rfl) (fun _ => rfl)
    refine wp_bind.mpr ⟨trivial, trivial, trivial, ?_⟩
    dsimp only
    rw [moved]
    refine wp_bind.mpr (wp_readInstance trivial (get?_eq_some.mpr ⟨?_, rfl⟩) ⟨trivial, .created hnone rows rfl rfl rfl⟩)
    exact rows ▸ List.mem_append_right _ (List.mem_singleton_self _)

/-- No step and no outbox row has taken the anchor of the instance yet. -/
def AnchorFree (i : Instance) (s : Store) : Prop :=
  s.stepOf i.id (anchorKey (stableDigest i)) = none ∧ s.outboxOf (anchorKey (stableDigest i)) = none

/-- Planning the anchor adds the intent of the anchor where it was free, and no other. -/
structure Planned (i : Instance) (s t : Store) : Prop extends Calm s t where
  intent : ∀ x key, HasIntent x key t ↔
    HasIntent x key s ∨ x = i.id ∧ anchorKey (stableDigest i) = key ∧ AnchorFree i s

section

variable {ok : ∀ q, Response q → Prop} {s : Store}

theorem wp_planAnchor (i : Instance) (adapter : Option Adapter) (payload : Payload) :
    wp (anything ok) (OwnerInputHandler.planAnchor i adapter payload) (fun _ t => Planned i s t) s := by
  refine wp_txn_bind.mpr ⟨trivial, trivial, ?_⟩
  rcases s.addStep_cases i.id .ownerAnchor (anchorKey (stableDigest i)) "" none with ⟨p, hp, he⟩ | ⟨hnone, he⟩
  · rw [he]
    refine ⟨trivial, Calm.refl s, fun x key => ?_⟩
    simp [AnchorFree, hp]
  · rw [he]
    have enqueued : ∀ (n : Store.NewOutbox) u t, n.operation = .createTask → n.idempotencyKey = anchorKey (stableDigest i) →
        Quiet s u → u.outbox = s.outbox → Quiet (u.outboxEnqueue i.id n).2 t → Planned i s t := by
      intro n u t hop hk before same after
      refine ⟨⟨after.instances.trans before.instances, fun x => ?_⟩, fun x key => ?_⟩
      · exact ((after.receipt x).trans Iff.rfl).trans (before.receipt x)
      · rw [after.intent, hasIntent_enqueue, before.intent, hop, hk]
        have found : u.outboxOf (anchorKey (stableDigest i)) = s.outboxOf (anchorKey (stableDigest i)) := by
          unfold Store.outboxOf
          rw [same]
        simp [AnchorFree, hnone, found]
    dsimp only
    refine wp_bind.mpr (wp_bind.mpr (wp_applyBoardOperation trivial ⟨trivial, trivial, ?_⟩))
    have before : Quiet s { s with steps := s.steps.insert fun n =>
        ⟨n, i.id, .ownerAnchor, .pending, "", none, anchorKey (stableDigest i)⟩ } := ⟨⟨rfl, fun _ => Iff.rfl⟩, fun _ _ => Iff.rfl⟩
    have free : ∀ {α : Type} {p : Run α} u, Safe (relationTerms ok Quiet) (fun _ => True) p →
        wp (anything ok) p (fun _ t => Quiet u t) u := fun u h => wp_quiet h trivial
    have quiet := @handlerTerms_quiet ok
    refine wp_mono (free _ (quiet.1.safe_applyEnqueued ..)) fun r t _ first => ?_
    have settled : ∀ v, Quiet t v → Planned i s v := fun v later =>
      enqueued _ _ v rfl rfl before rfl (first.trans later)
    cases r with
    | failed error state => exact ⟨trivial, trivial, settled t (Quiet.refl t)⟩
    | ok taskId =>
      refine wp_bind.mpr (wp_mono (free t (quiet.2.whole (.markStepApplied trivial _ _))) fun _ u _ marked => ⟨trivial, ?_⟩)
      dsimp only
      split
      next =>
        have subscribed := free u (quiet.2.apply i.id ⟨some s.steps.next, .subscribe,
          [("task_id", .str taskId), ("endpoint", .str i.originRef)], anchorSubscribeKey (stableDigest i) i.originRef⟩ adapter
          nofun trivial)
        exact wp_bind.mpr (wp_mono subscribed fun _ v _ later => ⟨trivial, settled v (marked.trans later)⟩)
      next => exact ⟨trivial, settled u marked⟩

theorem Detected.get {n : NewInstance} {d : Bool × Instance} {u : Store} (h : Detected s n d u) :
    u.getInstance d.2.id = some d.2 := by
  cases h with
  | found hi => exact get?_eq_some.mpr ⟨mem_of_find? hi, rfl⟩
  | created _ rows => exact get?_eq_some.mpr ⟨rows ▸ List.mem_append_right _ (List.mem_singleton_self _), rfl⟩

theorem SameRecords.planned {i : Instance} {t u : Store} (h : SameRecords s t) (later : Planned i t u) : Planned i s u := by
  have intents := h.quiet.intent
  refine ⟨h.quiet.toCalm.trans later.toCalm, fun x key => ?_⟩
  rw [later.intent, intents]
  have free : AnchorFree i t ↔ AnchorFree i s := by
    unfold AnchorFree Store.stepOf Store.outboxOf
    rw [h.steps, h.outbox]
  rw [free]

theorem wp_readState_eq (id : Nat) : wp (anything ok) (readState id) (fun _ t => t = s) s := by
  unfold readState readInstance
  rw [wp_bind, wp_read]
  split
  · exact ⟨trivial, trivial, rfl⟩
  · exact ⟨trivial, trivial⟩

/-- Asking detects the instance and plans its anchor. -/
theorem wp_ask (cfg : IngestConfig) (e : OutcomeEnvelope) (contract : InputContract) (r : Resolution) :
    wp (anything ok) ((OwnerRoute.ask contract r).perform cfg e) (fun o t =>
      o.action = "owner_input_planned" ∧ ∃ d u, Detected s e.toInstance d u ∧ Planned d.2 u t) s := by
  refine wp_bind.mpr (wp_bind.mpr (wp_mono (wp_detect_eq e.toInstance _) fun d u _ detected => ?_))
  have inbox := (@handlerTerms_same ok).whole (.interactionFor trivial d.2 cfg.inbox r.unresolved "" "")
  refine wp_bind.mpr (wp_mono (wp_same inbox trivial) fun interaction v _ same => ?_)
  refine wp_bind.mpr (wp_mono (wp_planAnchor d.2 cfg.adapter _) fun _ w _ planned => ?_)
  refine wp_bind.mpr (wp_mono (wp_readState_eq d.2.id) ?_)
  rintro _ t _ rfl
  exact ⟨trivial, trivial, rfl, d, u, detected, same.planned planned⟩

/-- The owner has answered: the instance has left the wait, with a receipt. -/
structure LeftWith (i : Instance) (t : Store) : Prop where
  left : ∃ j, t.getInstance i.id = some j ∧ j.source = i.source ∧ j.state ≠ .waitingOwner
  receipt : HasReceipt i.id t

theorem LeftWith.calm {i : Instance} {t u : Store} (h : LeftWith i t) (same : Calm t u) : LeftWith i u := by
  obtain ⟨j, hj, src, left⟩ := h.left
  refine ⟨⟨j, ?_, src, left⟩, (same.receipt i.id).mpr h.receipt⟩
  unfold Store.getInstance
  rw [same.instances]
  exact hj

theorem LeftWith.transition {i : Instance} {t : Store} (h : LeftWith i t) {new : ContinuationState}
    (hne : new ≠ .waitingOwner) (reason : String) : LeftWith i (t.transition i.id new reason).2 := by
  obtain ⟨j, hj, src, left⟩ := h.left
  obtain ⟨k, hk, columns, _, _, state⟩ := Store.transition_get hj new reason
  refine ⟨⟨k, hk, (congrArg NewInstance.source columns).trans src, ?_⟩, h.receipt⟩
  rcases state with hs | hs
  · rw [hs]
    exact left
  · rw [hs]
    exact hne

/-- An accepted receipt takes the instance out of the wait, whatever the board answers. -/
theorem wp_acceptReceipt (i : Instance) (adapter : Option Adapter) (contract : InputContract) (receipt : OwnerReceipt)
    (present : ∃ j, s.getInstance i.id = some j ∧ j.source = i.source ∧ j.state = .waitingOwner)
    (received : HasReceipt i.id s) :
    wp (anything ok) (OwnerInputHandler.acceptReceipt i adapter contract receipt) (fun _ t => LeftWith i t) s := by
  have calm := @handlerTerms_calm ok
  have legalMove : legal .waitingOwner .inputAccepted := by decide
  obtain ⟨j, hj, src, waits⟩ := present
  obtain ⟨k, hk, columns, _, moved, _⟩ := Store.transition_get hj .inputAccepted "owner_receipt_accepted"
  have accepted : LeftWith i (s.transition i.id .inputAccepted "owner_receipt_accepted").2 := by
    refine ⟨⟨k, hk, (congrArg NewInstance.source columns).trans src, ?_⟩, received⟩
    rw [moved (waits ▸ legalMove)]
    decide
  refine wp_bind.mpr ⟨trivial, trivial, trivial, ?_⟩
  refine wp_bind.mpr (wp_mono (wp_calm (calm.2.safe (.completeAnchor i adapter trivial receipt fun _ _ _ => trivial)) trivial)
    fun _ u _ first => ?_)
  refine wp_bind.mpr (wp_mono (wp_calm (calm.2.safe (.addStep i.id .materialization (materializeKey (stableDigest i)) trivial))
    trivial) fun step v _ second => ?_)
  refine wp_bind.mpr (wp_mono (wp_calm (calm.2.safe (.createOnce i.id adapter step _ _ trivial trivial fun _ => trivial)) trivial)
    fun taskId w _ third => ?_)
  have still := ((accepted.calm first).calm second).calm third
  exact wp_bind.mpr ⟨trivial, trivial, trivial, trivial, still.transition (by decide) _⟩

/-- The instance waits for what the contract accepts. -/
def Accepts (contract : InputContract) (fields : List (String × Json)) (i : Instance) : Prop :=
  i.state = .waitingOwner ∧ (contract.validateOwnerSubmission fields).2 = []

instance (contract : InputContract) (fields : List (String × Json)) (i : Instance) :
    Decidable (Accepts contract fields i) := inferInstanceAs (Decidable (_ ∧ _))

theorem onReceipt_refused {contract : InputContract} {submission : Submission} {i : Instance}
    (h : ¬Accepts contract submission.fields i) (adapter : Option Adapter) :
    ∃ r, OwnerInputHandler.onReceipt i submission adapter contract = pure r := by
  unfold OwnerInputHandler.onReceipt
  by_cases waits : i.state = .waitingOwner
  · have invalid : (contract.validateOwnerSubmission submission.fields).2 ≠ [] := fun valid => h ⟨waits, valid⟩
    dsimp only
    rw [if_neg (not_not_intro waits), if_pos invalid]
    exact ⟨_, rfl⟩
  · dsimp only
    rw [if_pos waits]
    exact ⟨_, rfl⟩

theorem wp_onReceipt (i : Instance) (submission : Submission) (adapter : Option Adapter) (contract : InputContract)
    (present : s.getInstance i.id = some i) :
    wp (anything ok) (OwnerInputHandler.onReceipt i submission adapter contract) (fun _ t =>
      if Accepts contract submission.fields i then LeftWith i t else t = s) s := by
  by_cases accepts : Accepts contract submission.fields i
  · simp only [if_pos accepts]
    unfold OwnerInputHandler.onReceipt
    dsimp only
    rw [if_neg (not_not_intro accepts.1), if_neg (not_not_intro accepts.2)]
    refine wp_txn_bind.mpr ⟨trivial, trivial, wp_acceptReceipt i adapter contract _ ⟨i, present, rfl, accepts.1⟩ ?_⟩
    exact (hasReceipt_add s ..).mpr (.inr rfl)
  · simp only [if_neg accepts]
    obtain ⟨r, hr⟩ := onReceipt_refused accepts adapter
    rw [hr]
    exact ⟨trivial, rfl⟩

def autoInstance (e : OutcomeEnvelope) : NewInstance := { e.toInstance with contractRef := autoContractRef e }

/-- Resolving detects the instance and submits what the resolver found. -/
theorem wp_auto (cfg : IngestConfig) (e : OutcomeEnvelope) (contract : InputContract) (r : Resolution) :
    wp (anything ok) ((OwnerRoute.auto contract r).perform cfg e) (fun o t =>
      o.action = "auto_resolved" ∧ ∃ d u, Detected s (autoInstance e) d u ∧
        if Accepts contract (autoSubmission r).fields d.2 then LeftWith d.2 t else SameRecords u t) s := by
  refine wp_bind.mpr (wp_mono (wp_detect_eq (autoInstance e) _) fun d u _ detected => ?_)
  have recorded : Uses plainPermits none (Prog.forEach (recordSatisfied d.2.id) r.satisfied) :=
    .forEach fun _ _ => .recordSatisfaction ..
  refine wp_bind.mpr (wp_mono (wp_same (handlerTerms_same.whole recorded) trivial) fun _ v _ same => ?_)
  have present : v.getInstance d.2.id = some d.2 := by
    unfold Store.getInstance
    rw [same.instances]
    exact detected.get
  refine wp_bind.mpr (wp_mono (wp_onReceipt d.2 (autoSubmission r) cfg.adapter contract present) fun _ t _ after => ?_)
  refine ⟨trivial, rfl, d, u, detected, ?_⟩
  split
  next accepts =>
    rw [if_pos accepts] at after
    exact after
  next refused =>
    rw [if_neg refused] at after
    rw [after]
    exact same

end

end AgentflowHermes
