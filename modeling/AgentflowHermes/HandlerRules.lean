import AgentflowHermes.HandlerUses
import AgentflowHermes.OutboxRules

namespace AgentflowHermes

open CrashProgram

section

variable {A : Permits} {α β : Type} {c : Option Nat}

namespace Uses

theorem createOnce (id : Nat) (adapter : Option Adapter) (step : Bool × Step) (intent : Payload) (key : String)
    (marks : A.marks) (ha : A.through adapter) (ok : ∀ step, A.enqueue ⟨step, .createTask, intent, key⟩) :
    Uses A (some id) (OwnerInputHandler.createOnce id adapter step intent key) := by
  refine ite (.bind (.apply (ok _) ha) fun r => ?_) (.pure _)
  cases r with
  | failed error state => exact .pure _
  | ok taskId => exact .bind (markStepApplied marks ..) fun _ => .pure _

theorem addStep (id : Nat) (kind : StepKind) (key : String) (ok : A.step kind) :
    Uses A (some id) (OwnerInputHandler.addStep id kind key) := .write (.addStep ok) fun _ => .pure _

/-- The instance a detection hands on is one the handler may work on. -/
theorem detect (moves : A.moves) {n : NewInstance} (creates : A.creates n) {reason : String}
    {g : Bool × Instance → Run α} (hg : ∀ d : Bool × Instance, A.mine d.2 → Uses A (some d.2.id) (g d)) :
    Uses A c (OwnerInputHandler.detect n reason >>= g) := by
  unfold OwnerInputHandler.detect
  rw [Prog.bind_assoc]
  refine .create creates fun creation hi => ?_
  split
  · rw [Prog.bind_assoc]
    refine .bind (moveTo moves ..) fun _ => ?_
    rw [Prog.bind_assoc]
    exact .known fun j hj mine => hj ▸ hg (true, j) mine
  · exact hg creation hi

theorem openOrBatchCase (collides : A.raises "IntegrityError") (window : Nat) (endpoint owner scope authority : String)
    (id : Nat) (unresolved : List Requirement) :
    Uses A c (AgentflowHermes.openOrBatchCase window endpoint owner scope authority id unresolved) := by
  have member : ∀ found : String × String, Uses A c (do
      Prog.write (addInteractionMember found.1 id (unresolved.map requirementToDict)) fun _ => .pure ()
      Prog.get fun s =>
        { id := found.1
          originEndpoint := found.2
          continuationIds := (s.members.filter fun m => m.caseId == found.1).map InteractionMember.continuationId :
            InteractionCase } : Run InteractionCase) := fun found =>
    .bind (.write (.other fun _ => ⟨rfl, rfl, rfl, rfl, rfl⟩) fun _ => .pure _) fun _ => get _
  refine now fun now => .bind (get _) fun existing => ?_
  cases existing with
  | some c => exact .bind (.pure _) member
  | none =>
    refine .bind (.call trivial fun _ => .pure _) fun caseId => .bind ?_ fun _ => .bind (.pure _) member
    refine .read fun s _ => ite (.raise collides) (.write (.other fun _ => ⟨rfl, rfl, rfl, rfl, rfl⟩) fun _ => .pure _)

theorem interactionFor (collides : A.raises "IntegrityError") (i : Instance) (inbox : Option Nat)
    (unresolved : List Requirement) (owner scope : String) :
    Uses A c (OwnerInputHandler.interactionFor i inbox unresolved owner scope) := by
  unfold OwnerInputHandler.interactionFor
  split
  · exact .bind (openOrBatchCase collides ..) fun _ => .pure _
  · exact .pure _

/-- What asking the owner takes. -/
structure AskAllowed (A : Permits) : Prop where
  moves : A.moves
  marks : A.marks
  anchorStep : A.step .ownerAnchor
  anchor : ∀ i step payload, A.mine i → A.enqueue ⟨step, .createTask, payload, anchorKey (stableDigest i)⟩
  subscribe : ∀ i step payload origin, A.mine i →
    A.enqueue ⟨step, .subscribe, payload, anchorSubscribeKey (stableDigest i) origin⟩

/-- What accepting a submission takes. -/
structure ReceiptAllowed (A : Permits) : Prop where
  moves : A.moves
  marks : A.marks
  receipts : A.receipts
  materializationStep : A.step .materialization
  complete : ∀ step payload taskId (receipt : OwnerReceipt), A.issued receipt →
    A.enqueue ⟨step, .completeOwnerAnchor, payload, completeKey taskId receipt.id⟩
  materialize : ∀ i step payload, A.mine i → A.enqueue ⟨step, .createTask, payload, materializeKey (stableDigest i)⟩

/-- What the review and the rerun take. -/
structure FollowUpAllowed (A : Permits) : Prop where
  moves : A.moves
  marks : A.marks
  reviewStep : A.step .review
  rerunStep : A.step .packetRerun
  review : ∀ i step payload, A.mine i → A.enqueue ⟨step, .createTask, payload, ownerReviewKey (stableDigest i)⟩
  rerun : ∀ i step payload, A.mine i → A.enqueue ⟨step, .createTask, payload, rerunKey (stableDigest i)⟩

theorem planAnchor (ok : AskAllowed A) (i : Instance) (hi : A.mine i) (adapter : Option Adapter)
    (ha : A.through adapter) (intent : Payload) : Uses A (some i.id) (OwnerInputHandler.planAnchor i adapter intent) := by
  refine .bind (addStep _ _ _ ok.anchorStep) fun step => ?_
  refine .bind (createOnce _ _ _ _ _ ok.marks ha fun step => ok.anchor i step _ hi) fun task => ?_
  cases task with
  | none => exact .pure _
  | some taskId => exact ite (.bind (.apply (ok.subscribe i _ _ _ hi) ha) fun _ => .pure _) (.pure _)

theorem plan (ok : AskAllowed A) (collides : A.raises "IntegrityError") {e : OutcomeEnvelope}
    (creates : A.creates e.toInstance) (adapter : Option Adapter) (ha : A.through adapter) (contract : InputContract)
    (inbox : Option Nat) (unresolved : List Requirement) (owner scope : String) :
    Uses A c (OwnerInputHandler.plan e adapter contract inbox unresolved owner scope) := by
  refine detect ok.moves creates fun detected hi => ?_
  refine .bind (interactionFor collides ..) fun interaction => ?_
  exact .bind (planAnchor ok detected.2 hi adapter ha _) fun _ => .bind (readState _) fun _ => .pure _

theorem completeAnchor (i : Instance) (adapter : Option Adapter) (ha : A.through adapter) (receipt : OwnerReceipt)
    (ok : ∀ step payload taskId, A.enqueue ⟨step, .completeOwnerAnchor, payload, completeKey taskId receipt.id⟩) :
    Uses A (some i.id) (OwnerInputHandler.completeAnchor i adapter receipt) := by
  refine .bind (get _) fun anchor => ?_
  cases anchor with
  | none => exact .pure _
  | some p => exact ite (.bind (.apply (ok ..) ha) fun _ => .pure _) (.pure _)

theorem acceptReceipt (ok : ReceiptAllowed A) (i : Instance) (hi : A.mine i) (adapter : Option Adapter)
    (ha : A.through adapter) (contract : InputContract) (receipt : OwnerReceipt) (issued : A.issued receipt) :
    Uses A (some i.id) (OwnerInputHandler.acceptReceipt i adapter contract receipt) := by
  refine .bind (moveTo ok.moves ..) fun _ => ?_
  refine .bind (completeAnchor i adapter ha receipt fun _ _ _ => ok.complete _ _ _ _ issued) fun _ => ?_
  refine .bind (addStep _ _ _ ok.materializationStep) fun step => ?_
  refine .bind (createOnce _ _ _ _ _ ok.marks ha fun step => ok.materialize i step _ hi) fun taskId => ?_
  exact .bind (moveTo ok.moves ..) fun _ => .pure _

theorem onReceipt (ok : ReceiptAllowed A) (i : Instance) (hi : A.mine i) (submission : Submission)
    (adapter : Option Adapter) (ha : A.through adapter) (contract : InputContract) :
    Uses A (some i.id) (OwnerInputHandler.onReceipt i submission adapter contract) :=
  ite (.pure _) (ite (.pure _) (.receipt ok.receipts fun receipt issued => acceptReceipt ok i hi adapter ha contract receipt issued))

theorem notGo (moves : A.moves) (i : Instance) (reason : String) : Uses A (some i.id) (OwnerInputHandler.notGo i reason) :=
  .bind (moveTo moves ..) fun _ => .bind (readState _) fun _ => .pure _

theorem advanceAfterMaterialization (ok : FollowUpAllowed A) (i : Instance) (hi : A.mine i) (verdict : String)
    (adapter : Option Adapter) (ha : A.through adapter) :
    Uses A (some i.id) (OwnerInputHandler.advanceAfterMaterialization i verdict adapter) := by
  refine ite (.pure _) (ite (notGo ok.moves ..) (.bind (moveTo ok.moves ..) fun _ => ?_))
  refine .bind (addStep _ _ _ ok.reviewStep) fun step => ?_
  refine .bind (createOnce _ _ _ _ _ ok.marks ha fun step => ok.review i step _ hi) fun taskId => ?_
  exact .bind (readState _) fun _ => .pure _

theorem advanceAfterReview (ok : FollowUpAllowed A) (i : Instance) (hi : A.mine i) (verdict : String)
    (adapter : Option Adapter) (ha : A.through adapter) :
    Uses A (some i.id) (OwnerInputHandler.advanceAfterReview i verdict adapter) := by
  refine ite (.pure _) (ite (notGo ok.moves ..) (.bind (moveTo ok.moves ..) fun _ => ?_))
  refine .bind (addStep _ _ _ ok.rerunStep) fun step => ?_
  refine .bind (createOnce _ _ _ _ _ ok.marks ha fun step => ok.rerun i step _ hi) fun taskId => ?_
  exact .bind (moveTo ok.moves ..) fun _ => .bind (readState _) fun _ => .pure _

theorem autoResolve (ok : ReceiptAllowed A) {e : OutcomeEnvelope} {ref : String}
    (creates : A.creates { e.toInstance with contractRef := ref }) (contract : InputContract) (r : Resolution)
    (adapter : Option Adapter) (ha : A.through adapter) :
    Uses A c (AgentflowHermes.autoResolve e ref contract r adapter) := by
  refine detect ok.moves creates fun detected hi => ?_
  refine .bind (forEach fun x _ => recordSatisfaction ..) fun _ => ?_
  exact .bind (onReceipt ok detected.2 hi _ adapter ha contract) fun _ => .pure _

theorem ownerInputLike (raises : ∀ e, A.raises e) (ask : AskAllowed A) (ok : ReceiptAllowed A) {e : OutcomeEnvelope}
    (creates : A.creates e.toInstance)
    (createsAuto : A.creates { e.toInstance with contractRef := orText e.contractRef genericOwnerInputContract })
    (cfg : IngestConfig) (ha : A.through cfg.adapter) (requirements : List Requirement) (md : Json) :
    Uses A c (AgentflowHermes.ownerInputLike cfg e requirements md) := by
  unfold AgentflowHermes.ownerInputLike
  dsimp only
  split
  · exact .pure _
  · exact .raise (raises _)
  · split
    · exact .raise (raises _)
    · refine ite (autoResolve ok createsAuto _ _ _ ha) ?_
      exact .bind (plan ask (raises _) creates _ ha ..) fun _ => .pure _

/-- A row of `continuation retry` is enqueued again under the operation and the key it already has. -/
theorem retryRow (raises : A.raises "TypeError") (marks : A.marks) (id : Nat) (a : Adapter) (ha : A.through (some a))
    (o : OutboxRow) (ok : A.enqueue ⟨o.stepId, o.operation, o.payload, o.idempotencyKey⟩) :
    Uses A (some id) (AgentflowHermes.retryRow id a o) := by
  refine .bind (.apply ok ha) fun r => ?_
  cases r with
  | failed error state => exact .pure _
  | ok taskId =>
    cases o.stepId with
    | none => exact .pure _
    | some step => exact .bind (.write (.markStep marks) fun _ => .pure _) fun marked => ite (.raise raises) (.pure _)

theorem continuationRetry (raises : A.raises "TypeError") (marks : A.marks) (id : Nat) (a : Adapter)
    (ha : A.through (some a))
    (ok : ∀ s, A.sees s → ∀ o ∈ s.pendingOf id, A.enqueue ⟨o.stepId, o.operation, o.payload, o.idempotencyKey⟩) :
    Uses A (some id) (AgentflowHermes.continuationRetry id a) := by
  refine .bind (get _) fun instance? => ite (.pure _) ?_
  exact .read fun s seen => forEach fun o ho => retryRow raises marks id a ha o (ok s seen o ho)

end Uses

end

open RowTable SemanticRefusalHandler

/-- A contract under which the permitted operations are free. -/
structure HandlerTerms (K : Terms) (A : Permits) : Prop where
  stable : ∀ id, Stable K (A.own id)
  sees : ∀ s, K.inv s → A.sees s := by intros; exact True.intro
  raises : ∀ e, A.raises e → K.raises e := by intros; exact True.intro
  asks : ∀ q s, A.asks q → K.may q s := by intros; exact True.intro
  create : ∀ n s, A.creates n → K.inv s → Commits K s (s.createInstance n).2 (A.own (s.createInstance n).1.2.id)
  known : ∀ id i s, A.own id s → s.getInstance id = some i → A.mine i := by intros; exact True.intro
  present : ∀ id s, K.inv s → A.own id s → s.getInstance id = none → K.raises "AssertionError" := by
    intros; exact True.intro
  move : ∀ id new reason s, A.moves → A.own id s → K.inv s →
    K.guar s (s.transition id new reason).2 ∧ K.inv (s.transition id new reason).2
  addStep : ∀ id kind key taskId parent s, A.step kind → A.own id s → K.inv s →
    K.guar s (s.addStep id kind key taskId parent).2 ∧ K.inv (s.addStep id kind key taskId parent).2
  markStep : ∀ id taskId s, A.marks → K.inv s →
    K.guar s (s.markStep id (some .applied) taskId).2 ∧ K.inv (s.markStep id (some .applied) taskId).2
  receipt : ∀ id owner fields ref s, A.receipts → A.own id s → K.inv s →
    Commits K s (s.addOwnerReceipt id owner fields ref none).2 fun _ => A.issued (s.addOwnerReceipt id owner fields ref none).1
  other : ∀ s t, K.inv s → SameRecords s t → K.guar s t ∧ K.inv t
  apply : ∀ id n adapter, A.enqueue n → A.through adapter → Safe K (A.own id) (applyBoardOperation id n adapter)
  wake : ∀ id taskId endpoint digest a, A.wakes → A.enqueue (wakeOp taskId endpoint digest) → A.through (some a) →
    Safe K (A.own id) (ensureOriginWake id taskId endpoint digest a)

variable {K : Terms} {A : Permits} {α : Type} {c : Option Nat}

/-- What is known of the store while a continuation is worked on. -/
def Permits.during (A : Permits) : Option Nat → Store → Prop
  | none => fun _ => True
  | some id => A.own id

namespace HandlerTerms

variable (h : HandlerTerms K A)
include h

theorem during_stable (c : Option Nat) : Stable K (A.during c) := by
  cases c with
  | none => exact stable_true
  | some id => exact h.stable id

theorem wp_create {n : NewInstance} (hn : A.creates n) {s : Store} (hs : K.inv s) :
    wp K (createInstance n) (fun creation t => A.own creation.2.id t ∧ A.mine creation.2) s := by
  obtain ⟨guar, inv, own⟩ := h.create n s hn hs
  exact ⟨hs, guar, inv, own, h.known _ _ _ own (s.createInstance_get n)⟩

theorem commit {f : Store → Store} (hf : Commit A c f) {s : Store} (hs : K.inv s) (own : A.during c s) :
    K.guar s (f s) ∧ K.inv (f s) := by
  cases hf with
  | move moves => exact h.move _ _ _ s moves own hs
  | addStep step => exact h.addStep _ _ _ _ _ s step own hs
  | markStep marks => exact h.markStep _ _ s marks hs
  | other same => exact h.other s _ hs (same s)

/-- What is made of permitted operations keeps to the contract. -/
theorem safe {p : Run α} (uses : Uses A c p) : Safe K (A.during c) p := by
  induction uses with
  | pure a => exact safe_pure a
  | raise he => exact safe_raise (h.raises _ he)
  | read _ ih => exact ⟨fun s hs own => (ih s (h.sees s hs)).wp s hs own⟩
  | write hf _ ih => exact safe_write (h.during_stable _) (fun s hs own => h.commit hf hs own) ih
  | call hq _ ih => exact safe_call (fun s _ _ => h.asks _ s hq) ih
  | bind _ _ ihp ihg => exact safe_bind (h.during_stable _) ihp ihg
  | create hn _ ih =>
    refine ⟨fun s hs _ => wp_bind.mpr (wp_mono (h.wp_create hn hs) fun creation t ht known => ?_)⟩
    exact (ih creation known.2).wp t ht known.1
  | @known _ id g _ ih =>
    refine ⟨fun s hs own => wp_bind.mpr ?_⟩
    unfold readInstance
    rw [wp_read]
    split
    next j hj => exact ⟨hs, (ih j (get?_eq_some.mp hj).2 (h.known id j s own hj)).wp s hs own⟩
    next hnone => exact ⟨hs, h.present id s hs own hnone⟩
  | receipt hr _ ih =>
    refine ⟨fun s hs own => wp_bind.mpr ?_⟩
    obtain ⟨guar, inv, issued⟩ := h.receipt _ _ _ _ s hr own hs
    exact ⟨hs, guar, inv, (ih _ issued).wp _ inv ((h.stable _).step _ _ hs guar inv own)⟩
  | apply hn ha => exact h.apply _ _ _ hn ha
  | wake hw hn ha => exact h.wake _ _ _ _ _ hw hn ha

/-- A program that starts on no continuation. -/
theorem whole {p : Run α} (uses : Uses A none p) : Safe K (fun _ => True) p := h.safe uses

/-- The instance a detection hands on is one the handler may work on. -/
theorem wp_detect (moves : A.moves) {n : NewInstance} (ok : A.creates n) (reason : String) {s : Store} (hs : K.inv s) :
    wp K (OwnerInputHandler.detect n reason) (fun d t => A.own d.2.id t) s := by
  refine wp_bind.mpr (wp_mono (h.wp_create ok hs) fun creation t ht known => ?_)
  split
  next =>
    have moved := h.safe (Uses.moveTo moves creation.2.id .waitingOwner reason)
    refine wp_bind.mpr (wp_mono (wp_stable (h.stable _) (moved.wp t ht known.1) known.1) fun _ u hu post => ?_)
    refine wp_bind.mpr ?_
    unfold readInstance
    rw [wp_read]
    split
    next j hj =>
      have hid : j.id = creation.2.id := (get?_eq_some.mp hj).2
      have own : A.own j.id u := by
        rw [hid]
        exact post.2
      exact ⟨hu, hu, own⟩
    next hnone => exact ⟨hu, h.present _ u hu post.2 hnone⟩
  next => exact ⟨ht, known.1⟩

end HandlerTerms

/-- The permits of a contract that is about the outbox only; rows that are there may be enqueued again. -/
def Permits.outbox (enqueue : Store.NewOutbox → Prop) : Permits where
  creates _ := True
  own _ _ := True
  moves := True
  step _ := True
  enqueue := enqueue
  receipts := True
  routes := False
  wakes := False
  sees s := ∀ o ∈ s.outbox.rows, enqueue ⟨o.stepId, o.operation, o.payload, o.idempotencyKey⟩

theorem handlerTerms_outbox {enqueue : Store.NewOutbox → Prop}
    (frame : ∀ s t, K.inv s → t.outbox = s.outbox → K.guar s t ∧ K.inv t) (raises : ∀ e, K.raises e)
    (sees : ∀ s, K.inv s → (Permits.outbox enqueue).sees s) (now : ∀ s, K.may .now s) (newCaseId : ∀ s, K.may .newCaseId s)
    (apply : ∀ id n adapter, enqueue n → Safe K (fun _ => True) (applyBoardOperation id n adapter)) :
    HandlerTerms K (.outbox enqueue) where
  stable _ := stable_true
  sees := sees
  raises e _ := raises e
  asks q s hq := by
    cases q with
    | now => exact now s
    | newCaseId => exact newCaseId s
    | _ => exact hq.elim
  create _ s _ hs := .intro (frame s _ hs rfl) trivial
  present _ _ _ _ _ := raises _
  move _ _ _ s _ _ hs := frame s _ hs rfl
  addStep _ _ _ _ _ s _ _ hs := frame s _ hs rfl
  markStep _ _ s _ hs := frame s _ hs rfl
  receipt _ _ _ _ s _ _ hs := .intro (frame s _ hs rfl) trivial
  other s t hs same := frame s t hs same.outbox
  apply id n adapter hn _ := apply id n adapter hn
  wake _ _ _ _ _ hw := hw.elim

end AgentflowHermes
