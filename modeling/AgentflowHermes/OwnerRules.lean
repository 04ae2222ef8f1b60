import AgentflowHermes.IngestRules

namespace AgentflowHermes

open CrashProgram RowTable

/-- A contract under which moves and marks are free, and so is the outbox. -/
structure MoveTerms (K : Terms) : Prop where
  raises : ∀ e, K.raises e := by intros; exact True.intro
  outbox : OutboxTerms K (fun _ _ => True) fun _ => True
  move : ∀ id new reason s, K.inv s → K.guar s (s.transition id new reason).2 ∧ K.inv (s.transition id new reason).2
  markStep : ∀ id taskId s, K.inv s →
    K.guar s (s.markStep id (some .applied) taskId).2 ∧ K.inv (s.markStep id (some .applied) taskId).2

/-- A contract under which moves, marks and the side tables are free, and so is the outbox. -/
structure OwnerTerms (K : Terms) : Prop where
  raises : ∀ e, K.raises e := by intros; exact True.intro
  outbox : OutboxTerms K (fun _ _ => True) fun _ => True
  move : ∀ id new reason s, K.inv s → K.guar s (s.transition id new reason).2 ∧ K.inv (s.transition id new reason).2
  markStep : ∀ id taskId s, K.inv s →
    K.guar s (s.markStep id (some .applied) taskId).2 ∧ K.inv (s.markStep id (some .applied) taskId).2
  other : ∀ s t, K.inv s → SameRecords s t → t.members = s.members → K.guar s t ∧ K.inv t

variable {K : Terms} {P : Store → Prop}

/-- A step that may be added, and what follows it. -/
theorem safe_withStep {α : Type} (stable : Stable K P) {id : Nat} {kind : StepKind} {key : String} {g : Bool × Step → Run α}
    (add : ∀ s, K.inv s → P s → K.guar s (s.addStep id kind key "" none).2 ∧ K.inv (s.addStep id kind key "" none).2)
    (next : ∀ step, Safe K (fun _ => True) (g step)) : Safe K P (OwnerInputHandler.addStep id kind key >>= g) :=
  safe_bind stable (safe_txn add) fun step => (next step).weaken fun _ _ => trivial

namespace OutboxTerms

variable {allowed : Store.NewOutbox → Prop} (h : OutboxTerms K (fun _ _ => True) allowed)
include h

/-- A card that may be enqueued. -/
theorem safe_createOnce (mark : ∀ id taskId s, K.inv s →
      K.guar s (s.markStep id (some .applied) taskId).2 ∧ K.inv (s.markStep id (some .applied) taskId).2)
    (id : Nat) (adapter : Option Adapter) (step : Bool × Step) {intent : Payload} {key : String}
    (hn : allowed ⟨some step.2.id, .createTask, intent, key⟩) :
    Safe K (fun _ => True) (OwnerInputHandler.createOnce id adapter step intent key) := by
  refine safe_ite (safe_bind stable_true (h.safe_applyBoardOperation id _ adapter hn) fun r => ?_) (safe_pure _)
  cases r with
  | failed error state => exact safe_pure _
  | ok taskId =>
    have marked : Safe K (fun _ => True) (markStepApplied step.2.id taskId) :=
      safe_write stable_true (fun s hs _ => mark step.2.id taskId s hs) fun _ => safe_pure _
    exact safe_bind stable_true marked fun _ => safe_pure _

theorem safe_completeAnchor (i : Instance) (adapter : Option Adapter) (receipt : OwnerReceipt)
    (hn : ∀ step payload key, allowed ⟨step, .completeOwnerAnchor, payload, key⟩) :
    Safe K (fun _ => True) (OwnerInputHandler.completeAnchor i adapter receipt) := by
  refine safe_bind stable_true (safe_get _) fun anchor => ?_
  cases anchor with
  | none => exact safe_pure _
  | some p =>
    have applied := h.safe_applyBoardOperation i.id _ adapter (hn (some p.id)
      [("task_id", .str p.boardTaskId), ("receipt_ref", .str ("receipt:" ++ toString receipt.id))]
      (completeKey p.boardTaskId receipt.id))
    exact safe_ite (safe_bind stable_true applied fun _ => safe_pure _) (safe_pure _)

end OutboxTerms

namespace MoveTerms

variable (h : MoveTerms K)
include h

theorem safe_moveTo (id : Nat) (new : ContinuationState) (reason : String) : Safe K P (moveTo id new reason) := by
  refine ⟨fun s hs _ => ?_⟩
  obtain ⟨guar, inv⟩ := h.move id new reason s hs
  exact ⟨hs, guar, inv, trivial⟩

theorem safe_readInstance (id : Nat) : Safe K P (readInstance id) := by
  refine ⟨fun s hs _ => ?_⟩
  unfold readInstance
  rw [wp_read]
  split
  · exact ⟨hs, trivial⟩
  · exact ⟨hs, h.raises _⟩

theorem safe_readState (id : Nat) : Safe K (fun _ => True) (readState id) :=
  safe_bind stable_true (h.safe_readInstance id) fun _ => safe_pure _

theorem safe_apply (id : Nat) (n : Store.NewOutbox) (adapter : Option Adapter) :
    Safe K (fun _ => True) (applyBoardOperation id n adapter) := h.outbox.safe_applyBoardOperation id n adapter trivial

theorem safe_createOnce (id : Nat) (adapter : Option Adapter) (step : Bool × Step) (intent : Payload) (key : String) :
    Safe K (fun _ => True) (OwnerInputHandler.createOnce id adapter step intent key) :=
  h.outbox.safe_createOnce h.markStep id adapter step trivial

theorem safe_planAnchor (stable : Stable K P) (i : Instance) (adapter : Option Adapter) (intent : Payload)
    (add : ∀ s, K.inv s → P s → K.guar s (s.addStep i.id .ownerAnchor (anchorKey (stableDigest i)) "" none).2 ∧
      K.inv (s.addStep i.id .ownerAnchor (anchorKey (stableDigest i)) "" none).2) :
    Safe K P (OwnerInputHandler.planAnchor i adapter intent) := by
  refine safe_withStep stable add fun step => safe_bind stable_true (h.safe_createOnce ..) fun task => ?_
  cases task with
  | none => exact safe_pure _
  | some taskId => exact safe_ite (safe_bind stable_true (h.safe_apply ..) fun _ => safe_pure _) (safe_pure _)

theorem safe_completeAnchor (i : Instance) (adapter : Option Adapter) (receipt : OwnerReceipt) :
    Safe K (fun _ => True) (OwnerInputHandler.completeAnchor i adapter receipt) :=
  h.outbox.safe_completeAnchor i adapter receipt fun _ _ _ => trivial

/-- What comes after the move that accepts a receipt. -/
theorem safe_materialize (stable : Stable K P) (i : Instance) (adapter : Option Adapter) (contract : InputContract)
    (receipt : OwnerReceipt)
    (add : ∀ s, K.inv s → P s → K.guar s (s.addStep i.id .materialization (materializeKey (stableDigest i)) "" none).2 ∧
      K.inv (s.addStep i.id .materialization (materializeKey (stableDigest i)) "" none).2) :
    Safe K P (OwnerInputHandler.completeAnchor i adapter receipt >>= fun _ => do
      let key := materializeKey (stableDigest i)
      let step ← OwnerInputHandler.addStep i.id .materialization key
      let taskId ← OwnerInputHandler.createOnce i.id adapter step (materializationIntent i contract receipt key) key
      moveTo i.id .materializing "materialization_task_created"
      return { success := true, state := .materializing, createdStepIds := [step.2.id],
               metadata := [("materialization_task_id", .str (taskId.getD "")), ("receipt_id", .int receipt.id)] :
               StepResult }) := by
  refine safe_bind stable ((h.safe_completeAnchor ..).weaken fun _ _ => trivial) fun _ => ?_
  refine safe_withStep stable add fun step => safe_bind stable_true (h.safe_createOnce ..) fun _ => ?_
  exact safe_bind stable_true (h.safe_moveTo ..) fun _ => safe_pure _

theorem safe_acceptReceipt (stable : Stable K P) (i : Instance) (adapter : Option Adapter) (contract : InputContract)
    (receipt : OwnerReceipt)
    (add : ∀ s, K.inv s → P s → K.guar s (s.addStep i.id .materialization (materializeKey (stableDigest i)) "" none).2 ∧
      K.inv (s.addStep i.id .materialization (materializeKey (stableDigest i)) "" none).2) :
    Safe K P (OwnerInputHandler.acceptReceipt i adapter contract receipt) :=
  safe_bind stable (h.safe_moveTo ..) fun _ => h.safe_materialize stable i adapter contract receipt add

theorem safe_detect {n : NewInstance}
    (create : ∀ s, K.inv s → K.guar s (s.createInstance n).2 ∧ K.inv (s.createInstance n).2) (reason : String) :
    Safe K (fun _ => True) (OwnerInputHandler.detect n reason) := by
  refine safe_bind stable_true (safe_txn fun s hs _ => create s hs) fun creation => safe_ite ?_ (safe_pure _)
  refine safe_bind stable_true (h.safe_moveTo ..) fun _ => ?_
  exact safe_bind stable_true (h.safe_readInstance _) fun _ => safe_pure _

end MoveTerms

namespace OwnerTerms

variable (h : OwnerTerms K)
include h

theorem moves : MoveTerms K := ⟨h.raises, h.outbox, h.move, h.markStep⟩

theorem safe_recordSatisfaction (id : Nat) (field : String) (value : Json) (kind ref policy : String) :
    Safe K P (SemanticRefusalHandler.recordSatisfaction id field value kind ref policy) := by
  refine ⟨fun s hs _ => ?_⟩
  obtain ⟨guar, inv⟩ := h.other s (s.recordSatisfaction id field value kind ref policy) hs ⟨rfl, rfl, rfl, rfl, rfl⟩ rfl
  exact ⟨hs, guar, inv, trivial⟩

/-- The interaction case of a question whose member may be stored. -/
theorem safe_interactionFor (stable : Stable K P) (i : Instance) (inbox : Option Nat) (unresolved : List Requirement)
    (owner scope : String) (now : ∀ s, K.may .now s) (newCaseId : ∀ s, K.may .newCaseId s)
    (add : ∀ caseId s, K.inv s → P s →
      K.guar s (addInteractionMember caseId i.id (unresolved.map requirementToDict) s) ∧
        K.inv (addInteractionMember caseId i.id (unresolved.map requirementToDict) s)) :
    Safe K P (OwnerInputHandler.interactionFor i inbox unresolved owner scope) := by
  have member : ∀ found : String × String, Safe K P (do
      Prog.write (addInteractionMember found.1 i.id (unresolved.map requirementToDict)) fun _ => .pure ()
      Prog.get fun s =>
        { id := found.1
          originEndpoint := found.2
          continuationIds := (s.members.filter fun m => m.caseId == found.1).map InteractionMember.continuationId :
            InteractionCase } : Run InteractionCase) := fun found =>
    safe_bind stable (safe_write stable (add found.1) fun _ => safe_pure _) fun _ => safe_get _
  unfold OwnerInputHandler.interactionFor
  split
  next window first rest =>
    refine safe_bind stable ?_ fun _ => safe_pure _
    refine safe_bind stable (safe_call (fun s _ _ => now s) fun _ => safe_pure _) fun now => ?_
    refine safe_bind stable (safe_get _) fun existing => ?_
    cases existing with
    | some c => exact safe_bind stable (safe_pure _) member
    | none =>
      refine safe_bind stable (safe_call (fun s _ _ => newCaseId s) fun _ => safe_pure _) fun caseId => ?_
      refine safe_bind stable ?_ fun _ => safe_bind stable (safe_pure _) member
      refine ⟨fun s hs _ => ?_⟩
      unfold createInteractionCase
      rw [wp_read]
      split
      · exact ⟨hs, h.raises _⟩
      · have opened : ∀ cases, K.guar s { s with cases := cases } ∧ K.inv { s with cases := cases } :=
          fun _ => h.other s _ hs ⟨rfl, rfl, rfl, rfl, rfl⟩ rfl
        exact ⟨hs, (opened _).1, (opened _).2, trivial⟩
  next => exact safe_pure _

end OwnerTerms

end AgentflowHermes
