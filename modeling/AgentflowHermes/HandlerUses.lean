import AgentflowHermes.BoardIngest

namespace AgentflowHermes

open CrashProgram SemanticRefusalHandler

/-- What a group of programs may do: the instances it creates, the ones it works on, whether it moves
them, the steps it adds, the operations it enqueues, and whether it records owner receipts. The rest
says what is known of the rows it gets to see, which adapters it works through, and what else is free. -/
structure Permits where
  creates : NewInstance → Prop
  own : Nat → Store → Prop
  moves : Prop
  step : StepKind → Prop
  enqueue : Store.NewOutbox → Prop
  receipts : Prop
  mine : Instance → Prop := fun _ => True
  issued : OwnerReceipt → Prop := fun _ => True
  through : Option Adapter → Prop := fun _ => True
  marks : Prop := True
  routes : Prop := True
  wakes : Prop := True
  sees : Store → Prop := fun _ => True
  raises : String → Prop := fun _ => True

/-- The requests that are no adapter calls. -/
def Permits.asks (A : Permits) : Request → Prop
  | .now | .newCaseId => True
  | .routeRoadmap _ | .routeCodeFix _ => A.routes
  | _ => False

/-- The tables that hold what a continuation is. -/
structure SameRecords (s t : Store) : Prop where
  instances : t.instances = s.instances
  steps : t.steps = s.steps
  receipts : t.receipts = s.receipts
  outbox : t.outbox = s.outbox
  cursors : t.cursors = s.cursors

/-- The transactions of the handlers, apart from those that create an instance or a receipt. The
index is the continuation that is worked on. -/
inductive Commit (A : Permits) : Option Nat → (Store → Store) → Prop
  | move {id : Nat} {new : ContinuationState} {reason : String} (h : A.moves) :
      Commit A (some id) fun s => (s.transition id new reason).2
  | addStep {id : Nat} {kind : StepKind} {key taskId : String} {parent : Option Nat} (h : A.step kind) :
      Commit A (some id) fun s => (s.addStep id kind key taskId parent).2
  | markStep {c : Option Nat} {id : Nat} {taskId : String} (h : A.marks) :
      Commit A c fun s => (s.markStep id (some .applied) taskId).2
  | other {c : Option Nat} {f : Store → Store} (h : ∀ s, SameRecords s (f s)) : Commit A c f

/-- The programs that are made of permitted operations. -/
inductive Uses (A : Permits) : {α : Type} → Option Nat → Run α → Prop
  | pure {α : Type} {c : Option Nat} (a : α) : Uses A c (.pure a)
  | raise {α : Type} {c : Option Nat} {e : String} (h : A.raises e) : Uses A c (.raise e : Run α)
  | read {α : Type} {c : Option Nat} {k : Store → Run α} (h : ∀ s, A.sees s → Uses A c (k s)) : Uses A c (.read k)
  | write {α : Type} {c : Option Nat} {f : Store → Store} {k : Store → Run α} (hf : Commit A c f)
      (hk : ∀ s, Uses A c (k s)) : Uses A c (.write f k)
  | call {α : Type} {c : Option Nat} {q : Request} {k : Response q → Run α} (hq : A.asks q)
      (hk : ∀ r, Uses A c (k r)) : Uses A c (.call q k)
  | bind {α β : Type} {c : Option Nat} {p : Run β} {g : β → Run α} (hp : Uses A c p) (hg : ∀ b, Uses A c (g b)) :
      Uses A c (p >>= g)
  | create {α : Type} {c : Option Nat} {n : NewInstance} {g : Bool × Instance → Run α} (hn : A.creates n)
      (hg : ∀ r : Bool × Instance, A.mine r.2 → Uses A (some r.2.id) (g r)) : Uses A c (createInstance n >>= g)
  | known {α : Type} {id : Nat} {g : Instance → Run α} (hg : ∀ j : Instance, j.id = id → A.mine j → Uses A (some id) (g j)) :
      Uses A (some id) (readInstance id >>= g)
  | receipt {α : Type} {id : Nat} {owner ref : String} {fields : List (String × Json)} {g : OwnerReceipt → Run α}
      (h : A.receipts) (hg : ∀ r, A.issued r → Uses A (some id) (g r)) :
      Uses A (some id) ((Prog.txn fun s => s.addOwnerReceipt id owner fields ref none) >>= g)
  | apply {id : Nat} {n : Store.NewOutbox} {adapter : Option Adapter} (hn : A.enqueue n) (ha : A.through adapter) :
      Uses A (some id) (applyBoardOperation id n adapter)
  | wake {id : Nat} {taskId endpoint digest : String} {a : Adapter} (h : A.wakes)
      (hn : A.enqueue (wakeOp taskId endpoint digest)) (ha : A.through (some a)) :
      Uses A (some id) (ensureOriginWake id taskId endpoint digest a)

variable {A : Permits} {α β : Type} {c : Option Nat}

namespace Uses

theorem ite {b : Prop} [Decidable b] {p q : Run α} (hp : Uses A c p) (hq : Uses A c q) :
    Uses A c (if b then p else q) := by
  split
  · exact hp
  · exact hq

theorem get (f : Store → α) : Uses A c (Prog.get f : Run α) := .read fun _ _ => .pure _

theorem forEach {body : β → Run α} {xs : List β} (h : ∀ x ∈ xs, Uses A c (body x)) :
    Uses A c (Prog.forEach body xs) := by
  induction xs with
  | nil => exact .pure _
  | cons x xs ih =>
    have rest := ih fun z hz => h z (List.mem_cons_of_mem _ hz)
    exact .bind (h x (by simp)) fun y => .bind rest fun ys => .pure _

theorem now {k : Nat → Run α} (hk : ∀ t, Uses A c (k t)) : Uses A c (currentTime >>= k) := .call trivial hk

theorem moveTo (moves : A.moves) (id : Nat) (new : ContinuationState) (reason : String) :
    Uses A (some id) (AgentflowHermes.moveTo id new reason) := .write (.move moves) fun _ => .pure _

theorem readState (id : Nat) : Uses A (some id) (AgentflowHermes.readState id) := .known fun _ _ _ => .pure _

theorem markStepApplied (marks : A.marks) (id : Nat) (taskId : String) :
    Uses A c (AgentflowHermes.markStepApplied id taskId) := .write (.markStep marks) fun _ => .pure _

section CodeFix

theorem codeFixCreate (id : Nat) (a : Adapter) (kind : StepKind) (key : String) (payload : Payload)
    (parent : Option String) (hk : A.step kind) (marks : A.marks) (ha : A.through (some a))
    (ok : ∀ step, A.enqueue ⟨step, .createTask, payload, key⟩) :
    Uses A (some id) (CodeFixHandler.create id a kind key payload parent) := by
  refine .bind (get _) fun parentId => ?_
  refine .bind (.write (.addStep hk) fun _ => .pure _) fun step => ?_
  refine ite (.pure _) (.bind (.apply (ok _) ha) fun r => ?_)
  cases r with
  | failed error state => exact .pure _
  | ok taskId => exact ite (.bind (markStepApplied marks ..) fun _ => .pure _) (.pure _)

theorem codeFixFail (moves : A.moves) (id : Nat) (reason : String) : Uses A (some id) (CodeFixHandler.fail id reason) :=
  .bind (moveTo moves ..) fun _ => .bind (readState id) fun _ => .pure _

theorem codeFixFinish (moves : A.moves) (id : Nat) (state : ContinuationState) (created : Bool)
    (fix review endpoint : String) (ack : Option OpResult) :
    Uses A (some id) (CodeFixHandler.finish id state created fix review endpoint ack) := by
  refine ite (.bind (moveTo moves ..) fun _ => ?_) ?_
  · exact .bind (readState id) fun _ => .pure _
  · exact .bind (readState id) fun _ => .pure _

/-- The moves, the steps and the four operations of the graph. -/
structure CodeFixAllowed (A : Permits) (e : OutcomeEnvelope) : Prop where
  moves : A.moves
  marks : A.marks
  fixStep : A.step .codeFix
  reviewStep : A.step .review
  fix : ∀ i step payload, A.mine i → A.enqueue ⟨step, .createTask, payload, fixKey (stableDigest i)⟩
  review : ∀ i step payload, A.mine i → A.enqueue ⟨step, .createTask, payload, reviewKey (stableDigest i)⟩
  subscribe : ∀ i taskId, A.mine i → A.enqueue (subscribeOp (stableDigest i) taskId (endpointOf e))
  ack : ∀ i, A.mine i → A.enqueue (consumerAckOp e (stableDigest i))

theorem codeFixConnect {e : OutcomeEnvelope} (ok : CodeFixAllowed A e) (i : Instance) (hi : A.mine i) (a : Adapter)
    (ha : A.through (some a)) (state : ContinuationState) (created : Bool) (fix review : String) :
    Uses A (some i.id) (CodeFixHandler.connect e i.id a state created (stableDigest i) fix review) := by
  refine ite (codeFixFinish ok.moves ..) (.bind (.apply (ok.subscribe i review hi) ha) fun sub => ?_)
  refine ite (codeFixFail ok.moves ..) (.bind (.apply (ok.ack i hi) ha) fun ack => ?_)
  exact codeFixFinish ok.moves ..

theorem codeFixBuild {e : OutcomeEnvelope} (ok : CodeFixAllowed A e) (blockers : List String) (i : Instance)
    (hi : A.mine i) (created : Bool) (a : Adapter) (ha : A.through (some a)) :
    Uses A (some i.id) (CodeFixHandler.build e blockers i created a) := by
  refine .bind (codeFixCreate _ _ _ _ _ _ ok.fixStep ok.marks ha fun step => ok.fix i step _ hi) fun fix => ?_
  cases fix with
  | none => exact codeFixFail ok.moves ..
  | some fix =>
    refine .bind (codeFixCreate _ _ _ _ _ _ ok.reviewStep ok.marks ha fun step => ok.review i step _ hi) fun review => ?_
    cases review with
    | none => exact codeFixFail ok.moves ..
    | some review => exact codeFixConnect ok i hi a ha ..

theorem enter (moves : A.moves) {i : Instance} (hi : A.mine i) {reason : String} {g : Instance → Run α}
    (hg : ∀ j : Instance, j.id = i.id → A.mine j → Uses A (some i.id) (g j)) :
    Uses A (some i.id) (CodeFixHandler.enter i reason >>= g) := by
  unfold CodeFixHandler.enter
  split
  · rw [Prog.bind_assoc]
    exact .bind (moveTo moves ..) fun _ => .known hg
  · exact hg i rfl hi

theorem codeFix {e : OutcomeEnvelope} (ok : CodeFixAllowed A e) (creates : A.creates e.toInstance)
    (adapter : Option Adapter) (ha : A.through adapter) (blockers : List String) :
    Uses A c (CodeFixHandler.materialize e adapter blockers) := by
  refine .create creates fun creation hi => ?_
  cases adapter with
  | none => exact .pure _
  | some a =>
    have due : Uses A (some creation.2.id) (pendingOutboxRetryNotDue creation.2.id) := now fun _ => get _
    have backing : Uses A (some creation.2.id) (CodeFixHandler.backingOff creation.2) := ite due (.pure _)
    refine .bind backing fun b => ite (.pure _) (enter ok.moves hi fun j hj mine => ?_)
    exact hj ▸ codeFixBuild ok blockers j mine _ a ha

end CodeFix

section SemanticRefusal

theorem recordSatisfaction (id : Nat) (field : String) (value : Json) (kind ref policy : String) :
    Uses A c (SemanticRefusalHandler.recordSatisfaction id field value kind ref policy) :=
  .write (.other fun _ => ⟨rfl, rfl, rfl, rfl, rfl⟩) fun _ => .pure _

/-- The quarantine and the two callbacks of a refusal. -/
structure RefusalAllowed (A : Permits) (e : OutcomeEnvelope) : Prop where
  moves : A.moves
  wakes : A.wakes
  wake : ∀ i, A.mine i → A.enqueue (wakeOp e.sourceTaskId (endpointOf e) (stableDigest i))
  ack : ∀ i, A.mine i → A.enqueue (refusalAckOp e.sourceTaskId (endpointOf e) (stableDigest i))

theorem semanticRefusal {e : OutcomeEnvelope} (ok : RefusalAllowed A e) (creates : A.creates e.toInstance)
    (adapter : Option Adapter) (ha : A.through adapter) (blockers categories : List String) :
    Uses A c (SemanticRefusalHandler.materialize e adapter blockers categories) := by
  refine .create creates fun creation hi => ?_
  cases adapter with
  | none => exact .pure _
  | some a =>
    refine enter ok.moves hi fun j hj mine => ?_
    have quarantined : Uses A (some j.id) (quarantine j blockers categories) :=
      .bind (recordSatisfaction ..) fun _ => ite (moveTo ok.moves ..) (.pure _)
    have called : Uses A (some j.id) (callbacks e j.id (stableDigest j) a) :=
      ite (.pure _) (.bind (.wake ok.wakes (ok.wake j mine) ha) fun _ => .bind (.apply (ok.ack j mine) ha) fun _ => .pure _)
    exact hj ▸ .bind quarantined fun _ => .bind called fun _ => .bind (readState _) fun _ => .pure _

end SemanticRefusal

end Uses

end AgentflowHermes
