import AgentflowHermes.HandlerRules
import AgentflowHermes.OutboxRules
import AgentflowHermes.SemanticRefusalHandler

namespace AgentflowHermes

open CrashProgram SemanticRefusalHandler

/-- What any attempt on a row needs: while `P` holds, its calls are allowed and its outcome may be recorded. -/
structure AttemptTerms (K : Terms) (P : Store → Prop) (adapter : Option Adapter) (row : OutboxRow) : Prop where
  stable : Stable K P
  now : ∀ s, K.inv s → P s → K.may .now s
  asks : ∀ a, adapter = some a → ∀ q s, q.about a row.id → K.inv s → P s → K.may q s
  mark : ∀ state taskId next error s, K.inv s → P s →
    K.guar s (s.outboxMark row.id state taskId next error).2 ∧ K.inv (s.outboxMark row.id state taskId next error).2

namespace AttemptTerms

variable {K : Terms} {P : Store → Prop} {adapter : Option Adapter} {row : OutboxRow} {s : Store}

section

variable (h : AttemptTerms K P adapter row) (hs : K.inv s) (hp : P s)
include h hs hp

theorem commits_mark (state : OutboxState) (taskId : String) (next : Option Nat) (error : Option String) :
    Commits K s (s.outboxMark row.id state taskId next error).2 P :=
  have ⟨guar, inv⟩ := h.mark state taskId next error s hs hp
  ⟨guar, inv, h.stable.step _ _ hs guar inv hp⟩

theorem failure_commits : FailureCommits K s row P :=
  ⟨fun _ _ _ => h.commits_mark hs hp .., fun _ _ _ => h.commits_mark hs hp ..⟩

theorem callbackTerms : CallbackTerms K s row adapter P where
  inv := hs
  quiet := hp
  now _ := h.now s hs hp
  may _ a ha q hq := h.asks a ha q s hq hs hp
  delivered _ _ := h.commits_mark hs hp ..
  failed _ := h.failure_commits hs hp

theorem mutationTerms (op : Operation) (payload : Payload) : MutationTerms K s row op payload adapter fun _ => P where
  inv := hs
  now := h.now s hs hp
  applied _ := hp
  early _ _ _ _ _ := hp
  absent _ _ _ := hp
  may _ a ha q hq := h.asks a ha q s hq hs hp
  done _ _ _ _ _ _ _ := h.commits_mark hs hp ..
  failed _ _ _ _ _ _ _ _ := h.commits_mark hs hp ..

end

theorem safe_applyEnqueued (h : AttemptTerms K P adapter row) (op : Operation) (payload : Payload) :
    Safe K P (applyEnqueued op payload adapter row) := by
  refine ⟨fun s hs hp => ?_⟩
  unfold applyEnqueued
  split
  next => exact wp_mono (wp_applyScheduleOriginWake (h.callbackTerms hs hp)) fun _ _ _ _ => trivial
  next => exact wp_mono (wp_applyRecordConsumerAck (h.callbackTerms hs hp)) fun _ _ _ _ => trivial
  next => exact wp_mono (wp_applyMutation (h.mutationTerms hs hp _ _)) fun _ _ _ _ => trivial

section

variable {a : Adapter} (h : AttemptTerms K P (some a) row)
include h

theorem safe_mark (state : OutboxState) (taskId : String) (next : Option Nat) (error : Option String) :
    Safe K P (AgentflowHermes.mark row.id state taskId next error) :=
  ⟨fun _ hs hp => wp_mark hs ((h.commits_mark hs hp ..).mono fun _ _ _ => trivial)⟩

theorem safe_now : Safe K P currentTime := safe_call h.now fun _ => safe_pure _

theorem safe_probe (taskId endpoint : String) : Safe K P (originWakeSatisfied a row.id taskId endpoint) :=
  safe_ite (safe_call (fun s => h.asks a rfl _ s ⟨rfl, rfl⟩) fun _ => safe_pure _) (safe_pure _)

theorem safe_mutate (m : Mutation) : Safe K P (mutate a row.id m) :=
  safe_call (fun s => h.asks a rfl _ s ⟨rfl, rfl⟩) fun _ => safe_pure _

theorem safe_executeWake (taskId endpoint : String) : Safe K P (executeWake a row taskId endpoint) := by
  have again : ∀ error (r : OpResult), Safe K P (markWakePending row error >>= fun _ => pure r) := fun error r =>
    safe_bind h.stable (safe_bind h.stable h.safe_now fun _ => h.safe_mark ..) fun _ => safe_pure _
  have delivered : ∀ r : OpResult, Safe K P (AgentflowHermes.mark row.id .applied "" none none >>= fun _ => pure r) :=
    fun r => safe_bind h.stable (h.safe_mark ..) fun _ => safe_pure _
  have probing := h.safe_probe taskId endpoint
  unfold executeWake
  refine safe_ite (safe_bind h.stable probing fun _ => safe_ite (safe_pure _) (again ..)) ?_
  refine safe_bind h.stable probing fun _ => safe_ite (delivered _) (safe_bind h.stable h.safe_now fun _ => ?_)
  refine safe_ite (safe_pure _) (safe_ite (again ..) (safe_ite (safe_pure _) (safe_bind h.stable (h.safe_mutate _) fun _ => ?_)))
  refine safe_ite (again ..) (safe_bind h.stable probing fun _ => safe_ite (delivered _) (again ..))

/-- One row of `reconcile_outbox`, which also marks the step of the row. -/
theorem safe_reconcileRow (raises : K.raises "AttributeError") (step : ∀ id taskId s, K.inv s → P s →
    K.guar s (s.markStep id (some .applied) taskId).2 ∧ K.inv (s.markStep id (some .applied) taskId).2) :
    Safe K P (reconcileRow a row) := by
  refine ⟨fun s hs hp => ?_⟩
  have terms : ReconcileTerms K s a row P := {
    inv := hs
    may := fun q hq => h.asks a rfl q s hq hs hp
    raises := raises
    done := fun r _ _ => (h.commits_mark hs hp .applied r.taskId none none).mono fun t ht hpt =>
      ⟨fun _ => hpt, fun id _ =>
        have ⟨guar, inv⟩ := step id r.taskId t ht hpt
        ⟨guar, inv, h.stable.step _ _ ht guar inv hpt⟩⟩
    failed := h.failure_commits hs hp }
  exact wp_mono (wp_reconcileRow terms) fun _ _ _ _ => trivial

end

end AttemptTerms

end AgentflowHermes

namespace AgentflowHermes

open CrashProgram RowTable

/-- A contract under which every call for a row is free, and so is whatever an attempt leaves in the outbox. -/
structure OutboxTerms (K : Terms) (own : Nat → Store → Prop) (allowed : Store.NewOutbox → Prop) : Prop where
  may : ∀ a id q s, q.about a id → K.may q s
  enqueue : ∀ id n s, allowed n → own id s → K.inv s →
    K.guar s (s.outboxEnqueue id n).2 ∧ K.inv (s.outboxEnqueue id n).2
  mark : ∀ id state taskId next error s, K.inv s →
    K.guar s (s.outboxMark id state taskId next error).2 ∧ K.inv (s.outboxMark id state taskId next error).2
  reinterpret : ∀ id pre key s, K.inv s →
    K.guar s (s.outboxReinterpretPending id .subscribe pre .scheduleOriginWake key).2 ∧
      K.inv (s.outboxReinterpretPending id .subscribe pre .scheduleOriginWake key).2

variable {K : Terms} {A : Permits} {P : Store → Prop}

namespace OutboxTerms

variable {own : Nat → Store → Prop} {allowed : Store.NewOutbox → Prop} (h : OutboxTerms K own allowed) {s : Store}
include h

/-- Any row may be attempted. -/
theorem attempt (stable : Stable K P) (adapter : Option Adapter) (row : OutboxRow) : AttemptTerms K P adapter row where
  stable := stable
  now s _ _ := h.may { board := "" } row.id .now s trivial
  asks a _ q s about _ _ := h.may a row.id q s about
  mark state taskId next error s hs _ := h.mark row.id state taskId next error s hs

theorem safe_applyEnqueued (op : Operation) (payload : Payload) (adapter : Option Adapter) (row : OutboxRow) :
    Safe K P (applyEnqueued op payload adapter row) :=
  ((h.attempt stable_true adapter row).safe_applyEnqueued op payload).weaken fun _ _ => trivial

theorem safe_applyBoardOperation (id : Nat) (n : Store.NewOutbox) (adapter : Option Adapter) (hn : allowed n) :
    Safe K (own id) (applyBoardOperation id n adapter) := by
  refine ⟨fun s hs owned => wp_applyBoardOperation hs ?_⟩
  obtain ⟨guar, inv⟩ := h.enqueue id n s hn owned hs
  have rest : Safe K (fun _ => True) (applyEnqueued n.operation n.payload adapter (s.outboxEnqueue id n).1.2) :=
    h.safe_applyEnqueued ..
  exact ⟨guar, inv, rest.wp _ inv trivial⟩

theorem safe_ensureOriginWake (stable : ∀ id, Stable K (own id)) (id : Nat) (taskId endpoint digest : String)
    (a : Adapter) (hn : allowed (SemanticRefusalHandler.wakeOp taskId endpoint digest)) :
    Safe K (own id) (SemanticRefusalHandler.ensureOriginWake id taskId endpoint digest a) := by
  have row : Safe K (own id)
      (SemanticRefusalHandler.wakeRow id digest (SemanticRefusalHandler.wakeOp taskId endpoint digest)) := by
    refine safe_bind (stable id) (safe_txn fun s hs _ => h.reinterpret _ _ _ s hs) fun _ => ?_
    exact safe_bind (stable id) (safe_txn fun s hs owned => h.enqueue id _ s hn owned hs) fun _ => safe_pure _
  exact safe_bind (stable id) row fun row => (h.attempt (stable id) (some a) row).safe_executeWake ..

end OutboxTerms

def ContinuationKind.ownerInput : ContinuationKind → Bool
  | .needsInput | .approvalRequired => true
  | _ => false

/-- Everything the branches of the router do for an outcome. -/
structure EventAllowed (A : Permits) (e : OutcomeEnvelope) : Prop where
  creates : A.creates e.toInstance
  createsAuto : A.creates { e.toInstance with contractRef := orText e.contractRef genericOwnerInputContract }
  routes : A.routes
  codeFix : Uses.CodeFixAllowed A e
  refusal : Uses.RefusalAllowed A e
  ask : Uses.AskAllowed A
  receipt : e.continuationKind.ownerInput → Uses.ReceiptAllowed A

namespace Uses

variable {A : Permits} {c : Option Nat}

theorem handleExternalWait (T : PyText) {e : OutcomeEnvelope} (moves : A.moves) (creates : A.creates e.toInstance) (md : Json)
    (raises : externalWaitIntent T md e = none → A.raises "ValueError") :
    Uses A c (AgentflowHermes.handleExternalWait T e md) := by
  refine .create creates fun creation _ => ite (.bind (moveTo moves ..) fun _ => ?_) (.pure _)
  cases hw : externalWaitIntent T md e with
  | none => exact .bind (.raise (raises hw)) fun _ => .pure _
  | some w => exact .bind (.write (.other fun _ => ⟨rfl, rfl, rfl, rfl, rfl⟩) fun _ => .pure _) fun _ => .pure _

theorem routeRoadmap (routes : A.routes) (cfg : IngestConfig) (ev : BoardEvent) :
    Uses A c (AgentflowHermes.routeRoadmap cfg ev) := by
  unfold AgentflowHermes.routeRoadmap
  split
  · exact .pure _
  · exact .pure _
  · exact .call routes fun _ => .pure _
  · exact .call routes fun _ => .pure _

/-- The branches that are taken for an outcome; those of owner input and external waits are left to the caller. -/
theorem routeCompiled (T : PyText) (cfg : IngestConfig) (ha : A.through cfg.adapter) (ev : BoardEvent) (o : CompiledOutcome)
    (ok : EventAllowed A o.envelope)
    (owner : o.envelope.continuationKind.ownerInput →
      Uses A c (AgentflowHermes.ownerInputLike cfg o.envelope o.requirements ev.runMetadata))
    (wait : o.envelope.continuationKind = .externalWait →
      Uses A c (AgentflowHermes.handleExternalWait T o.envelope ev.runMetadata)) :
    Uses A c (AgentflowHermes.routeCompiled T cfg ev o) := by
  refine ite (.pure _) ?_
  split
  next hk => exact .bind (owner (by rw [hk]; rfl)) fun _ => .pure _
  next hk => exact .bind (owner (by rw [hk]; rfl)) fun _ => .pure _
  next => exact .bind (routeRoadmap ok.routes ..) fun _ => .pure _
  next => exact .bind (routeRoadmap ok.routes ..) fun _ => .pure _
  next =>
    split
    next a _ hcfg => exact .bind (codeFix ok.codeFix ok.creates _ (by rw [← hcfg]; exact ha) _) fun _ => .pure _
    next => exact .bind (.call ok.routes fun _ => .pure _) fun _ => .pure _
  next =>
    split
    next a _ hcfg => exact .bind (semanticRefusal ok.refusal ok.creates _ (by rw [← hcfg]; exact ha) _ _) fun _ => .pure _
    next => exact .pure _
  next hk => exact .bind (wait hk) fun _ => .pure _
  next => exact .pure _

/-- An event is routed within the permits when its outcome is. -/
theorem routeEvent (raises : ∀ e, A.raises e) (T : PyText) (cfg : IngestConfig) (ha : A.through cfg.adapter) (ev : BoardEvent)
    (ok : ∀ compiled, compileEvent T cfg ev = .ok compiled → EventAllowed A compiled.envelope) :
    Uses A c (AgentflowHermes.routeEvent T cfg ev) := by
  unfold AgentflowHermes.routeEvent
  split
  next => exact .raise (raises _)
  next compiled hc =>
    have ok := ok compiled hc
    refine routeCompiled T cfg ha ev compiled ok (fun hk => ?_) fun _ => ?_
    · exact ownerInputLike raises ok.ask (ok.receipt hk) ok.creates ok.createsAuto cfg ha _ _
    · exact handleExternalWait T ok.codeFix.moves ok.creates _ fun _ => raises _

end Uses

/-- Permits that leave everything but the creations free. -/
structure Permits.Open (A : Permits) : Prop where
  moves : A.moves
  step : ∀ kind, A.step kind
  enqueue : ∀ n, A.enqueue n
  receipts : A.receipts
  through : ∀ adapter, A.through adapter := by intros; exact True.intro
  marks : A.marks := by exact True.intro
  routes : A.routes := by exact True.intro
  wakes : A.wakes := by exact True.intro
  raises : ∀ e, A.raises e := by intros; exact True.intro

namespace Permits.Open

variable {A : Permits} (free : A.Open)
include free

theorem asking : Uses.AskAllowed A :=
  ⟨free.moves, free.marks, free.step _, fun _ _ _ _ => free.enqueue _, fun _ _ _ _ _ => free.enqueue _⟩

theorem receiving : Uses.ReceiptAllowed A :=
  ⟨free.moves, free.marks, free.receipts, free.step _, fun _ _ _ _ _ => free.enqueue _, fun _ _ _ _ => free.enqueue _⟩

theorem event {e : OutcomeEnvelope} (creates : ∀ ref, A.creates { e.toInstance with contractRef := ref }) :
    EventAllowed A e where
  creates := creates e.contractRef
  createsAuto := creates _
  routes := free.routes
  codeFix := ⟨free.moves, free.marks, free.step _, free.step _, fun _ _ _ _ => free.enqueue _,
    fun _ _ _ _ => free.enqueue _, fun _ _ _ => free.enqueue _, fun _ _ => free.enqueue _⟩
  refusal := ⟨free.moves, free.wakes, fun _ _ => free.enqueue _, fun _ _ => free.enqueue _⟩
  ask := free.asking
  receipt _ := free.receiving

/-- Only the instances an event may create are left to look at. -/
theorem routeEvent {c : Option Nat} (T : PyText) (cfg : IngestConfig) (ev : BoardEvent)
    (creates : ∀ compiled, compileEvent T cfg ev = .ok compiled →
      ∀ ref, A.creates { compiled.envelope.toInstance with contractRef := ref }) :
    Uses A c (AgentflowHermes.routeEvent T cfg ev) :=
  .routeEvent free.raises T cfg (free.through _) ev fun compiled hc => free.event (creates compiled hc)

end Permits.Open

/-- The permits of a contract that is about the instance rows only. -/
def Permits.instances (creates : NewInstance → Prop) : Permits where
  creates := creates
  own _ _ := True
  moves := True
  step _ := True
  enqueue _ := True
  receipts := True

theorem Permits.instances_open (creates : NewInstance → Prop) : (Permits.instances creates).Open where
  moves := trivial
  step _ := trivial
  enqueue _ := trivial
  receipts := trivial

/-- A contract that is about the instances and the cursors only. -/
theorem handlerTerms_instances {creates : NewInstance → Prop} (may : ∀ q s, K.may q s) (raises : ∀ e, K.raises e)
    (frame : ∀ s t, K.inv s → t.instances = s.instances → t.cursors = s.cursors → K.guar s t ∧ K.inv t)
    (create : ∀ n s, creates n → K.inv s → K.guar s (s.createInstance n).2 ∧ K.inv (s.createInstance n).2)
    (move : ∀ id new reason s, K.inv s → K.guar s (s.transition id new reason).2 ∧ K.inv (s.transition id new reason).2) :
    HandlerTerms K (.instances creates) := by
  have outbox : OutboxTerms K (fun _ _ => True) fun _ => True := {
    may := fun _ _ q s _ => may q s
    enqueue := fun _ _ s _ _ hs => frame s _ hs rfl rfl
    mark := fun _ _ _ _ _ s hs => frame s _ hs rfl rfl
    reinterpret := fun _ _ _ s hs => frame s _ hs rfl rfl }
  exact {
    stable := fun _ => stable_true
    raises := fun e _ => raises e
    asks := fun q s _ => may q s
    create := fun n s hn hs => .intro (create n s hn hs) trivial
    present := fun _ _ _ _ _ => raises _
    move := fun id new reason s _ _ hs => move id new reason s hs
    addStep := fun _ _ _ _ _ s _ _ hs => frame s _ hs rfl rfl
    markStep := fun _ _ s _ hs => frame s _ hs rfl rfl
    receipt := fun _ _ _ _ s _ _ hs => .intro (frame s _ hs rfl rfl) trivial
    other := fun s t hs same => frame s t hs same.instances same.cursors
    apply := fun id n adapter _ _ => outbox.safe_applyBoardOperation id n adapter trivial
    wake := fun id taskId endpoint digest a _ _ _ =>
      outbox.safe_ensureOriginWake (fun _ => stable_true) id taskId endpoint digest a trivial }

/-- A contract that is about the cursors only leaves everything a router does free. -/
theorem handlerTerms_cursors (may : ∀ q s, K.may q s) (raises : ∀ e, K.raises e)
    (frame : ∀ s t, K.inv s → t.cursors = s.cursors → K.guar s t ∧ K.inv t) :
    HandlerTerms K (.instances fun _ => True) :=
  handlerTerms_instances may raises (fun s t hs _ same => frame s t hs same) (fun _ s _ hs => frame s _ hs rfl)
    fun _ _ _ s hs => frame s _ hs rfl

theorem safe_ingestLoop (stable : Stable K P) {T : PyText} {cfg : IngestConfig} {events : List BoardEvent}
    (each : ∀ ev ∈ events, Safe K P (routeEvent T cfg ev)) (m : Int) : Safe K P (ingestLoop T cfg events m) := by
  induction events generalizing m with
  | nil => exact safe_pure _
  | cons ev events ih =>
    have rest := ih fun x hx => each x (List.mem_cons_of_mem _ hx)
    refine safe_bind stable (each ev (by simp)) fun r => safe_ite (safe_pure _) ?_
    exact safe_bind stable (rest _) fun _ => safe_pure _

/-- Only the events fetched above the cursor have a turn. -/
theorem wp_ingestBoardOnce (stable : Stable K P) {T : PyText} {cfg : IngestConfig} {fetch : Int → List BoardEvent} {s : Store}
    (each : ∀ ev ∈ fetch (s.getCursor cfg.board cfg.dbIdentity), Safe K P (routeEvent T cfg ev))
    (cursor : ∀ value s, K.inv s → K.guar s (s.upsertCursor cfg.board cfg.dbIdentity value) ∧
      K.inv (s.upsertCursor cfg.board cfg.dbIdentity value)) (hs : K.inv s) (hp : P s) :
    wp K (ingestBoardOnce T cfg fetch) (fun _ _ => True) s := by
  have loop := safe_ingestLoop stable each (s.getCursor cfg.board cfg.dbIdentity)
  have rest : Safe K P (ingestLoop T cfg (fetch (s.getCursor cfg.board cfg.dbIdentity))
      (s.getCursor cfg.board cfg.dbIdentity) >>= fun out =>
        advanceCursor cfg.board cfg.dbIdentity out.2 >>= fun _ => pure (IngestResult.mk out.1 out.2)) := by
    refine safe_bind stable loop fun out => ?_
    refine safe_bind stable (safe_bind stable (safe_get _) fun current => ?_) fun _ => safe_pure _
    exact safe_write stable (fun s hs _ => cursor _ s hs) fun _ => safe_pure _
  exact wp_get_bind.mpr (rest.wp s hs hp)

theorem safe_ingestBoardOnce (stable : Stable K P) {T : PyText} {cfg : IngestConfig} {fetch : Int → List BoardEvent}
    (each : ∀ n, ∀ ev ∈ fetch n, Safe K P (routeEvent T cfg ev))
    (cursor : ∀ value s, K.inv s → K.guar s (s.upsertCursor cfg.board cfg.dbIdentity value) ∧
      K.inv (s.upsertCursor cfg.board cfg.dbIdentity value)) : Safe K P (ingestBoardOnce T cfg fetch) :=
  ⟨fun _ hs hp => wp_ingestBoardOnce stable (each _) cursor hs hp⟩

end AgentflowHermes
