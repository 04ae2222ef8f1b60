import AgentflowHermes.AgentflowDaemon
import AgentflowHermes.IngestRules
import AgentflowHermes.ResolverErrors

namespace AgentflowHermes

open CrashProgram Relation

/-- The boards, the files and the ledger loaded from them are as they were. -/
def Untouched {δ φ : Type} (o₀ o : Outside δ φ) : Prop :=
  o.boards = o₀.boards ∧ o.files = o₀.files ∧ o.ledger = o₀.ledger

def Request.roadmap : Request → Bool
  | .routeRoadmap _ => true
  | _ => false

/-- Every request but a promotion is free. -/
def unroutedTerms : Terms where
  ok _ _ := True
  inv _ := True
  may q _ := q.roadmap = false
  guar _ _ := True

def unroutedPermits : Permits := { Permits.instances fun _ => True with routes := False }

theorem handlerTerms_unrouted : HandlerTerms unroutedTerms unroutedPermits := by
  have outbox : OutboxTerms unroutedTerms (fun _ _ => True) fun _ => True := {
    may := fun a id q s about => by
      cases q with
      | routeRoadmap eventId => exact about.elim
      | _ => rfl
    enqueue := fun _ _ _ _ _ _ => ⟨trivial, trivial⟩
    mark := fun _ _ _ _ _ _ _ => ⟨trivial, trivial⟩
    reinterpret := fun _ _ _ _ _ => ⟨trivial, trivial⟩ }
  exact {
    stable := fun _ => stable_true
    raises := fun _ _ => trivial
    asks := fun q s asks => by
      cases q with
      | routeRoadmap eventId => exact asks.elim
      | _ => rfl
    create := fun _ _ _ _ => .intro ⟨trivial, trivial⟩ trivial
    present := fun _ _ _ _ _ => trivial
    move := fun _ _ _ _ _ _ _ => ⟨trivial, trivial⟩
    addStep := fun _ _ _ _ _ _ _ _ _ => ⟨trivial, trivial⟩
    markStep := fun _ _ _ _ _ => ⟨trivial, trivial⟩
    receipt := fun _ _ _ _ _ _ _ _ => .intro ⟨trivial, trivial⟩ trivial
    other := fun _ _ _ _ => ⟨trivial, trivial⟩
    apply := fun id n adapter _ _ => outbox.safe_applyBoardOperation id n adapter trivial
    wake := fun id taskId endpoint digest a _ _ _ =>
      outbox.safe_ensureOriginWake (fun _ => stable_true) id taskId endpoint digest a trivial }

/-- Without apply, an event that is not promoted is routed without the promotion. -/
theorem safe_routeEvent_unrouted (T : PyText) (cfg : IngestConfig) (ev : BoardEvent) (dry : cfg.apply = false)
    (plain : ∀ o, compileEvent T cfg ev = .ok o → o.envelope.continuationKind = .roadmapNext ∨
      o.envelope.continuationKind = .complete → cfg.roadmap = .noConfig ∨ cfg.roadmap = .disabled) :
    Safe unroutedTerms (fun _ => True) (routeEvent T cfg ev) := by
  have roadmap : cfg.roadmap = .noConfig ∨ cfg.roadmap = .disabled →
      Safe unroutedTerms (fun _ => True) (routeRoadmap cfg ev) := by
    rintro (h | h)
    · rw [routeRoadmap, h]
      exact safe_pure _
    · rw [routeRoadmap, h]
      exact safe_pure _
  have ask : Uses.AskAllowed unroutedPermits := ⟨trivial, trivial, trivial, fun _ _ _ _ => trivial, fun _ _ _ _ _ => trivial⟩
  have receipt : Uses.ReceiptAllowed unroutedPermits :=
    ⟨trivial, trivial, trivial, trivial, fun _ _ _ _ _ => trivial, fun _ _ _ _ => trivial⟩
  have owner : ∀ o : CompiledOutcome, Safe unroutedTerms (fun _ => True)
      (ownerInputLike cfg o.envelope o.requirements ev.runMetadata) := fun o =>
    handlerTerms_unrouted.whole (.ownerInputLike (fun _ => trivial) ask receipt trivial trivial cfg trivial _ _)
  have wait : ∀ o : CompiledOutcome, Safe unroutedTerms (fun _ => True)
      (handleExternalWait T o.envelope ev.runMetadata) := fun o =>
    handlerTerms_unrouted.whole (.handleExternalWait T trivial trivial _ fun _ => trivial)
  unfold routeEvent
  split
  next => exact safe_raise trivial
  next o ho =>
    unfold routeCompiled
    refine safe_ite (safe_pure _) ?_
    split
    next => exact safe_bind stable_true (owner o) fun _ => safe_pure _
    next => exact safe_bind stable_true (owner o) fun _ => safe_pure _
    next hk => exact safe_bind stable_true (roadmap (plain o ho (.inl hk))) fun _ => safe_pure _
    next hk => exact safe_bind stable_true (roadmap (plain o ho (.inr hk))) fun _ => safe_pure _
    next =>
      rw [dry]
      exact safe_bind stable_true (safe_call (fun _ _ _ => rfl) fun _ => safe_pure _) fun _ => safe_pure _
    next =>
      rw [dry]
      exact safe_pure _
    next => exact safe_bind stable_true (wait o) fun _ => safe_pure _
    next => exact safe_pure _

section

variable {δ φ : Type} {D : Daemon δ φ} {o₀ o : Outside δ φ} {b : BoardRegistryEntry δ}

theorem Untouched.refl (o : Outside δ φ) : Untouched o o := ⟨rfl, rfl, rfl⟩

/-- Without apply and without an adapter a promotion is a proposal. -/
theorem applyRoadmapPromotion_dry (p : Proposal) (applied : ApplyLedger) (d : δ) :
    (applyRoadmapPromotion p false none applied d).2 = (applied, d) := by
  unfold applyRoadmapPromotion
  split
  · rfl
  · simp

theorem env_dry (turn : Option (BoardRegistryEntry δ)) (q : Request) (unrouted : q.roadmap = false ∨ turn = none) (h : Untouched o₀ o) :
    Untouched o₀ (D.env false turn q o).2 := by
  cases q with
  | routeRoadmap eventId =>
    obtain rfl := unrouted.resolve_left (by simp [Request.roadmap])
    exact h
  | now => exact h
  | mutate a row m => exact h
  | probe a row p => exact h
  | newCaseId => exact h
  | checkWait w => exact h
  | routeCodeFix eventId => exact h

/-- The receipts file, if there is one, holds what the ledger is written as. -/
def Daemon.Canonical (D : Daemon δ φ) (b : BoardRegistryEntry δ) (o : Outside δ φ) : Prop :=
  b.roadmapReceiptsFile = "" ∨ o.files b.roadmapReceiptsFile = some (D.dumps (.obj o.ledger))

theorem promote_dry (canonical : D.Canonical b o₀) (eventId : String) (h : Untouched o₀ o) :
    Untouched o₀ (D.promote false b eventId o).2 := by
  obtain ⟨boards, files, ledger⟩ := h
  unfold Daemon.promote
  have proposed := applyRoadmapPromotion_dry (b.propose eventId) o.ledger o.boards
  simp only [Bool.false_and, Bool.false_eq_true, if_false, proposed]
  split
  next => exact ⟨boards, files, ledger⟩
  next hpath =>
    refine ⟨boards, ?_, ledger⟩
    have same := canonical.resolve_left hpath
    unfold Daemon.persistRoadmapApplyLedger
    funext file
    dsimp only
    split
    next hfile =>
      rw [hfile, ledger]
      exact same.symm
    next => rw [files]

/-- The event is a GO that the router promotes: the board's config is enabled, and its kill switch off. -/
def Daemon.Promotes (D : Daemon δ φ) (b : BoardRegistryEntry δ) (ev : BoardEvent) : Prop :=
  (D.ingestConfig false b).roadmap = .promotion ∧ ∃ o, compileEvent D.text (D.ingestConfig false b) ev = .ok o ∧
    (o.envelope.continuationKind = .roadmapNext ∨ o.envelope.continuationKind = .complete)

/-- No GO event is promoted at its turn over a receipts file that a rewrite would change. -/
def Daemon.KeepsReceipts (D : Daemon δ φ) (b : BoardRegistryEntry δ) (c : Outside δ φ × Store) : Prop :=
  ∀ ev t, (c.2.cursors (b.board, b.dbIdentity)).isSome →
    TurnAt D.text (D.ingestConfig false b) (D.env false (some b))
      (b.fetchEventsSince c.1.boards (c.2.getCursor b.board b.dbIdentity)) c ev t →
    D.Promotes b ev → D.Canonical b c.1

theorem routeEvent_dry {ev : BoardEvent} (plain : ¬D.Promotes b ev) (s : Store) (h : Untouched o₀ o) :
    Untouched o₀ (run (D.env false (some b)) (routeEvent D.text (D.ingestConfig false b) ev) o s).2.1 := by
  have unrouted := safe_routeEvent_unrouted D.text (D.ingestConfig false b) ev rfl fun compiled hc hk => by
    have inactive : (D.ingestConfig false b).roadmap ≠ .promotion := fun hp => plain ⟨hp, compiled, hc, hk⟩
    revert inactive
    simp only [Daemon.ingestConfig]
    split
    · exact fun _ => .inl rfl
    · split
      · exact fun _ => .inr rfl
      · exact fun inactive => absurd rfl inactive
  have wpEvent := unrouted.wp s trivial trivial
  exact run_keeps_env (K := unroutedTerms) (fun _ _ => trivial)
    (fun q i _ may hi => env_dry (some b) q (.inl may) hi) wpEvent h

/-- A board's pass leaves everything outside as it was. -/
theorem tickBoard_dry {c : Outside δ φ × Store} (keeps : D.KeepsReceipts b (D.loaded b c)) :
    Untouched (D.loaded b c).1 (D.tickBoard false b c).1 := by
  have start := Untouched.refl (D.loaded b c).1
  unfold Daemon.tickBoard
  dsimp only
  by_cases canonical : D.Canonical b (D.loaded b c).1
  · refine run_keeps (fun q i hi => ?_) _ _ start
    cases q with
    | routeRoadmap eventId => exact promote_dry canonical eventId hi
    | _ => exact env_dry (some b) _ (.inl rfl) hi
  · show Untouched _ (run _ (if ((D.loaded b c).2.cursors (b.board, b.dbIdentity)).isSome then _ else _) _ _).2.1
    split
    next known =>
      refine ingestBoardOnce_holds (P := fun t => Untouched (D.loaded b c).1 t.1) (fun ev t turn ht => ?_)
        (fun _ _ _ ht => ht) start
      exact routeEvent_dry (fun promotes => canonical (keeps ev t known turn promotes)) t.2 ht
    next => exact start

theorem DaemonPass.dry {c c' : Outside δ φ × Store} (h : DaemonPass D false D.KeepsReceipts c c') :
    c'.1.boards = c.1.boards ∧ c'.1.files = c.1.files := by
  have quiet : ∀ q i, Untouched c.1 i → Untouched c.1 (D.env false none q i).2 :=
    fun q _ hi => env_dry none q (.inr rfl) hi
  have start := Untouched.refl c.1
  cases h with
  | board b keeps =>
    obtain ⟨boards, files, _⟩ := tickBoard_dry keeps
    exact ⟨boards, files⟩
  | waits =>
    obtain ⟨boards, files, _⟩ := run_keeps quiet (pollExternalWaitConditions none) c.2 start
    exact ⟨boards, files⟩
  | outbox registry =>
    obtain ⟨boards, files, _⟩ := run_keeps quiet (reconcileOutbox (Daemon.adapterByBoard registry)) c.2 start
    exact ⟨boards, files⟩

theorem Invocation.dry {d d' : Durable δ} (h : Invocation D false D.KeepsReceipts d d') : d' = d := by
  obtain ⟨memory, passes⟩ := h
  have kept : ∀ {c}, ReflTransGen (DaemonPass D false D.KeepsReceipts) (⟨d.boards, d.files, memory, []⟩, d.store.getD .empty) c →
      c.1.boards = d.boards ∧ c.1.files = d.files := by
    intro c passes
    induction passes with
    | refl => exact ⟨rfl, rfl⟩
    | tail _ pass ih =>
      obtain ⟨boards, files⟩ := pass.dry
      exact ⟨boards.trans ih.1, files.trans ih.2⟩
  obtain ⟨boards, files⟩ := kept passes
  dsimp only at boards files
  rw [boards, files]
  rfl

/-- Dry runs change nothing durable, as long as they promote GO events over receipts files only that they
would write as they are. -/
theorem dryRuns_change_nothing (D : Daemon δ φ) {d d' : Durable δ} (runs : ReflTransGen (Invocation D false D.KeepsReceipts) d d') :
    d' = d := by
  induction runs with
  | refl => rfl
  | tail _ invocation ih => exact invocation.dry.trans ih

end

section Samples

def goEvent : BoardEvent where
  eventId := "21"
  eventSeq := 21
  sourceTaskId := "t2"
  sourceGraphId := "g2"
  runMetadata := .obj [("agentflow_outcome", .obj [("schema_version", .int 1), ("verdict", .str "GO"),
    ("continuation_kind", .str "complete")])]

/-- A board with an enabled transition config, whose one event completes without a known transition. -/
def roadmapBoard : BoardRegistryEntry Unit where
  board := "main"
  dbIdentity := "main.db"
  roadmapConfig := some { enabled := true }
  roadmapReceiptsFile := "receipts.json"
  currentMaxSeq _ := 21
  fetchEventsSince _ cursor := if cursor < 21 then [goEvent] else []
  propose _ := {}

/-- `{}`. -/
def emptyDict : Bytes := [123, 125]

def dryDaemon : Daemon Unit Unit where
  text := asciiText
  contracts _ := none
  resolve := humanEffortResolver asciiText [] "main"
  loads bytes := if bytes = emptyDict then some (.obj []) else none
  dumps
    | .obj [] => emptyDict
    | _ => []
  cli := steadyEnv 0 { success := true } true
  graph _ := { createGraph := fun _ d => ({ success := true }, d), recordSourceReceipt := fun _ d => d }
  own := steadyEnv 0 { success := true } true

/-- The board is enrolled, and its receipts file as given. -/
def enrolledDisk (receipts : Option Bytes) : Durable Unit where
  store := some (Store.upsertCursor "main" "main.db" 20 .empty)
  boards := ()
  files := fun file => if file = "receipts.json" then receipts else none

def ticking (receipts : Option Bytes) : Outside Unit Unit × Store :=
  (⟨(), (enrolledDisk receipts).files, (), []⟩, (enrolledDisk receipts).store.getD .empty)

def dryTick (receipts : Option Bytes) : Durable Unit :=
  let c := dryDaemon.tick false [roadmapBoard] (ticking receipts)
  ⟨(enrolledDisk receipts).store, c.1.boards, c.1.files⟩

theorem dryTick_invocation {meets : BoardRegistryEntry Unit → Outside Unit Unit × Store → Prop} {receipts : Option Bytes}
    (h : meets roadmapBoard (dryDaemon.loaded roadmapBoard (ticking receipts))) :
    Invocation dryDaemon false meets (enrolledDisk receipts) (dryTick receipts) := by
  have board : DaemonPass dryDaemon false meets (ticking receipts) (dryDaemon.tickBoard false roadmapBoard (ticking receipts)) :=
    .board roadmapBoard h
  exact .passes () ((ReflTransGen.single board).tail .waits)

/-- Receipts that are in their file already are written as they are. -/
theorem dryRuns_change_nothing_rewritten : dryTick (some emptyDict) = enrolledDisk (some emptyDict) := by
  have canonical : dryDaemon.Canonical roadmapBoard (dryDaemon.loaded roadmapBoard (ticking (some emptyDict))).1 :=
    .inr (by decide)
  have tick : Invocation dryDaemon false dryDaemon.KeepsReceipts (enrolledDisk (some emptyDict)) (dryTick (some emptyDict)) :=
    dryTick_invocation fun _ _ _ _ _ => canonical
  exact dryRuns_change_nothing dryDaemon (ReflTransGen.single tick)

/-- A dry tick creates the receipts file of the board whose event it proposes for. -/
theorem dry_run_creates_receipts : ¬∀ (D : Daemon Unit Unit) (d d' : Durable Unit),
    ReflTransGen (Invocation D false fun _ _ => True) d d' → d' = d := by
  intro claim
  have same := claim dryDaemon (enrolledDisk none) (dryTick none) (.single (dryTick_invocation trivial))
  have created : (dryTick none).files "receipts.json" = some emptyDict := by decide +kernel
  rw [same] at created
  cases created

end Samples

end AgentflowHermes
