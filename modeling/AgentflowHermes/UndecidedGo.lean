import AgentflowHermes.DryRuns

namespace AgentflowHermes

open CrashProgram Relation

section

variable {T : PyText} {cfg : IngestConfig} {ok : ∀ q, Response q → Prop} {s t : Store} {ev : BoardEvent}
  {tr : List (Act Request Store)}

/-- `apply_roadmap_promotion` has been called for an event. -/
def Promoted (eventId : String) (tr : List (Act Request Store)) : Prop := ∃ u, .call (.routeRoadmap eventId) u ∈ tr

/-- A GO event that is routed to its end is promoted. -/
theorem routeEvent_promotes {compiled : CompiledOutcome} {r : Routed} (promotion : cfg.roadmap = .promotion)
    (all : cfg.handleKinds = none) (hc : compileEvent T cfg ev = .ok compiled)
    (go : compiled.envelope.continuationKind = .roadmapNext ∨ compiled.envelope.continuationKind = .complete)
    (e : Exec ok (routeEvent T cfg ev) s tr (some (.ok r)) t) : Promoted ev.eventId tr := by
  have routed : routeEvent T cfg ev = Prog.call (.routeRoadmap ev.eventId) fun success =>
      return ⟨⟨ev.eventId, "roadmap_routed", some success, none, []⟩, !success⟩ := by
    have kept : (none : Option (List ContinuationKind)).any
        (fun kinds => !kinds.contains compiled.envelope.continuationKind) ≠ true := Bool.false_ne_true
    unfold routeEvent
    rw [hc]
    unfold routeCompiled
    dsimp only
    rw [all, if_neg kept]
    unfold routeRoadmap
    rw [promotion]
    rcases go with go | go <;> rw [go] <;> rfl
  rw [routed] at e
  cases e with
  | call _ _ => exact ⟨s, List.mem_cons_self⟩

/-- A part of the trace routes the event to its end. -/
def RoutedIn (ok : ∀ q, Response q → Prop) (T : PyText) (cfg : IngestConfig) (ev : BoardEvent)
    (tr : List (Act Request Store)) : Prop :=
  ∃ part u r v, part <:+: tr ∧ Exec ok (routeEvent T cfg ev) u part (some (.ok r)) v

theorem RoutedIn.within {part : List (Act Request Store)} (h : RoutedIn ok T cfg ev part) (inner : part <:+: tr) :
    RoutedIn ok T cfg ev tr := by
  obtain ⟨part', u, r, v, nested, e⟩ := h
  exact ⟨part', u, r, v, nested.trans inner, e⟩

/-- The loop has routed to its end what is not above the sequence it returns. -/
theorem ingestLoop_routes {events : List BoardEvent} {m : Int} {out : List IngestEntry × Int}
    (sorted : events.Pairwise fun a b => a.eventSeq < b.eventSeq) (above : ∀ x ∈ events, m < x.eventSeq)
    (mem : ev ∈ events) (passed : ev.eventSeq ≤ out.2)
    (e : Exec ok (ingestLoop T cfg events m) s tr (some (.ok out)) t) : RoutedIn ok T cfg ev tr := by
  induction events generalizing m s t tr out with
  | nil => cases mem
  | cons x rest ih =>
    obtain ⟨below, sorted⟩ := List.pairwise_cons.mp sorted
    unfold ingestLoop at e
    rcases exec_seq e with ⟨cut, _⟩ | ⟨_, raised, _⟩ | ⟨r, u, first, later, rfl, hx, e⟩
    · cases cut
    · cases raised
    · split at e
      next =>
        obtain ⟨_, stops⟩ := exec_pure e
        cases stops _ rfl
        have ahead := above ev mem
        omega
      next =>
        rcases exec_seq e with ⟨cut, _⟩ | ⟨_, raised, _⟩ | ⟨out', v, middle, last, rfl, loop, e⟩
        · cases cut
        · cases raised
        · obtain ⟨_, ends⟩ := exec_pure e
          cases ends _ rfl
          rcases List.mem_cons.mp mem with rfl | mem
          · exact ⟨first, s, r, u, (List.prefix_append first _).isInfix, hx⟩
          · have higher : ∀ y ∈ rest, max m x.eventSeq < y.eventSeq := by
              intro y hy
              have hm := above y (List.mem_cons_of_mem _ hy)
              have hxy := below y hy
              omega
            have reached : ev.eventSeq ≤ out'.2 := passed
            have found := ih sorted higher mem reached loop
            exact found.within ⟨first, last, List.append_assoc first middle last⟩

theorem advanceCursor_bound {board dbIdentity : String} {m bound : Int} {a : IngestResult}
    {o : Option (Except String IngestResult)} (hs : s.getCursor board dbIdentity ≤ bound) (hm : m ≤ bound)
    (e : Exec ok (advanceCursor board dbIdentity m >>= fun _ => pure a) s tr o t) :
    t.getCursor board dbIdentity ≤ bound := by
  have written : (s.upsertCursor board dbIdentity (max (s.getCursor board dbIdentity) m)).getCursor board dbIdentity ≤
      bound := by
    rw [getCursor_upsertCursor s _ _ _ (Int.le_max_left _ _)]
    exact Int.max_le.mpr ⟨hs, hm⟩
  have spec : wp (boundTerms ok board dbIdentity bound) (advanceCursor board dbIdentity m >>= fun _ => pure a)
      (fun _ _ => True) s := ⟨hs, trivial, written, trivial⟩
  exact (wp_sound spec e).2.1

/-- A pass, however it ends, has routed to its end what its cursor gets past. -/
theorem ingestBoardOnce_routes {fetch : Int → List BoardEvent} {o : Option (Except String IngestResult)}
    (sorted : (fetch (s.getCursor cfg.board cfg.dbIdentity)).Pairwise fun a b => a.eventSeq < b.eventSeq)
    (above : ∀ x ∈ fetch (s.getCursor cfg.board cfg.dbIdentity), s.getCursor cfg.board cfg.dbIdentity < x.eventSeq)
    (mem : ev ∈ fetch (s.getCursor cfg.board cfg.dbIdentity))
    (passed : ev.eventSeq ≤ t.getCursor cfg.board cfg.dbIdentity)
    (e : Exec ok (ingestBoardOnce T cfg fetch) s tr o t) : RoutedIn ok T cfg ev tr := by
  have ahead := above ev mem
  have unmoved : ∀ {u tr o}, Exec ok (ingestLoop T cfg (fetch (s.getCursor cfg.board cfg.dbIdentity))
      (s.getCursor cfg.board cfg.dbIdentity)) s tr o u →
      u.getCursor cfg.board cfg.dbIdentity ≤ s.getCursor cfg.board cfg.dbIdentity := by
    intro u tr o e
    have terms := handlerTerms_bound ok cfg.board cfg.dbIdentity (s.getCursor cfg.board cfg.dbIdentity)
    have routed : ∀ x ∈ fetch (s.getCursor cfg.board cfg.dbIdentity), Safe _ (fun _ => True) (routeEvent T cfg x) :=
      fun x _ => terms.whole ((Permits.instances_open _).routeEvent T cfg x fun _ _ _ => trivial)
    exact ((safe_ingestLoop stable_true routed _).exec (Int.le_refl _) trivial e).2
  have loops := exec_get_bind e
  rcases exec_seq loops with ⟨_, loop⟩ | ⟨_, _, loop⟩ | ⟨out, u, first, last, rfl, loop, rest⟩
  · have still := unmoved loop
    omega
  · have still := unmoved loop
    omega
  · have still := unmoved loop
    have bound := advanceCursor_bound (Int.le_trans still (Int.le_max_left _ out.2)) (Int.le_max_right _ _) rest
    have reached : ev.eventSeq ≤ out.2 := by omega
    exact (ingestLoop_routes sorted above mem reached loop).within (List.prefix_append first last).isInfix

theorem LiveBoardEventSource.fetch_sorted (src : LiveBoardEventSource) (db : Option KanbanDb) (last : Int) :
    (src.fetchEventsSince db last).Pairwise fun a b => a.eventSeq < b.eventSeq := by
  cases db with
  | none => exact .nil
  | some db => exact List.pairwise_map.mpr ((db.ordered.filter _).take.imp fun lt => lt)

end

/-- What a tick has done on the board: the entry with the config as the tick could load it, what it fetched, the
cursor behind it, and its trace. -/
structure TickRecord (δ : Type) where
  entry : BoardRegistryEntry δ
  fetched : List BoardEvent
  cursor : Int
  trace : List (Act Request Store)

/-- The event is a GO of the board. -/
def Daemon.Go {δ φ : Type} (D : Daemon δ φ) (b : BoardRegistryEntry δ) (ev : BoardEvent) : Prop :=
  ∃ compiled, compileEvent D.text (D.ingestConfig true b) ev = .ok compiled ∧
    (compiled.envelope.continuationKind = .roadmapNext ∨ compiled.envelope.continuationKind = .complete)

/-- The tick had the config, which is switched off, or else called the promotion for the event. -/
def TickRecord.Decides {δ : Type} (r : TickRecord δ) (ev : BoardEvent) : Prop :=
  ∃ config, r.entry.roadmapConfig = some config ∧
    (config.enabled = false ∨ config.killSwitch = true ∨ Promoted ev.eventId r.trace)

/-- A board's database, the ledger and the ticks so far. -/
structure TickWatch (δ : Type) where
  db : KanbanDb
  store : Store
  ticks : List (TickRecord δ)

section

variable {δ φ : Type}

def TickWatch.watch (w : TickWatch δ) : Watch :=
  ⟨w.db, w.store, w.ticks.flatMap fun r => r.fetched.map BoardEvent.eventSeq⟩

/-- The database and the ledger change as in `WatchStep`, or the daemon ticks: to its end or cut off, with the config
loaded or not. -/
inductive TickStep (D : Daemon δ φ) (src : LiveBoardEventSource)
    (guard : TickWatch δ → BoardRegistryEntry δ → Bool → Prop) : TickWatch δ → TickWatch δ → Prop
  | event {w} (e : TaskEvent) (above : ∀ f ∈ w.db.events, f.id < e.id) :
      TickStep D src guard w { w with db := w.db.addEvent e above }
  | run {w} (r : TaskRun) : TickStep D src guard w { w with db := { w.db with runs := w.db.runs ++ [r] } }
  | task {w} (t : Task) : TickStep D src guard w { w with db := { w.db with tasks := w.db.tasks ++ [t] } }
  | elsewhere {w t} (same : t.cursors (src.board, src.dbIdentity) = w.store.cursors (src.board, src.dbIdentity)) :
      TickStep D src guard w { w with store := t }
  | tick {w readable t tr o} {ok : ∀ q, Response q → Prop} (b : BoardRegistryEntry δ) (apply : Bool) (seed : Int)
      (board : b.board = src.board) (dbIdentity : b.dbIdentity = src.dbIdentity) (meets : guard w b readable)
      (e : Exec ok (routeBoardEvents D.text (D.ingestConfig apply b) seed
        (src.fetchEventsSince (if readable then some w.db else none))) w.store tr o t) :
      TickStep D src guard w
        ⟨w.db, t, w.ticks ++ [⟨b, w.watch.fetched src readable, t.getCursor src.board src.dbIdentity, tr⟩]⟩

/-- A tick that could not load the config fetches no GO event, and no tick overtakes a hidden event. -/
def Loaded (D : Daemon δ φ) (src : LiveBoardEventSource) (w : TickWatch δ) (b : BoardRegistryEntry δ)
    (readable : Bool) : Prop :=
  Unovertaken src w.watch readable ∧ (b.roadmapConfig = none → ∀ ev ∈ w.watch.fetched src readable, ¬D.Go b ev)

/-- Every event that the cursor has passed above the baseline was fetched by a tick that passed it, and decided it if
it is a GO. -/
def GoDecided (D : Daemon δ φ) (src : LiveBoardEventSource) (base : Int) (w : TickWatch δ) : Prop :=
  ∀ e ∈ w.db.events, e.terminal → base < e.id → e.id ≤ w.watch.cursor src →
    ∃ r ∈ w.ticks, ∃ ev ∈ r.fetched, ev.eventSeq = e.id ∧ e.id ≤ r.cursor ∧ (D.Go r.entry ev → r.Decides ev)

/-- The board is enrolled, and nothing above the baseline has been passed undecided. -/
structure Deciding (D : Daemon δ φ) (src : LiveBoardEventSource) (base : Int) (w : TickWatch δ) : Prop where
  known : (w.store.cursors (src.board, src.dbIdentity)).isSome
  lossless : Lossless src base w.watch
  decided : GoDecided D src base w

variable {D : Daemon δ φ} {src : LiveBoardEventSource} {base : Int} {w w' : TickWatch δ}

theorem tick_passes {b : BoardRegistryEntry δ} {apply : Bool} {seed : Int} {fetch : Int → List BoardEvent} {s t : Store}
    {tr : List (Act Request Store)} {o : Option (Except String IngestResult)} {ok : ∀ q, Response q → Prop}
    (board : b.board = src.board) (dbIdentity : b.dbIdentity = src.dbIdentity)
    (known : (s.cursors (src.board, src.dbIdentity)).isSome)
    (e : Exec ok (routeBoardEvents D.text (D.ingestConfig apply b) seed fetch) s tr o t) :
    Exec ok (ingestBoardOnce D.text (D.ingestConfig apply b) fetch) s tr o t := by
  rw [← board, ← dbIdentity] at known
  have present : (s.cursors ((D.ingestConfig apply b).board, (D.ingestConfig apply b).dbIdentity)).isSome = true := known
  have passes := exec_get_bind e
  rwa [if_pos present] at passes

/-- A tick that passes an event has decided it. -/
theorem tick_decides {readable : Bool} {t : Store} {tr : List (Act Request Store)} {o : Option (Except String IngestResult)}
    {ok : ∀ q, Response q → Prop} {b : BoardRegistryEntry δ} {apply : Bool} (board : b.board = src.board)
    (dbIdentity : b.dbIdentity = src.dbIdentity) {ev : BoardEvent} (mem : ev ∈ w.watch.fetched src readable)
    (loaded : b.roadmapConfig = none → ¬D.Go b ev) (passed : ev.eventSeq ≤ t.getCursor src.board src.dbIdentity)
    (e : Exec ok (ingestBoardOnce D.text (D.ingestConfig apply b)
      (src.fetchEventsSince (if readable then some w.db else none))) w.store tr o t)
    (go : D.Go b ev) : ∃ config, b.roadmapConfig = some config ∧
      (config.enabled = false ∨ config.killSwitch = true ∨ Promoted ev.eventId tr) := by
  cases hb : b.roadmapConfig with
  | none => exact absurd go (loaded hb)
  | some config =>
    refine ⟨config, rfl, ?_⟩
    by_cases off : config.enabled = false ∨ config.killSwitch = true
    · exact off.imp_right .inl
    · have promotion : (D.ingestConfig apply b).roadmap = .promotion := by
        have on : (!config.enabled || config.killSwitch) = false := by simpa using off
        simp only [Daemon.ingestConfig, hb, on]
        rfl
      obtain ⟨compiled, hc, kind⟩ := go
      have cursor : w.store.getCursor b.board b.dbIdentity = w.watch.cursor src := by
        rw [board, dbIdentity]
        rfl
      have routed : RoutedIn ok D.text (D.ingestConfig apply b) ev tr := by
        refine ingestBoardOnce_routes (src.fetch_sorted _ _) ?_ ?_ ?_ e
        · show ∀ x ∈ src.fetchEventsSince _ (w.store.getCursor b.board b.dbIdentity),
            w.store.getCursor b.board b.dbIdentity < _
          rw [cursor]
          intro x (hx : x ∈ w.watch.fetched src readable)
          obtain ⟨_, f, hf, rfl⟩ := Watch.mem_fetched hx
          exact (KanbanDb.mem_selectEvents hf).2.1
        · show ev ∈ src.fetchEventsSince _ (w.store.getCursor b.board b.dbIdentity)
          rw [cursor]
          exact mem
        · show ev.eventSeq ≤ t.getCursor b.board b.dbIdentity
          rw [board, dbIdentity]
          exact passed
      obtain ⟨part, u, r, v, within, e⟩ := routed
      obtain ⟨x, hx⟩ := routeEvent_promotes promotion rfl hc kind e
      exact .inr (.inr ⟨x, within.subset hx⟩)

theorem TickStep.watch (step : TickStep D src (Loaded D src) w w')
    (known : (w.store.cursors (src.board, src.dbIdentity)).isSome) :
    WatchStep D.text src (Unovertaken src) w.watch w'.watch := by
  cases step with
  | event e above => exact .event e above
  | run r => exact .run r
  | task t => exact .task t
  | elsewhere same =>
    refine .elsewhere ?_
    unfold Watch.cursor Store.getCursor
    rw [same]
    rfl
  | @tick readable t tr o ok b apply seed board dbIdentity meets e =>
    have pass : WatchStep D.text src (Unovertaken src) w.watch
        ⟨w.db, t, w.watch.seen ++ (w.watch.fetched src readable).map BoardEvent.eventSeq⟩ :=
      .pass board dbIdentity meets.1 (tick_passes board dbIdentity known e)
    unfold TickWatch.watch
    rw [List.flatMap_append, List.flatMap_singleton]
    exact pass

theorem Deciding.step (h : Deciding D src base w) (step : TickStep D src (Loaded D src) w w') : Deciding D src base w' := by
  have watched := step.watch h.known
  have lossless := h.lossless.step watched
  cases step with
  | event e above =>
    refine ⟨h.known, lossless, ?_⟩
    intro f hf terminal hbase passed
    rcases List.mem_append.mp hf with hf | hf
    · exact h.decided f hf terminal hbase passed
    · cases List.mem_singleton.mp hf
      have below := h.lossless.bounded (e.id - 1) (by omega) fun x hx => Int.le_sub_one_of_lt (above x hx)
      have passed : e.id ≤ w.watch.cursor src := passed
      omega
  | run r => exact ⟨h.known, lossless, h.decided⟩
  | task t => exact ⟨h.known, lossless, h.decided⟩
  | @elsewhere t same =>
    have cursor : t.getCursor src.board src.dbIdentity = w.watch.cursor src := by
      unfold Watch.cursor Store.getCursor
      rw [same]
      rfl
    refine ⟨same ▸ h.known, lossless, fun f hf terminal hbase passed => h.decided f hf terminal hbase ?_⟩
    rw [← cursor]
    exact passed
  | @tick readable t tr o ok b apply seed board dbIdentity meets e =>
    constructor
    · obtain ⟨c, hc⟩ := Option.isSome_iff_exists.mp h.known
      obtain ⟨c', hc', _⟩ := routeBoardEvents_up e (src.board, src.dbIdentity) c hc
      exact Option.isSome_iff_exists.mpr ⟨c', hc'⟩
    · exact lossless
    · intro f hf terminal hbase passed
      by_cases old : f.id ≤ w.watch.cursor src
      · obtain ⟨r, hr, found⟩ := h.decided f hf terminal hbase old
        exact ⟨r, List.mem_append_left _ hr, found⟩
      · have start : Lossless src (w.watch.cursor src) ⟨w.db, w.store, []⟩ :=
          ⟨fun x _ _ above below => absurd above (Int.not_lt.mpr below), fun n le _ => le⟩
        have passes := tick_passes board dbIdentity h.known e
        have pass : WatchStep D.text src (Unovertaken src) ⟨w.db, w.store, []⟩
            ⟨w.db, t, [] ++ (w.watch.fetched src readable).map BoardEvent.eventSeq⟩ :=
          .pass board dbIdentity meets.1 passes
        have seen := (start.step pass).seen f hf terminal (Int.not_le.mp old) passed
        obtain ⟨ev, hev, hseq⟩ := List.mem_map.mp seen
        have reached : ev.eventSeq ≤ t.getCursor src.board src.dbIdentity := hseq ▸ passed
        refine ⟨_, List.mem_append_right _ (List.mem_singleton.mpr rfl), ev, hev, hseq, passed, fun go => ?_⟩
        exact tick_decides board dbIdentity hev (fun none => meets.2 none ev hev) reached passes go

theorem Deciding.run (run : ReflTransGen (TickStep D src (Loaded D src)) w w') (h : Deciding D src base w) :
    Deciding D src base w' := by
  induction run with
  | refl => exact h
  | tail _ step ih => exact ih.step step

/-- No GO event of an enrolled board is passed undecided in a run whose ticks can load the config when they fetch one
and overtake no hidden event. -/
theorem go_events_decided {db : KanbanDb} {s : Store} {ticks : List (TickRecord δ)}
    (enrolled : (s.cursors (src.board, src.dbIdentity)).isSome)
    (run : ReflTransGen (TickStep D src (Loaded D src)) ⟨db, s, ticks⟩ w) :
    GoDecided D src (s.getCursor src.board src.dbIdentity) w := by
  have start : Deciding D src (s.getCursor src.board src.dbIdentity) ⟨db, s, ticks⟩ := by
    refine ⟨enrolled, ⟨?_, fun n le _ => le⟩, ?_⟩
    · exact fun x _ _ above below => absurd above (Int.not_lt.mpr below)
    · exact fun x _ _ above below => absurd above (Int.not_lt.mpr below)
  exact (start.run run).decided

/-- A tick of the daemon over the live source, to its end. -/
theorem tickBoard_step {guard : TickWatch δ → BoardRegistryEntry δ → Bool → Prop} {b : BoardRegistryEntry δ}
    {apply : Bool} {o : Outside δ φ} (board : b.board = src.board) (dbIdentity : b.dbIdentity = src.dbIdentity)
    (fetches : b.fetchEventsSince o.boards = src.fetchEventsSince (some w.db)) (meets : guard w b true) :
    ∃ tr, TickStep D src guard w ⟨w.db, (D.tickBoard apply b (o, w.store)).2, w.ticks ++ [⟨b, w.watch.fetched src true,
      (D.tickBoard apply b (o, w.store)).2.getCursor src.board src.dbIdentity, tr⟩]⟩ := by
  obtain ⟨tr, e⟩ := @run_exec _ _ _ _ _ (D.env apply (some b)) (fun _ _ => True) (fun _ _ => trivial)
    (routeBoardEvents D.text (D.ingestConfig apply b) (b.currentMaxSeq o.boards) (src.fetchEventsSince (some w.db)))
    (D.loaded b (o, w.store)).1 w.store
  have ticked : (D.tickBoard apply b (o, w.store)).2 = (run (D.env apply (some b)) (routeBoardEvents D.text
      (D.ingestConfig apply b) (b.currentMaxSeq o.boards) (src.fetchEventsSince (some w.db)))
      (D.loaded b (o, w.store)).1 w.store).2.2 := by
    rw [← fetches]
    rfl
  rw [ticked]
  exact ⟨tr, .tick b apply _ board dbIdentity meets e⟩

end

section Samples

/-- The database behind `goEvent`. -/
def goDb : KanbanDb where
  tasks := [{ id := "t2" }]
  runs := [{ id := 1, metadata := some goEvent.runMetadata }]
  events := [{ id := 21, taskId := "t2", runId := some 1, kind := "completed" }]
  ordered := .cons (by simp) .nil

def goWatch : TickWatch Unit := ⟨goDb, (enrolledDisk none).store.getD .empty, []⟩

/-- `roadmapBoard` on its live source, with the config a tick could load. -/
def liveBoard (config : Option RepoRoadmapConfig) : BoardRegistryEntry Unit :=
  { roadmapBoard with roadmapConfig := config, fetchEventsSince := fun _ => watchSource.fetchEventsSince (some goDb) }

def goTicked (config : Option RepoRoadmapConfig) : Store :=
  (dryDaemon.tickBoard true (liveBoard config) ((ticking none).1, goWatch.store)).2

theorem goWatch_step {guard : TickWatch Unit → BoardRegistryEntry Unit → Bool → Prop}
    {config : Option RepoRoadmapConfig} (meets : guard goWatch (liveBoard config) true) : ∃ tr, TickStep dryDaemon watchSource guard goWatch
      ⟨goDb, goTicked config, [⟨liveBoard config, goWatch.watch.fetched watchSource true,
        (goTicked config).getCursor "main" "main.db", tr⟩]⟩ :=
  @tickBoard_step _ _ dryDaemon watchSource goWatch guard (liveBoard config) true (ticking none).1 rfl rfl rfl meets

theorem go_events_decided_enabled : ∃ w : TickWatch Unit, w.store.getCursor watchSource.board watchSource.dbIdentity = 21 ∧
    GoDecided dryDaemon watchSource 20 w := by
  have visible : ∀ e ∈ goDb.events, goDb.visible e = true := by decide
  have loaded : Loaded dryDaemon watchSource goWatch (liveBoard (some { enabled := true })) true := by
    refine ⟨fun e he _ _ hidden => ?_, fun none => nomatch none⟩
    have shown : goWatch.watch.db.visible e = true := visible e he
    rw [shown] at hidden
    cases hidden
  obtain ⟨tr, step⟩ := goWatch_step loaded
  have moved : (goTicked (some { enabled := true })).getCursor watchSource.board watchSource.dbIdentity = 21 := by
    decide +kernel
  have base : goWatch.store.getCursor watchSource.board watchSource.dbIdentity = 20 := by decide +kernel
  have enrolled : (goWatch.store.cursors (watchSource.board, watchSource.dbIdentity)).isSome = true := by decide +kernel
  have decided := go_events_decided enrolled (ReflTransGen.single step)
  rw [base] at decided
  exact ⟨_, moved, decided⟩

/-- A tick that cannot load the config passes the GO event. -/
theorem go_event_undecided : ¬∀ w, ReflTransGen (TickStep dryDaemon watchSource fun _ _ _ => True) goWatch w →
    GoDecided dryDaemon watchSource 20 w := by
  intro claim
  obtain ⟨tr, step⟩ := @goWatch_step (fun _ _ _ => True) none trivial
  have passed : (21 : Int) ≤ (goTicked none).getCursor "main" "main.db" := by decide +kernel
  obtain ⟨r, hr, ev, hev, _, _, decides⟩ := claim _ (.single step)
    { id := 21, taskId := "t2", runId := some 1, kind := "completed" } List.mem_cons_self (by decide) (by decide) passed
  cases List.mem_singleton.mp hr
  have kinds : ∀ ev ∈ goWatch.watch.fetched watchSource true, (compileEvent asciiText (dryDaemon.ingestConfig true
      (liveBoard none)) ev).toOption.map (fun o => o.envelope.continuationKind) = some .complete := by decide +kernel
  have go : dryDaemon.Go (liveBoard none) ev := by
    obtain ⟨compiled, hc, kind⟩ := Option.map_eq_some_iff.mp (kinds ev hev)
    refine ⟨compiled, ?_, .inr kind⟩
    revert hc
    cases he : compileEvent asciiText (dryDaemon.ingestConfig true (liveBoard none)) ev with
    | error _ => exact fun none => nomatch none
    | ok o => exact fun same => he.trans (congrArg Except.ok (Option.some.inj same))
  obtain ⟨config, loaded, _⟩ := decides go
  cases loaded

end Samples

end AgentflowHermes
