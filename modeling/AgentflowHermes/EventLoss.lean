import AgentflowHermes.IngestCursor
import AgentflowHermes.KanbanEvents

namespace AgentflowHermes

open CrashProgram Relation

/-- The cursor of a board stays at or below a bound. -/
def boundTerms (ok : ∀ q, Response q → Prop) (board dbIdentity : String) (bound : Int) : Terms where
  ok := ok
  inv s := s.getCursor board dbIdentity ≤ bound
  may _ _ := True

theorem handlerTerms_bound (ok : ∀ q, Response q → Prop) (board dbIdentity : String) (bound : Int) :
    HandlerTerms (boundTerms ok board dbIdentity bound) (.instances fun _ => True) := by
  refine handlerTerms_cursors (fun _ _ => trivial) (fun _ => trivial) fun s t hs same => ⟨trivial, ?_⟩
  show (t.cursors (board, dbIdentity)).getD 0 ≤ bound
  rw [same]
  exact hs

theorem ingestLoop_maxSeq (T : PyText) (cfg : IngestConfig) {events : List BoardEvent} {m bound : Int} (hm : m ≤ bound)
    (below : ∀ ev ∈ events, ev.eventSeq ≤ bound) : Returns (fun out => out.2 ≤ bound) (ingestLoop T cfg events m) := by
  induction events generalizing m with
  | nil => exact hm
  | cons ev rest ih =>
    have later := ih (Int.max_le.mpr ⟨hm, below ev (by simp)⟩) fun x hx => below x (List.mem_cons_of_mem _ hx)
    refine returns_bind fun r => ?_
    split
    · exact hm
    · exact later.bind fun out hout => hout

/-- A pass, however it ends, moves the cursor no further than the events it fetches. -/
theorem ingestBoardOnce_bound {T : PyText} {cfg : IngestConfig} {fetch : Int → List BoardEvent} {s t : Store}
    {ok : ∀ q, Response q → Prop} {tr : List (Act Request Store)} {o : Option (Except String IngestResult)} {bound : Int}
    (e : Exec ok (ingestBoardOnce T cfg fetch) s tr o t) (hs : s.getCursor cfg.board cfg.dbIdentity ≤ bound)
    (below : ∀ ev ∈ fetch (s.getCursor cfg.board cfg.dbIdentity), ev.eventSeq ≤ bound) :
    t.getCursor cfg.board cfg.dbIdentity ≤ bound := by
  have terms := handlerTerms_bound ok cfg.board cfg.dbIdentity bound
  have routed : ∀ ev, Safe (boundTerms ok cfg.board cfg.dbIdentity bound) (fun _ => True) (routeEvent T cfg ev) := fun ev =>
    terms.whole ((Permits.instances_open _).routeEvent T cfg ev fun _ _ _ => trivial)
  have spec : wp (boundTerms ok cfg.board cfg.dbIdentity bound) (ingestBoardOnce T cfg fetch) (fun _ _ => True) s := by
    refine wp_get_bind.mpr (wp_bind.mpr ?_)
    have loop : Safe _ _ (ingestLoop T cfg (fetch (s.getCursor cfg.board cfg.dbIdentity)) _) :=
      safe_ingestLoop stable_true (fun ev _ => routed ev) (s.getCursor cfg.board cfg.dbIdentity)
    refine wp_mono (wp_returns (loop.wp s hs trivial) (ingestLoop_maxSeq T cfg hs below)) ?_
    rintro out u hu ⟨_, hout⟩
    have value : max (u.getCursor cfg.board cfg.dbIdentity) out.2 ≤ bound := Int.max_le.mpr ⟨hu, hout⟩
    have written : (u.upsertCursor cfg.board cfg.dbIdentity (max (u.getCursor cfg.board cfg.dbIdentity) out.2)).getCursor
        cfg.board cfg.dbIdentity ≤ bound := by
      rw [getCursor_upsertCursor u _ _ _ (Int.le_max_left _ _)]
      exact value
    exact ⟨hu, trivial, written, trivial⟩
  exact (wp_sound spec e).2.1

/-- A board's database, the ledger, and the sequences that have been fetched so far. -/
structure Watch where
  db : KanbanDb
  store : Store
  seen : List Int

def Watch.cursor (src : LiveBoardEventSource) (w : Watch) : Int := w.store.getCursor src.board src.dbIdentity

/-- What a pass fetches, with the database readable or not. -/
def Watch.fetched (src : LiveBoardEventSource) (w : Watch) (readable : Bool) : List BoardEvent :=
  src.fetchEventsSince (if readable then some w.db else none) (w.cursor src)

/-- No fetched event overtakes a terminal event above the cursor that the query hides. -/
def Unovertaken (src : LiveBoardEventSource) (w : Watch) (readable : Bool) : Prop :=
  ∀ e ∈ w.db.events, e.terminal → w.cursor src < e.id → w.db.visible e = false →
    ∀ ev ∈ w.fetched src readable, ev.eventSeq < e.id

/-- The Kanban commits an event, a run or a task, the ledger is written elsewhere, or a pass runs, to its
end or cut off. -/
inductive WatchStep (T : PyText) (src : LiveBoardEventSource) (guard : Watch → Bool → Prop) : Watch → Watch → Prop
  | event {w} (e : TaskEvent) (above : ∀ f ∈ w.db.events, f.id < e.id) :
      WatchStep T src guard w { w with db := w.db.addEvent e above }
  | run {w} (r : TaskRun) : WatchStep T src guard w { w with db := { w.db with runs := w.db.runs ++ [r] } }
  | task {w} (t : Task) : WatchStep T src guard w { w with db := { w.db with tasks := w.db.tasks ++ [t] } }
  | elsewhere {w t} (same : t.getCursor src.board src.dbIdentity = w.cursor src) :
      WatchStep T src guard w { w with store := t }
  | pass {w cfg readable t tr o} {ok : ∀ q, Response q → Prop} (board : cfg.board = src.board)
      (dbIdentity : cfg.dbIdentity = src.dbIdentity) (meets : guard w readable)
      (e : Exec ok (ingestBoardOnce T cfg (src.fetchEventsSince (if readable then some w.db else none))) w.store tr o t) :
      WatchStep T src guard w ⟨w.db, t, w.seen ++ (w.fetched src readable).map BoardEvent.eventSeq⟩

/-- Nothing above the baseline is passed unseen, and the cursor is below whatever bounds the baseline and
the events. -/
structure Lossless (src : LiveBoardEventSource) (base : Int) (w : Watch) : Prop where
  seen : ∀ e ∈ w.db.events, e.terminal → base < e.id → e.id ≤ w.cursor src → e.id ∈ w.seen
  bounded : ∀ n, base ≤ n → (∀ e ∈ w.db.events, e.id ≤ n) → w.cursor src ≤ n

section

variable {T : PyText} {src : LiveBoardEventSource} {base : Int} {w w' : Watch}

theorem Watch.mem_fetched {readable : Bool} {ev : BoardEvent} (h : ev ∈ w.fetched src readable) :
    readable ∧ ∃ f ∈ w.db.selectEvents (w.cursor src) src.limit, ev = src.rowToEvent w.db f := by
  obtain ⟨d, f, hd, hf, rfl⟩ := LiveBoardEventSource.mem_fetchEventsSince h
  cases readable with
  | false => cases hd
  | true =>
    cases hd
    exact ⟨rfl, f, hf, rfl⟩

/-- A visible terminal event at or below a fetched one is fetched. -/
theorem Watch.fetched_below {readable : Bool} {ev : BoardEvent} {e : TaskEvent} (h : ev ∈ w.fetched src readable)
    (he : e ∈ w.db.events) (above : w.cursor src < e.id) (terminal : e.terminal) (visible : w.db.visible e)
    (le : e.id ≤ ev.eventSeq) : e.id ∈ (w.fetched src readable).map BoardEvent.eventSeq := by
  obtain ⟨hr, f, hf, rfl⟩ := Watch.mem_fetched h
  have mem := KanbanDb.selectEvents_below hf he above terminal visible le
  refine List.mem_map.mpr ⟨src.rowToEvent w.db e, ?_, rfl⟩
  unfold Watch.fetched
  rw [hr]
  exact List.mem_map_of_mem mem

theorem Lossless.step (h : Lossless src base w) (step : WatchStep T src (Unovertaken src) w w') : Lossless src base w' := by
  cases step with
  | event e above =>
    have rows : ∀ f, f ∈ (w.db.addEvent e above).events ↔ f ∈ w.db.events ∨ f = e := fun f => by
      simp [KanbanDb.addEvent]
    constructor
    · intro f hf terminal hbase passed
      rcases (rows f).mp hf with hf | rfl
      · exact h.seen f hf terminal hbase passed
      · have below := h.bounded (f.id - 1) (by omega) fun x hx => Int.le_sub_one_of_lt (above x hx)
        have passed : f.id ≤ w.cursor src := passed
        omega
    · exact fun n hbase hn => h.bounded n hbase fun x hx => hn x ((rows x).mpr (.inl hx))
  | run r => exact ⟨h.seen, h.bounded⟩
  | task t => exact ⟨h.seen, h.bounded⟩
  | @elsewhere t same =>
    have cursor : Watch.cursor src { w with store := t } = w.cursor src := same
    constructor
    · rw [cursor]
      exact h.seen
    · rw [cursor]
      exact h.bounded
  | @pass cfg readable t tr o ok board dbIdentity meets e =>
    have bound : ∀ n, w.cursor src ≤ n → (∀ ev ∈ w.fetched src readable, ev.eventSeq ≤ n) →
        t.getCursor src.board src.dbIdentity ≤ n := by
      intro n hc hf
      rw [← board, ← dbIdentity]
      refine ingestBoardOnce_bound e ?_ ?_
      · rw [board, dbIdentity]
        exact hc
      · rw [board, dbIdentity]
        exact hf
    constructor
    · intro x hx terminal hbase passed
      have passed : x.id ≤ t.getCursor src.board src.dbIdentity := passed
      by_cases old : x.id ≤ w.cursor src
      · exact List.mem_append_left _ (h.seen x hx terminal hbase old)
      · refine List.mem_append_right _ ?_
        have above : w.cursor src < x.id := by omega
        by_cases reached : ∃ ev ∈ w.fetched src readable, x.id ≤ ev.eventSeq
        · obtain ⟨ev, hev, le⟩ := reached
          cases visible : w.db.visible x with
          | true => exact Watch.fetched_below hev hx above terminal visible le
          | false =>
            have overtaken := meets x hx terminal above visible ev hev
            omega
        · have short := bound (x.id - 1) (by omega) fun ev hev =>
            Int.le_sub_one_of_lt (Int.not_le.mp fun le => reached ⟨ev, hev, le⟩)
          omega
    · intro n hbase hn
      refine bound n (h.bounded n hbase hn) fun ev hev => ?_
      obtain ⟨_, f, hf, rfl⟩ := Watch.mem_fetched hev
      exact hn f (KanbanDb.mem_selectEvents hf).1

theorem Lossless.run (run : ReflTransGen (WatchStep T src (Unovertaken src)) w w') (h : Lossless src base w) :
    Lossless src base w' := by
  induction run with
  | refl => exact h
  | tail _ step ih => exact ih.step step

/-- The live source loses no event in a run whose passes fetch none that overtakes a hidden one. -/
theorem live_source_loses_nothing {db : KanbanDb} {s : Store}
    (run : ReflTransGen (WatchStep T src (Unovertaken src)) ⟨db, s, []⟩ w) :
    ∀ e ∈ w.db.events, e.terminal → s.getCursor src.board src.dbIdentity < e.id → e.id ≤ w.cursor src → e.id ∈ w.seen := by
  have start : Lossless src (s.getCursor src.board src.dbIdentity) ⟨db, s, []⟩ :=
    ⟨fun e _ _ hbase hpassed => absurd hbase (Int.not_lt.mpr hpassed), fun n hbase _ => hbase⟩
  exact (start.run run).seen

end

section Samples

def watchSource : LiveBoardEventSource where
  board := "main"
  dbIdentity := "main.db"

def watchConfig : IngestConfig where
  board := "main"
  dbIdentity := "main.db"
  contracts := fun _ => none
  resolve := fun _ _ _ => .ok ⟨[], []⟩

/-- Two finished runs of a task; the first event names a run. -/
def watchedDb (runs : List TaskRun) : KanbanDb where
  tasks := [{ id := "t1" }]
  runs := runs
  events := [{ id := 1, taskId := "t1", runId := some 1, kind := "completed" }, { id := 2, taskId := "t1", kind := "completed" }]
  ordered := by decide

def watchPass (w : Watch) : Watch :=
  ⟨w.db, (run (steadyEnv 0 { success := true } true)
      (ingestBoardOnce asciiText watchConfig (watchSource.fetchEventsSince (some w.db))) () w.store).2.2,
    w.seen ++ (w.fetched watchSource true).map BoardEvent.eventSeq⟩

theorem watchPass_step {guard : Watch → Bool → Prop} {w : Watch} (meets : guard w true) :
    WatchStep asciiText watchSource guard w (watchPass w) := by
  obtain ⟨tr, e⟩ := @run_exec _ _ _ _ _ (steadyEnv 0 { success := true } true) (fun _ _ => True) (fun _ _ => trivial)
    (ingestBoardOnce asciiText watchConfig (watchSource.fetchEventsSince (some w.db))) () w.store
  exact .pass rfl rfl meets e

theorem live_source_loses_nothing_visible : 1 ∈ (watchPass ⟨watchedDb [{ id := 1 }], .empty, []⟩).seen := by
  have all : ∀ e ∈ (watchedDb [{ id := 1 }]).events, (watchedDb [{ id := 1 }]).visible e = true := by decide
  have meets : Unovertaken watchSource ⟨watchedDb [{ id := 1 }], .empty, []⟩ true := by
    intro e he _ _ hidden
    rw [all e he] at hidden
    cases hidden
  exact live_source_loses_nothing (.single (watchPass_step meets))
    { id := 1, taskId := "t1", runId := some 1, kind := "completed" } (by simp [watchPass, watchedDb]) (by decide) (by decide)
    (by decide +kernel)

/-- The run row of the first event comes after the pass that fetched the second. -/
theorem overtaken_event_lost : ¬∀ db w, ReflTransGen (WatchStep asciiText watchSource fun _ _ => True) ⟨db, .empty, []⟩ w →
    ∀ e ∈ w.db.events, e.terminal → 0 < e.id → e.id ≤ w.cursor watchSource → e.id ∈ w.seen := by
  intro claim
  have overtaken : WatchStep asciiText watchSource (fun _ _ => True) ⟨watchedDb [], .empty, []⟩ _ := watchPass_step trivial
  have run := (ReflTransGen.single overtaken).tail (.run { id := 1 })
  have seen := claim _ _ run { id := 1, taskId := "t1", runId := some 1, kind := "completed" } (by simp [watchPass, watchedDb])
    (by decide) (by decide) (by decide +kernel)
  exact absurd seen (by decide +kernel)

end Samples

end AgentflowHermes
