import AgentflowHermes.EventLoss
import AgentflowHermes.IngestCursor

namespace AgentflowHermes

open CrashProgram Relation

/-- One board's share of `route_board_events` and of `ingest_all_boards`: a board that was never seen is
seeded, any other is ingested. -/
def routeBoardEvents (T : PyText) (cfg : IngestConfig) (seed : Int) (fetchEventsSince : Int → List BoardEvent) :
    Run IngestResult := do
  let known ← Prog.get fun s => (s.cursors (cfg.board, cfg.dbIdentity)).isSome
  if known then ingestBoardOnce T cfg fetchEventsSince
  else do
    let _ ← advanceCursor cfg.board cfg.dbIdentity seed
    return ⟨[], seed⟩

/-- Stored cursors stay, and go up at most. -/
def CursorsUp (s t : Store) : Prop := ∀ key c, s.cursors key = some c → ∃ c', t.cursors key = some c' ∧ c ≤ c'

theorem cursorsUp_of_eq {s t : Store} (h : t.cursors = s.cursors) : CursorsUp s t :=
  fun _ c hc => ⟨c, h ▸ hc, Int.le_refl c⟩

theorem CursorsUp.trans {s t u : Store} (h : CursorsUp s t) (h' : CursorsUp t u) : CursorsUp s u := by
  intro key c hc
  obtain ⟨c', hc', le⟩ := h key c hc
  obtain ⟨c'', hc'', le'⟩ := h' key c' hc'
  exact ⟨c'', hc'', Int.le_trans le le'⟩

theorem cursorsUp_upsertCursor (s : Store) (board dbIdentity : String) (value : Int) :
    CursorsUp s (s.upsertCursor board dbIdentity value) := by
  intro key c hc
  simp only [Store.upsertCursor]
  split
  · rw [hc]
    dsimp only
    split
    next lt => exact ⟨value, rfl, Int.le_of_lt lt⟩
    next => exact ⟨c, rfl, Int.le_refl c⟩
  · exact ⟨c, hc, Int.le_refl c⟩

def upTerms (ok : ∀ q, Response q → Prop) : Terms where
  ok := ok
  inv _ := True
  may _ _ := True
  guar := CursorsUp

section

variable {T : PyText} {cfg : IngestConfig} {seed : Int} {fetch : Int → List BoardEvent} {s t : Store}
  {ok : ∀ q, Response q → Prop} {tr : List (Act Request Store)} {o : Option (Except String IngestResult)}

theorem safe_ingestBoardOnce_up : Safe (upTerms ok) (fun _ => True) (ingestBoardOnce T cfg fetch) := by
  have terms : HandlerTerms (upTerms ok) (.instances fun _ => True) :=
    handlerTerms_cursors (fun _ _ => trivial) (fun _ => trivial) fun _ _ _ same => ⟨cursorsUp_of_eq same, trivial⟩
  refine safe_ingestBoardOnce stable_true (fun _ ev _ => ?_) fun value s _ => ⟨cursorsUp_upsertCursor s _ _ _, trivial⟩
  exact terms.whole ((Permits.instances_open _).routeEvent T cfg ev fun _ _ _ => trivial)

theorem routeBoardEvents_up (e : Exec ok (routeBoardEvents T cfg seed fetch) s tr o t) : CursorsUp s t := by
  have seeds : Safe (upTerms ok) (fun _ => True) (advanceCursor cfg.board cfg.dbIdentity seed) :=
    safe_bind stable_true (safe_get _) fun _ => safe_write stable_true
      (fun s _ _ => ⟨cursorsUp_upsertCursor s _ _ _, trivial⟩) fun _ => safe_pure _
  have spec : Safe (upTerms ok) (fun _ => True) (routeBoardEvents T cfg seed fetch) :=
    safe_bind stable_true (safe_get _) fun known =>
      safe_ite safe_ingestBoardOnce_up (safe_bind stable_true seeds fun _ => safe_pure _)
  exact (spec.exec trivial trivial e).1.relates (fun _ => cursorsUp_of_eq rfl) (fun _ _ _ => CursorsUp.trans) fun _ _ h => h

/-- The cursor rows that are new since `s` are the board's, and stand at the seed or above. -/
def createdTerms (ok : ∀ q, Response q → Prop) (s : Store) (own : String × String) (seed : Int) : Terms where
  ok := ok
  inv u := ∀ key c, s.cursors key = none → u.cursors key = some c → key = own ∧ seed ≤ c
  may _ _ := True

theorem created_upsertCursor {u : Store} {board dbIdentity : String} {value : Int}
    (hu : (createdTerms ok s (board, dbIdentity) seed).inv u) (h : s.cursors (board, dbIdentity) = none → seed ≤ value) :
    (createdTerms ok s (board, dbIdentity) seed).inv (u.upsertCursor board dbIdentity value) := by
  intro key c absent created
  simp only [Store.upsertCursor] at created
  split at created
  next hkey =>
    subst hkey
    refine ⟨rfl, ?_⟩
    cases hold : u.cursors (board, dbIdentity) with
    | none =>
      rw [hold] at created
      cases created
      exact h absent
    | some old =>
      have hseed := (hu _ old absent hold).2
      rw [hold] at created
      dsimp only at created
      split at created
      next lt =>
        cases created
        exact h absent
      next =>
        cases created
        exact hseed
  next => exact hu key c absent created

/-- A cursor row that a pass creates is the board's, and stands at the seed or above. -/
theorem routeBoardEvents_creates (e : Exec ok (routeBoardEvents T cfg seed fetch) s tr o t) {key : String × String}
    (absent : s.cursors key = none) {c : Int} (created : t.cursors key = some c) :
    key = (cfg.board, cfg.dbIdentity) ∧ seed ≤ c := by
  have start : (createdTerms ok s (cfg.board, cfg.dbIdentity) seed).inv s := fun key c absent present => by
    rw [absent] at present
    cases present
  have terms : HandlerTerms (createdTerms ok s (cfg.board, cfg.dbIdentity) seed) (.instances fun _ => True) := by
    refine handlerTerms_cursors (fun _ _ => trivial) (fun _ => trivial) fun u v hu same => ⟨trivial, ?_⟩
    intro key c absent present
    rw [same] at present
    exact hu key c absent present
  have spec : wp (createdTerms ok s (cfg.board, cfg.dbIdentity) seed) (routeBoardEvents T cfg seed fetch)
      (fun _ _ => True) s := by
    refine wp_get_bind.mpr ?_
    split
    next known =>
      have passes : Safe (createdTerms ok s (cfg.board, cfg.dbIdentity) seed) (fun _ => True) (ingestBoardOnce T cfg fetch) := by
        refine safe_ingestBoardOnce stable_true (fun _ ev _ => ?_) fun value u hu => ⟨trivial, ?_⟩
        · exact terms.whole ((Permits.instances_open _).routeEvent T cfg ev fun _ _ _ => trivial)
        · refine created_upsertCursor hu fun none => ?_
          rw [none] at known
          cases known
      exact passes.wp s start trivial
    next =>
      refine wp_bind.mpr (wp_get_bind.mpr ⟨start, trivial, ?_⟩)
      have written : (createdTerms ok s (cfg.board, cfg.dbIdentity) seed).inv (s.upsertCursor cfg.board cfg.dbIdentity
          (max (s.getCursor cfg.board cfg.dbIdentity) seed)) := created_upsertCursor start fun _ => Int.le_max_right _ _
      exact ⟨written, written, trivial⟩
  exact (wp_sound spec e).2.1 key c absent created

end

/-- The boards' databases, the ledger, and the true maximum at the creation of each cursor row. -/
structure Boards where
  db : String × String → KanbanDb
  store : Store
  enrolled : String × String → Option Int

/-- What a pass over one board reads: the answers may be those of an unreadable database. -/
structure Reads where
  src : LiveBoardEventSource
  override : Option Int := none
  maxDb : Option KanbanDb
  fetchDb : Option KanbanDb

namespace Reads

def key (r : Reads) : String × String := (r.src.board, r.src.dbIdentity)

/-- The override, or the answer of `current_max_seq`. -/
def seed (r : Reads) : Int := r.override.getD (LiveBoardEventSource.currentMaxSeq r.maxDb)

/-- A cursor row that is still to be created is seeded at the board's true maximum or above. -/
def SeedsHigh (r : Reads) (w : Boards) : Prop := w.store.cursors r.key = none → (w.db r.key).maxId ≤ r.seed

end Reads

/-- The Kanban writes anything, the ledger is written elsewhere, or a pass runs over a board, to its end or
cut off. -/
inductive BoardsStep (T : PyText) (guard : Reads → Boards → Prop) : Boards → Boards → Prop
  | kanban {w} (db : String × String → KanbanDb) : BoardsStep T guard w { w with db := db }
  | elsewhere {w t} (same : t.cursors = w.store.cursors) : BoardsStep T guard w { w with store := t }
  | pass {w cfg t tr o} {ok : ∀ q, Response q → Prop} (r : Reads) (board : (cfg.board, cfg.dbIdentity) = r.key)
      (meets : guard r w)
      (e : Exec ok (routeBoardEvents T cfg r.seed (r.src.fetchEventsSince r.fetchDb)) w.store tr o t) :
      BoardsStep T guard w ⟨w.db, t, fun key =>
        if w.store.cursors key = none ∧ (t.cursors key).isSome then some (w.db key).maxId else w.enrolled key⟩

/-- The cursor of a board enrolled in the run stands at its true maximum of that moment or above. -/
def EnrolledHigh (w : Boards) : Prop := ∀ key m, w.enrolled key = some m → ∃ c, w.store.cursors key = some c ∧ m ≤ c

section

variable {T : PyText} {w w' : Boards}

theorem EnrolledHigh.step (h : EnrolledHigh w) (step : BoardsStep T Reads.SeedsHigh w w') : EnrolledHigh w' := by
  cases step with
  | kanban db => exact h
  | elsewhere same =>
    intro key m hm
    obtain ⟨c, hc, le⟩ := h key m hm
    exact ⟨c, same ▸ hc, le⟩
  | @pass cfg t tr o ok r board meets e =>
    intro key m hm
    dsimp only at hm
    split at hm
    next new =>
      cases hm
      obtain ⟨c, hc⟩ := Option.isSome_iff_exists.mp new.2
      obtain ⟨hkey, hseed⟩ := routeBoardEvents_creates e new.1 hc
      rw [board] at hkey
      subst hkey
      exact ⟨c, hc, Int.le_trans (meets new.1) hseed⟩
    next =>
      obtain ⟨c, hc, le⟩ := h key m hm
      obtain ⟨c', hc', le'⟩ := routeBoardEvents_up e key c hc
      exact ⟨c', hc', Int.le_trans le le'⟩

theorem EnrolledHigh.run (run : ReflTransGen (BoardsStep T Reads.SeedsHigh) w w') (h : EnrolledHigh w) : EnrolledHigh w' := by
  induction run with
  | refl => exact h
  | tail _ step ih => exact ih.step step

/-- A board enrolled in the run routes no event at or below its true maximum of that moment, in a run whose
passes seed no new cursor below it. -/
theorem enrolled_board_replays_nothing {db : String × String → KanbanDb} {s : Store}
    (run : ReflTransGen (BoardsStep T Reads.SeedsHigh) ⟨db, s, fun _ => none⟩ w) (r : Reads) {ι : Type} {E : Env Response ι}
    {i : ι} {cfg : IngestConfig} {ev : BoardEvent} {u : Store}
    (turn : Turn T cfg E (r.src.fetchEventsSince r.fetchDb (w.store.getCursor r.src.board r.src.dbIdentity)) (i, w.store) ev u) :
    ∀ m, w.enrolled r.key = some m → m < ev.eventSeq := by
  intro m hm
  obtain ⟨c, hc, le⟩ := EnrolledHigh.run run (fun _ _ h => by cases h) r.key m hm
  obtain ⟨before, after, _, _, fetched, _⟩ := turn
  have mem : ev ∈ r.src.fetchEventsSince r.fetchDb (w.store.getCursor r.src.board r.src.dbIdentity) := by
    rw [fetched]
    simp
  obtain ⟨_, e, _, he, rfl⟩ := LiveBoardEventSource.mem_fetchEventsSince mem
  have above := (KanbanDb.mem_selectEvents he).2.1
  have cursor : w.store.getCursor r.src.board r.src.dbIdentity = c := by
    unfold Store.getCursor
    rw [show w.store.cursors (r.src.board, r.src.dbIdentity) = some c from hc]
    rfl
  rw [cursor] at above
  exact Int.lt_of_le_of_lt le above

end

section Samples

def enrollReads (maxDb : Option KanbanDb) : Reads where
  src := watchSource
  maxDb := maxDb
  fetchDb := some (watchedDb [{ id := 1 }])

def enrollPass (r : Reads) (w : Boards) : Boards :=
  let t := (run (steadyEnv 0 { success := true } true)
    (routeBoardEvents asciiText watchConfig r.seed (r.src.fetchEventsSince r.fetchDb)) () w.store).2.2
  ⟨w.db, t, fun key => if w.store.cursors key = none ∧ (t.cursors key).isSome then some (w.db key).maxId else w.enrolled key⟩

def unseenBoard : Boards := ⟨fun _ => watchedDb [{ id := 1 }], .empty, fun _ => none⟩

theorem enrollPass_step {guard : Reads → Boards → Prop} {maxDb : Option KanbanDb} {w : Boards}
    (meets : guard (enrollReads maxDb) w) : BoardsStep asciiText guard w (enrollPass (enrollReads maxDb) w) := by
  obtain ⟨tr, e⟩ := @run_exec _ _ _ _ _ (steadyEnv 0 { success := true } true) (fun _ _ => True) (fun _ _ => trivial)
    (routeBoardEvents asciiText watchConfig (enrollReads maxDb).seed
      ((enrollReads maxDb).src.fetchEventsSince (enrollReads maxDb).fetchDb)) () w.store
  exact .pass _ rfl meets e

/-- The board enrolled by a pass that can read it, or cannot. -/
def enrolledBoard (readable : Bool) : Boards :=
  enrollPass (enrollReads (if readable then some (watchedDb [{ id := 1 }]) else none)) unseenBoard

/-- A third event, after the board has been enrolled. -/
def laterReads : Reads where
  src := watchSource
  maxDb := none
  fetchDb := some ((watchedDb [{ id := 1 }]).addEvent { id := 3, taskId := "t1", kind := "completed" } (by decide))

theorem enrolled_board_replays_nothing_later : ∃ m, (enrolledBoard true).enrolled ("main", "main.db") = some m ∧ m < 3 := by
  have high : (enrollReads (some (watchedDb [{ id := 1 }]))).SeedsHigh unseenBoard := fun _ => by decide
  have run := ReflTransGen.single (enrollPass_step high)
  have cursor : (enrolledBoard true).store.getCursor "main" "main.db" = 2 := by decide +kernel
  have turn : Turn asciiText watchConfig (steadyEnv 0 { success := true } true)
      (laterReads.src.fetchEventsSince laterReads.fetchDb ((enrolledBoard true).store.getCursor "main" "main.db"))
      ((), (enrolledBoard true).store)
      (laterReads.src.rowToEvent (laterReads.fetchDb.getD .empty) { id := 3, taskId := "t1", kind := "completed" })
      (enrolledBoard true).store := by
    rw [cursor]
    exact Turn.first _ [] _ _
  have enrolled : (enrolledBoard true).enrolled ("main", "main.db") = some 2 := by decide +kernel
  exact ⟨2, enrolled, enrolled_board_replays_nothing run laterReads turn 2 enrolled⟩

/-- A database that cannot be read at enrollment seeds the cursor at zero, and the history is routed. -/
theorem history_replayed : ¬∀ w, ReflTransGen (BoardsStep asciiText fun _ _ => True) unseenBoard w →
    ∀ (r : Reads) ev u, Turn asciiText watchConfig (steadyEnv 0 { success := true } true)
      (r.src.fetchEventsSince r.fetchDb (w.store.getCursor r.src.board r.src.dbIdentity)) ((), w.store) ev u →
    ∀ m, w.enrolled r.key = some m → m < ev.eventSeq := by
  intro claim
  have run : ReflTransGen (BoardsStep asciiText fun _ _ => True) unseenBoard (enrolledBoard false) :=
    .single (enrollPass_step trivial)
  have cursor : (enrolledBoard false).store.getCursor "main" "main.db" = 0 := by decide +kernel
  have enrolled : (enrolledBoard false).enrolled ("main", "main.db") = some 2 := by decide +kernel
  have turn : Turn asciiText watchConfig (steadyEnv 0 { success := true } true)
      ((enrollReads none).src.fetchEventsSince (enrollReads none).fetchDb
        ((enrolledBoard false).store.getCursor "main" "main.db")) ((), (enrolledBoard false).store)
      ((enrollReads none).src.rowToEvent (watchedDb [{ id := 1 }])
        { id := 1, taskId := "t1", runId := some 1, kind := "completed" }) (enrolledBoard false).store := by
    rw [cursor]
    exact Turn.first _ _ _ _
  exact absurd (claim _ run (enrollReads none) _ _ turn 2 enrolled) (by decide)

end Samples

end AgentflowHermes
