import AgentflowHermes.IngestRules

namespace AgentflowHermes

open CrashProgram Relation

/-- A route failed: the roadmap result or the materialization was not successful. -/
def IngestEntry.Failed (x : IngestEntry) : Prop :=
  x.success = some false ∧ x.action ∈ ["roadmap_routed", "code_fix_applied", "semantic_refusal_applied"]

theorem routeCompiled_halts (T : PyText) (cfg : IngestConfig) (ev : BoardEvent) (compiled : CompiledOutcome) :
    Returns (fun r => r.halts = true ↔ r.entry.Failed) (routeCompiled T cfg ev compiled) := by
  have step : ∀ action (r : StepResult), action ∈ ["roadmap_routed", "code_fix_applied", "semantic_refusal_applied"] →
      ((stepEntry ev action r).halts = true ↔ (stepEntry ev action r).entry.Failed) := by
    intro action r ha
    simp [stepEntry, IngestEntry.Failed] at ha ⊢
    exact fun _ => ha
  unfold routeCompiled
  dsimp only
  split
  · simp [IngestEntry.Failed]
  · split
    · exact returns_bind fun o => by simp [IngestEntry.Failed]
    · exact returns_bind fun o => by simp [IngestEntry.Failed]
    · exact returns_bind fun ok => by simp [IngestEntry.Failed]
    · exact returns_bind fun ok => by simp [IngestEntry.Failed]
    · split
      · exact returns_bind fun r => step "code_fix_applied" r (by simp)
      · exact returns_bind fun ok => by simp [IngestEntry.Failed]
    · split
      · exact returns_bind fun r => step "semantic_refusal_applied" r (by simp)
      · simp [IngestEntry.Failed]
    · exact returns_bind fun _ => by simp [IngestEntry.Failed]
    · simp [IngestEntry.Failed]

/-- A branch breaks out of the loop exactly when its route failed. -/
theorem routeEvent_halts (T : PyText) (cfg : IngestConfig) (ev : BoardEvent) :
    Returns (fun r => r.halts = true ↔ r.entry.Failed) (routeEvent T cfg ev) := by
  unfold routeEvent
  split
  · trivial
  · exact routeCompiled_halts T cfg ev _

section Pass

variable {ι : Type} (T : PyText) (cfg : IngestConfig) (E : Env Response ι)

/-- The events are routed one after the other, each once, and no route fails. -/
inductive Routes : List BoardEvent → List IngestEntry → ι × Store → ι × Store → Prop
  | nil {c} : Routes [] [] c c
  | cons {ev evs r entries i s c d} : run E (routeEvent T cfg ev) i s = (.ok r, c) → ¬r.entry.Failed →
      Routes evs entries c d → Routes (ev :: evs) (r.entry :: entries) (i, s) d

/-- The loop ends: no event is left, or the route of the next one fails and the others are left alone. -/
inductive Stops : List BoardEvent → List IngestEntry → ι × Store → ι × Store → Prop
  | drained {c} : Stops [] [] c c
  | failed {ev later r i s c} : run E (routeEvent T cfg ev) i s = (.ok r, c) → r.entry.Failed →
      Stops (ev :: later) [r.entry] (i, s) c

variable {T cfg E}

theorem ingestLoop_cons {ev : BoardEvent} {rest : List BoardEvent} {m : Int} {i : ι} {s : Store}
    {out : List IngestEntry × Int} {d : ι × Store} (h : run E (ingestLoop T cfg (ev :: rest) m) i s = (.ok out, d)) :
    ∃ r c, run E (routeEvent T cfg ev) i s = (.ok r, c) ∧
      (r.entry.Failed ∧ out = ([r.entry], m) ∧ d = c ∨
        ¬r.entry.Failed ∧ ∃ later, out = (r.entry :: later.1, later.2) ∧
          run E (ingestLoop T cfg rest (max m ev.eventSeq)) c.1 c.2 = (.ok later, d)) := by
  unfold ingestLoop at h
  rw [run_bind] at h
  split at h
  next r j t hr =>
    refine ⟨r, (j, t), hr, ?_⟩
    have halts := (routeEvent_halts T cfg ev).run hr
    split at h
    next hh =>
      cases h
      exact .inl ⟨halts.mp hh, rfl, rfl⟩
    next hh =>
      rw [run_bind] at h
      split at h
      next later k u hl =>
        cases h
        exact .inr ⟨fun hf => hh (halts.mpr hf), later, rfl, hl⟩
      next => cases h
  next => cases h

/-- The run of the loop: the events split where it stops, and the cursor moves over the routed ones. -/
theorem ingestLoop_run {events : List BoardEvent} {m : Int} {i : ι} {s : Store} {out : List IngestEntry × Int}
    {d : ι × Store} (h : run E (ingestLoop T cfg events m) i s = (.ok out, d)) :
    ∃ passed rest done last c, events = passed ++ rest ∧ Routes T cfg E passed done (i, s) c ∧
      Stops T cfg E rest last c d ∧ out.1 = done ++ last ∧
      out.2 = passed.foldl (fun m ev => max m ev.eventSeq) m := by
  induction events generalizing m i s out with
  | nil =>
    cases h
    exact ⟨[], [], [], [], (i, s), rfl, .nil, .drained, rfl, rfl⟩
  | cons ev events ih =>
    obtain ⟨r, c, hr, ⟨hf, rfl, rfl⟩ | ⟨hf, later, rfl, hl⟩⟩ := ingestLoop_cons h
    · exact ⟨[], ev :: events, [], [r.entry], (i, s), rfl, .nil, .failed hr hf, rfl, rfl⟩
    · obtain ⟨passed, rest, done, last, c', rfl, hp, hs, h1, h2⟩ := ih hl
      exact ⟨ev :: passed, rest, r.entry :: done, last, c', rfl, .cons hr hf hp, hs, by simp [h1], h2⟩

/-- Behind the events it has routed the loop goes on like a loop of its own. -/
theorem ingestLoop_routed {before rest : List BoardEvent} {done : List IngestEntry} {m : Int} {c c' d : ι × Store}
    {out : List IngestEntry × Int} (reached : Routes T cfg E before done c c')
    (h : run E (ingestLoop T cfg (before ++ rest) m) c.1 c.2 = (.ok out, d)) : ∃ later,
      run E (ingestLoop T cfg rest (before.foldl (fun m ev => max m ev.eventSeq) m)) c'.1 c'.2 = (.ok later, d) ∧
        out.1 = done ++ later.1 ∧ out.2 = later.2 := by
  induction reached generalizing m out with
  | nil => exact ⟨out, h, rfl, rfl⟩
  | cons hr hf _ ih =>
    obtain ⟨r, c, hr', ⟨failed, _⟩ | ⟨_, rest, rfl, hl⟩⟩ := ingestLoop_cons h
    · rw [hr] at hr'
      cases hr'
      exact absurd failed hf
    · rw [hr] at hr'
      cases hr'
      obtain ⟨later, hlater, h1, h2⟩ := ih hl
      exact ⟨later, hlater, congrArg _ h1, h2⟩

theorem maxSeq_bounds {passed : List BoardEvent} {m : Int} :
    m ≤ passed.foldl (fun m ev => max m ev.eventSeq) m ∧
      ∀ ev ∈ passed, ev.eventSeq ≤ passed.foldl (fun m ev => max m ev.eventSeq) m := by
  induction passed generalizing m with
  | nil => simp
  | cons ev passed ih =>
    obtain ⟨hm, hp⟩ := @ih (max m ev.eventSeq)
    refine ⟨Int.le_trans (Int.le_max_left _ _) hm, fun x hx => ?_⟩
    rcases List.mem_cons.mp hx with rfl | hx
    · exact Int.le_trans (Int.le_max_right _ _) hm
    · exact hp x hx

end Pass

/-- The cursors stay as they are, whatever the answers. -/
def cursorTerms (cursors : String × String → Option Int) : Terms where
  ok _ _ := True
  inv s := s.cursors = cursors
  may _ _ := True

theorem handlerTerms_cursor (cursors : String × String → Option Int) :
    HandlerTerms (cursorTerms cursors) (.instances fun _ => True) :=
  handlerTerms_cursors (fun _ _ => trivial) (fun _ => trivial) fun _ _ hs same => ⟨trivial, same.trans hs⟩

theorem getCursor_upsertCursor (s : Store) (board dbIdentity : String) (value : Int)
    (h : s.getCursor board dbIdentity ≤ value) :
    (s.upsertCursor board dbIdentity value).getCursor board dbIdentity = value := by
  unfold Store.getCursor at h
  simp only [Store.getCursor, Store.upsertCursor, ↓reduceIte]
  cases hc : s.cursors (board, dbIdentity) with
  | none => rfl
  | some old =>
    rw [hc, Option.getD_some] at h
    dsimp only
    split <;> simp only [Option.getD_some]
    omega

/-- The pass as a whole: the loop, then the cursor. -/
theorem ingestBoardOnce_run {ι : Type} (T : PyText) (cfg : IngestConfig) (E : Env Response ι)
    (fetch : Int → List BoardEvent) (i : ι) (s : Store) :
    run E (ingestBoardOnce T cfg fetch) i s =
      match run E (ingestLoop T cfg (fetch (s.getCursor cfg.board cfg.dbIdentity))
        (s.getCursor cfg.board cfg.dbIdentity)) i s with
      | (.ok out, j, u) => (.ok ⟨out.1, out.2⟩, j,
          u.upsertCursor cfg.board cfg.dbIdentity (max (u.getCursor cfg.board cfg.dbIdentity) out.2))
      | (.error e, j, u) => (.error e, j, u) := by
  unfold ingestBoardOnce
  simp only [Prog.get, Prog.read_bind, Prog.pure_bind', run_read, run_bind]
  rcases run E (ingestLoop T cfg (fetch (s.getCursor cfg.board cfg.dbIdentity))
    (s.getCursor cfg.board cfg.dbIdentity)) i s with ⟨_ | _, _, _⟩ <;> rfl

/-- Where a writer may be: its upsert carries a negative value only over a stored cursor. -/
inductive CursorWriter (s : Store) : Run Int → Prop
  | start (board dbIdentity : String) (lastEventId : Int) : CursorWriter s (advanceCursor board dbIdentity lastEventId)
  | write (board dbIdentity : String) (value : Int) (h : s.cursors (board, dbIdentity) = none → 0 ≤ value) :
      CursorWriter s (.write (fun s => s.upsertCursor board dbIdentity value) fun _ => .pure value)
  | done (value : Int) : CursorWriter s (.pure value)

theorem CursorWriter.mono {s t : Store} {p : Run Int} (h : CursorWriter s p)
    (kept : ∀ key, t.cursors key = none → s.cursors key = none) : CursorWriter t p := by
  cases h with
  | start => exact .start ..
  | write b d value hv => exact .write b d value fun hn => hv (kept _ hn)
  | done => exact .done _

section

variable {ι : Type} (T : PyText) (cfg : IngestConfig) (E : Env Response ι)

/-- It is the event's turn, with the store and the environment as they are then. -/
def TurnAt (events : List BoardEvent) (c : ι × Store) (ev : BoardEvent) (b : ι × Store) : Prop :=
  ∃ before after done, events = before ++ ev :: after ∧ Routes T cfg E before done c b

/-- It is the event's turn in the store `u`: the events before it have been routed, and no route failed. -/
def Turn (events : List BoardEvent) (c : ι × Store) (ev : BoardEvent) (u : Store) : Prop :=
  ∃ before after done b, events = before ++ ev :: after ∧ Routes T cfg E before done c b ∧ b.2 = u

variable {T cfg E}

theorem Turn.first (ev : BoardEvent) (later : List BoardEvent) (i : ι) (s : Store) :
    Turn T cfg E (ev :: later) (i, s) ev s := ⟨[], later, [], (i, s), rfl, .nil, rfl⟩

theorem TurnAt.first (ev : BoardEvent) (later : List BoardEvent) (c : ι × Store) : TurnAt T cfg E (ev :: later) c ev c :=
  ⟨[], later, [], rfl, .nil⟩

theorem TurnAt.later {ev x : BoardEvent} {rest : List BoardEvent} {i : ι} {s : Store} {r : Routed} {b c : ι × Store}
    (hr : run E (routeEvent T cfg ev) i s = (.ok r, c)) (hf : ¬r.entry.Failed) (h : TurnAt T cfg E rest c x b) :
    TurnAt T cfg E (ev :: rest) (i, s) x b := by
  obtain ⟨before, after, done, rfl, routes⟩ := h
  exact ⟨ev :: before, after, r.entry :: done, rfl, .cons hr hf routes⟩

theorem TurnAt.turn {ev : BoardEvent} {events : List BoardEvent} {b c : ι × Store} (h : TurnAt T cfg E events c ev b) :
    Turn T cfg E events c ev b.2 := by
  obtain ⟨before, after, done, split, routes⟩ := h
  exact ⟨before, after, done, b, split, routes, rfl⟩

/-- What every turn keeps, the loop keeps, however it ends. -/
theorem ingestLoop_holds {P : ι × Store → Prop} {events : List BoardEvent} {c : ι × Store}
    (step : ∀ ev b, TurnAt T cfg E events c ev b → P b → P (run E (routeEvent T cfg ev) b.1 b.2).2) (m : Int) (hc : P c) :
    P (run E (ingestLoop T cfg events m) c.1 c.2).2 := by
  induction events generalizing c m with
  | nil => exact hc
  | cons ev rest ih =>
    have routed := step ev c (TurnAt.first ev rest c) hc
    unfold ingestLoop
    rw [run_bind]
    split
    next r j t hr =>
      rw [hr] at routed
      have halts := (routeEvent_halts T cfg ev).run hr
      split
      next => exact routed
      next hgo =>
        have passes : ¬r.entry.Failed := fun hf => hgo (halts.mpr hf)
        have later := ih (fun x b turn => step x b (turn.later hr passes)) (max m ev.eventSeq) routed
        rw [run_bind]
        split
        next hl =>
          rw [hl] at later
          exact later
        next hl =>
          rw [hl] at later
          exact later
    next hr =>
      rw [hr] at routed
      exact routed

/-- A pass keeps what its turns and the cursor keep. -/
theorem ingestBoardOnce_holds {P : ι × Store → Prop} {fetch : Int → List BoardEvent} {c : ι × Store}
    (step : ∀ ev b, TurnAt T cfg E (fetch (c.2.getCursor cfg.board cfg.dbIdentity)) c ev b → P b →
      P (run E (routeEvent T cfg ev) b.1 b.2).2)
    (cursor : ∀ value i u, P (i, u) → P (i, u.upsertCursor cfg.board cfg.dbIdentity value)) (hc : P c) :
    P (run E (ingestBoardOnce T cfg fetch) c.1 c.2).2 := by
  have loop := ingestLoop_holds step (c.2.getCursor cfg.board cfg.dbIdentity) hc
  rw [ingestBoardOnce_run]
  split
  next hl =>
    rw [hl] at loop
    exact cursor _ _ _ loop
  next hl =>
    rw [hl] at loop
    exact loop

theorem ingestBoardOnce_keeps {P : Store → Prop} {fetch : Int → List BoardEvent} {i : ι} {s : Store}
    (step : ∀ ev u j, Turn T cfg E (fetch (s.getCursor cfg.board cfg.dbIdentity)) (i, s) ev u → P u →
      P (run E (routeEvent T cfg ev) j u).2.2)
    (cursor : ∀ value u, P u → P (u.upsertCursor cfg.board cfg.dbIdentity value)) (hs : P s) :
    P (run E (ingestBoardOnce T cfg fetch) i s).2.2 := by
  have held := @ingestBoardOnce_holds ι T cfg E (fun b => P b.2) fetch (i, s)
    (fun ev b turn hb => step ev b.2 b.1 turn.turn hb) fun value _ u hu => cursor value u hu
  exact held hs

end

/-- Complete passes, of any boards and against any environments, in which every turn meets a condition. -/
inductive IngestPasses (T : PyText) (meets : IngestConfig → BoardEvent → Store → Prop) : Store → Store → Prop
  | done {s} : IngestPasses T meets s s
  | pass {ι : Type} {E : Env Response ι} {cfg : IngestConfig} {fetch : Int → List BoardEvent} {i : ι} {s t : Store}
      (turns : ∀ ev u, Turn T cfg E (fetch (s.getCursor cfg.board cfg.dbIdentity)) (i, s) ev u → meets cfg ev u)
      (later : IngestPasses T meets (run E (ingestBoardOnce T cfg fetch) i s).2.2 t) : IngestPasses T meets s t

theorem IngestPasses.keeps {T : PyText} {meets : IngestConfig → BoardEvent → Store → Prop} {P : Store → Prop} {s t : Store}
    (step : ∀ {ι : Type} (E : Env Response ι) cfg ev j u, meets cfg ev u → P u → P (run E (routeEvent T cfg ev) j u).2.2)
    (cursor : ∀ board dbIdentity value u, P u → P (u.upsertCursor board dbIdentity value))
    (passes : IngestPasses T meets s t) (hs : P s) : P t := by
  induction passes with
  | done => exact hs
  | @pass _ E cfg _ _ _ _ turns _ ih =>
    exact ih (ingestBoardOnce_keeps (fun ev u j turn => step E cfg ev j u (turns ev u turn)) (cursor _ _) hs)

end AgentflowHermes
