import AgentflowHermes.SchemaRows

namespace AgentflowHermes.Schema

open ScriptRuns

/-- What the scripts up to a version leave of an empty database. -/
def outlineAt (version : Nat) : Outline :=
  match runScript Statement.redraw ((steps.take version).flatMap Prod.snd) {} with
  | .ok o => o
  | .error _ => {}

/-- The script that leads to the next version. -/
def scriptAfter (version : Nat) : List Statement := ((steps.drop version).head?.map Prod.snd).getD []

theorem redraw_step {v : Nat} (h : v < 5) :
    runScript Statement.redraw (scriptAfter v) (outlineAt v) = .ok (outlineAt (v + 1)) := by
  have all : ∀ v ∈ List.range 5, runScript Statement.redraw (scriptAfter v) (outlineAt v) = .ok (outlineAt (v + 1)) := by
    decide +kernel
  exact all v (List.mem_range.mpr h)

def Database.events (db : Database) : List Row := ((db.table? "job_events").map Table.rows).getD []

/-- A database as the application leaves it at a version. -/
structure Stands (version : Nat) (db : Database) : Prop where
  outline : db.outline = outlineAt version
  sorted : Sorted db.events
  numbered : 2 ≤ version → Numbered db.events

/-- The columns that the events of a version have. -/
def eventColumns (version : Nat) : List String :=
  (((outlineAt version).table? "job_events").map TableDef.columnNames).getD []

theorem Stands.columns {v : Nat} {db : Database} (h : Stands v db) {t : Table} (found : db.table? "job_events" = some t) :
    t.columnNames = eventColumns v := by
  have defined : (outlineAt v).table? "job_events" = some t.definition := by
    rw [← h.outline, Database.table?_outline, found]
    rfl
  unfold eventColumns
  rw [defined]
  rfl

theorem event_columns : ∀ v ∈ List.range 6, (v = 0 ∧ (outlineAt v).table? "job_events" = none) ∨
    ("id" ∈ eventColumns v ∧ "job_id" ∈ eventColumns v ∧ ("seq" ∈ eventColumns v ↔ 2 ≤ v)) := by
  decide +kernel

theorem collides_empty {t : Table} {i : Index} (h : t.rows = []) : t.collides i = false := by
  unfold Table.collides Table.indexed
  cases i.nonempty <;> simp [h]

theorem collides_of_nodup {t : Table} {i : Index} (h : ((t.indexed i).map fun row => i.columns.map row).Nodup) :
    t.collides i = false := by
  unfold Table.collides
  rw [Bool.not_eq_false', decide_eq_true_eq]
  exact h.filter _

/-- An index over the number of an event within its job finds no two events with one key. -/
theorem numbered_nodup {rows : List Row} (h : ∀ job, ((jobEvents rows job).map (· "seq")).Nodup) :
    (rows.map fun row => ["job_id", "seq"].map row).Nodup := by
  induction rows with
  | nil => exact .nil
  | cons first rest ih =>
    have inner : ∀ job, ((jobEvents rest job).map (· "seq")).Nodup := by
      intro job
      have sub : (jobEvents rest job).Sublist (jobEvents (first :: rest) job) :=
        (List.sublist_cons_self first rest).filter _
      exact (h job).sublist (sub.map _)
    refine List.nodup_cons.mpr ⟨fun mem => ?_, ih inner⟩
    obtain ⟨other, inside, same⟩ := List.mem_map.mp mem
    simp only [List.map_cons, List.map_nil, List.cons.injEq, and_true] at same
    have own := h (first "job_id")
    have listed : jobEvents (first :: rest) (first "job_id") = first :: jobEvents rest (first "job_id") :=
      List.filter_cons_of_pos (by simp)
    rw [listed, List.map_cons, List.nodup_cons] at own
    refine own.1 (List.mem_map.mpr ⟨other, ?_, same.2⟩)
    exact List.mem_filter.mpr ⟨inside, by simp [same.1]⟩

theorem Numbered.nodup {rows : List Row} (h : Numbered rows) (job : Cell) : ((jobEvents rows job).map (· "seq")).Nodup := by
  rw [h job]
  refine List.Nodup.map (fun a b same => ?_) List.nodup_range'
  exact Int.ofNat.inj (Cell.integer.inj same)

/-- A statement that fills no column, and adds no unique index to a table that was there. -/
def Statement.plain (o : Outline) : Statement → Bool
  | .backfillSeq => false
  | .createIndex i => !i.unique || (o.table? i.table).isNone
  | _ => true

section

variable {db : Database}

/-- Of a database that stands at a version, a later one keeps the order of its events, and their numbers. -/
theorem Stands.later {v : Nat} {db' : Database} (hv : v < 5) (h : Stands v db) (k : Keeps db db')
    (outline : db'.outline = outlineAt (v + 1)) (numbered : v = 1 → Numbered db'.events) : Stands (v + 1) db' where
  outline := outline
  sorted := by
    unfold Database.events
    cases found : db'.table? "job_events" with
    | none => exact .nil
    | some t' =>
      cases was : db.table? "job_events" with
      | none =>
        rw [Option.map_some, Option.getD_some, k.fresh _ _ was found]
        exact .nil
      | some t =>
        obtain ⟨t'', found', columns, rows⟩ := k.kept _ _ was
        rw [found] at found'
        cases found'
        rcases event_columns v (List.mem_range.mpr (by omega)) with ⟨_, absent⟩ | ⟨id, _⟩
        · rw [← h.outline, Database.table?_outline, was] at absent
          cases absent
        · rw [h.columns was] at rows
          have sorted := h.sorted
          unfold Database.events at sorted
          rw [was] at sorted
          exact rows.sorted id sorted
  numbered := by
    intro later
    by_cases first : v = 1
    · exact numbered first
    · unfold Database.events
      rcases event_columns v (List.mem_range.mpr (by omega)) with ⟨zero, _⟩ | ⟨_, job, seq⟩
      · omega
      cases found : db'.table? "job_events" with
      | none => exact fun _ => rfl
      | some t' =>
        cases was : db.table? "job_events" with
        | none =>
          rw [Option.map_some, Option.getD_some, k.fresh _ _ was found]
          exact fun _ => rfl
        | some t =>
          obtain ⟨t'', found', columns, rows⟩ := k.kept _ _ was
          rw [found] at found'
          cases found'
          rw [h.columns was] at rows
          have numbers := h.numbered (by omega)
          unfold Database.events at numbers
          rw [was] at numbers
          exact rows.numbered job (seq.mpr (by omega)) numbers

theorem plain_script {script : List Statement} {o : Outline} (run : runScript Statement.redraw script db.outline = .ok o)
    (plain : ∀ s ∈ script, s.plain db.outline = true) :
    ∃ db', runScript execute script db = .ok db' ∧ db'.outline = o ∧ Keeps db db' := by
  refine runScript_refines (fun s mem db₁ o₁ k drawn => ?_) run (Keeps.refl db)
  have fit := plain s mem
  obtain ⟨db₂, executed, same⟩ := execute_redraws drawn fun i t statement unique found => by
    rw [statement, Statement.plain, unique, Bool.not_true, Bool.false_or, Database.table?_outline, Option.isNone_map,
      Option.isNone_iff_eq_none] at fit
    exact collides_empty (k.fresh _ _ fit found)
  refine ⟨db₂, executed, same, k.step executed fun fills => ?_⟩
  rw [fills] at fit
  cases fit

theorem plain_scripts : ∀ v ∈ [0, 2, 3, 4], (scriptAfter v).all (Statement.plain (outlineAt v)) = true := by
  decide +kernel

/-- The part of the second script before the backfill, and the part after it. -/
def beforeBackfill : List Statement := sqlV2.takeWhile (· ≠ .backfillSeq)

def afterBackfill : List Statement := (sqlV2.dropWhile (· ≠ .backfillSeq)).tail

theorem sqlV2_split : scriptAfter 1 = beforeBackfill ++ .backfillSeq :: afterBackfill := by decide +kernel

/-- A statement that may come before the backfill: what it adds is empty, or unnumbered. -/
def Statement.opening : Statement → Bool
  | .addColumn "job_events" c => c.name ≠ "seq" || c.default = .integer 0
  | .addColumn "jobs" c => c.name ≠ "source_hash" || c.default = .text ""
  | .addColumn _ _ => true
  | _ => false

def uniqEventsJobSeq : Index :=
  { name := "uniq_events_job_seq", table := "job_events", columns := ["job_id", "seq"], unique := true }

def uniqJobsSourceHash : Index where
  name := "uniq_jobs_source_hash"
  table := "jobs"
  columns := ["source_hash"]
  unique := true
  nonempty := some "source_hash"

/-- A statement that may come after it: the unique indexes are the two that what came before allows. -/
def Statement.closing : Statement → Bool
  | .createIndex i => !i.unique || i = uniqEventsJobSeq || i = uniqJobsSourceHash
  | .createTable _ => true
  | _ => false

theorem opening_script : beforeBackfill.all Statement.opening = true := by decide +kernel

theorem closing_script : afterBackfill.all Statement.closing = true := by decide +kernel

/-- What the statements before the backfill come to. -/
structure Opened (start db : Database) : Prop where
  keeps : Keeps start db
  unnumbered : Constant db "job_events" "seq" (.integer 0)
  unhashed : Constant db "jobs" "source_hash" (.text "")

theorem opening_runs {o : Outline} (run : runScript Statement.redraw beforeBackfill db.outline = .ok o)
    (unnumbered : Constant db "job_events" "seq" (.integer 0)) (unhashed : Constant db "jobs" "source_hash" (.text "")) :
    ∃ db', runScript execute beforeBackfill db = .ok db' ∧ db'.outline = o ∧ Opened db db' := by
  refine runScript_refines (fun s mem db₁ o₁ k drawn => ?_) run ⟨Keeps.refl db, unnumbered, unhashed⟩
  have fit := List.all_eq_true.mp opening_script s mem
  obtain ⟨db₂, executed, same⟩ := execute_redraws drawn fun i t statement _ _ => by
    rw [statement] at fit
    cases fit
  have unfilled : s ≠ .backfillSeq := by
    intro fills
    rw [fills] at fit
    cases fit
  refine ⟨db₂, executed, same, k.keeps.step executed fun fills => absurd fills unfilled,
    k.unnumbered.step executed unfilled fun c statement named => ?_, k.unhashed.step executed unfilled fun c statement named => ?_⟩
  · rw [statement] at fit
    simpa [Statement.opening, named] using fit
  · rw [statement] at fit
    simpa [Statement.opening, named] using fit

theorem closing_runs {o : Outline} (run : runScript Statement.redraw afterBackfill db.outline = .ok o)
    (numbered : ∀ t, db.table? "job_events" = some t → "job_id" ∈ t.columnNames ∧ "seq" ∈ t.columnNames ∧ Numbered t.rows)
    (unhashed : ∀ t, db.table? "jobs" = some t →
      "source_hash" ∈ t.columnNames ∧ ∀ row ∈ t.rows, row "source_hash" = .text "")
    (known : (∃ t, db.table? "job_events" = some t) ∧ ∃ t, db.table? "jobs" = some t) :
    ∃ db', runScript execute afterBackfill db = .ok db' ∧ db'.outline = o ∧ Keeps db db' := by
  refine runScript_refines (fun s mem db₁ o₁ k drawn => ?_) run (Keeps.refl db)
  have fit := List.all_eq_true.mp closing_script s mem
  obtain ⟨db₂, executed, same⟩ := execute_redraws drawn fun i t statement unique found => by
    rw [statement, Statement.closing, unique, Bool.not_true, Bool.false_or, Bool.or_eq_true, decide_eq_true_eq,
      decide_eq_true_eq] at fit
    rcases fit with rfl | rfl
    · obtain ⟨t₀, was⟩ := known.1
      obtain ⟨job, seq, numbers⟩ := numbered t₀ was
      obtain ⟨t', found', _, rows⟩ := k.kept _ _ was
      cases found.symm.trans found'
      have own := numbered_nodup (rows.numbered job seq numbers).nodup
      exact collides_of_nodup own
    · obtain ⟨t₀, was⟩ := known.2
      obtain ⟨hash, empty⟩ := unhashed t₀ was
      obtain ⟨t', found', _, rows⟩ := k.kept _ _ was
      cases found.symm.trans found'
      have hashes : t.rows.map (· "source_hash") = t₀.rows.map (· "source_hash") :=
        rows.read fun row row' agree => agree _ hash
      have none : t.indexed uniqJobsSourceHash = [] := by
        refine List.filter_eq_nil_iff.mpr fun row inside => ?_
        have value : row "source_hash" ∈ t₀.rows.map (· "source_hash") := by
          rw [← hashes]
          exact List.mem_map_of_mem inside
        obtain ⟨old, was', same⟩ := List.mem_map.mp value
        simp [← same, empty old was']
      apply collides_of_nodup
      rw [none]
      exact .nil
  refine ⟨db₂, executed, same, k.step executed fun fills => ?_⟩
  rw [fills] at fit
  cases fit

theorem first_tables : ((outlineAt 1).table? "job_events").isSome = true ∧
    ((outlineAt 1).table? "jobs").any (fun t => !t.columnNames.contains "source_hash") = true := by
  decide +kernel

theorem opened_jobs {o : Outline} (h : runScript Statement.redraw beforeBackfill (outlineAt 1) = .ok o) {t : TableDef}
    (found : o.table? "jobs" = some t) : "source_hash" ∈ t.columnNames := by
  have hashed : (match runScript Statement.redraw beforeBackfill (outlineAt 1) with
      | .ok o => (o.table? "jobs").all fun t => t.columnNames.contains "source_hash"
      | .error _ => false) = true := by
    decide +kernel
  rw [h] at hashed
  dsimp only at hashed
  rw [found, Option.all_some] at hashed
  exact List.contains_iff_mem.mp hashed

theorem execute_backfill {db' : Database} (h : execute .backfillSeq db = .ok db') :
    ∃ t, db.table? "job_events" = some t ∧ "seq" ∈ t.columnNames ∧ db' = db.mapTable "job_events" Table.backfill := by
  rw [execute] at h
  split at h
  · cases h
  next t found =>
    split at h
    next sequenced =>
      cases h
      exact ⟨t, found, by simpa using sequenced, rfl⟩
    · cases h

theorem second_script (h : Stands 1 db) :
    ∃ db', runScript execute (scriptAfter 1) db = .ok db' ∧ db'.outline = outlineAt 2 ∧ Keeps db db' ∧ Numbered db'.events := by
  have drawn := redraw_step (v := 1) (by omega)
  rw [sqlV2_split, ← h.outline] at drawn
  obtain ⟨o₁, firsts, lasts⟩ := runScript_split drawn
  unfold runScript at lasts
  split at lasts
  · cases lasts
  next o₂ filling =>
  obtain ⟨t₀, was⟩ : ∃ t, db.table? "job_events" = some t := by
    have there := first_tables.1
    rw [← h.outline, Database.table?_outline, Option.isSome_map] at there
    exact Option.isSome_iff_exists.mp there
  obtain ⟨j₀, jobsWas, unhashed⟩ : ∃ t, db.table? "jobs" = some t ∧ "source_hash" ∉ t.columnNames := by
    have there := first_tables.2
    rw [← h.outline, Database.table?_outline] at there
    obtain ⟨d, found, new⟩ := (Option.any_eq_true _ _).mp there
    obtain ⟨t, was, rfl⟩ := Option.map_eq_some_iff.mp found
    refine ⟨t, was, fun mem => ?_⟩
    have there : t.definition.columnNames.contains "source_hash" = true := List.contains_iff_mem.mpr mem
    rw [there] at new
    cases new
  have columns := event_columns 1 (by decide)
  simp only [Nat.one_ne_zero, false_and, false_or] at columns
  obtain ⟨id, job, seq⟩ := columns
  rw [← h.columns was] at id job seq
  have unsequenced : "seq" ∉ t₀.columnNames := fun mem => absurd (seq.mp mem) (by omega)
  obtain ⟨db₁, ran₁, outline₁, opened⟩ := opening_runs firsts
    (fun t found mem => by cases was.symm.trans found; exact absurd mem unsequenced)
    (fun t found mem => by cases jobsWas.symm.trans found; exact absurd mem unhashed)
  rw [← outline₁] at filling
  obtain ⟨db₂, executed, outline₂⟩ := execute_redraws filling fun i t statement => by cases statement
  obtain ⟨t₁, found₁, sequenced, rfl⟩ := execute_backfill executed
  obtain ⟨t₁', found₁', sub₁, rows₁⟩ := opened.keeps.kept _ _ was
  cases found₁.symm.trans found₁'
  have sorted : Sorted t₁.rows := by
    have sorted := h.sorted
    unfold Database.events at sorted
    rw [was] at sorted
    exact rows₁.sorted id sorted
  have numbered : Numbered t₁.backfill.rows := backfill_numbered sorted (opened.unnumbered t₁ found₁ sequenced)
  have looked (name : String) := @Database.table?_mapTable db₁ "job_events" Table.backfill (fun t => rfl) name
  have events₂ : (db₁.mapTable "job_events" Table.backfill).table? "job_events" = some t₁.backfill := by
    rw [looked, found₁, Option.map_some, if_pos rfl]
  obtain ⟨j₁, jobs₁, _, _⟩ := opened.keeps.kept _ _ jobsWas
  have jobs₂ : (db₁.mapTable "job_events" Table.backfill).table? "jobs" = some j₁ := by
    rw [looked, jobs₁, Option.map_some, if_neg (by decide)]
  have hashed : "source_hash" ∈ j₁.columnNames := by
    rw [h.outline] at firsts
    refine opened_jobs firsts (t := j₁.definition) ?_
    rw [← outline₁, Database.table?_outline, jobs₁]
    rfl
  rw [← outline₂] at lasts
  obtain ⟨db₃, ran₃, outline₃, keeps₃⟩ := closing_runs lasts
    (fun t found => by
      cases events₂.symm.trans found
      exact ⟨sub₁ job, sequenced, numbered⟩)
    (fun t found => by
      cases jobs₂.symm.trans found
      exact ⟨hashed, opened.unhashed j₁ jobs₁ hashed⟩)
    ⟨⟨_, events₂⟩, ⟨_, jobs₂⟩⟩
  have filled : Keeps db (db₁.mapTable "job_events" Table.backfill) :=
    opened.keeps.step executed fun _ t found => by
      cases was.symm.trans found
      exact unsequenced
  refine ⟨db₃, ?_, outline₃, filled.trans keeps₃, ?_⟩
  · rw [sqlV2_split, runScript_append_ok ran₁]
    unfold runScript
    rw [executed]
    exact ran₃
  · obtain ⟨t₃, found₃, _, rows₃⟩ := keeps₃.kept _ _ events₂
    unfold Database.events
    rw [found₃]
    exact rows₃.numbered (sub₁ job) sequenced numbered

/-- From every version, the next script runs to its end and leaves the next version. -/
theorem script_runs {v : Nat} (hv : v < 5) (h : Stands v db) :
    ∃ db', runScript execute (scriptAfter v) db = .ok db' ∧ Stands (v + 1) db' ∧ Keeps db db' := by
  by_cases second : v = 1
  · subst second
    obtain ⟨db', ran, outline, keeps, numbered⟩ := second_script h
    exact ⟨db', ran, h.later hv keeps outline fun _ => numbered, keeps⟩
  · have among : v ∈ [0, 2, 3, 4] := by
      simp only [List.mem_cons, List.not_mem_nil, or_false]
      omega
    have plain := List.all_eq_true.mp (plain_scripts v among)
    rw [← h.outline] at plain
    have drawn := redraw_step hv
    rw [← h.outline] at drawn
    obtain ⟨db', ran, outline, keeps⟩ := plain_script drawn plain
    exact ⟨db', ran, h.later hv keeps outline fun first => absurd first second, keeps⟩

end

end AgentflowHermes.Schema
