import AgentflowHermes.SchemaVersions

namespace AgentflowHermes.Schema

open ScriptRuns

variable {db db' : Database}

theorem execute_version {s : Statement} (h : execute s db = .ok db') : db'.userVersion = db.userVersion := by
  cases s with
  | createTable t =>
    rw [execute] at h
    split at h <;> cases h <;> rfl
  | createIndex i =>
    rw [execute] at h
    split at h
    · cases h
      rfl
    · split at h
      · cases h
      · split at h
        · cases h
        · split at h <;> cases h
          rfl
  | addColumn name c =>
    rw [execute] at h
    split at h
    · cases h
    · split at h <;> cases h
      rfl
  | backfillSeq =>
    obtain ⟨_, _, _, rfl⟩ := execute_backfill h
    rfl

theorem script_version {script : List Statement} (h : runScript execute script db = .ok db') :
    db'.userVersion = db.userVersion := by
  have kept := runScript_keeps (P := fun x : Database => x.userVersion = db.userVersion)
    (fun s _ a b executed same => (execute_version executed).trans same) h rfl
  exact kept

/-- An `alter table .. add column`, which has no `if not exists`. -/
def Statement.addsColumn : Statement → Bool
  | .addColumn _ _ => true
  | _ => false

def Statement.creates : Statement → Bool
  | .createTable _ => true
  | .createIndex _ => true
  | _ => false

/-- What a statement creates is there. -/
def Settled : Statement → Database → Prop
  | .createTable t, db => (db.table? t.name).isSome = true
  | .createIndex i, db => db.indexes.any (·.name = i.name) = true
  | _, _ => False

theorem table_kept {s : Statement} (h : execute s db = .ok db') {name : String} (there : (db.table? name).isSome = true) :
    (db'.table? name).isSome = true := by
  have step := execute_table h name
  generalize db.table? name = before at step there
  generalize db'.table? name = after at step
  cases step with
  | same => exact there
  | created => rfl
  | added => rfl
  | filled => rfl

theorem index_kept {s : Statement} (h : execute s db = .ok db') {name : String}
    (there : db.indexes.any (·.name = name) = true) : db'.indexes.any (·.name = name) = true := by
  cases s with
  | createTable t =>
    rw [execute] at h
    split at h <;> cases h <;> exact there
  | createIndex i =>
    rw [execute] at h
    split at h
    · cases h
      exact there
    · split at h
      · cases h
      · split at h
        · cases h
        · split at h <;> cases h
          rw [List.any_append, there, Bool.true_or]
  | addColumn name c =>
    rw [execute] at h
    split at h
    · cases h
    · split at h <;> cases h
      exact there
  | backfillSeq =>
    obtain ⟨_, _, _, rfl⟩ := execute_backfill h
    exact there

/-- Everything that is created `if not exists` can be created again. -/
theorem creates_settle {p : List Statement} (creates : p.all Statement.creates = true) : Settles execute p Settled where
  idle := by
    intro s _ db there
    cases s with
    | createTable t =>
      rw [execute]
      exact if_pos there
    | createIndex i =>
      rw [execute]
      exact if_pos there
    | addColumn => cases there
    | backfillSeq => cases there
  reached := by
    intro s mem db db' h
    have create := List.all_eq_true.mp creates s mem
    cases s with
    | createTable t =>
      rw [execute] at h
      split at h
      next there =>
        cases h
        exact there
      · cases h
        simp only [Settled, Database.table?, List.find?_append, Option.isSome_or]
        simp [Table.name]
    | createIndex i =>
      rw [execute] at h
      split at h
      next there =>
        cases h
        exact there
      · split at h
        · cases h
        · split at h
          · cases h
          · split at h <;> cases h
            simp [Settled]
    | addColumn => cases create
    | backfillSeq => cases create
  kept := by
    intro s _ other _ db db' h there
    cases s with
    | createTable t => exact table_kept h there
    | createIndex i => exact index_kept h there
    | addColumn => cases there
    | backfillSeq => cases there

/-- The column that a statement adds is there. -/
def Spent (name : String) (c : Column) (db : Database) : Prop :=
  ∃ t, db.table? name = some t ∧ c.name ∈ t.columnNames

theorem spent_fails {name : String} {c : Column} (h : Spent name c db) : ∃ e, execute (.addColumn name c) db = .error e := by
  obtain ⟨t, found, mem⟩ := h
  refine ⟨.duplicateColumn c.name, ?_⟩
  rw [execute, found]
  exact if_pos (List.contains_iff_mem.mpr mem)

theorem spent_kept {s : Statement} {name : String} {c : Column} (h : execute s db = .ok db') (spent : Spent name c db) :
    Spent name c db' := by
  obtain ⟨t, found, mem⟩ := spent
  have step := execute_table h name
  rw [found] at step
  unfold Spent
  generalize db'.table? name = after at step
  cases step with
  | same => exact ⟨t, rfl, mem⟩
  | added _ x => exact ⟨_, rfl, by simpa [Table.columnNames, TableDef.columnNames, Table.addColumn] using Or.inl mem⟩
  | filled => exact ⟨_, rfl, mem⟩

theorem spent_reached {name : String} {c : Column} (h : execute (.addColumn name c) db = .ok db') : Spent name c db' := by
  rw [execute] at h
  split at h
  · cases h
  next t found =>
    split at h
    · cases h
    · cases h
      have looked := @Database.table?_mapTable db name (·.addColumn c) (fun t => rfl) name
      rw [found, Option.map_some, if_pos rfl] at looked
      exact ⟨_, looked, by simp [Table.columnNames, TableDef.columnNames, Table.addColumn]⟩

/-- A script some of whose added columns are there already fails. -/
theorem script_spent {p q : List Statement} {crashed : Database} (ran : runScript execute p db = .ok crashed)
    (adds : p.any Statement.addsColumn = true) : ∃ e, runScript execute (p ++ q) crashed = .error e := by
  obtain ⟨s, mem, added⟩ := List.any_eq_true.mp adds
  cases s with
  | addColumn name c =>
    obtain ⟨before, after, rfl⟩ := List.append_of_mem mem
    obtain ⟨reached, _, later⟩ := runScript_split ran
    unfold runScript at later
    split at later
    · cases later
    next there executed =>
      have spent := runScript_keeps (P := Spent name c) (fun _ _ _ _ h held => spent_kept h held) later
        (spent_reached executed)
      exact runScript_spent (i := .addColumn name c) (List.mem_append_left _ mem) (fun _ held => spent_fails held)
        (fun _ _ _ _ h held => spent_kept h held) spent
  | createTable => cases added
  | createIndex => cases added
  | backfillSeq => cases added

/-- A database as the application leaves it at a version, which it records. -/
structure Started (version : Nat) (db : Database) : Prop extends Stands version db where
  recorded : db.userVersion = version

/-- The statements of the script that a migration stopped in which it has executed. -/
def openScript : Nat → List (Nat × List Statement) → List Statement
  | _, [] => []
  | n, (_, script) :: rest =>
    if n ≤ script.length then script.take n else openScript (n - (script.length + 1)) rest

theorem steps_after {v : Nat} (hv : v < 5) : steps.drop v = (v + 1, scriptAfter v) :: steps.drop (v + 1) := by
  have all : ∀ v ∈ List.range 5, steps.drop v = (v + 1, scriptAfter v) :: steps.drop (v + 1) := by decide +kernel
  exact all v (List.mem_range.mpr hv)

theorem commits_after {v : Nat} (hv : v < 5) : commits v (steps.drop v) =
    (scriptAfter v).map .statement ++ .setVersion (v + 1) :: commits (v + 1) (steps.drop (v + 1)) := by
  rw [steps_after hv]
  exact if_pos (Nat.lt_succ_self v)

/-- A version passes over the steps up to it. -/
theorem commits_drop {v : Nat} (hv : v ≤ 5) : commits v steps = commits v (steps.drop v) := by
  have cases : v = 0 ∨ v = 1 ∨ v = 2 ∨ v = 3 ∨ v = 4 ∨ v = 5 := by omega
  rcases cases with rfl | rfl | rfl | rfl | rfl | rfl <;> rfl

theorem Started.migrate {v : Nat} (hv : v ≤ 5) (h : Started v db) :
    migrate db = runScript perform (commits v (steps.drop v)) db := by
  unfold Schema.migrate
  rw [migrateFrom_eq, h.recorded, commits_drop hv]

/-- The next script and the next version, in one. -/
theorem Started.next {v : Nat} (hv : v < 5) (h : Started v db) : ∃ db', Started (v + 1) db' ∧ Keeps db db' ∧
    runScript perform ((scriptAfter v).map .statement ++ [.setVersion (v + 1)]) db = .ok db' := by
  obtain ⟨db', ran, stands, keeps⟩ := script_runs hv h.toStands
  refine ⟨{ db' with userVersion := v + 1 }, ⟨⟨stands.outline, stands.sorted, stands.numbered⟩, rfl⟩,
    ⟨keeps.kept, keeps.fresh⟩, ?_⟩
  rw [runScript_append, runScript_statements, ran]
  rfl

/-- Uninterrupted, a migration reaches the last version and keeps every row. -/
theorem Started.migrates {v : Nat} (hv : v ≤ 5) (h : Started v db) :
    ∃ whole, Started 5 whole ∧ Keeps db whole ∧ Schema.migrate db = .ok whole := by
  rw [h.migrate hv]
  generalize left : 5 - v = k
  induction k generalizing v db with
  | zero =>
    have last : v = 5 := by omega
    subst last
    exact ⟨db, h, .refl db, rfl⟩
  | succ k ih =>
    have before : v < 5 := by omega
    obtain ⟨db', started, keeps, ran⟩ := h.next before
    obtain ⟨whole, last, later, rest⟩ := ih (v := v + 1) (by omega) started (by omega)
    refine ⟨whole, last, keeps.trans later, ?_⟩
    rw [commits_after before, List.append_cons, runScript_append_ok ran]
    exact rest

/-- Where a migration stops, it has reached some version and executed a part of the next script from there. -/
theorem Started.stops {v : Nat} (hv : v ≤ 5) (h : Started v db) (n : Nat) :
    ∃ w start k crashed, w ≤ 5 ∧ Started w start ∧ Schema.migrate db = Schema.migrate start ∧
      openScript n (steps.drop v) = (scriptAfter w).take k ∧
      runScript execute ((scriptAfter w).take k) start = .ok crashed ∧ interrupted db n = .ok crashed := by
  have stopped : interrupted db n = runScript perform ((commits v (steps.drop v)).take n) db := by
    unfold interrupted
    rw [h.recorded, commits_drop hv]
  rw [stopped, h.migrate hv]
  clear stopped
  generalize left : 5 - v = m
  induction m generalizing v db n with
  | zero =>
    have last : v = 5 := by omega
    subst last
    exact ⟨5, db, 0, db, Nat.le_refl _, h, (h.migrate hv).symm, by cases n <;> rfl, rfl, by cases n <;> rfl⟩
  | succ m ih =>
    have before : v < 5 := by omega
    rw [steps_after before]
    unfold openScript
    by_cases inside : n ≤ (scriptAfter v).length
    · obtain ⟨db', ran, _, _⟩ := script_runs before h.toStands
      have cut : (commits v ((v + 1, scriptAfter v) :: steps.drop (v + 1))).take n =
          ((scriptAfter v).take n).map Commit.statement := by
        rw [← steps_after before, commits_after before, List.take_append_of_le_length (by simpa using inside),
          List.map_take]
      rw [← List.take_append_drop n (scriptAfter v)] at ran
      obtain ⟨crashed, first, _⟩ := runScript_split ran
      refine ⟨v, db, n, crashed, hv, h, ?_, if_pos inside, first, ?_⟩
      · rw [h.migrate hv, steps_after before]
      · rw [cut, runScript_statements, first]
    · obtain ⟨db', started, _, ran⟩ := h.next before
      obtain ⟨w, start, k, crashed, hw, at', same, opened, first, stopped⟩ :=
        ih (v := v + 1) (by omega) started (n - ((scriptAfter v).length + 1)) (by omega)
      have whole : commits v ((v + 1, scriptAfter v) :: steps.drop (v + 1)) =
          ((scriptAfter v).map .statement ++ [.setVersion (v + 1)]) ++ commits (v + 1) (steps.drop (v + 1)) := by
        rw [← steps_after before, commits_after before, List.append_cons]
      have cut : (commits v ((v + 1, scriptAfter v) :: steps.drop (v + 1))).take n =
          ((scriptAfter v).map .statement ++ [.setVersion (v + 1)]) ++
            (commits (v + 1) (steps.drop (v + 1))).take (n - ((scriptAfter v).length + 1)) := by
        rw [whole, List.take_append, List.take_of_length_le (by simp; omega)]
        simp
      refine ⟨w, start, k, crashed, hw, at', ?_, ?_, first, ?_⟩
      · rw [whole, runScript_append_ok ran]
        exact same
      · rw [if_neg inside]
        exact opened
      · rw [cut, runScript_append_ok ran]
        exact stopped

/-- A prefix of a script that adds no column has only created things. -/
theorem prefix_creates {v k : Nat} (h : ((scriptAfter v).take k).any Statement.addsColumn = false) :
    ((scriptAfter v).take k).all Statement.creates = true := by
  have checked : ∀ v ∈ List.range 5, ∀ k ∈ List.range 20, ((scriptAfter v).take k).any Statement.addsColumn = false →
      ((scriptAfter v).take k).all Statement.creates = true := by
    decide +kernel
  have lengths : ∀ v ∈ List.range 5, (scriptAfter v).length < 20 := by decide +kernel
  by_cases hv : v < 5
  · by_cases hk : k < 20
    · exact checked v (List.mem_range.mpr hv) k (List.mem_range.mpr hk) h
    · have short := lengths v (List.mem_range.mpr hv)
      have whole (m : Nat) (hm : 19 ≤ m) : (scriptAfter v).take m = scriptAfter v := List.take_of_length_le (by omega)
      rw [whole k (by omega)] at h ⊢
      rw [← whole 19 (Nat.le_refl _)] at h ⊢
      exact checked v (List.mem_range.mpr hv) 19 (by decide) h
  · have none : scriptAfter v = [] := by
      unfold scriptAfter
      rw [List.drop_of_length_le (by simp [steps]; omega)]
      rfl
    rw [none, List.take_nil]
    rfl

/-- What is claimed of a migration that stops after its first `n` commits and is run again. -/
def Resumes (db : Database) (n : Nat) : Prop :=
  ∃ crashed final whole, interrupted db n = .ok crashed ∧ migrate crashed = .ok final ∧ migrate db = .ok whole ∧
    final.userVersion = 5 ∧ final.outline = whole.outline ∧ Numbered final.events ∧
    ∀ name t, db.table? name = some t → ∃ t', final.table? name = some t' ∧ AgreeOn t.columnNames t.rows t'.rows

/-- From every version, a migration that was interrupted resumes exactly when the script it stopped in has added no
column yet. -/
theorem schema_resumes_iff (v : Nat) (hv : v ≤ 5) (db : Database) (h : Started v db) (n : Nat) :
    Resumes db n ↔ (openScript n (steps.drop v)).any Statement.addsColumn = false := by
  obtain ⟨w, start, k, crashed, hw, started, same, opened, ran, stopped⟩ := h.stops hv n
  rw [opened]
  have version : crashed.userVersion = w := (script_version ran).trans started.recorded
  have again : migrate crashed = runScript perform (commits w (steps.drop w)) crashed := by
    unfold Schema.migrate
    rw [migrateFrom_eq, version, commits_drop hw]
  by_cases last : w = 5
  · subst last
    have none : (scriptAfter 5).take k = [] := List.take_nil
    rw [none] at ran ⊢
    cases ran
    refine iff_of_true ?_ rfl
    obtain ⟨whole, done, keeps, migrated⟩ := h.migrates hv
    refine ⟨start, whole, whole, stopped, same ▸ migrated, migrated, done.recorded, rfl, done.numbered (by decide), ?_⟩
    intro name t found
    obtain ⟨t', found', _, rows⟩ := keeps.kept name t found
    exact ⟨t', found', rows⟩
  have before : w < 5 := by omega
  cases adds : ((scriptAfter w).take k).any Statement.addsColumn with
  | true =>
    refine iff_of_false ?_ (by decide)
    rintro ⟨crashed', final, whole, stopped', migrated, _⟩
    cases stopped.symm.trans stopped'
    obtain ⟨e, failed⟩ := script_spent (q := (scriptAfter w).drop k) ran adds
    rw [List.take_append_drop] at failed
    rw [again, commits_after before, runScript_append, runScript_statements, failed] at migrated
    cases migrated
  | false =>
    refine iff_of_true ?_ rfl
    have settles := creates_settle (prefix_creates adds)
    have resumed := settles.resume (q := (scriptAfter w).drop k) ran
    rw [List.take_append_drop] at resumed
    have equal : migrate crashed = migrate start := by
      rw [again, started.migrate hw, commits_after before, runScript_append, runScript_append, runScript_statements,
        runScript_statements, resumed]
    obtain ⟨whole, done, keeps, migrated⟩ := h.migrates hv
    refine ⟨crashed, whole, whole, stopped, ?_, migrated, done.recorded, rfl, done.numbered (by decide), ?_⟩
    · rw [equal, ← same, migrated]
    · intro name t found
      obtain ⟨t', found', _, rows⟩ := keeps.kept name t found
      exact ⟨t', found', rows⟩

/-- A database of the first version, with two events of one job. -/
def firstVersion : Database where
  userVersion := 1
  tables := (outlineAt 1).tables.map fun t =>
    { definition := t
      rows := if t.name = "job_events" then [1, 2].map fun k : Int => fun c =>
        if c = "id" then .integer k else if c = "job_id" then .text "job" else .null
      else [] }
  indexes := (outlineAt 1).indexes

theorem started_firstVersion : Started 1 firstVersion where
  outline := by decide +kernel
  sorted := by
    unfold Sorted
    decide +kernel
  numbered := fun later => absurd later (by decide)
  recorded := rfl

theorem schema_resumes_iff_firstVersion : Started 1 firstVersion ∧
    (Resumes firstVersion 0 ↔ (openScript 0 (steps.drop 1)).any Statement.addsColumn = false) :=
  ⟨started_firstVersion, schema_resumes_iff 1 (by decide) firstVersion started_firstVersion 0⟩

/-- Stopped after the first column of the second script, a migration is never completed. -/
theorem schema_never_resumes : ¬∀ (v : Nat), v ≤ 5 → ∀ (db : Database), Started v db → ∀ n, Resumes db n := by
  intro claim
  obtain ⟨crashed, final, _, stopped, migrated, _⟩ := claim 1 (by decide) firstVersion started_firstVersion 1
  have failed : (match interrupted firstVersion 1 with
      | .ok crashed =>
        match migrate crashed with
        | .ok _ => false
        | .error e => e = .duplicateColumn "correlation_id"
      | .error _ => false) = true := by
    decide +kernel
  rw [stopped] at failed
  dsimp only at failed
  rw [migrated] at failed
  cases failed

end AgentflowHermes.Schema
