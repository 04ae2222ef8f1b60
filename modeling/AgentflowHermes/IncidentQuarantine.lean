import AgentflowHermes.IncidentRows
import Mathlib.Data.List.Infix

namespace AgentflowHermes.Quarantine

open SqlSessions RowTable Origins

/-- The task id starts with the prefix. -/
def startsIncident (row : LegacyRow) : Bool :=
  match row.value "source_task_id" with
  | .text task => incidentTaskPrefix.toList.isPrefixOf task.toList
  | _ => false

namespace LegacyStore

variable (s : LegacyStore) (sel : LegacyRow → Bool)

def selected : List Int := ((s.rowsOf instancesTable).filter sel).map LegacyRow.id

/-- The row is a selected instance, or one of a dependent table that refers to one. -/
def taken (name : String) (row : LegacyRow) : Bool :=
  if name = instancesTable then (s.selected sel).contains row.id
  else dependentTables.contains name && refersTo (s.selected sel) row

def takenRows : List (String × LegacyRow) :=
  (instancesTable :: dependentTables).flatMap fun name =>
    ((s.rowsOf name).filter (s.taken sel name)).map fun row => (name, row)

/-- The tables without the rows that are taken. -/
def remaining : List LegacyTable :=
  s.tables.map fun t => t.keep t.name fun row => !s.taken sel t.name row

end LegacyStore

section

variable {s : LegacyStore} {name : String} {ids : List Int}

theorem tableExists_iff (s : LegacyStore) (name : String) : s.tableExists name = true ↔
    name ∈ s.tables.map LegacyTable.name ∨ s.quarantined.isSome ∧ name = quarantineTable := by
  unfold LegacyStore.tableExists LegacyStore.tableNames
  rw [List.contains_iff_mem, List.mem_mergeSort, List.mem_append]
  split
  next h => simp [h]
  next h => simp [h]

theorem rowsOf_missing (h : ¬s.tableExists name = true) : s.rowsOf name = [] := by
  unfold LegacyStore.rowsOf
  have absent : s.tables.find? (fun t => t.name == name) = none := by
    refine List.find?_eq_none.mpr fun t ht named => h ((tableExists_iff s name).mpr (.inl ?_))
    rw [← beq_iff_eq.mp named]
    exact List.mem_map_of_mem ht
  rw [absent]
  rfl

/-- The statements that look at the dependent tables, or delete from them. -/
def dependentStatements (s : LegacyStore) : Nat :=
  total (dependentTables.map fun t => 1 + if s.tableExists t then 1 else 0)

def gathered (s : LegacyStore) (ids : List Int) : List (String × List LegacyRow) :=
  if ids = [] then [(instancesTable, [])]
  else (instancesTable, (s.rowsOf instancesTable).filter fun r => ids.contains r.id) ::
    (dependentTables.map fun t => (t, (s.rowsOf t).filter (refersTo ids))).filter fun moved => moved.2 ≠ []

theorem reads_counts : Queries allTableCounts (fun s => 1 + s.tableNames.length)
    fun s => s.tableNames.map fun name => (name, s.countRows name) := by
  have count (name : String) : Queries (do
      let count ← Db.query fun s : LegacyStore => s.countRows name
      return (name, count)) (fun _ => 1) fun s => (name, s.countRows name) :=
    (reads_query _).map
  refine ((reads_query LegacyStore.tableNames).bind fun names => Queries.forEach count names).congr (fun s => ?_) fun s => rfl
  exact congrArg (1 + ·) (total_ones _)

theorem reads_select (ids : List Int) (table : String) : Queries (selectDependents ids table)
    (fun s => 1 + if s.tableExists table then 1 else 0) fun s => (s.rowsOf table).filter (refersTo ids) := by
  have branch (found : Bool) : Queries
      (if found = true then Db.query fun s : LegacyStore => (s.rowsOf table).filter (refersTo ids) else pure [])
      (fun _ => if found then 1 else 0) fun s => if found then (s.rowsOf table).filter (refersTo ids) else [] := by
    cases found with
    | true => exact reads_query fun s : LegacyStore => (s.rowsOf table).filter (refersTo ids)
    | false => exact reads_pure []
  refine ((reads_query fun s : LegacyStore => s.tableExists table).bind branch).congr (fun s => rfl) fun s => ?_
  split
  next => rfl
  next missing => rw [rowsOf_missing missing]; rfl

theorem reads_gather (ids : List Int) : Queries (gatherRows ids)
    (fun s => if ids = [] then 0 else 1 + dependentStatements s) fun s => gathered s ids := by
  unfold gatherRows gathered
  by_cases none : ids = []
  · simp only [if_pos none]
    exact reads_pure _
  · simp only [if_neg none]
    have each (table : String) : Queries (do
        let rows ← selectDependents ids table
        return (table, rows)) _ _ := (reads_select ids table).map
    exact (reads_query _).bind fun instances => (Queries.forEach each dependentTables).map

def surveyed (s : LegacyStore) : Survey where
  countsBefore := s.tableNames.map fun name => (name, s.countRows name)
  ids := s.selected likeTask
  preserved := (s.rowsOf instancesTable).filter notLikeTask
  moved := gathered s (s.selected likeTask)

def surveyStatements (s : LegacyStore) : Nat :=
  1 + s.tableNames.length + (1 + (1 + if s.selected likeTask = [] then 0 else 1 + dependentStatements s))

theorem reads_survey : Queries survey surveyStatements surveyed :=
  reads_counts.bind fun _ => (reads_query _).bind fun ids => (reads_query _).bind fun _ => (reads_gather ids).map

/-- A deletion from a table that is not there deletes nothing. -/
theorem keepRows_missing {p : LegacyRow → Bool} (h : ¬s.tableExists name = true) : s.keepRows name p = s := by
  have other : s.tables.map (LegacyTable.keep name p) = s.tables := by
    have kept : ∀ t ∈ s.tables, t.keep name p = id t := fun t ht => if_neg fun same => by
      rw [← same] at h
      exact h ((tableExists_iff s t.name).mpr (.inl (List.mem_map_of_mem ht)))
    rw [List.map_congr_left kept, List.map_id]
  unfold LegacyStore.keepRows
  simp only [other]

theorem writes_delete (ids : List Int) (table : String) : Alters (deleteDependents ids table)
    (fun s => 1 + if s.tableExists table then 1 else 0) fun s => s.keepRows table fun r => !refersTo ids r := by
  have branch (found : Bool) : Alters
      (if found = true then Db.exec fun s : LegacyStore => s.keepRows table fun r => !refersTo ids r else pure ())
      (fun _ => if found then 1 else 0) fun s => if found then s.keepRows table fun r => !refersTo ids r else s := by
    cases found with
    | true => exact writes_exec fun s : LegacyStore => s.keepRows table fun r => !refersTo ids r
    | false => exact writes_pure
  refine ((reads_query fun s : LegacyStore => s.tableExists table).writes branch).congr (fun s => rfl) fun s => ?_
  split
  next => rfl
  next missing => exact (keepRows_missing missing).symm

theorem tableExists_keepRows {p : LegacyRow → Bool} (table : String) :
    (s.keepRows name p).tableExists table = s.tableExists table := by
  unfold LegacyStore.tableExists LegacyStore.tableNames LegacyStore.keepRows
  rw [keep_names]

def auditEntry (s : LegacyStore) (now : Nat) (entry : String × LegacyRow) : LegacyStore :=
  s.insertAudit entry.1 (continuationIdOf entry.1 entry.2) entry.2.dict now

/-- What a transaction makes of the store. -/
def movedOut (now : Nat) (ids : List Int) (moved : List (String × List LegacyRow)) (s : LegacyStore) : LegacyStore :=
  let entries := moved.flatMap fun table => table.2.map fun row => (table.1, row)
  let deleted := dependentTables.foldl (fun s table => s.keepRows table fun r => !refersTo ids r)
    (entries.foldl (fun s entry => auditEntry s now entry) s)
  deleted.keepRows instancesTable fun r => !ids.contains r.id

theorem tableExists_audit (now : Nat) (entry : String × LegacyRow) (table : String) :
    (auditEntry s now entry).tableExists table = s.tableExists table := by
  have same : (auditEntry s now entry).quarantined.isSome = s.quarantined.isSome := Option.isSome_map
  unfold LegacyStore.tableExists LegacyStore.tableNames
  rw [same]
  rfl

theorem dependentStatements_audits (now : Nat) (entries : List (String × LegacyRow)) (s : LegacyStore) :
    dependentStatements (entries.foldl (fun s entry => auditEntry s now entry) s) = dependentStatements s := by
  induction entries generalizing s with
  | nil => rfl
  | cons entry rest ih =>
    rw [List.foldl_cons, ih]
    unfold dependentStatements
    simp only [tableExists_audit]

theorem writes_move (now : Nat) (ids : List Int) (moved : List (String × List LegacyRow)) :
    Alters (moveRows now ids moved) (fun s => (moved.flatMap Prod.snd).length + (dependentStatements s + 1))
      (movedOut now ids moved) := by
  have inserts := Alters.each (fun entry : String × LegacyRow =>
      (writes_exec fun s => auditEntry s now entry : Alters (insertQuarantined now entry.1 entry.2) _ _))
    (fun _ _ _ => rfl) (moved.flatMap fun table => table.2.map fun row => (table.1, row))
  have deletes := Alters.each (writes_delete ids) (fun _ _ _ => by rw [tableExists_keepRows]) dependentTables
  have last : Alters (deleteInstances ids) _ _ := writes_exec _
  refine (inserts.andThen (deletes.andThen last)).congr (fun s => ?_) fun s => rfl
  have length : total ((moved.flatMap fun table => table.2.map fun row => (table.1, row)).map fun _ => 1) =
      (moved.flatMap Prod.snd).length := by
    rw [total_ones]
    simp [List.length_flatMap]
  rw [length]
  exact congrArg (fun n => (moved.flatMap Prod.snd).length + (n + 1)) (dependentStatements_audits now _ s)

/-- The statements up to the commit, where there is something to move. -/
def statementsToCommit (s : LegacyStore) : Nat :=
  1 + surveyStatements s +
    (1 + (((gathered s (s.selected likeTask)).flatMap Prod.snd).length + (dependentStatements s + 1) + 1))

end

section

variable {s : LegacyStore} {now : Nat} {apply : Bool} {v : Survey} {t : Session LegacyStore}

theorem reads_after (apply : Bool) (before : List (String × Nat)) :
    Queries (countsAfter apply before) (fun s => if apply then 1 + s.tableNames.length else 0)
      fun s => if apply then s.tableNames.map fun name => (name, s.countRows name) else before := by
  cases apply with
  | true => exact reads_counts
  | false => exact reads_pure before

/-- Where nothing is moved the rest changes nothing. -/
theorem finish_idle (h : ¬(apply = true ∧ v.ids ≠ [])) : (finish now apply v t).2.committed = t.committed := by
  obtain ⟨cost, answer, reads⟩ : ∃ cost answer, Queries (finish now apply v) cost answer := by
    unfold finish moveIncidents
    rw [if_neg h]
    exact ⟨_, _, (reads_pure ()).bind fun _ => (reads_after apply v.countsBefore).map⟩
  exact (reads.keeps t).1

theorem dependentStatements_create (s : LegacyStore) : dependentStatements s.createAudit = dependentStatements s := by
  have same : ∀ table ∈ dependentTables, s.createAudit.tableExists table = s.tableExists table := by
    intro table dependent
    rw [Bool.eq_iff_iff, tableExists_iff, tableExists_iff]
    have other : table ≠ quarantineTable := fun is => absurd (is ▸ dependent) (by decide)
    simp [LegacyStore.createAudit, other]
  unfold dependentStatements
  exact congrArg total (List.map_congr_left fun table dependent => by rw [same table dependent])

theorem moveOut_cases (ids : List Int) (moved : List (String × List LegacyRow)) (closed : t.working = none) (n : Nat)
    (cost : n = 1 + ((moved.flatMap Prod.snd).length + (dependentStatements t.committed + 1) + 1)) :
    (t.Lasts n → moveOut now ids moved t =
      (some (), { t.spend n with committed := movedOut now ids moved t.committed.createAudit })) ∧
    (¬t.Lasts n → ∃ t', moveOut now ids moved t = (none, t') ∧
      (t'.committed = t.committed ∨ t'.committed = t.committed.createAudit)) := by
  subst cost
  have current : t.current = t.committed := by
    unfold Session.current
    rw [closed]
    rfl
  by_cases first : t.Lasts 1
  · let u : Session LegacyStore := { t.spend 1 with committed := t.committed.createAudit, working := none }
    have scripted : Db.script LegacyStore.createAudit t = (some (), u) := by
      rw [script_through _ first, current]
    obtain ⟨commits, rolls⟩ := (writes_move now ids moved).transaction (s := u) rfl
    rw [show dependentStatements u.committed = dependentStatements t.committed from dependentStatements_create _] at commits rolls
    have lasts : ∀ m, t.Lasts (1 + m) ↔ u.Lasts m := fun m => lasts_add.trans ⟨fun h => h.2, fun h => ⟨first, h⟩⟩
    constructor
    · intro h
      refine (bind_some scripted).trans ((commits ((lasts _).mp h)).trans ?_)
      show (some (), Session.mk _ none ((t.spend 1).spend _).patience) = (some (), Session.mk _ t.working (t.spend _).patience)
      rw [spend_add, closed]
    · intro h
      obtain ⟨t', stops, committed, -⟩ := rolls fun later => h ((lasts _).mpr later)
      exact ⟨t', (bind_some scripted).trans stops, .inr committed⟩
  · constructor
    · exact fun h => absurd (lasts_add.mp h).1 first
    · exact fun _ => ⟨t, bind_none (script_stopped _ first), .inl rfl⟩

/-- What the deletions from several tables leave. -/
theorem keepRows_tables (p : LegacyRow → Bool) {names : List String} (distinct : names.Nodup) (s : LegacyStore) :
    (names.foldl (fun s name => s.keepRows name p) s).tables =
      s.tables.map fun t => t.keep t.name fun row => !names.contains t.name || p row := by
  induction names generalizing s with
  | nil =>
    have kept : ∀ t : LegacyTable, t.keep t.name (fun row => !([] : List String).contains t.name || p row) = t := by
      intro t
      simp [LegacyTable.keep]
    rw [List.foldl_nil, List.map_congr_left fun t _ => kept t, List.map_id']
  | cons name rest ih =>
    obtain ⟨new, distinct⟩ := List.nodup_cons.mp distinct
    rw [List.foldl_cons, ih distinct]
    show (s.tables.map (LegacyTable.keep name p)).map _ = _
    rw [List.map_map]
    refine List.map_congr_left fun t _ => ?_
    by_cases same : t.name = name
    · simp [LegacyTable.keep, same, new]
    · simp [LegacyTable.keep, same]

theorem audits_tables (entries : List (String × LegacyRow)) (s : LegacyStore) :
    (entries.foldl (fun s entry => auditEntry s now entry) s).tables = s.tables := by
  induction entries generalizing s with
  | nil => rfl
  | cons entry rest ih =>
    rw [List.foldl_cons, ih]
    rfl

/-- Each entry becomes one row of the audit table. -/
theorem audits_rows (entries : List (String × LegacyRow)) {s : LegacyStore} {q : Table QuarantinedRow}
    (h : s.quarantined = some q) : ∃ q' new, (entries.foldl (fun s entry => auditEntry s now entry) s).quarantined = some q' ∧
      q'.rows = q.rows ++ new ∧
      new.map (fun row => (row.sourceTable, row.rowJson)) = entries.map fun entry => (entry.1, entry.2.dict) := by
  induction entries generalizing s q with
  | nil => exact ⟨q, [], h, (List.append_nil _).symm, rfl⟩
  | cons entry rest ih =>
    have next : (auditEntry s now entry).quarantined = some _ := congrArg (Option.map _) h
    obtain ⟨q', new, is, rows, entries⟩ := ih next
    refine ⟨q', _ :: new, is, rows.trans (List.append_assoc _ [_] new), ?_⟩
    rw [List.map_cons, entries]
    rfl

theorem keepRows_quarantined (p : LegacyRow → Bool) (names : List String) (s : LegacyStore) :
    (names.foldl (fun s name => s.keepRows name p) s).quarantined = s.quarantined := by
  induction names generalizing s with
  | nil => rfl
  | cons name rest ih =>
    rw [List.foldl_cons, ih]
    rfl

theorem movedOut_tables (s : LegacyStore) (sel : LegacyRow → Bool) (moved : List (String × List LegacyRow)) :
    (movedOut now (s.selected sel) moved s.createAudit).tables = s.remaining sel := by
  unfold movedOut
  show (LegacyStore.tables (List.foldl _ _ dependentTables)).map (LegacyTable.keep instancesTable _) = _
  rw [keepRows_tables _ (by decide), audits_tables, List.map_map]
  refine List.map_congr_left fun t _ => ?_
  by_cases instances : t.name = instancesTable
  · have other : instancesTable ∉ dependentTables := by decide
    simp [LegacyTable.keep, LegacyStore.taken, instances, other]
  · simp [LegacyTable.keep, LegacyStore.taken, instances]

theorem taken_dependent (s : LegacyStore) (sel : LegacyRow → Bool) {table : String} (dependent : table ∈ dependentTables) :
    s.taken sel table = refersTo (s.selected sel) := by
  have other : table ≠ instancesTable := fun is => absurd (is ▸ dependent) (by decide)
  funext row
  simp [LegacyStore.taken, other, dependent]

theorem gathered_entries (s : LegacyStore) (sel : LegacyRow → Bool) (some : s.selected sel ≠ []) :
    (gathered s (s.selected sel)).flatMap (fun table => table.2.map fun row => (table.1, row)) = s.takenRows sel := by
  have nonempty (tables : List (String × List LegacyRow)) :
      (tables.filter fun moved => moved.2 ≠ []).flatMap (fun table => table.2.map fun row => (table.1, row)) =
        tables.flatMap fun table => table.2.map fun row => (table.1, row) := by
    induction tables with
    | nil => rfl
    | cons table rest ih =>
      by_cases none : table.2 = []
      · rw [List.filter_cons_of_neg (by simp [none]), ih, List.flatMap_cons, none, List.map_nil, List.nil_append]
      · rw [List.filter_cons_of_pos (by simp [none]), List.flatMap_cons, List.flatMap_cons, ih]
  unfold gathered LegacyStore.takenRows
  rw [if_neg some, List.flatMap_cons, List.flatMap_cons, nonempty, List.flatMap_map]
  refine congrArg₂ (· ++ ·) rfl (List.flatMap_congr fun table dependent => ?_)
  rw [taken_dependent s sel dependent]

theorem auditRows_create (s : LegacyStore) : s.createAudit.auditRows = s.auditRows := by
  unfold LegacyStore.auditRows LegacyStore.createAudit
  cases s.quarantined <;> rfl

theorem movedOut_audit (s : LegacyStore) (sel : LegacyRow → Bool) (some : s.selected sel ≠ []) :
    (movedOut now (s.selected sel) (gathered s (s.selected sel)) s.createAudit).quarantined.isSome ∧
    ∃ new, (movedOut now (s.selected sel) (gathered s (s.selected sel)) s.createAudit).auditRows = s.auditRows ++ new ∧
      new.map (fun row => (row.sourceTable, row.rowJson)) =
        (s.takenRows sel).map fun entry => (entry.1, entry.2.dict) := by
  obtain ⟨q', new, is, rows, entries⟩ := @audits_rows now (s.takenRows sel) s.createAudit _ rfl
  have moved : (movedOut now (s.selected sel) (gathered s (s.selected sel)) s.createAudit).quarantined = Option.some q' := by
    unfold movedOut
    rw [gathered_entries s sel some]
    show (LegacyStore.quarantined (List.foldl _ _ dependentTables)) = _
    rw [keepRows_quarantined, is]
  refine ⟨by rw [moved]; rfl, new, ?_, entries⟩
  unfold LegacyStore.auditRows
  rw [moved]
  refine rows.trans (congrArg (· ++ new) ?_)
  exact auditRows_create s

/-- The statements that count the rows once something has been moved. -/
def statementsAfter (s : LegacyStore) : Nat := 1 + (s.tables.length + 1)

theorem tableNames_moved {s t : LegacyStore} (sel : LegacyRow → Bool) (tables : t.tables = s.remaining sel)
    (audit : t.quarantined.isSome) : 1 + t.tableNames.length = statementsAfter s := by
  unfold LegacyStore.tableNames statementsAfter
  rw [List.length_mergeSort, if_pos audit, List.length_append, List.length_map, tables]
  simp [LegacyStore.remaining]

theorem finish_moves (some : s.selected likeTask ≠ []) (closed : t.working = none) (committed : t.committed = s) (n : Nat)
    (cost : n = 1 + (((gathered s (s.selected likeTask)).flatMap Prod.snd).length + (dependentStatements s + 1) + 1)) :
    (¬t.Lasts n → (finish now true (surveyed s) t).1 = none ∧
      ((finish now true (surveyed s) t).2.committed = s ∨ (finish now true (surveyed s) t).2.committed = s.createAudit)) ∧
    (t.Lasts n → (finish now true (surveyed s) t).2.committed =
        movedOut now (s.selected likeTask) (gathered s (s.selected likeTask)) s.createAudit ∧
      ((finish now true (surveyed s) t).1.isSome ↔ t.Lasts (n + statementsAfter s))) := by
  subst committed
  obtain ⟨moved, stops⟩ := @moveOut_cases now t (t.committed.selected likeTask)
    (gathered t.committed (t.committed.selected likeTask)) closed n cost
  unfold finish moveIncidents
  rw [if_pos ⟨rfl, some⟩]
  constructor
  · intro short
    obtain ⟨t', none, left⟩ := stops short
    have none : moveOut now (surveyed t.committed).ids (surveyed t.committed).moved t = _ := none
    rw [bind_none none]
    exact ⟨rfl, left⟩
  · intro lasts
    have done : moveOut now (surveyed t.committed).ids (surveyed t.committed).moved t = _ := moved lasts
    rw [bind_some done]
    have reads (f : List (String × Nat) → QuarantineReceipt) :=
      (reads_after true (surveyed t.committed).countsBefore).map (f := f)
    have count : 1 + (movedOut now (t.committed.selected likeTask)
        (gathered t.committed (t.committed.selected likeTask)) t.committed.createAudit).tableNames.length =
        statementsAfter t.committed :=
      tableNames_moved likeTask (movedOut_tables ..) (movedOut_audit _ _ some).1
    refine ⟨((reads _).keeps _).1, ((reads _).answers _).trans ?_⟩
    have later (u : Session LegacyStore) (open_ : u.working = none) (patience : u.patience = (t.spend n).patience)
        (is : 1 + u.committed.tableNames.length = statementsAfter t.committed) :
        u.Lasts (if true = true then 1 + u.current.tableNames.length else 0) ↔ t.Lasts (n + statementsAfter t.committed) := by
      have current : u.current = u.committed := by
        unfold Session.current
        rw [open_]
        rfl
      rw [if_pos rfl, current, is, lasts_add]
      unfold Session.Lasts at lasts ⊢
      rw [patience]
      exact ⟨fun h => ⟨lasts, h⟩, fun h => h.2⟩
    exact later _ closed rfl count

/-- A run up to the survey of a store that has instances. -/
theorem quarantine_surveyed (exists_ : s.tableExists instancesTable = true) (closed : t.working = none)
    (committed : t.committed = s) :
    (t.Lasts (1 + surveyStatements s) →
      quarantine now apply t = finish now apply (surveyed s) (t.spend (1 + surveyStatements s))) ∧
    (¬t.Lasts (1 + surveyStatements s) →
      (quarantine now apply t).1 = none ∧ (quarantine now apply t).2.committed = s) := by
  have current : t.current = s := by
    unfold Session.current
    rw [closed]
    exact committed
  obtain ⟨asks, refused⟩ := reads_query fun s : LegacyStore => s.tableExists instancesTable
  obtain ⟨surveys, stops⟩ := reads_survey
  unfold quarantine
  by_cases first : t.Lasts 1
  · have found : (tableExists instancesTable) t = (some true, t.spend 1) := by
      have asked := asks t first
      rw [current, exists_] at asked
      exact asked
    rw [bind_some found, if_pos rfl]
    have same : (t.spend 1).current = s := current
    constructor
    · intro lasts
      have later := (lasts_add.mp lasts).2
      have read := surveys (t.spend 1) (by rw [same]; exact later)
      rw [bind_some read, same, spend_add]
    · intro short
      have later : ¬(t.spend 1).Lasts (surveyStatements (t.spend 1).current) := by
        rw [same]
        exact fun later => short (lasts_add.mpr ⟨first, later⟩)
      obtain ⟨t', none, left, _⟩ := stops _ later
      rw [bind_none none]
      exact ⟨rfl, left.trans committed⟩
  · obtain ⟨t', none, left, _⟩ := refused t first
    have none : (tableExists instancesTable) t = _ := none
    rw [bind_none none]
    exact ⟨fun lasts => absurd (lasts_add.mp lasts).1 first, fun _ => ⟨rfl, left.trans committed⟩⟩

theorem selected_missing (sel : LegacyRow → Bool) (h : ¬s.tableExists instancesTable = true) : s.selected sel = [] := by
  unfold LegacyStore.selected
  rw [rowsOf_missing h]
  rfl

/-- A run that has nothing to move, or is not to move anything, leaves the store. -/
theorem quarantine_idle (closed : t.working = none) (h : ¬(apply = true ∧ t.committed.selected likeTask ≠ [])) :
    (quarantine now apply t).2.committed = t.committed := by
  by_cases exists_ : t.committed.tableExists instancesTable = true
  · obtain ⟨through, stops⟩ := @quarantine_surveyed t.committed now apply t exists_ closed rfl
    by_cases lasts : t.Lasts (1 + surveyStatements t.committed)
    · rw [through lasts]
      exact finish_idle h
    · exact (stops lasts).2
  · obtain ⟨asks, refused⟩ := reads_query fun s : LegacyStore => s.tableExists instancesTable
    unfold quarantine
    by_cases first : t.Lasts 1
    · have missing : (tableExists instancesTable) t = (some false, t.spend 1) := by
        refine (asks t first).trans (congrArg (fun b => (some b, t.spend 1)) ?_)
        unfold Session.current
        rw [closed]
        exact Bool.eq_false_of_not_eq_true exists_
      rw [bind_some missing, if_neg Bool.false_ne_true]
      rfl
    · obtain ⟨t', none, left, _⟩ := refused t first
      have none : (tableExists instancesTable) t = _ := none
      rw [bind_none none]
      exact left

/-- A run that moves rows is refused before its commit and leaves them, or it moves them. -/
theorem quarantine_moves (some : s.selected likeTask ≠ []) (closed : t.working = none) (committed : t.committed = s) :
    (¬t.Lasts (statementsToCommit s) → (quarantine now true t).1 = none ∧
      ((quarantine now true t).2.committed = s ∨ (quarantine now true t).2.committed = s.createAudit)) ∧
    (t.Lasts (statementsToCommit s) → (quarantine now true t).2.committed =
        movedOut now (s.selected likeTask) (gathered s (s.selected likeTask)) s.createAudit ∧
      ((quarantine now true t).1.isSome ↔ t.Lasts (statementsToCommit s + statementsAfter s))) := by
  have exists_ : s.tableExists instancesTable = true := by
    by_contra missing
    exact some (selected_missing likeTask missing)
  obtain ⟨through, stops⟩ := @quarantine_surveyed s now true t exists_ closed committed
  by_cases lasts : t.Lasts (1 + surveyStatements s)
  · rw [through lasts]
    obtain ⟨short, long⟩ := @finish_moves s now (t.spend (1 + surveyStatements s)) some closed committed _ rfl
    have split (m : Nat) : t.Lasts (1 + surveyStatements s + m) ↔ (t.spend (1 + surveyStatements s)).Lasts m :=
      lasts_add.trans ⟨fun h => h.2, fun h => ⟨lasts, h⟩⟩
    unfold statementsToCommit
    rw [split, Nat.add_assoc (1 + surveyStatements s), split]
    exact ⟨short, long⟩
  · have early : ¬t.Lasts (statementsToCommit s) := fun h => lasts (lasts_add.mp h).1
    obtain ⟨none, left⟩ := stops lasts
    exact ⟨fun _ => ⟨none, .inl left⟩, fun h => absurd h early⟩

end

section

variable {s left : LegacyStore} {sel : LegacyRow → Bool}

theorem row_unique (s : LegacyStore) {name : String} {r q : LegacyRow} (hr : r ∈ s.rowsOf name) (hq : q ∈ s.rowsOf name)
    (same : r.id = q.id) : r = q := by
  unfold LegacyStore.rowsOf at hr hq
  cases found : s.tables.find? fun t => t.name == name with
  | none =>
    rw [found] at hr
    cases hr
  | some t =>
    rw [found] at hr hq
    have distinct : (t.rows.map LegacyRow.id).Nodup := List.pairwise_map.mpr (t.ordered.imp fun lt => Int.ne_of_lt lt)
    exact List.inj_on_of_nodup_map distinct hr hq same

theorem selected_iff {r : LegacyRow} (hr : r ∈ s.rowsOf instancesTable) : r.id ∈ s.selected sel ↔ sel r = true := by
  unfold LegacyStore.selected
  constructor
  · intro mem
    obtain ⟨q, hq, same⟩ := List.mem_map.mp mem
    obtain ⟨inside, picked⟩ := List.mem_filter.mp hq
    rw [← row_unique s inside hr same]
    exact picked
  · exact fun picked => List.mem_map_of_mem (List.mem_filter.mpr ⟨hr, picked⟩)

/-- What remains of a table. -/
theorem rowsOf_remaining (h : left.tables = s.remaining sel) (name : String) :
    left.rowsOf name = (s.rowsOf name).filter fun row => !s.taken sel name row := by
  unfold LegacyStore.rowsOf
  have names : ((fun t : LegacyTable => t.name == name) ∘
      fun t : LegacyTable => t.keep t.name fun row => !s.taken sel t.name row) = fun t => t.name == name := by
    funext t
    simp [LegacyTable.keep]
  rw [h, LegacyStore.remaining, List.find?_map, names]
  cases found : s.tables.find? fun t => t.name == name with
  | none => rfl
  | some t =>
    have named : t.name = name := by simpa using List.find?_some found
    simp [LegacyTable.keep, named]

theorem selected_remaining (h : left.tables = s.remaining sel) : left.selected sel = [] := by
  unfold LegacyStore.selected
  rw [rowsOf_remaining h, List.filter_filter]
  refine List.map_eq_nil_iff.mpr (List.filter_eq_nil_iff.mpr fun r hr both => ?_)
  obtain ⟨picked, kept⟩ := Bool.and_eq_true_iff.mp both
  have taken : s.taken sel instancesTable r = true := by
    simp [LegacyStore.taken, (selected_iff hr).mpr picked]
  rw [taken] at kept
  cases kept

/-- A pattern without `%` matches itself at the beginning of a text. -/
theorem like_literal {p : List Char} (plain : ∀ c ∈ p, c ≠ '%') (rest : List Char) : like (p ++ ['%']) (p ++ rest) = true := by
  induction p with
  | nil =>
    have any : rest.tails.any (like []) = true :=
      List.any_eq_true.mpr ⟨[], (List.mem_tails _ _).mpr List.nil_suffix, rfl⟩
    exact any
  | cons c p ih =>
    have later := ih fun d hd => plain d (List.mem_cons_of_mem _ hd)
    rw [List.cons_append, List.cons_append]
    unfold like
    rw [if_neg (plain c List.mem_cons_self)]
    simp [later]

/-- Every incident is matched. -/
theorem like_of_starts {row : LegacyRow} (h : startsIncident row = true) : likeTask row = true := by
  unfold startsIncident at h
  unfold likeTask
  cases value : row.value "source_task_id" with
  | text task =>
    rw [value] at h
    obtain ⟨rest, whole⟩ := List.isPrefixOf_iff_prefix.mp h
    have pattern : (incidentTaskPrefix ++ "%").toList = incidentTaskPrefix.toList ++ ['%'] := String.toList_append
    have visible : ∀ c ∈ incidentTaskPrefix.toList, decide (c ≠ '\x00') = true :=
      List.all_eq_true.mp (by decide : incidentTaskPrefix.toList.all (fun c => decide (c ≠ '\x00')) = true)
    dsimp only
    rw [← whole, List.takeWhile_append_of_pos visible, pattern]
    have plain : incidentTaskPrefix.toList.all (fun c => decide (c ≠ '%')) = true := by decide
    exact like_literal (fun c hc => of_decide_eq_true (List.all_eq_true.mp plain c hc)) _
  | _ =>
    rw [value] at h
    cases h

end

/-- The run of the script takes exactly the incidents, keeps what it takes, and otherwise leaves the rows alone. -/
structure TakesIncidents (s : LegacyStore) (now : Nat) (apply : Bool) (patience : Option Nat) : Prop where
  exactly : ∀ receipt left, quarantineFile now apply patience (some s) = (some receipt, some left) → apply = true →
    left.tables = s.remaining startsIncident ∧ ∃ new, left.auditRows = s.auditRows ++ new ∧
      new.map (fun row => (row.sourceTable, row.rowJson)) =
        (s.takenRows startsIncident).map fun entry => (entry.1, entry.2.dict)
  failed : ∀ left, quarantineFile now apply patience (some s) = (none, some left) →
    left.tables = s.tables ∧ left.auditRows = s.auditRows
  again : ∀ receipt left, quarantineFile now apply patience (some s) = (some receipt, some left) → apply = true →
    ∀ later patience', (quarantineFile later apply patience' (some left)).2 = some left
  plan : apply = false → (quarantineFile now apply patience (some s)).2 = some s

/-- The statement that is refused comes before the commit, or is the commit. -/
def StoppedEarly (s : LegacyStore) (patience : Option Nat) : Prop := ∃ k, patience = some k ∧ k < statementsToCommit s

/-- The statement that is refused is one of those after the commit. -/
def StoppedLate (s : LegacyStore) (patience : Option Nat) : Prop :=
  ∃ k, patience = some k ∧ statementsToCommit s ≤ k ∧ k < statementsToCommit s + statementsAfter s

/-- Where a run gets to its commit with something to move, the pattern matches only incidents and nothing is refused
behind the commit. -/
def Takeable (s : LegacyStore) (apply : Bool) (patience : Option Nat) : Prop :=
  apply = true → s.selected likeTask ≠ [] → ¬StoppedEarly s patience →
    (∀ row ∈ s.rowsOf instancesTable, likeTask row = true → startsIncident row = true) ∧ ¬StoppedLate s patience

section

variable {s left : LegacyStore} {sel : LegacyRow → Bool} {now : Nat} {apply : Bool} {patience : Option Nat}

theorem lasts_iff (s : LegacyStore) (patience : Option Nat) (n : Nat) :
    (Session.mk s none patience).Lasts n ↔ ¬∃ k, patience = some k ∧ k < n := by
  constructor
  · rintro lasts ⟨k, is, short⟩
    exact absurd (lasts k is) (Nat.not_le_of_lt short)
  · intro never k is
    by_contra short
    exact never ⟨k, is, Nat.lt_of_not_le short⟩

theorem not_taken (h : s.selected sel = []) (name : String) (row : LegacyRow) : s.taken sel name row = false := by
  unfold LegacyStore.taken
  rw [h]
  split
  · rfl
  · exact Bool.and_false _

theorem remaining_all (h : s.selected sel = []) : s.remaining sel = s.tables := by
  have kept : ∀ t ∈ s.tables, (t.keep t.name fun row => !s.taken sel t.name row) = id t := by
    intro t _
    simp [LegacyTable.keep, not_taken h]
  exact (List.map_congr_left kept).trans (List.map_id _)

theorem takenRows_none (h : s.selected sel = []) : s.takenRows sel = [] := by
  refine List.flatMap_eq_nil_iff.mpr fun name _ => ?_
  rw [List.filter_eq_nil_iff.mpr fun row _ => by simp [not_taken h]]
  rfl

theorem selected_tables (h : left.tables = s.tables) : left.selected sel = s.selected sel := by
  unfold LegacyStore.selected LegacyStore.rowsOf
  rw [h]

theorem selected_starts (h : s.selected likeTask = []) : s.selected startsIncident = [] := by
  have none := List.filter_eq_nil_iff.mp (List.map_eq_nil_iff.mp h)
  exact List.map_eq_nil_iff.mpr (List.filter_eq_nil_iff.mpr fun row hrow starts => none row hrow (like_of_starts starts))

/-- Where the pattern matches only incidents, the rows taken are those of the incidents. -/
theorem taken_same (h : ∀ row ∈ s.rowsOf instancesTable, likeTask row = true → startsIncident row = true) :
    s.taken likeTask = s.taken startsIncident := by
  have same : s.selected likeTask = s.selected startsIncident := by
    unfold LegacyStore.selected
    refine congrArg (List.map _) (List.filter_congr fun row hrow => ?_)
    exact Bool.eq_iff_iff.mpr ⟨h row hrow, like_of_starts⟩
  unfold LegacyStore.taken
  rw [same]

/-- Where what remains is the same, the pattern matches only incidents. -/
theorem only_incidents (matched : left.tables = s.remaining likeTask) (starting : left.tables = s.remaining startsIncident) :
    ∀ row ∈ s.rowsOf instancesTable, likeTask row = true → startsIncident row = true := by
  intro row hrow likes
  have rows : (s.rowsOf instancesTable).filter (fun row => !s.taken likeTask instancesTable row) =
      (s.rowsOf instancesTable).filter fun row => !s.taken startsIncident instancesTable row :=
    (rowsOf_remaining matched _).symm.trans (rowsOf_remaining starting _)
  by_contra other
  have stays : row ∈ (s.rowsOf instancesTable).filter fun row => !s.taken startsIncident instancesTable row := by
    refine List.mem_filter.mpr ⟨hrow, ?_⟩
    simp [LegacyStore.taken, selected_iff hrow, other]
  rw [← rows] at stays
  have goes := (List.mem_filter.mp stays).2
  simp [LegacyStore.taken, (selected_iff hrow).mpr likes] at goes

end

/-- What a run from the beginning answers and leaves. -/
theorem quarantineFile_run {s left : LegacyStore} {now : Nat} {apply : Bool} {patience : Option Nat}
    {receipt : Option QuarantineReceipt} (h : quarantineFile now apply patience (some s) = (receipt, some left)) :
    (quarantine now apply ⟨s, none, patience⟩).1 = receipt ∧ (quarantine now apply ⟨s, none, patience⟩).2.committed = left := by
  obtain ⟨first, second⟩ := Prod.mk.inj h
  exact ⟨first, Option.some.inj second⟩

theorem takes_takeable {s : LegacyStore} {now : Nat} {apply : Bool} {patience : Option Nat}
    (takes : TakesIncidents s now apply patience) : Takeable s apply patience := by
  rintro rfl nonempty early
  let t : Session LegacyStore := ⟨s, none, patience⟩
  have lasts : t.Lasts (statementsToCommit s) := (lasts_iff s patience _).mpr early
  obtain ⟨committed, isSome⟩ := (@quarantine_moves s now t nonempty rfl rfl).2 lasts
  have tables := (congrArg LegacyStore.tables committed).trans (movedOut_tables s likeTask _)
  have late : ¬StoppedLate s patience := by
    rintro ⟨k, is, _, short⟩
    have refused : (quarantine now true t).1 = none := by
      have none := fun answered => (lasts_iff s patience _).mp (isSome.mp answered) ⟨k, is, short⟩
      simpa using none
    have kept : (quarantine now true t).2.committed.tables = s.tables := (takes.failed _ (Prod.ext refused rfl)).1
    exact nonempty ((selected_tables kept).symm.trans (selected_remaining tables))
  refine ⟨?_, late⟩
  have all : t.Lasts (statementsToCommit s + statementsAfter s) := by
    refine (lasts_iff s patience _).mpr fun ⟨k, is, short⟩ => late ⟨k, is, ?_, short⟩
    exact Nat.le_of_not_lt fun before => early ⟨k, is, before⟩
  obtain ⟨receipt, answered⟩ := Option.isSome_iff_exists.mp (isSome.mpr all)
  exact only_incidents tables (takes.exactly receipt _ (Prod.ext answered rfl) rfl).1

theorem takes_of_takeable {s : LegacyStore} {now : Nat} {apply : Bool} {patience : Option Nat}
    (takeable : Takeable s apply patience) : TakesIncidents s now apply patience := by
  let t : Session LegacyStore := ⟨s, none, patience⟩
  by_cases moves : apply = true ∧ s.selected likeTask ≠ []
  · obtain ⟨rfl, nonempty⟩ := moves
    obtain ⟨short, long⟩ := @quarantine_moves s now t nonempty rfl rfl
    by_cases early : StoppedEarly s patience
    · obtain ⟨refused, kept⟩ := short fun lasts => (lasts_iff s patience _).mp lasts early
      have never {receipt : QuarantineReceipt} {left : LegacyStore}
          (h : quarantineFile now true patience (some s) = (some receipt, some left)) : False := by
        rw [(quarantineFile_run h).1] at refused
        cases refused
      refine ⟨fun _ _ h => (never h).elim, fun left h => ?_, fun _ _ h => (never h).elim, fun h => by cases h⟩
      rw [← (quarantineFile_run h).2]
      rcases kept with kept | kept
      · rw [kept]
        exact ⟨rfl, rfl⟩
      · rw [kept]
        exact ⟨rfl, auditRows_create s⟩
    · obtain ⟨only, late⟩ := takeable rfl nonempty early
      obtain ⟨moved, isSome⟩ := long ((lasts_iff s patience _).mpr early)
      have answered : (quarantine now true t).1.isSome := by
        refine isSome.mpr ((lasts_iff s patience _).mpr fun ⟨k, is, short⟩ => late ⟨k, is, ?_, short⟩)
        exact Nat.le_of_not_lt fun before => early ⟨k, is, before⟩
      have tables := (congrArg LegacyStore.tables moved).trans (movedOut_tables s likeTask _)
      have same := taken_same only
      refine ⟨fun receipt left h _ => ?_, fun left h => ?_, fun receipt left h _ later patience' => ?_, fun h => by cases h⟩
      · have remaining : s.remaining likeTask = s.remaining startsIncident := by
          unfold LegacyStore.remaining
          rw [same]
        have rows : s.takenRows likeTask = s.takenRows startsIncident := by
          unfold LegacyStore.takenRows
          rw [same]
        rw [← (quarantineFile_run h).2]
        refine ⟨tables.trans remaining, ?_⟩
        rw [moved, ← rows]
        exact (movedOut_audit s likeTask nonempty).2
      · rw [(quarantineFile_run h).1] at answered
        cases answered
      · rw [← (quarantineFile_run h).2]
        refine congrArg some (quarantine_idle rfl fun again => again.2 ?_)
        exact selected_remaining tables
  · have idle : (quarantine now apply t).2.committed = s := quarantine_idle rfl moves
    have none : apply = true → s.selected likeTask = [] := fun applied => by
      by_contra nonempty
      exact moves ⟨applied, nonempty⟩
    refine ⟨fun receipt left h applied => ?_, fun left h => ?_, fun receipt left h applied later patience' => ?_, fun _ => ?_⟩
    · rw [← (quarantineFile_run h).2, idle, remaining_all (selected_starts (none applied)), takenRows_none (selected_starts (none applied))]
      exact ⟨rfl, [], (List.append_nil _).symm, rfl⟩
    · rw [← (quarantineFile_run h).2, idle]
      exact ⟨rfl, rfl⟩
    · rw [← (quarantineFile_run h).2, idle]
      exact congrArg some (quarantine_idle rfl moves)
    · exact congrArg some idle

/-- A run takes exactly the incidents, unless it gets to its commit with a task id that only looks like one, or is
refused a statement behind its commit. -/
theorem takes_incidents_iff (s : LegacyStore) (now : Nat) (apply : Bool) (patience : Option Nat) :
    TakesIncidents s now apply patience ↔ Takeable s apply patience :=
  ⟨takes_takeable, takes_of_takeable⟩

/-- A task of an owner whose id the pattern matches. -/
def lookalike : LegacyRow := ⟨1, [("source_task_id", .text "t-m27live-owner")]⟩

def lookalikeStore : LegacyStore where
  tables := [⟨instancesTable, [lookalike], List.pairwise_singleton _ _⟩]
  quarantined := none
  named := List.nodup_singleton _
  audit := by decide

theorem lookalike_taken : ¬∀ (s : LegacyStore) (now : Nat) (apply : Bool) (patience : Option Nat),
    TakesIncidents s now apply patience := by
  intro claim
  have selected : lookalikeStore.selected likeTask = [1] := rfl
  have early : ¬StoppedEarly lookalikeStore none := fun ⟨_, is, _⟩ => by cases is
  have only := (takes_takeable (claim lookalikeStore 0 true none) rfl (by rw [selected]; simp) early).1
  exact absurd (only lookalike List.mem_cons_self rfl) (by decide)

end AgentflowHermes.Quarantine
