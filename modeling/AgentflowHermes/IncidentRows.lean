import AgentflowHermes.DiscordOrigins
import AgentflowHermes.RowTable
import AgentflowHermes.SqlSessions

namespace AgentflowHermes.Quarantine

open SqlSessions RowTable Origins

/-- `like` of SQLite: `%` is any text and `_` any one character; ASCII letters match in either case. -/
def like : List Char → List Char → Bool
  | [], text => text.isEmpty
  | c :: rest, text =>
    if c = '%' then text.tails.any (like rest)
    else match text with
      | [] => false
      | d :: text => (c = '_' || c.toLower == d.toLower) && like rest text

def incidentTaskPrefix : String := "t_m27live_"

/-- A row of a table with its row id, which is its `id` column, and the other columns. -/
structure LegacyRow where
  id : Int
  cells : List (String × Value)

def LegacyRow.dict (r : LegacyRow) : List (String × Value) := ("id", .integer r.id) :: r.cells

def LegacyRow.value (r : LegacyRow) (column : String) : Value :=
  ((r.dict.find? fun cell => cell.1 == column).map Prod.snd).getD .null

/-- A table with its rows in the order of their ids. -/
structure LegacyTable where
  name : String
  rows : List LegacyRow
  ordered : rows.Pairwise fun r q => r.id < q.id

/-- The rows of a table of this name that `p` keeps. -/
def LegacyTable.keep (name : String) (p : LegacyRow → Bool) (t : LegacyTable) : LegacyTable :=
  if t.name = name then { t with rows := t.rows.filter p, ordered := t.ordered.filter p } else t

theorem keep_names (name : String) (p : LegacyRow → Bool) (tables : List LegacyTable) :
    (tables.map (LegacyTable.keep name p)).map LegacyTable.name = tables.map LegacyTable.name := by
  rw [List.map_map]
  refine List.map_congr_left fun t _ => ?_
  simp only [Function.comp_apply, LegacyTable.keep]
  split <;> rfl

/-- A row of `quarantined_incident_rows`; `row_json` is decoded. -/
structure QuarantinedRow where
  id : Nat
  sourceTable : String
  continuationId : Value
  rowJson : List (String × Value)
  reason : String
  quarantinedAt : Nat

instance : Keyed QuarantinedRow := ⟨QuarantinedRow.id⟩

def instancesTable : String := "continuation_instances"

def quarantineTable : String := "quarantined_incident_rows"

def dependentTables : List String :=
  ["board_outbox", "continuation_events", "continuation_steps", "owner_input_receipts", "requirement_satisfactions",
    "external_wait_conditions", "interaction_members"]

/-- The tables of a legacy store; the audit table stands by itself. -/
structure LegacyStore where
  tables : List LegacyTable
  quarantined : Option (Table QuarantinedRow)
  named : (tables.map LegacyTable.name).Nodup
  audit : quarantineTable ∉ tables.map LegacyTable.name

namespace LegacyStore

/-- `select name from sqlite_master where type='table' order by name`. -/
def tableNames (s : LegacyStore) : List String :=
  (s.tables.map LegacyTable.name ++ if s.quarantined.isSome then [quarantineTable] else []).mergeSort fun a b => a ≤ b

def tableExists (s : LegacyStore) (name : String) : Bool := s.tableNames.contains name

def rowsOf (s : LegacyStore) (name : String) : List LegacyRow :=
  ((s.tables.find? fun t => t.name == name).map LegacyTable.rows).getD []

def auditRows (s : LegacyStore) : List QuarantinedRow := (s.quarantined.map Table.rows).getD []

def countRows (s : LegacyStore) (name : String) : Nat :=
  if name = quarantineTable then s.auditRows.length else (s.rowsOf name).length

/-- `delete from name where not p`. -/
def keepRows (s : LegacyStore) (name : String) (p : LegacyRow → Bool) : LegacyStore :=
  { s with
    tables := s.tables.map (LegacyTable.keep name p)
    named := by
      rw [keep_names]
      exact s.named
    audit := by
      rw [keep_names]
      exact s.audit }

/-- `create table if not exists quarantined_incident_rows`. -/
def createAudit (s : LegacyStore) : LegacyStore := { s with quarantined := some (s.quarantined.getD Table.empty) }

def insertAudit (s : LegacyStore) (table : String) (continuationId : Value) (row : List (String × Value)) (now : Nat) :
    LegacyStore :=
  let entry (id : Nat) : QuarantinedRow :=
    ⟨id, table, continuationId, row, "dry_run_leakage_incident_no_owner_work", now⟩
  { s with quarantined := s.quarantined.map fun t => t.insert entry fun _ => rfl }

end LegacyStore

/-- A text ends for `like` where it has a NUL; only texts are looked at, as no number spells the prefix. -/
def likeTask (row : LegacyRow) : Bool :=
  match row.value "source_task_id" with
  | .text task => like (incidentTaskPrefix ++ "%").toList (task.toList.takeWhile (· ≠ '\x00'))
  | _ => false

/-- `source_task_id not like ?`, which is no truth for `NULL`. -/
def notLikeTask (row : LegacyRow) : Bool := row.value "source_task_id" ≠ .null && !likeTask row

/-- `continuation_id in (..)`. -/
def refersTo (ids : List Int) (row : LegacyRow) : Bool :=
  ids.any fun id => row.value "continuation_id" = .integer id

structure QuarantineReceipt where
  quarantined : Bool
  reason : String := ""
  incidentInstanceIds : List Int := []
  incidentOutboxIds : List Int := []
  preservedLegitInstances : List LegacyRow := []
  movedRows : List (String × List LegacyRow) := []
  countsBefore : List (String × Nat) := []
  countsAfter : List (String × Nat) := []

def tableExists (name : String) : Db LegacyStore Bool := Db.query fun s => s.tableExists name

def allTableCounts : Db LegacyStore (List (String × Nat)) := do
  let names ← Db.query LegacyStore.tableNames
  Db.forEach (fun name => do
    let count ← Db.query fun s => s.countRows name
    return (name, count)) names

def incidentInstanceIds : Db LegacyStore (List Int) :=
  Db.query fun s => ((s.rowsOf instancesTable).filter likeTask).map LegacyRow.id

def selectDependents (ids : List Int) (table : String) : Db LegacyStore (List LegacyRow) := do
  if ← tableExists table then Db.query fun s => (s.rowsOf table).filter (refersTo ids) else return []

/-- The rows to move; a dependent table without any is left out. -/
def gatherRows (ids : List Int) : Db LegacyStore (List (String × List LegacyRow)) := do
  if ids = [] then return [(instancesTable, [])]
  let instances ← Db.query fun s => (s.rowsOf instancesTable).filter fun r => ids.contains r.id
  let dependents ← Db.forEach (fun table => do
    let rows ← selectDependents ids table
    return (table, rows)) dependentTables
  return (instancesTable, instances) :: dependents.filter fun moved => moved.2 ≠ []

def continuationIdOf (table : String) (row : LegacyRow) : Value :=
  if table = instancesTable then row.value "id"
  else ((row.dict.find? fun cell => cell.1 == "continuation_id").map Prod.snd).getD (row.value "id")

def insertQuarantined (now : Nat) (table : String) (row : LegacyRow) : Db LegacyStore Unit :=
  Db.exec fun s => s.insertAudit table (continuationIdOf table row) row.dict now

def deleteDependents (ids : List Int) (table : String) : Db LegacyStore Unit := do
  if ← tableExists table then Db.exec fun s => s.keepRows table fun r => !refersTo ids r

def deleteInstances (ids : List Int) : Db LegacyStore Unit :=
  Db.exec fun s => s.keepRows instancesTable fun r => !ids.contains r.id

/-- The body of the transaction. -/
def moveRows (now : Nat) (ids : List Int) (moved : List (String × List LegacyRow)) : Db LegacyStore Unit := do
  Db.each (fun entry : String × LegacyRow => insertQuarantined now entry.1 entry.2)
    (moved.flatMap fun table => table.2.map fun row => (table.1, row))
  Db.each (deleteDependents ids) dependentTables
  deleteInstances ids

/-- What is read before anything is changed. -/
structure Survey where
  countsBefore : List (String × Nat)
  ids : List Int
  preserved : List LegacyRow
  moved : List (String × List LegacyRow)

def survey : Db LegacyStore Survey := do
  let countsBefore ← allTableCounts
  let ids ← incidentInstanceIds
  let preserved ← Db.query fun s => (s.rowsOf instancesTable).filter notLikeTask
  let moved ← gatherRows ids
  return ⟨countsBefore, ids, preserved, moved⟩

def moveOut (now : Nat) (ids : List Int) (moved : List (String × List LegacyRow)) : Db LegacyStore Unit := do
  Db.script LegacyStore.createAudit
  Db.transaction (moveRows now ids moved)

def moveIncidents (now : Nat) (apply : Bool) (v : Survey) : Db LegacyStore Unit :=
  if apply ∧ v.ids ≠ [] then moveOut now v.ids v.moved else pure ()

def countsAfter (apply : Bool) (before : List (String × Nat)) : Db LegacyStore (List (String × Nat)) :=
  if apply then allTableCounts else pure before

/-- What is done with what has been read. -/
def finish (now : Nat) (apply : Bool) (v : Survey) : Db LegacyStore QuarantineReceipt := do
  moveIncidents now apply v
  let countsAfter ← countsAfter apply v.countsBefore
  return {
    quarantined := apply ∧ v.ids ≠ []
    incidentInstanceIds := v.ids
    incidentOutboxIds :=
      ((v.moved.find? fun table => table.1 == "board_outbox").map fun table => table.2.map LegacyRow.id).getD []
    preservedLegitInstances := v.preserved
    movedRows := v.moved
    countsBefore := v.countsBefore
    countsAfter := countsAfter }

def quarantine (now : Nat) (apply : Bool) : Db LegacyStore QuarantineReceipt := do
  if ← tableExists instancesTable then
    let v ← survey
    finish now apply v
  else return { quarantined := false, reason := "no_continuation_tables" }

/-- `quarantine` of a file: a file that is missing holds nothing, and what is still open when the connection is closed
is lost. -/
def quarantineFile (now : Nat) (apply : Bool) (patience : Option Nat) (file : Option LegacyStore) :
    Option QuarantineReceipt × Option LegacyStore :=
  match file with
  | none => (some { quarantined := false, reason := "legacy_db_missing" }, none)
  | some s =>
    let (receipt, session) := quarantine now apply { committed := s, patience := patience }
    (receipt, some session.committed)

end AgentflowHermes.Quarantine
