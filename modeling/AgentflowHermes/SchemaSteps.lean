import AgentflowHermes.ScriptRuns

namespace AgentflowHermes.Schema

open ScriptRuns

inductive Cell
  | null
  | integer (n : Int)
  | real (micros : Int)
  | text (s : String)
  deriving DecidableEq

inductive ColumnType
  | text
  | integer
  | real
  deriving DecidableEq

structure Column where
  name : String
  type : ColumnType
  notNull : Bool := false
  default : Cell := .null
  deriving DecidableEq

namespace Column

/-- `name type primary key`. -/
def key (name : String) (type : ColumnType) : Column := { name, type }

/-- `name type not null`. -/
def required (name : String) (type : ColumnType) : Column := { name, type, notNull := true }

/-- `name type null`. -/
def nullable (name : String) (type : ColumnType) : Column := { name, type }

/-- `name text not null default 'value'`. -/
def text (name : String) (value : String := "") : Column :=
  { name, type := .text, notNull := true, default := .text value }

/-- `name integer not null default value`. -/
def integer (name : String) (value : Int) : Column :=
  { name, type := .integer, notNull := true, default := .integer value }

end Column

structure TableDef where
  name : String
  columns : List Column
  primaryKey : List String
  autoincrement : Bool := false
  foreignKey : Option (String × String × String) := none
  deriving DecidableEq

/-- An index; `nonempty` is the column of its `where column != ''`. -/
structure Index where
  name : String
  table : String
  columns : List String
  unique : Bool := false
  nonempty : Option String := none
  deriving DecidableEq

/-- What the scripts are made of; every `create` stands with `if not exists`. -/
inductive Statement
  | createTable (table : TableDef)
  | createIndex (index : Index)
  | addColumn (table : String) (column : Column)
  | backfillSeq
  deriving DecidableEq

/-- `SQL_V1`. -/
def sqlV1 : List Statement :=
  [.createTable {
      name := "jobs"
      columns := [.key "id" .text, .required "title" .text, .text "body", .text "target",
        .text "origin_return", .text "dedupe_key", .text "status" "queued",
        .required "created_at" .real, .required "updated_at" .real]
      primaryKey := ["id"] },
    .createTable {
      name := "job_events"
      columns := [.key "id" .integer, .required "job_id" .text, .required "kind" .text,
        .text "payload_json" "\x7b\x7d", .required "created_at" .real]
      primaryKey := ["id"]
      autoincrement := true
      foreignKey := some ("job_id", "jobs", "id") },
    .createIndex { name := "idx_jobs_status_updated", table := "jobs", columns := ["status", "updated_at"] },
    .createIndex { name := "idx_events_job_id", table := "job_events", columns := ["job_id", "id"] }]

/-- `SQL_V2`. -/
def sqlV2 : List Statement :=
  [.addColumn "jobs" (.text "correlation_id"),
    .addColumn "jobs" (.text "causation_id"),
    .addColumn "jobs" (.text "source_kind" "manual"),
    .addColumn "jobs" (.text "source_id"),
    .addColumn "jobs" (.text "source_ref"),
    .addColumn "jobs" (.text "source_hash"),
    .addColumn "jobs" (.integer "attempt" 0),
    .addColumn "jobs" (.nullable "final_at" .real),
    .addColumn "job_events" (.integer "seq" 0),
    .addColumn "job_events" (.text "prev_status"),
    .addColumn "job_events" (.text "new_status"),
    .backfillSeq,
    .createTable {
      name := "deadletter"
      columns := [.key "id" .integer, .text "job_id", .required "reason" .text, .text "raw_ref",
        .text "payload_json" "\x7b\x7d", .required "created_at" .real]
      primaryKey := ["id"]
      autoincrement := true },
    .createIndex { name := "idx_jobs_correlation", table := "jobs", columns := ["correlation_id"] },
    .createIndex { name := "idx_jobs_source", table := "jobs", columns := ["source_kind", "source_hash"] },
    .createIndex {
      name := "idx_jobs_dedupe", table := "jobs"
      columns := ["dedupe_key"], nonempty := some "dedupe_key" },
    .createIndex { name := "idx_deadletter_job", table := "deadletter", columns := ["job_id", "id"] },
    .createIndex {
      name := "uniq_events_job_seq", table := "job_events"
      columns := ["job_id", "seq"], unique := true },
    .createIndex {
      name := "uniq_jobs_source_hash", table := "jobs"
      columns := ["source_hash"], unique := true, nonempty := some "source_hash" }]

/-- `SQL_V3`. -/
def sqlV3 : List Statement :=
  [.createTable {
      name := "operator_receipts"
      columns := [.key "id" .integer, .text "job_id", .required "channel" .text, .required "phase" .text,
        .text "target", .text "idempotency_key", .text "policy_snapshot_json" "\x7b\x7d",
        .text "delivery_ref", .text "reason", .required "created_at" .real]
      primaryKey := ["id"]
      autoincrement := true },
    .createTable {
      name := "idempotency_keys"
      columns := [.key "key" .text, .text "job_id", .text "channel", .text "target", .text "delivery_ref",
        .required "created_at" .real]
      primaryKey := ["key"] },
    .addColumn "jobs" (.nullable "live_delivered_at" .real),
    .addColumn "jobs" (.text "live_delivery_ref"),
    .createTable {
      name := "agentflow_meta"
      columns := [.key "key" .text, .text "value", .required "updated_at" .real]
      primaryKey := ["key"] },
    .createIndex { name := "idx_receipts_job", table := "operator_receipts", columns := ["job_id", "id"] },
    .createIndex {
      name := "idx_receipts_channel", table := "operator_receipts"
      columns := ["channel", "created_at"] },
    .createIndex { name := "idx_receipts_idempotency", table := "operator_receipts", columns := ["idempotency_key"] },
    .createIndex { name := "idx_idempotency_keys", table := "idempotency_keys", columns := ["key"] }]

/-- `SQL_V4`. -/
def sqlV4 : List Statement :=
  [.createTable {
      name := "maintenance_cycles"
      columns := [.key "id" .integer, .required "idempotency_key" .text, .text "status" "attempt",
        .text "reason", .text "target_unit", .text "repo_id", .integer "dry_run" 1,
        .integer "fake" 0, .text "source_ref", .text "policy_ref", .required "created_at" .real,
        .required "updated_at" .real]
      primaryKey := ["id"]
      autoincrement := true },
    .createTable {
      name := "maintenance_state"
      columns := [.key "key" .text, .text "value", .required "updated_at" .real]
      primaryKey := ["key"] },
    .createTable {
      name := "maintenance_deadletter"
      columns := [.key "id" .integer, .text "reason", .text "target_unit", .text "idempotency_key",
        .text "ref", .required "created_at" .real]
      primaryKey := ["id"]
      autoincrement := true },
    .createIndex {
      name := "uniq_maintenance_cycles_key", table := "maintenance_cycles"
      columns := ["idempotency_key"], unique := true },
    .createIndex {
      name := "idx_maintenance_cycles_repo_unit", table := "maintenance_cycles"
      columns := ["repo_id", "target_unit", "status", "created_at"] },
    .createIndex {
      name := "idx_maintenance_deadletter_target", table := "maintenance_deadletter"
      columns := ["target_unit", "created_at"] }]

/-- `SQL_V5`. -/
def sqlV5 : List Statement :=
  [.createTable {
      name := "continuation_instances"
      columns := [.key "id" .integer, .required "board" .text, .required "source_task_id" .text,
        .required "source_event_id" .text, .text "source_graph_id", .text "contract_ref",
        .text "verdict", .text "continuation_kind", .text "state" "detected", .text "origin_ref",
        .text "return_to_ref", .text "workspace_ref", .required "idempotency_key" .text,
        .required "created_at" .real, .required "updated_at" .real]
      primaryKey := ["id"]
      autoincrement := true },
    .createTable {
      name := "continuation_steps"
      columns := [.key "id" .integer, .required "continuation_id" .integer, .required "step_kind" .text,
        .text "state" "pending", .text "board_task_id", .nullable "parent_step_id" .integer,
        .required "idempotency_key" .text, .required "created_at" .real,
        .required "updated_at" .real]
      primaryKey := ["id"]
      autoincrement := true
      foreignKey := some ("continuation_id", "continuation_instances", "id") },
    .createTable {
      name := "owner_input_receipts"
      columns := [.key "id" .integer, .required "continuation_id" .integer, .required "version" .integer,
        .text "owner_ref", .text "fields_json" "\x7b\x7d", .text "source_ref",
        .required "created_at" .real, .nullable "supersedes_receipt_id" .integer]
      primaryKey := ["id"]
      autoincrement := true
      foreignKey := some ("continuation_id", "continuation_instances", "id") },
    .createTable {
      name := "continuation_events"
      columns := [.key "id" .integer, .required "continuation_id" .integer, .required "seq" .integer,
        .required "kind" .text, .text "payload_json" "\x7b\x7d", .required "created_at" .real]
      primaryKey := ["id"]
      autoincrement := true
      foreignKey := some ("continuation_id", "continuation_instances", "id") },
    .createTable {
      name := "board_cursors"
      columns := [.required "board" .text, .required "db_identity" .text, .integer "last_event_id" 0,
        .required "updated_at" .real]
      primaryKey := ["board", "db_identity"] },
    .createTable {
      name := "board_outbox"
      columns := [.key "id" .integer, .required "continuation_id" .integer, .text "step_id",
        .required "operation" .text, .text "payload_json" "\x7b\x7d", .required "idempotency_key" .text,
        .text "state" "pending", .text "board_task_id", .integer "attempts" 0,
        .required "created_at" .real, .required "updated_at" .real]
      primaryKey := ["id"]
      autoincrement := true
      foreignKey := some ("continuation_id", "continuation_instances", "id") },
    .createIndex {
      name := "uniq_continuation_source_tuple", table := "continuation_instances"
      columns := ["board", "source_task_id", "source_event_id", "contract_ref"], unique := true },
    .createIndex {
      name := "idx_continuation_state", table := "continuation_instances"
      columns := ["state", "updated_at"] },
    .createIndex {
      name := "uniq_continuation_steps_key", table := "continuation_steps"
      columns := ["continuation_id", "idempotency_key"], unique := true },
    .createIndex {
      name := "idx_continuation_steps_continuation", table := "continuation_steps"
      columns := ["continuation_id", "step_kind"] },
    .createIndex {
      name := "uniq_owner_receipt_version", table := "owner_input_receipts"
      columns := ["continuation_id", "version"], unique := true },
    .createIndex {
      name := "uniq_continuation_events_seq", table := "continuation_events"
      columns := ["continuation_id", "seq"], unique := true },
    .createIndex {
      name := "uniq_board_outbox_key", table := "board_outbox"
      columns := ["idempotency_key"], unique := true },
    .createIndex {
      name := "idx_board_outbox_continuation", table := "board_outbox"
      columns := ["continuation_id", "state"] }]

/-- `STEPS`. -/
def steps : List (Nat × List Statement) := [(1, sqlV1), (2, sqlV2), (3, sqlV3), (4, sqlV4), (5, sqlV5)]

/-- The values of a row by column. -/
abbrev Row := String → Cell

def Row.set (row : Row) (column : String) (value : Cell) : Row := fun c => if c = column then value else row c

/-- `id`, which is an integer. -/
def Row.rowId (row : Row) : Int :=
  match row "id" with
  | .integer n => n
  | _ => 0

/-- A table with its rows, in the order of their ids. -/
structure Table where
  definition : TableDef
  rows : List Row := []

structure Database where
  userVersion : Nat := 0
  tables : List Table := []
  indexes : List Index := []

inductive SqlError
  | noSuchTable (table : String)
  | noSuchColumn
  | duplicateColumn (column : String)
  | notUnique (index : String)
  deriving DecidableEq

def TableDef.columnNames (t : TableDef) : List String := t.columns.map Column.name

namespace Table

def name (t : Table) : String := t.definition.name

def columnNames (t : Table) : List String := t.definition.columnNames

def addColumn (t : Table) (c : Column) : Table where
  definition := { t.definition with columns := t.definition.columns ++ [c] }
  rows := t.rows.map fun row => row.set c.name c.default

/-- The rows that an index holds. -/
def indexed (t : Table) (i : Index) : List Row :=
  match i.nonempty with
  | none => t.rows
  | some column => t.rows.filter fun row => row column ≠ .text ""

/-- Two rows have the same key; a key with a `null` in it is the key of no other row. -/
def collides (t : Table) (i : Index) : Bool :=
  let keys := (t.indexed i).map fun row => i.columns.map row
  !decide ((keys.filter fun key => !key.contains .null).Nodup)

/-- `row_number() over (partition by job_id order by id)`. -/
def rank (rows : List Row) (row : Row) : Nat :=
  (rows.filter fun other => other "job_id" = row "job_id" && decide (other.rowId ≤ row.rowId)).length

/-- `update job_events set seq = rn where seq = 0`. -/
def backfill (t : Table) : Table :=
  { t with rows := t.rows.map fun row =>
      if row "seq" = .integer 0 then row.set "seq" (.integer (rank t.rows row)) else row }

end Table

namespace Database

def table? (db : Database) (name : String) : Option Table := db.tables.find? (·.name = name)

def mapTable (db : Database) (name : String) (f : Table → Table) : Database :=
  { db with tables := db.tables.map fun t => if t.name = name then f t else t }

end Database

/-- One statement, executed and committed. -/
def execute : Statement → Database → Except SqlError Database
  | .createTable t, db =>
    if (db.table? t.name).isSome then .ok db else .ok { db with tables := db.tables ++ [{ definition := t }] }
  | .createIndex i, db =>
    if db.indexes.any (·.name = i.name) then .ok db
    else
      match db.table? i.table with
      | none => .error (.noSuchTable i.table)
      | some t =>
        if i.columns.any fun c => !t.columnNames.contains c then .error .noSuchColumn
        else if i.unique && t.collides i then .error (.notUnique i.name)
        else .ok { db with indexes := db.indexes ++ [i] }
  | .addColumn name c, db =>
    match db.table? name with
    | none => .error (.noSuchTable name)
    | some t =>
      if t.columnNames.contains c.name then .error (.duplicateColumn c.name)
      else .ok (db.mapTable name (·.addColumn c))
  | .backfillSeq, db =>
    match db.table? "job_events" with
    | none => .error (.noSuchTable "job_events")
    | some t =>
      if t.columnNames.contains "seq" then .ok (db.mapTable "job_events" Table.backfill) else .error .noSuchColumn

/-- The loop of `migrate` over the steps from a version on. -/
def migrateFrom (version : Nat) : List (Nat × List Statement) → Database → Except SqlError Database
  | [], db => .ok db
  | (target, script) :: rest, db =>
    if version < target then
      match runScript execute script db with
      | .error e => .error e
      | .ok db => migrateFrom target rest { db with userVersion := target }
    else migrateFrom version rest db

def migrate (db : Database) : Except SqlError Database := migrateFrom db.userVersion steps db

/-- What a migration commits: the statements of its scripts, and the version after each script. -/
inductive Commit
  | statement (s : Statement)
  | setVersion (version : Nat)

def perform : Commit → Database → Except SqlError Database
  | .statement s, db => execute s db
  | .setVersion version, db => .ok { db with userVersion := version }

def commits (version : Nat) : List (Nat × List Statement) → List Commit
  | [] => []
  | (target, script) :: rest =>
    if version < target then script.map .statement ++ .setVersion target :: commits target rest
    else commits version rest

/-- A migration that stops after its first `n` commits. -/
def interrupted (db : Database) (n : Nat) : Except SqlError Database :=
  runScript perform ((commits db.userVersion steps).take n) db

theorem runScript_statements (script : List Statement) (db : Database) :
    runScript perform (script.map .statement) db = runScript execute script db := by
  induction script generalizing db with
  | nil => rfl
  | cons s rest ih =>
    have first : perform (.statement s) db = execute s db := rfl
    rw [List.map_cons]
    unfold runScript
    rw [first]
    cases execute s db with
    | error e => rfl
    | ok db' => exact ih db'

/-- A migration is the run of its commits. -/
theorem migrateFrom_eq (version : Nat) (rest : List (Nat × List Statement)) (db : Database) :
    migrateFrom version rest db = runScript perform (commits version rest) db := by
  induction rest generalizing version db with
  | nil => rfl
  | cons step rest ih =>
    obtain ⟨target, script⟩ := step
    unfold migrateFrom commits
    by_cases behind : version < target
    · rw [if_pos behind, if_pos behind, runScript_append, runScript_statements]
      cases runScript execute script db with
      | error e => rfl
      | ok db' => exact ih target _
    · rw [if_neg behind, if_neg behind]
      exact ih version db

end AgentflowHermes.Schema
