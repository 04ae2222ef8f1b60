import AgentflowHermes.ContinuationStore
import AgentflowHermes.DiscordPostState
import AgentflowHermes.EndpointFlags
import Mathlib.Algebra.Group.Int.Defs

namespace AgentflowHermes.Origins

open RowTable

structure DeadletterEntry where
  outboxId : Nat
  idempotencyKey : String
  operation : Operation
  taskId : String
  status : String
  endpoint : String
  deriving DecidableEq

def deadletterEntry (row : OutboxRow) : DeadletterEntry where
  outboxId := row.id
  idempotencyKey := row.idempotencyKey
  operation := row.operation
  taskId := row.payload.text "task_id"
  status := row.payload.text "status"
  endpoint := row.payload.text "endpoint"

/-- The rows of the outbox, each with the board of its continuation. -/
def outboxBoards (s : Store) : List (OutboxRow × String) :=
  s.outbox.rows.filterMap fun row => (s.getInstance row.continuationId).map fun i => (row, i.board)

def deadletterMismatch (key value reason : String) : MigrationError where
  code := "deadletter_board_task_mismatch"
  detail := [(key, value), ("reason", reason)]

section

variable (T : PyText) (board : String) (fromTokens : List String) (toId : String)

def ownChannel (row : OutboxRow) : Bool :=
  (toId :: fromTokens).contains (classifyDiscordEndpoint T (row.payload.text "endpoint")).chatId

/-- Why a row that was asked for is refused. -/
def targetRefused (row : OutboxRow × String) : Option MigrationError :=
  let mismatch := deadletterMismatch "outbox_id" (toString row.1.id)
  if row.2 ≠ board then some (mismatch "wrong_board")
  else if row.1.state ≠ .callbackDeadletter then some (mismatch "not_callback_deadletter")
  else if !ownChannel T fromTokens toId row.1 then some (mismatch "endpoint_channel_mismatch")
  else none

def byId (rows : List (OutboxRow × String)) (id : Int) : Option (OutboxRow × String) :=
  rows.find? fun row => (row.1.id : Int) = id

/-- The last row of a reference, as in a `dict`. -/
def byRef (rows : List (OutboxRow × String)) (ref : String) : Option (OutboxRow × String) :=
  rows.reverse.find? fun row => row.1.idempotencyKey = ref

/-- `_select_deadletters`; `none` is a store whose file does not exist. -/
def selectDeadletters (ids : List Int) (refs : List String) (store : Option Store) :
    Except MigrationError (List DeadletterEntry) :=
  let explicit := !(ids.isEmpty && refs.isEmpty)
  match store with
  | none => if explicit then .error { code := "canonical_db_missing" } else .ok []
  | some s =>
    let rows := outboxBoards s
    if explicit then
      let unknown := (ids.findSome? fun id =>
          if (byId rows id).isNone then some (deadletterMismatch "outbox_id" (toString id) "unknown_id") else none).or
        (refs.findSome? fun ref =>
          if (byRef rows ref).isNone then some (deadletterMismatch "idempotency_key" ref "unknown_ref") else none)
      let targets := ids.filterMap (byId rows) ++ refs.filterMap (byRef rows)
      match unknown.or (targets.findSome? (targetRefused T board fromTokens toId)) with
      | some e => .error e
      | none =>
        .ok ((rows.filter fun row => targets.any fun target => target.1.id = row.1.id).map fun row => deadletterEntry row.1)
    else
      .ok ((rows.filter fun row => (targetRefused T board fromTokens toId row).isNone).map fun row => deadletterEntry row.1)

end

/-- What a call of the adapter comes to; `error` is what its answer names, or nothing. -/
inductive AckAnswer
  | raised
  | answered (success : Bool) (error : String)
  deriving DecidableEq

/-- An adapter, whatever it remembers. Not every one can read an acknowledgement back. -/
structure RepairAdapter (σ : Type) where
  recordConsumerAck : String → String → String → σ → AckAnswer × σ
  consumerAckSatisfied : Option (String → String → String → σ → AckAnswer × σ) := none

/-- An operation that the adapter has confirmed for a row. -/
structure Confirmed where
  outboxId : Nat
  operation : Operation
  taskId : String
  endpoint : String
  status : String
  deriving DecidableEq

structure RepairReport where
  repaired : List (Nat × String × String) := []
  unproven : List (Nat × String × String) := []
  deriving DecidableEq

/-- A repair under way: the store, the adapter's own state, and what it has confirmed. -/
structure Repair (σ : Type) where
  store : Store
  world : σ
  confirmed : List Confirmed := []
  report : RepairReport := {}

section

variable {σ : Type} (T : PyText) (adapter : RepairAdapter σ) (toId : String)

/-- The calls for one row: `none` where one raises. -/
def proveAck (entry : DeadletterEntry) (w : σ) : Option (Bool × String) × σ :=
  let endpoint := numericDiscordEndpoint T entry.endpoint toId
  match adapter.recordConsumerAck entry.taskId endpoint entry.status w with
  | (.raised, w) => (none, w)
  | (.answered false error, w) => (some (false, error), w)
  | (.answered true error, w) =>
    match adapter.consumerAckSatisfied with
    | none => (some (true, error), w)
    | some verify =>
      match verify entry.taskId endpoint entry.status w with
      | (.raised, w) => (none, w)
      | (.answered proven _, w) => (some (proven, error), w)

/-- One row; `false` where the adapter raises. -/
def repairOne (entry : DeadletterEntry) (r : Repair σ) : Bool × Repair σ :=
  match proveAck T adapter toId entry r.world with
  | (none, w) => (false, { r with world := w })
  | (some (true, _), w) =>
    (true, {
      store := (r.store.outboxMark entry.outboxId .applied "" none none).2, world := w
      confirmed := r.confirmed ++ [{
        outboxId := entry.outboxId, operation := .recordConsumerAck, taskId := entry.taskId
        endpoint := numericDiscordEndpoint T entry.endpoint toId, status := entry.status }]
      report := { r.report with repaired := r.report.repaired ++ [(entry.outboxId, entry.taskId, entry.status)] } })
  | (some (false, error), w) =>
    let error := if error = "" then "callback_ack_unverified" else error
    let error := String.ofList (error.toList.take 80)
    (true, { r with
      world := w, report := { r.report with unproven := r.report.unproven ++ [(entry.outboxId, entry.taskId, error)] } })

def repairEach : List DeadletterEntry → Repair σ → Bool × Repair σ
  | [], r => (true, r)
  | entry :: rest, r =>
    match repairOne T adapter toId entry r with
    | (false, r) => (false, r)
    | (true, r) => repairEach rest r

/-- `_repair_callback_deadletters`: whether it returns, and what it leaves. -/
def repairCallbackDeadletters (adapter : Option (RepairAdapter σ)) (deadletters : List DeadletterEntry) (s : Store)
    (w : σ) : Bool × Repair σ :=
  if deadletters.isEmpty then (true, { store := s, world := w })
  else
    match adapter with
    | none => (false, { store := s, world := w })
    | some adapter => repairEach T adapter toId deadletters { store := s, world := w }

end

open ScriptRuns

structure OriginEntry where
  taskId : String
  fromChatId : String
  toChatId : String
  threadId : String
  deriving DecidableEq

structure SubEntry where
  taskId : String
  fromChatId : String
  threadId : String
  deriving DecidableEq

/-- What `build_plan` returns; the counts and lists that are made from these are left out. -/
structure Plan where
  fromAliases : List String
  toId : String
  taskOriginRows : List OriginEntry
  receiptRows : List ReceiptEntry
  aliasSubsToDelete : List SubEntry
  affectedDeadletters : List DeadletterEntry
  deriving DecidableEq

def Plan.nothingToMigrate (p : Plan) : Bool :=
  p.taskOriginRows.isEmpty && p.receiptRows.isEmpty && p.aliasSubsToDelete.isEmpty

/-- A board database that exists: the columns of its two tables, `none` where there is no table, and the rows. -/
structure BoardFile where
  originTable : Option (List String)
  receiptTable : Option (List String)
  db : BoardDb
  deriving DecidableEq

def requiredCols : List String := ["task_id", "platform", "chat_id", "thread_id"]

/-- `_require_board_schema`. -/
def requireBoardSchema (b : BoardFile) : Option MigrationError :=
  match b.originTable, b.receiptTable with
  | none, _ => some { code := "board_schema_missing", detail := [("table", "kanban_task_origin")] }
  | _, none => some { code := "board_schema_missing", detail := [("table", "kanban_notify_receipts")] }
  | some origins, some receipts =>
    if !requiredCols.all origins.contains then
      some { code := "board_schema_incompatible", detail := [("table", "kanban_task_origin")] }
    else if !requiredCols.all receipts.contains then
      some { code := "board_schema_incompatible", detail := [("table", "kanban_notify_receipts")] }
    else none

/-- The arguments of a migration. -/
structure MigrationArgs where
  board : String
  fromId : String
  toId : String
  deadletterIds : List Int := []
  deadletterRefs : List String := []

section

variable (T : PyText) (parseInt : String → Option Int)

def planReceipts (db : BoardDb) (dst : String) : List String → Except MigrationError (List ReceiptEntry)
  | [] => .ok []
  | token :: rest => do
    let entries ← planAll parseInt db dst token (db.channelReceipts token)
    let later ← planReceipts db dst rest
    .ok (entries ++ later)

def buildPlan (a : MigrationArgs) (file : Option BoardFile) (store : Option Store) : Except MigrationError Plan :=
  let tokens := sourceMatchTokens T a.fromId
  let dst := target T a.toId
  match file with
  | none => .error { code := "board_db_missing" }
  | some b =>
    match requireBoardSchema b with
    | some e => .error e
    | none => do
      let receiptRows ← planReceipts parseInt b.db dst tokens
      let affectedDeadletters ← selectDeadletters T a.board tokens dst a.deadletterIds a.deadletterRefs store
      .ok {
        fromAliases := tokens, toId := dst, receiptRows, affectedDeadletters
        taskOriginRows := tokens.flatMap fun token => (b.db.channelOrigins token).map fun key =>
          { taskId := key.1, fromChatId := token, toChatId := dst, threadId := threadText key.2 }
        aliasSubsToDelete := tokens.flatMap fun token => (b.db.channelSubs token).map fun key =>
          { taskId := key.1, fromChatId := token, threadId := threadText key.2 } }

/-- `plan_discord_migration`. -/
def planDiscordMigration (a : MigrationArgs) (file : Option BoardFile) (store : Option Store) :
    Except MigrationError Plan :=
  match validateMigrationInputs T a.fromId a.toId with
  | some code => .error { code }
  | none => buildPlan T parseInt a file store

/-- Why `apply_discord_migration` does not get to its end. -/
inductive Stop
  | refused (e : MigrationError)
  | raised
  deriving DecidableEq

/-- What the migration meets: how SQLite answers, and whether a backup raises. -/
structure MigrationEnv where
  board : BoardEnv := {}
  backupRaises : Bool := false

/-- What the board transaction has done. -/
structure BoardMigration where
  actions : List ReceiptEntry := []
  stats : Stats := {}
  deriving DecidableEq

/-- `apply_discord_migration` up to its board transaction, and the board file it leaves. -/
def applyBoardStage (env : MigrationEnv) (a : MigrationArgs) (file : Option BoardFile) (store : Option Store) :
    Except Stop (Plan × BoardMigration) × Option BoardFile :=
  match validateMigrationInputs T a.fromId a.toId with
  | some code => (.error (.refused { code }), file)
  | none =>
    if store.isNone then (.error (.refused { code := "canonical_db_missing" }), file)
    else
      match file, buildPlan T parseInt a file store with
      | _, .error e => (.error (.refused e), file)
      | none, .ok _ => (.error (.refused { code := "board_db_missing" }), file)
      | some b, .ok plan =>
        if !(plan.nothingToMigrate && plan.affectedDeadletters.isEmpty) && env.backupRaises then (.error .raised, file)
        else if plan.nothingToMigrate then (.ok (plan, {}), file)
        else
          match applyBoardTransaction parseInt env.board plan.toId plan.fromAliases b.db with
          | (.error e, db) => (.error (.refused e), some { b with db })
          | (.ok t, db) => (.ok (plan, { actions := t.actions, stats := t.stats }), some { b with db })

/-- What a migration leaves. -/
structure Migration (σ : Type) where
  answer : Except Stop (Plan × BoardMigration × RepairReport)
  file : Option BoardFile
  store : Option Store
  world : σ

/-- `apply_discord_migration`. -/
def applyDiscordMigration {σ : Type} (env : MigrationEnv) (a : MigrationArgs) (adapter : Option (RepairAdapter σ))
    (file : Option BoardFile) (store : Option Store) (w : σ) : Migration σ :=
  match applyBoardStage T parseInt env a file store, store with
  | (.error stop, file), _ => { answer := .error stop, file, store, world := w }
  | (.ok _, file), none => { answer := .error (.refused { code := "canonical_db_missing" }), file, store, world := w }
  | (.ok (plan, migrated), file), some s =>
    match repairCallbackDeadletters T plan.toId adapter plan.affectedDeadletters s w with
    | (false, r) => { answer := .error .raised, file, store := some r.store, world := r.world }
    | (true, r) => { answer := .ok (plan, migrated, r.report), file, store := some r.store, world := r.world }

end

/-- The numbers that SQLite can hold. -/
def fits (n : Int) : Bool := -(2 ^ 63) ≤ n && n < 2 ^ 63

/-- An update that sets some column, and none to a number that cannot be held. -/
def Merged.writable (cols : List MergeCol) (m : Merged) : Bool :=
  !cols.isEmpty &&
    [(.notifyDeliveryAt, m.notifyDeliveryAt), (.activeWakeAt, m.activeWakeAt), (.consumerAckAt, m.consumerAckAt),
      (.updatedAt, m.updatedAt)].all fun p => !cols.contains p.1 || fits p.2

/-- SQLite where nobody else writes. -/
def quietBoard : BoardEnv where
  refuses w db :=
    match w with
    | .setFacts _ _ _ merged => !merged.writable db.receiptCols
    | _ => false

end AgentflowHermes.Origins
