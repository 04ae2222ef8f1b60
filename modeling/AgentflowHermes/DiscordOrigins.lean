import AgentflowHermes.PyValues
import AgentflowHermes.ScriptRuns
import Mathlib.Data.List.Sort

namespace AgentflowHermes.Origins

open ScriptRuns

structure MigrationError where
  code : String
  detail : List (String × String) := []
  deriving DecidableEq

section

variable (T : PyText)

/-- `str.isdigit`. -/
def isDigits (text : String) : Bool := text ≠ "" && text.toList.all T.isDigit

def researchSourceAliases : List String := ["#research", "research"]

def normalizeSource (fromId : String) : String := PyText.strip T.isSpace fromId

def sourceMatchTokens (fromId : String) : List String :=
  let src := normalizeSource T fromId
  if researchSourceAliases.contains src then researchSourceAliases else if src = "" then [] else [src]

/-- `str(to_id).strip()`. -/
def target (toId : String) : String := PyText.strip T.isSpace toId

def validateMigrationInputs (fromId toId : String) : Option String :=
  let src := normalizeSource T fromId
  let dst := target T toId
  if !isDigits T dst then some "discord_target_not_numeric"
  else if src = "" || PyText.strip (· == '#') src = "" then some "discord_source_empty"
  else if src = dst then some "discord_source_equals_target"
  else none

end

/-- A value of a column; a real stands with what `str` and `int` make of it. -/
inductive Value
  | null
  | integer (n : Int)
  | real (shown : String) (whole : Int)
  | text (s : String)
  deriving DecidableEq

/-- `str(value or "")`. -/
def Value.shown : Value → String
  | .null => ""
  | .integer n => if n = 0 then "" else toString n
  | .real shown _ => if ["0.0", "-0.0"].contains shown then "" else shown
  | .text s => s

/-- `_as_int`; `int` of a text is handed in, `none` where it raises. -/
def Value.asInt (parseInt : String → Option Int) : Value → Int
  | .null => 0
  | .integer n => n
  | .real _ whole => whole
  | .text s => (parseInt s).getD 0

/-- `_RECEIPT_MERGE_COLS`. -/
inductive MergeCol
  | notifyDeliveryStatus
  | activeWakeStatus
  | consumerAckStatus
  | notifyDeliveryAt
  | activeWakeAt
  | consumerAckAt
  | updatedAt
  deriving DecidableEq

/-- What a receipt says besides its key. -/
structure Facts where
  notifyDeliveryStatus : Value := .null
  activeWakeStatus : Value := .null
  consumerAckStatus : Value := .null
  notifyDeliveryAt : Value := .null
  activeWakeAt : Value := .null
  consumerAckAt : Value := .null
  updatedAt : Value := .null
  deriving DecidableEq

def notifyRank : String → Nat
  | "pending" | "queued" | "failed" | "retrying" => 1
  | "delivered" => 3
  | _ => 0

def wakeRank : String → Nat
  | "pending" => 1
  | "scheduled" => 2
  | "accepted" => 3
  | "started" => 4
  | "completed" => 5
  | _ => 0

/-- `_strongest`. -/
def strongest (rank : String → Nat) (source target : Value) : String :=
  if rank target.shown < rank source.shown then source.shown else target.shown

/-- What `merge_receipt_facts` returns. -/
structure Merged where
  notifyDeliveryStatus : String
  activeWakeStatus : String
  consumerAckStatus : String
  notifyDeliveryAt : Int
  activeWakeAt : Int
  consumerAckAt : Int
  updatedAt : Int
  deriving DecidableEq

structure OriginRow where
  taskId : String
  platform : String
  chatId : String
  threadId : Option String
  deriving DecidableEq

/-- A row of `kanban_notify_receipts`. -/
structure ReceiptRow where
  taskId : String
  platform : String
  chatId : String
  threadId : Option String
  facts : Facts := {}
  deriving DecidableEq

structure SubRow where
  taskId : String
  platform : String
  chatId : String
  threadId : Option String
  deriving DecidableEq

/-- The tables of a board database that the migration touches. `receiptCols` are the merge columns there are, and
`subs` is `none` without a table of subscriptions by platform and chat; a table without a `thread_id` reads as one
that has none. -/
structure BoardDb where
  origins : List OriginRow := []
  receipts : List ReceiptRow := []
  receiptCols : List MergeCol :=
    [.notifyDeliveryStatus, .activeWakeStatus, .consumerAckStatus, .notifyDeliveryAt, .activeWakeAt, .consumerAckAt,
      .updatedAt]
  subs : Option (List SubRow) := none
  deriving DecidableEq

/-- `str(row["thread_id"] or "")`. -/
def threadText (threadId : Option String) : String := threadId.getD ""

def OriginRow.discord (chatId : String) (o : OriginRow) : Bool := o.platform = "discord" && o.chatId = chatId

def ReceiptRow.discord (chatId : String) (r : ReceiptRow) : Bool := r.platform = "discord" && r.chatId = chatId

def SubRow.discord (chatId : String) (s : SubRow) : Bool := s.platform = "discord" && s.chatId = chatId

/-- `task_id=? and platform='discord' and chat_id=? and thread_id=?`. -/
def ReceiptRow.hasKey (taskId chatId threadId : String) (r : ReceiptRow) : Bool :=
  r.taskId = taskId && r.discord chatId && r.threadId = some threadId

/-- The facts of a row in the columns there are. -/
def Facts.within (cols : List MergeCol) (f : Facts) : Facts where
  notifyDeliveryStatus := if cols.contains .notifyDeliveryStatus then f.notifyDeliveryStatus else .null
  activeWakeStatus := if cols.contains .activeWakeStatus then f.activeWakeStatus else .null
  consumerAckStatus := if cols.contains .consumerAckStatus then f.consumerAckStatus else .null
  notifyDeliveryAt := if cols.contains .notifyDeliveryAt then f.notifyDeliveryAt else .null
  activeWakeAt := if cols.contains .activeWakeAt then f.activeWakeAt else .null
  consumerAckAt := if cols.contains .consumerAckAt then f.consumerAckAt else .null
  updatedAt := if cols.contains .updatedAt then f.updatedAt else .null

/-- `set col=?` for the columns there are. -/
def Facts.set (cols : List MergeCol) (m : Merged) (f : Facts) : Facts where
  notifyDeliveryStatus :=
    if cols.contains .notifyDeliveryStatus then .text m.notifyDeliveryStatus else f.notifyDeliveryStatus
  activeWakeStatus := if cols.contains .activeWakeStatus then .text m.activeWakeStatus else f.activeWakeStatus
  consumerAckStatus := if cols.contains .consumerAckStatus then .text m.consumerAckStatus else f.consumerAckStatus
  notifyDeliveryAt := if cols.contains .notifyDeliveryAt then .integer m.notifyDeliveryAt else f.notifyDeliveryAt
  activeWakeAt := if cols.contains .activeWakeAt then .integer m.activeWakeAt else f.activeWakeAt
  consumerAckAt := if cols.contains .consumerAckAt then .integer m.consumerAckAt else f.consumerAckAt
  updatedAt := if cols.contains .updatedAt then .integer m.updatedAt else f.updatedAt

/-- `order by task_id, thread_id`; `null` comes first. -/
def keyLe (a b : String × Option String) : Bool :=
  decide (a.1 < b.1) || (a.1 = b.1 &&
    match a.2, b.2 with
    | none, _ => true
    | some _, none => false
    | some s, some t => decide (s ≤ t))

namespace BoardDb

/-- `_receipt_row_dict`. -/
def receiptRowDict (db : BoardDb) (taskId chatId threadId : String) : Option Facts :=
  (db.receipts.find? (·.hasKey taskId chatId threadId)).map fun r => r.facts.within db.receiptCols

/-- The receipts of a channel, in order. -/
def channelReceipts (db : BoardDb) (chatId : String) : List (String × Option String) :=
  ((db.receipts.filter (·.discord chatId)).map fun r => (r.taskId, r.threadId)).mergeSort keyLe

def channelOrigins (db : BoardDb) (chatId : String) : List (String × Option String) :=
  ((db.origins.filter (·.discord chatId)).map fun o => (o.taskId, o.threadId)).mergeSort keyLe

/-- The subscriptions of a channel, ordered by task. -/
def channelSubs (db : BoardDb) (chatId : String) : List (String × Option String) :=
  (((db.subs.getD []).filter (·.discord chatId)).map fun s => (s.taskId, s.threadId)).mergeSort fun a b =>
    decide (a.1 ≤ b.1)

end BoardDb

/-- The statements of the board transaction that write. -/
inductive BoardWrite
  | migrateOrigins (dst token : String)
  | rekey (dst taskId token threadId : String)
  | setFacts (taskId dst threadId : String) (merged : Merged)
  | deleteReceipt (taskId token threadId : String)
  | deleteSubs (token : String)
  | commit

def BoardWrite.apply : BoardWrite → BoardDb → BoardDb
  | .migrateOrigins dst token, db =>
    { db with origins := db.origins.map fun o => if o.discord token then { o with chatId := dst } else o }
  | .rekey dst taskId token threadId, db =>
    { db with receipts := db.receipts.map fun r => if r.hasKey taskId token threadId then { r with chatId := dst } else r }
  | .setFacts taskId dst threadId merged, db =>
    { db with receipts := db.receipts.map fun r =>
        if r.hasKey taskId dst threadId then { r with facts := r.facts.set db.receiptCols merged } else r }
  | .deleteReceipt taskId token threadId, db =>
    { db with receipts := db.receipts.filter fun r => !r.hasKey taskId token threadId }
  | .deleteSubs token, db => { db with subs := db.subs.map fun subs => subs.filter fun s => !s.discord token }
  | .commit, db => db

/-- What `BEGIN IMMEDIATE` meets. -/
inductive Opening
  | granted
  | locked
  | failed
  deriving DecidableEq

/-- How SQLite answers the transaction: `refuses` are the writes that raise in a state. -/
structure BoardEnv where
  opening : Opening := .granted
  refuses : BoardWrite → BoardDb → Bool := fun _ _ => false

structure Stats where
  originsMigrated : Nat := 0
  receiptsRekeyed : Nat := 0
  receiptsMerged : Nat := 0
  aliasSubsDeleted : Nat := 0
  deriving DecidableEq

inductive Action
  | rekey
  | merge (merged : Merged)
  deriving DecidableEq

/-- What is done with one receipt of a source channel. -/
structure ReceiptEntry where
  taskId : String
  fromChatId : String
  threadId : String
  action : Action
  deriving DecidableEq

/-- The open transaction: what it has written, and, besides the counts of the source, which receipts it has acted on. -/
structure Txn where
  db : BoardDb
  stats : Stats := {}
  actions : List ReceiptEntry := []

section

variable (parseInt : String → Option Int)

def mergeReceiptFacts (taskId threadId : String) (source target : Facts) : Except MigrationError Merged :=
  let sourceAck := source.consumerAckStatus.shown
  let targetAck := target.consumerAckStatus.shown
  let latest (s t : Value) : Int := max (s.asInt parseInt) (t.asInt parseInt)
  if sourceAck ≠ "" ∧ targetAck ≠ "" ∧ sourceAck ≠ targetAck then
    .error { code := "ambiguous_receipt_merge", detail := [("task_id", taskId), ("thread_id", threadId)] }
  else
    .ok {
      notifyDeliveryStatus := strongest notifyRank source.notifyDeliveryStatus target.notifyDeliveryStatus
      activeWakeStatus := strongest wakeRank source.activeWakeStatus target.activeWakeStatus
      consumerAckStatus := if targetAck = "" then sourceAck else targetAck
      notifyDeliveryAt := latest source.notifyDeliveryAt target.notifyDeliveryAt
      activeWakeAt := latest source.activeWakeAt target.activeWakeAt
      consumerAckAt := latest source.consumerAckAt target.consumerAckAt
      updatedAt := latest source.updatedAt target.updatedAt }

/-- The plan for one receipt of a source channel; a merge stands with its preview. -/
def planReceipt (db : BoardDb) (dst token : String) (key : String × Option String) :
    Except MigrationError ReceiptEntry :=
  let taskId := key.1
  let threadId := threadText key.2
  let source := db.receiptRowDict taskId token threadId
  match db.receiptRowDict taskId dst threadId with
  | none => .ok { taskId, fromChatId := token, threadId, action := .rekey }
  | some target =>
    match mergeReceiptFacts parseInt taskId threadId (source.getD {}) target with
    | .error e => .error e
    | .ok merged => .ok { taskId, fromChatId := token, threadId, action := .merge merged }

variable (env : BoardEnv) (dst : String)

/-- One write of the transaction. -/
def execute (w : BoardWrite) (db : BoardDb) : Except MigrationError BoardDb :=
  if env.refuses w db then .error { code := "board_transaction_failed" } else .ok (w.apply db)

def migrateOrigins (token : String) (t : Txn) : Except MigrationError Txn := do
  let db ← execute env (.migrateOrigins dst token) t.db
  let count := (t.db.origins.filter (·.discord token)).length
  .ok { t with db, stats := { t.stats with originsMigrated := t.stats.originsMigrated + count } }

/-- The loop over the receipts of a source channel, for one of them. -/
def migrateReceipt (token : String) (key : String × Option String) (t : Txn) : Except MigrationError Txn := do
  let taskId := key.1
  let threadId := threadText key.2
  let source := t.db.receiptRowDict taskId token threadId
  let stats := t.stats
  match t.db.receiptRowDict taskId dst threadId with
  | none =>
    let db ← execute env (.rekey dst taskId token threadId) t.db
    .ok { db, stats := { stats with receiptsRekeyed := stats.receiptsRekeyed + 1 }
          actions := t.actions ++ [{ taskId, fromChatId := token, threadId, action := .rekey }] }
  | some target =>
    let merged ← mergeReceiptFacts parseInt taskId threadId (source.getD {}) target
    let db ← execute env (.setFacts taskId dst threadId merged) t.db
    let db ← execute env (.deleteReceipt taskId token threadId) db
    .ok { db, stats := { stats with receiptsMerged := stats.receiptsMerged + 1 }
          actions := t.actions ++ [{ taskId, fromChatId := token, threadId, action := .merge merged }] }

def migrateReceipts (token : String) (t : Txn) : Except MigrationError Txn :=
  runScript (migrateReceipt parseInt env dst token) (t.db.channelReceipts token) t

def deleteSubs (token : String) (t : Txn) : Except MigrationError Txn := do
  if t.db.subs.isNone then return t
  let db ← execute env (.deleteSubs token) t.db
  let count := ((t.db.subs.getD []).filter (·.discord token)).length
  .ok { t with db, stats := { t.stats with aliasSubsDeleted := t.stats.aliasSubsDeleted + count } }

/-- What happens between `BEGIN IMMEDIATE` and the end of `COMMIT`. -/
def transactionBody (tokens : List String) (db : BoardDb) : Except MigrationError Txn := do
  let t ← runScript (migrateOrigins env dst) tokens { db }
  let t ← runScript (migrateReceipts parseInt env dst) tokens t
  let t ← runScript (deleteSubs env) tokens t
  let db ← execute env .commit t.db
  .ok { t with db }

/-- `_apply_board_transaction`: its answer, and what it leaves; whatever it raises, it rolls back. -/
def applyBoardTransaction (tokens : List String) (db : BoardDb) : Except MigrationError Txn × BoardDb :=
  match env.opening with
  | .locked => (.error { code := "active_writers_present" }, db)
  | .failed => (.error { code := "board_transaction_failed" }, db)
  | .granted =>
    match transactionBody parseInt env dst tokens db with
    | .error e => (.error e, db)
    | .ok t => (.ok t, t.db)

end

end AgentflowHermes.Origins
