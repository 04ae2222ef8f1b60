import AgentflowHermes.DiscordOrigins
import AgentflowHermes.EndpointFlags
import AgentflowHermes.LiveSanitize
import AgentflowHermes.SqlSessions

namespace AgentflowHermes.Boards

open SqlSessions Origins

/-- A row with its row id. -/
structure BoardRow where
  rowId : Int
  cells : String → Value

/-- The row with some columns written. -/
def BoardRow.write (values : List (String × Value)) (row : BoardRow) : BoardRow :=
  { row with cells := fun column => (values.lookup column).getD (row.cells column) }

/-- A table of a board's database. `key` is the column that is the row id, if there is one; `required` are the columns that
hold no null and have no default. -/
structure BoardTable where
  columns : List String
  rows : List BoardRow := []
  key : Option String := none
  required : List String := []
  unique : List (List String) := []
  defaults : String → Value := fun _ => .null

abbrev BoardTables := String → Option BoardTable

namespace BoardTable

variable (t : BoardTable)

def value (row : BoardRow) (column : String) : Value := if t.key = some column then .integer row.rowId else row.cells column

def has (columns : List String) : Bool := columns.all t.columns.contains

/-- The row has these values; a null is equal to nothing. -/
def fits (key : List (String × Value)) (row : BoardRow) : Bool :=
  key.all fun cell => cell.2 ≠ .null && t.value row cell.1 = cell.2

def nextId : Int := t.rows.foldl (fun n row => max n row.rowId) 0 + 1

/-- The row that an insertion is about to add. -/
def newRow (values : List (String × Value)) : BoardRow where
  rowId := t.nextId
  cells column := (values.lookup column).getD (t.defaults column)

def lacks (row : BoardRow) : Bool := t.required.any fun column => t.key ≠ some column && t.value row column = .null

def clashesAt (row : BoardRow) (columns : List String) : Option BoardRow :=
  t.rows.find? (t.fits (columns.map fun column => (column, t.value row column)))

def clashes (row : BoardRow) : Bool := t.unique.any fun columns => (t.clashesAt row columns).isSome

def add (row : BoardRow) : BoardTable := { t with rows := t.rows ++ [row] }

def update (id : Int) (values : List (String × Value)) : BoardTable :=
  { t with rows := t.rows.map fun row => if row.rowId = id then row.write values else row }

end BoardTable

def setTable (db : BoardTables) (name : String) (t : BoardTable) : BoardTables := fun n => if n = name then some t else db n

/-- `select .. from name where key` and its first row; `none` where the table or a column is missing. -/
def selectFirst (name : String) (columns : List String) (key : List (String × Value)) (db : BoardTables) :
    Option (Option (BoardTable × BoardRow)) :=
  (db name).bind fun t =>
    if t.has (columns ++ key.map Prod.fst) then some ((t.rows.find? (t.fits key)).map fun row => (t, row)) else none

/-- `insert into name`, and the id of the row. -/
def insertInto (name : String) (values : List (String × Value)) (db : BoardTables) : Option (Int × BoardTables) :=
  (db name).bind fun t =>
    let row := t.newRow values
    if t.has (values.map Prod.fst) ∧ !t.lacks row ∧ !t.clashes row then some (row.rowId, setTable db name (t.add row)) else none

/-- `insert or ignore into name`. -/
def insertOrIgnore (name : String) (values : List (String × Value)) (db : BoardTables) : Option (Unit × BoardTables) :=
  (db name).bind fun t =>
    let row := t.newRow values
    if t.has (values.map Prod.fst) then
      some ((), if t.lacks row || t.clashes row then db else setTable db name (t.add row))
    else none

/-- `insert into name .. on conflict (columns) do update set ..`: the columns have to be unique together, and a row that
has their values is updated. -/
def upsertInto (name : String) (values : List (String × Value)) (columns : List String) (set : List (String × Value))
    (db : BoardTables) : Option (Unit × BoardTables) :=
  (db name).bind fun t =>
    let row := t.newRow values
    if !t.has (values.map Prod.fst) || !t.unique.any (fun u => u.isPerm columns) || t.lacks row then none
    else match t.clashesAt row columns with
      | some old => some ((), setTable db name (t.update old.rowId set))
      | none => if t.clashes row then none else some ((), setTable db name (t.add row))

/-- `update name set values where column = value`. -/
def updateWhere (name : String) (values : List (String × Value)) (key : String × Value) (db : BoardTables) :
    Option (Unit × BoardTables) :=
  (db name).bind fun t =>
    let written (row : BoardRow) : BoardRow := if t.fits [key] row then row.write values else row
    if t.has (key.1 :: values.map Prod.fst) then some ((), setTable db name { t with rows := t.rows.map written }) else none

def tableExists (name : String) : Db BoardTables Bool := Db.query fun db => (db name).isSome

/-- `PRAGMA table_info`: no columns where the table is missing. -/
def tableColumns (name : String) : Db BoardTables (List String) := Db.query fun db => ((db name).map BoardTable.columns).getD []

/-- What an adapter answers with, as a Python dict. -/
abbrev Fields := List (String × Json)

def refusal (error : String) : Fields := [("success", .bool false), ("error", .str error)]

def granted : Fields := [("success", .bool true)]

/-- `{**a, **b}`. -/
def merged (a b : Fields) : Fields :=
  (a.map fun f => (f.1, (b.lookup f.1).getD f.2)) ++ b.filter fun f => !(a.map Prod.fst).contains f.1

/-- `result.get("success")` as a condition. -/
def successful (f : Fields) : Bool := ((f.lookup "success").map Json.truthy).getD false

/-- `result.get("error", fallback)`. -/
def errorOr (fallback : String) (f : Fields) : Json := (f.lookup "error").getD (.str fallback)

/-- What a command line tool may raise. -/
inductive CliFailure
  | timeout
  | operational (message : String)
  | other

inductive CliAnswer
  | raised (e : CliFailure)
  | returned (code : Int) (stdout stderr : String)

/-- What `json.loads` makes of a text; nesting beyond the interpreter's limit is no `ValueError`. -/
inductive Loaded
  | value (j : Json)
  | invalid
  | tooDeep

inductive AdapterError
  | databaseError
  | recursionError
  deriving DecidableEq

/-- `needle in text`. -/
def hasText (needle text : String) : Bool := text.toList.tails.any needle.toList.isPrefixOf

/-- `_sanitized_cli_error`. -/
def sanitizedCliError (exc : Option CliFailure) (returncode : Option Int) (stderr : String) : String :=
  let message := lowerText stderr.toList
  let locked : Bool := match exc with
    | some (.operational m) => hasText "locked" (lowerText m.toList) || hasText "busy" (lowerText m.toList)
    | _ => false
  if exc matches some .timeout then "cli_runner_timeout"
  else if locked then "cli_runner_db_locked"
  else if hasText "database is locked" message || hasText "database table is locked" message || hasText "sqlite_busy" message
  then "cli_runner_db_locked"
  else if hasText "timed out" message || hasText "timeout" message then "cli_runner_timeout"
  else if returncode.isSome then "cli_runner_failed"
  else "cli_runner_error"

/-- A board's database, whether it can be opened, and which of the next statements on it is refused; `outside` is whatever
else there is. -/
structure World (ι : Type) where
  tables : BoardTables
  reachable : Bool := true
  patience : Option Nat := none
  outside : ι

/-- What the adapter works with: the command line tool, which may do anything to the world, what others do before a
database is opened, the clock, and the JSON reader and writer. -/
structure Outside (ι : Type) where
  runner : List String → World ι → CliAnswer × World ι
  passes : World ι → World ι
  now : World ι → Int
  loads : String → Loaded
  dumps : String → String

/-- The world with what an adapter remembers. -/
structure AdapterState (ι : Type) where
  world : World ι
  taskIds : List (String × String) := []
  deliveryModeSupported : Option Bool := none

/-- What an operation comes to. -/
def Act (ι α : Type) := AdapterState ι → Except AdapterError α × AdapterState ι

instance {ι : Type} : Monad (Act ι) where
  pure a := fun s => (.ok a, s)
  bind p g := fun s =>
    match p s with
    | (.ok a, s') => g a s'
    | (.error e, s') => (.error e, s')

structure RealBoardAdapter where
  board : String
  hermesBin : String := "hermes"
  repairAckRows : Bool

/-- `_DISCORD_CHANNEL_ALIASES`. -/
def discordChannelAliases : List (String × String) :=
  [("research", "1499390151393284106"), ("shaman", "1500539609413849200"), ("hermes-main", "1497895797579190357")]

/-- The flags with the channel that an alias stands for. -/
def aliased (flags : OriginFlags) : OriginFlags :=
  if flags.platform = "discord" then
    let chatKey := String.ofList (flags.chatId.toList.dropWhile (· == '#'))
    { flags with chatId := (discordChannelAliases.lookup chatKey).getD flags.chatId }
  else flags

/-- The flags that an endpoint has to have for `subscribe` and the two probes. -/
def requiredFlags (T : PyText) (endpoint : String) : Except String OriginFlags :=
  match mapOriginToFlags T endpoint with
  | none => .error "unparseable_origin_endpoint"
  | some flags =>
    if flags.platform = "discord" ∧ !isDigits T (aliased flags).chatId then .error "discord_chat_id_not_numeric"
    else .ok (aliased flags)

def chatType (flags : OriginFlags) : String := if flags.threadId = "" then "channel" else "thread"

/-- The columns of an address. -/
def addressKey (taskId : String) (flags : OriginFlags) : List (String × Value) :=
  [("task_id", .text taskId), ("platform", .text flags.platform), ("chat_id", .text flags.chatId),
    ("thread_id", .text flags.threadId)]

/-- `value or ""` as JSON. -/
def valueJson : Value → Json
  | .null => .str ""
  | .integer n => if n = 0 then .str "" else .int n
  | .real shown _ => if ["0.0", "-0.0"].contains shown then .str "" else .float shown
  | .text s => .str s

def Value.truthy : Value → Bool
  | .null => false
  | .integer n => n ≠ 0
  | .real shown _ => !(["0.0", "-0.0"].contains shown)
  | .text s => s ≠ ""

def acceptedWakes : List String := ["accepted", "started", "completed"]

/-- The value of a column that may be missing, `''` where it is. -/
def optionalValue (t : BoardTable) (row : BoardRow) (column : String) : Value :=
  if t.columns.contains column then t.value row column else .text ""

/-- The typed origin and the receipt of an address; `passive` asks for a delivered notification too. -/
def verifyExistingReceipt (passive : Bool) (taskId : String) (flags : OriginFlags) : Db BoardTables Fields := do
  let origins ← tableExists "kanban_task_origin"
  let receipts ← if origins then tableExists "kanban_notify_receipts" else pure false
  if !receipts then return refusal "receipt_schema_missing"
  let originCols ← tableColumns "kanban_task_origin"
  let receiptCols ← tableColumns "kanban_notify_receipts"
  let statuses := if passive then ["notify_delivery_status", "active_wake_status"] else ["active_wake_status"]
  if !(["task_id", "platform", "chat_id", "thread_id"].all originCols.contains &&
      (["task_id", "platform", "chat_id", "thread_id"] ++ statuses).all receiptCols.contains) then
    return refusal "receipt_schema_missing"
  match ← Db.ask (selectFirst "kanban_task_origin" [] (addressKey taskId flags)) with
  | none => return refusal "typed_origin_missing"
  | some (t, origin) =>
    let originChatType := optionalValue t origin "chat_type"
    let originUserId := optionalValue t origin "user_id"
    if Value.truthy originChatType && !([Value.text (chatType flags), .text "group"].contains originChatType) then
      return refusal "typed_origin_chat_type_mismatch"
    if flags.userId ≠ "" ∧ Value.truthy originUserId ∧ originUserId ≠ .text flags.userId then
      return refusal "typed_origin_user_id_mismatch"
    match ← Db.ask (selectFirst "kanban_notify_receipts" (statuses ++ ["consumer_ack_status"]) (addressKey taskId flags)) with
    | none => return refusal (if passive then "notify_wake_receipt_missing" else "origin_wake_receipt_missing")
    | some (t, receipt) =>
      let delivered : Bool := !passive || t.value receipt "notify_delivery_status" = .text "delivered"
      if !delivered || !(acceptedWakes.map Value.text).contains (t.value receipt "active_wake_status") then
        return refusal (if passive then "notify_wake_receipt_not_accepted" else "origin_wake_not_accepted")
      return [("success", .bool true),
        ("source", .str (if passive then "existing_notify_wake_receipt" else "existing_origin_wake_receipt")),
        ("consumer_ack_status", valueJson (t.value receipt "consumer_ack_status"))]

/-- `_verify_existing_notify_wake_receipt`. -/
def verifyExistingNotifyWakeReceipt := verifyExistingReceipt true

/-- `_verify_existing_origin_wake_receipt`. -/
def verifyExistingOriginWakeReceipt := verifyExistingReceipt false

/-- What `_verify_canonical_notify_sub` asks the database. -/
def canonicalNotifySub (taskId : String) (flags : OriginFlags) : Db BoardTables Fields := do
  if !(← tableExists "kanban_notify_subs") then return refusal "canonical_schema_missing"
  let cols ← tableColumns "kanban_notify_subs"
  if !cols.contains "delivery_mode" then return refusal "canonical_schema_missing"
  match ← Db.ask (selectFirst "kanban_notify_subs" ["delivery_mode", "chat_type", "user_id"] (addressKey taskId flags)) with
  | none =>
    let receipt ← verifyExistingNotifyWakeReceipt taskId flags
    if successful receipt then return receipt
    return refusal "canonical_row_missing" ++ [("receipt", .obj receipt)]
  | some (t, row) =>
    let rowChatType := t.value row "chat_type"
    let rowUserId := t.value row "user_id"
    if t.value row "delivery_mode" ≠ .text "notify+wake" then return refusal "canonical_delivery_mode_mismatch"
    if Value.truthy rowChatType ∧ rowChatType ≠ .text (chatType flags) then return refusal "canonical_chat_type_mismatch"
    if flags.userId ≠ "" ∧ Value.truthy rowUserId ∧ rowUserId ≠ .text flags.userId then
      return refusal "canonical_user_id_mismatch"
    return granted

/-- What `consumer_ack_satisfied` asks the database: the status of a receipt that joins an origin. -/
def consumerAckStatus (taskId : String) (flags : OriginFlags) (db : BoardTables) : Option (Option Value) :=
  match db "kanban_task_origin", db "kanban_notify_receipts" with
  | some o, some r =>
    if o.has ["task_id", "platform", "chat_id", "thread_id"] ∧
        r.has ["task_id", "platform", "chat_id", "thread_id", "consumer_ack_status"] then
      if o.rows.any (o.fits (addressKey taskId flags)) then
        some ((r.rows.find? (r.fits (addressKey taskId flags))).map fun row => r.value row "consumer_ack_status")
      else some none
    else none
  | _, _ => none

def consumerAck (taskId : String) (flags : OriginFlags) (status : String) : Db BoardTables Fields := do
  let origins ← tableExists "kanban_task_origin"
  let receipts ← if origins then tableExists "kanban_notify_receipts" else pure false
  if !receipts then return refusal "receipt_schema_missing"
  match ← Db.ask (consumerAckStatus taskId flags) with
  | none => return refusal "consumer_ack_missing"
  | some actual =>
    let shown := if Value.truthy actual then actual else .text ""
    if shown ≠ .text status then
      return refusal "consumer_ack_status_mismatch" ++ [("consumer_ack_status", valueJson shown)]
    return granted ++ [("consumer_ack_status", valueJson shown)]

/-- The rows that `_ensure_durable_ack_rows` repairs. -/
def durableAckRows (taskId : String) (flags : OriginFlags) (now : Int) : Db BoardTables Unit := do
  let address := addressKey taskId flags
  let profile : String × Value := ("notifier_profile", .text "default")
  let created : String × Value := ("created_at", .integer now)
  let cols ← tableColumns "kanban_notify_subs"
  if cols.contains "trigger_agent" then
    Db.attempt (upsertInto "kanban_notify_subs" (address ++ [profile, ("trigger_agent", .integer 1), created])
      ["task_id", "platform", "chat_id", "thread_id"] [("trigger_agent", .integer 1), profile])
  else Db.attempt (insertOrIgnore "kanban_notify_subs" (address ++ [profile, created]))
  let mode : String × Value := ("desired_delivery_mode", .text "passive+active_wake")
  let required : String × Value := ("active_wake_required", .integer 1)
  let subId ← match ← Db.ask (selectFirst "ack_subscription" ["id"] (address ++ [profile])) with
    | some (t, sub) => do
      Db.attempt (updateWhere "ack_subscription" [required, mode] ("id", t.value sub "id"))
      pure (t.value sub "id")
    | none => do
      let id ← Db.attempt (insertInto "ack_subscription"
        (address ++ [profile, mode, required, ("operator_receipt_required", .integer 0), created]))
      pure (.integer id)
  let correlation : Value := .text ("owner-anchor:" ++ taskId ++ ":" ++ flags.platform ++ ":" ++ flags.chatId)
  let key := [("task_id", .text taskId), ("subscription_id", subId), ("correlation_id", correlation)]
  match ← Db.ask (selectFirst "ack_active_wake" ["id"] key) with
  | some _ => pure ()
  | none =>
    let _ ← Db.attempt (insertInto "ack_active_wake"
      (key ++ [("triggered_agent", .integer 0), ("status", .text "pending"), created]))
    pure ()

/-- What `_ensure_durable_ack_rows` does on its connection. -/
def ensureAckRows (taskId : String) (flags : OriginFlags) (now : Int) : Db BoardTables Fields := do
  let notify ← tableExists "kanban_notify_subs"
  let subscription ← if notify then tableExists "ack_subscription" else pure false
  let wake ← if subscription then tableExists "ack_active_wake" else pure false
  if !wake then return refusal "ack_schema_missing"
  Db.transaction (durableAckRows taskId flags now)
  return granted

end AgentflowHermes.Boards
