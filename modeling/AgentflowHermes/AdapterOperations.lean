import AgentflowHermes.RealBoardAdapter

namespace AgentflowHermes.Boards

open SqlSessions Origins

/-- What `create_task` reads of its intent. -/
structure TaskIntent where
  idempotencyKey : String := ""
  title : String := ""
  status : String := ""
  body : String := ""
  assignee : String := ""
  parentTaskId : String := ""
  blockedReason : String := ""
  requiredOwnerFields : List String := []

/-- `_blocked_anchor_body`. -/
def blockedAnchorBody (T : PyText) (intent : TaskIntent) : String :=
  let awaiting := if intent.blockedReason = "" then "Awaiting owner input." else "Awaiting owner input: " ++ intent.blockedReason
  let checklist := if intent.requiredOwnerFields = [] then []
    else "Required owner fields:" :: intent.requiredOwnerFields.map fun name => "- " ++ name
  let extra := "\n".intercalate (awaiting :: checklist)
  if intent.body = "" then extra else PyText.strip T.isSpace (intent.body ++ "\n\n" ++ extra)

/-- A flag and its value, left out where the value is empty. -/
def option (name value : String) : List String := if value = "" then [] else [name, value]

section

variable {ι : Type} (T : PyText) (cfg : RealBoardAdapter) (out : Outside ι)

/-- `self.runner(argv)`. -/
def call (argv : List String) : Act ι CliAnswer := fun s =>
  let (answer, world) := out.runner argv s.world
  (.ok answer, { s with world })

def time : Act ι Int := fun s => (.ok (out.now s.world), s)

/-- A connection to the board's database, `none` where it cannot be opened; the inner value is `none` where a statement
raises. -/
def consult {α : Type} (p : Db BoardTables α) : Act ι (Option (Option α)) := fun s =>
  let world := out.passes s.world
  if world.reachable then
    let (answer, session) := p { committed := world.tables, patience := world.patience }
    (.ok (some answer), { s with world := { world with tables := session.committed, patience := session.patience } })
  else (.ok none, { s with world })

def kanban (command : List String) : List String := [cfg.hermesBin, "kanban", "--board", cfg.board] ++ command

/-- What an answer of the tool says before its output is read. -/
def cliFailure : CliAnswer → Option String
  | .raised e => some (sanitizedCliError (some e) none "")
  | .returned code _ stderr =>
    let stderrError := sanitizedCliError none none stderr
    if ["cli_runner_db_locked", "cli_runner_timeout"].contains stderrError then some stderrError
    else if code ≠ 0 then some (sanitizedCliError none (some code) stderr)
    else none

def CliAnswer.stdout : CliAnswer → String
  | .raised _ => ""
  | .returned _ stdout _ => stdout

/-- `_run`. -/
def run (argv : List String) : Act ι Fields := do
  let answer ← call out argv
  match cliFailure answer with
  | some error => return refusal error
  | none => return granted

/-- `_run_json`. -/
def runJson (argv : List String) : Act ι Fields := do
  let answer ← call out argv
  match cliFailure answer with
  | some error => return refusal error
  | none =>
    match out.loads answer.stdout with
    | .tooDeep => fun s => (.error .recursionError, s)
    | .value (.obj result) => return merged granted result
    | _ => return refusal "cli_invalid_json"

/-- `_supports_delivery_mode`. -/
def supportsDeliveryMode : Act ι Bool := fun s =>
  match s.deliveryModeSupported with
  | some known => (.ok known, s)
  | none =>
    let (answer, world) := out.runner [cfg.hermesBin, "kanban", "notify-subscribe", "--help"] s.world
    let supported : Bool := match answer with
      | .raised _ => false
      | .returned code stdout _ => code = 0 && hasText "--delivery-mode" stdout
    (.ok supported, { s with world, deliveryModeSupported := some supported })

/-- `_verify_canonical_notify_sub`. -/
def verifyCanonicalNotifySub (taskId : String) (flags : OriginFlags) : Act ι Fields := do
  match ← consult out (canonicalNotifySub taskId flags) with
  | none => return refusal "canonical_db_connect_failed"
  | some none => return refusal "canonical_verify_failed"
  | some (some answer) => return answer

/-- `_ensure_durable_ack_rows`. -/
def ensureDurableAckRows (taskId : String) (flags : OriginFlags) : Act ι Fields := do
  let now ← time out
  match ← consult out (ensureAckRows taskId flags now) with
  | none => return refusal "ack_db_connect_failed"
  | some none => return refusal "ack_ensure_failed"
  | some (some answer) => return answer

def createTask (intent : TaskIntent) : Act ι Fields := fun s =>
  match s.taskIds.lookup intent.idempotencyKey with
  | some cached => (.ok [("success", .bool true), ("task_id", .str cached)], s)
  | none =>
    let isBlocked := intent.status = "blocked"
    let body := if isBlocked then blockedAnchorBody T intent else intent.body
    let argv := kanban cfg (["create", intent.title] ++ option "--body" body ++
      option "--assignee" (shortText T intent.assignee) ++ option "--parent" (shortText T intent.parentTaskId) ++
      option "--idempotency-key" intent.idempotencyKey ++ (if isBlocked then ["--initial-status", "blocked"] else []) ++
      ["--json"])
    match runJson out argv s with
    | (.error e, s) => (.error e, s)
    | (.ok result, s) =>
      if !successful result then (.ok [("success", .bool false), ("error", errorOr "cli_error" result)], s)
      else
        let id := ["id", "task_id"].findSome? fun key => (result.lookup key).filter Json.truthy
        let taskId := shortText T ((id.map T.str).getD "")
        if taskId = "" then (.ok (refusal "cli_missing_task_id"), s)
        else
          let taskIds := if intent.idempotencyKey = "" then s.taskIds else (intent.idempotencyKey, taskId) :: s.taskIds
          (.ok [("success", .bool true), ("task_id", .str taskId)], { s with taskIds })

def blockTask (taskId reason kind : String) : Act ι Fields :=
  run out (kanban cfg (["block", taskId] ++ (if reason = "" then [] else [reason]) ++ option "--kind" kind))

def comment (taskId body : String) : Act ι Fields := run out (kanban cfg ["comment", taskId, body])

def completeOwnerAnchor (taskId receiptRef : String) : Act ι Fields :=
  run out (kanban cfg ["complete", taskId, "--summary", "owner_receipt:" ++ receiptRef, "--metadata", out.dumps receiptRef])

/-- The flags of a command for an address. -/
def addressFlags (flags : OriginFlags) : List String :=
  ["--platform", flags.platform, "--chat-id", flags.chatId] ++ option "--thread-id" flags.threadId

/-- `subscribe` once its endpoint is read. -/
def subscribeTo (taskId : String) (flags : OriginFlags) : Act ι Fields := do
  let useCanonical ← if cfg.repairAckRows then supportsDeliveryMode cfg out else pure false
  let existing ← if useCanonical then verifyCanonicalNotifySub out taskId flags else pure []
  if successful existing then return granted ++ [("ack", .obj existing), ("duplicate", .bool true)]
  let result ← run out (kanban cfg (["notify-subscribe", taskId] ++ addressFlags flags ++ option "--user-id" flags.userId ++
    if useCanonical then ["--chat-type", chatType flags, "--delivery-mode", "notify+wake"] else []))
  if !(successful result && cfg.repairAckRows && flags.platform = "discord" && isDigits T flags.chatId) then return result
  let ack ← if useCanonical then verifyCanonicalNotifySub out taskId flags else ensureDurableAckRows out taskId flags
  if !successful ack then
    return [("success", .bool false),
      ("error", errorOr (if useCanonical then "canonical_verification_failed" else "ack_ensure_failed") ack), ("ack", .obj ack)]
  return merged result [("ack", .obj ack)]

def subscribe (taskId endpoint : String) : Act ι Fields :=
  match requiredFlags T endpoint with
  | .error e => pure (refusal e)
  | .ok flags => subscribeTo T cfg out taskId flags

/-- `origin_wake_satisfied` once its endpoint is read; what a statement raises is not caught. -/
def originWakeSatisfiedAt (taskId : String) (flags : OriginFlags) : Act ι Fields := do
  let receipts : Db BoardTables Fields := do
    let delivered ← verifyExistingNotifyWakeReceipt taskId flags
    if successful delivered then return delivered
    verifyExistingOriginWakeReceipt taskId flags
  match ← consult out receipts with
  | none => return refusal "canonical_db_connect_failed"
  | some none => fun s => (.error .databaseError, s)
  | some (some answer) => return answer

def originWakeSatisfied (taskId endpoint : String) : Act ι Fields :=
  match requiredFlags T endpoint with
  | .error e => pure (refusal e)
  | .ok flags => originWakeSatisfiedAt out taskId flags

/-- `consumer_ack_satisfied` once its endpoint is read. -/
def consumerAckSatisfiedAt (taskId : String) (flags : OriginFlags) (status : String) : Act ι Fields := do
  match ← consult out (consumerAck taskId flags status) with
  | none => return refusal "canonical_db_connect_failed"
  | some none => return refusal "consumer_ack_verify_failed"
  | some (some answer) => return answer

def consumerAckSatisfied (taskId endpoint status : String) : Act ι Fields :=
  match requiredFlags T endpoint with
  | .error e => pure (refusal e)
  | .ok flags => consumerAckSatisfiedAt out taskId flags status

/-- The command of `schedule_origin_wake`, also where the endpoint has no flags. -/
def wakeCommand (taskId : String) (flags : Option OriginFlags) : List String :=
  ["wake-origin", taskId] ++ (flags.map addressFlags).getD [] ++ ["--json"]

def scheduleOriginWake (taskId endpoint : String) : Act ι Fields :=
  runJson out (kanban cfg (wakeCommand taskId (mapOriginToFlags T endpoint)))

/-- The command of `record_consumer_ack`. -/
def ackCommand (taskId status : String) (flags : Option OriginFlags) : List String :=
  ["consumer-ack-origin", taskId, "--status", status] ++ (flags.map addressFlags).getD [] ++ ["--json"]

def recordConsumerAck (taskId endpoint status : String) : Act ι Fields := do
  let result ← runJson out (kanban cfg (ackCommand taskId status ((mapOriginToFlags T endpoint).map aliased)))
  if !successful result then return result
  let verified ← consumerAckSatisfied T out taskId endpoint status
  if !successful verified then
    return [("success", .bool false), ("error", errorOr "consumer_ack_verify_failed" verified), ("ack", .obj verified)]
  return merged result [("ack", .obj verified)]

end

end AgentflowHermes.Boards
