import AgentflowHermes.BoardIngest

namespace AgentflowHermes

open CrashProgram

/-- What an operator may name an event by. -/
inductive EventRef
  | number (n : Int)
  | text (s : String)

def canonicalEventPrefix : String := "kanban-event-"

def decimal (digits : List Char) : Nat := digits.foldl (fun n c => 10 * n + (c.toNat - '0'.toNat)) 0

/-- `parse_board_event_ref`. -/
def parseBoardEventRef (T : PyText) : EventRef → Option Int
  | .number n => if 0 < n then some n else none
  | .text s =>
    let text := (PyText.strip T.isSpace s).toList
    let digits := if canonicalEventPrefix.toList.isPrefixOf text then text.drop canonicalEventPrefix.length else text
    if digits = [] || !digits.all Char.isDigit then none
    else if 0 < decimal digits then some (decimal digits) else none

/-- An event source as the resolution of historical events reads it. -/
structure BoardEventSource where
  board : String := ""
  fetchEventsSince : Int → List BoardEvent
  fetchEventById : String → Option BoardEvent
  fetchEventsBySeq : Int → List BoardEvent

/-- `resolve_board_event`: one canonical event, or the error it fails closed with. -/
def resolveBoardEvent (T : PyText) (source : BoardEventSource) (eventId : EventRef) (eventSeq : Option Int) :
    Except String BoardEvent :=
  let wanted := match eventId with
    | .number n => T.str (.int n)
    | .text s => PyText.strip T.isSpace s
  let hasId := wanted != ""
  let refFromSeq := eventSeq.bind fun n => parseBoardEventRef T (.number n)
  let refFromId := if hasId then parseBoardEventRef T eventId else none
  if !hasId && eventSeq.isNone then .error "event_reference_required"
  else if eventSeq.isSome && refFromSeq.isNone then .error "event_reference_invalid"
  else if refFromId.isSome && eventSeq.isSome && refFromId != refFromSeq then .error "event_reference_mismatch"
  else if hasId && refFromId.isNone then
    match source.fetchEventById wanted with
    | some ev =>
      if eventSeq.isSome && some ev.eventSeq != refFromSeq then .error "event_reference_mismatch" else .ok ev
    | none => .error "event_reference_invalid"
  else match refFromId.orElse fun _ => refFromSeq with
    | none => .error "event_reference_invalid"
    | some ref =>
      match source.fetchEventsBySeq ref with
      | [] => .error "event_not_found"
      | [ev] => .ok ev
      | _ => .error "event_reference_ambiguous"

/-- A historical event keeps its own endpoints. -/
def compileHistorical (T : PyText) (board : String) (ev : BoardEvent) : Except PyError CompiledOutcome :=
  compileOutcome T (fun _ => none) ev.runMetadata ⟨ev.title, ev.summary, ev.eventKind, ev.assignee, []⟩
    { eventId := ev.eventId
      board := board
      sourceTaskId := ev.sourceTaskId
      sourceGraphId := ev.sourceGraphId
      originRef := ev.originRef
      returnToRef := ev.returnToRef
      workspaceRef := ev.workspaceRef }

structure ResolutionResult where
  success : Bool
  error : String := ""
  action : String := ""
  instanceId : Option Nat := none
  created : Bool := false
  state : Option ContinuationState := none

/-- Only an instance that is still detected is walked to its end. -/
def walkDetected (i : Instance) (materializing resumable resumed : String) : Run Unit :=
  if i.state = .detected then do
    moveTo i.id .materializing materializing
    moveTo i.id .resumable resumable
    moveTo i.id .resumed resumed
  else pure ()

/-- What both ways of accounting for an event do once it is compiled. -/
def accountFor (n : NewInstance) (fieldName : String) (value : Json) (kind ref materializing resumable resumed : String)
    (action : String) : Run ResolutionResult := do
  let creation ← createInstance n
  SemanticRefusalHandler.recordSatisfaction creation.2.id fieldName value kind ref ""
  walkDetected creation.2 materializing resumable resumed
  let after ← readInstance creation.2.id
  return ⟨true, "", action, some creation.2.id, creation.1, some after.state⟩

def namesEvent (eventId : String) (eventSeq : Option Int) (ev : BoardEvent) : Bool :=
  (eventId != "" && ev.eventId == eventId) || eventSeq == some ev.eventSeq

def backfillCodeFixEvent (T : PyText) (board : String) (source : BoardEventSource) (eventId : String)
    (eventSeq : Option Int) (adapter : Option Adapter) (existingRemediationIds : List String) (apply : Bool) :
    Run ResolutionResult :=
  let manualIds := existingRemediationIds.filter (· != "")
  match (source.fetchEventsSince 0).find? (namesEvent eventId eventSeq) with
  | none => return { success := false, error := "event_not_found" }
  | some ev =>
    match compileHistorical T board ev with
    | .error _ => Prog.raise "OutcomeEnvelopeError"
    | .ok o =>
      if o.envelope.continuationKind ≠ .codeFix then return { success := false, error := "not_code_fix" }
      else if manualIds ≠ [] then
        accountFor o.envelope.toInstance "manual_remediation" (.arr (manualIds.map .str)) "manual_remediation"
          (",".intercalate manualIds) "backfill_manual_remediation" "manual_remediation_linked"
          "manual_remediation_satisfied" "linked_manual_remediation"
      else do
        let step ← CodeFixHandler.materialize o.envelope (if apply then adapter else none) o.blockers
        return { success := step.success
                 action := if step.success then "code_fix_backfilled" else "code_fix_backfill_failed"
                 state := some step.state }

def recordOperatorResolutionReceipt (T : PyText) (board : String) (source : BoardEventSource) (eventId : EventRef)
    (eventSeq : Option Int) (operatorReceiptRef resolution : String) : Run ResolutionResult :=
  if source.board ≠ "" ∧ source.board ≠ board then return { success := false, error := "board_mismatch" }
  else match resolveBoardEvent T source eventId eventSeq with
    | .error e => return { success := false, error := e }
    | .ok ev =>
      match compileHistorical T board ev with
      | .error _ => Prog.raise "OutcomeEnvelopeError"
      | .ok o =>
        accountFor o.envelope.toInstance "operator_resolution_receipt"
          (.obj [("board", .str board), ("source_event_id", .str o.envelope.eventId),
            ("source_task_id", .str o.envelope.sourceTaskId), ("resolution", .str resolution),
            ("operator_receipt_ref", .str operatorReceiptRef)])
          "operator_resolution_receipt" (board ++ ":" ++ o.envelope.eventId) "operator_resolution_receipt" resolution
          "operator_resolution_satisfied" resolution

end AgentflowHermes
