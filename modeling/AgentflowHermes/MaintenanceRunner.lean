import AgentflowHermes.MaintenanceGrants
import AgentflowHermes.MaintenanceStore
import AgentflowHermes.OutcomeEnvelope

namespace AgentflowHermes.Maintenance

/-- `HARD_ATTEMPT_CAP`. -/
def hardAttemptCap : Int := 3

structure RunnerConfig where
  mode : String := "request_only"
  killSwitch : Bool := false
  allowedServices : List String := []
  trustGrants : List Json := []
  trustGrantsMalformed : Bool := false
  hostId : String := ""
  requestedAction : String := "observe"
  targetUnit : String := ""
  attemptBudget : Int := 1
  allowFakeExecute : Bool := false
  error : String := ""
  repoId : String := ""
  cycleRef : String := ""
  dbPath : String := ""
  activityActive : Bool := false
  reviewedSummary : String := ""
  requireNoActiveWorkers : Bool := true
  requireReviewedSyncGo : Bool := true
  maxCyclesPerDay : Int := 2
  minSecondsBetweenCycles : Int := 1800
  quietHoursEnabled : Bool := false
  quietHoursStart : Int := 0
  quietHoursEnd : Int := 0

structure ActionRequest where
  actionId : String
  idempotencyKey : String
  targetUnit : String
  attemptBudget : Int

structure ActionReceipt where
  actionId : String
  idempotencyKey : String
  target : String
  status : String
  dryRun : Bool
  fake : Bool
  noop : Bool
  applied : Bool
  executed : Bool
  attempts : Int
  noopReason : String
  detail : String := ""

/-- An `ActionAdapter`: what it answers to a request at a time. -/
abbrev Adapter := ActionRequest → Int → ActionReceipt

structure ExecResult where
  ok : Bool
  detail : String := ""

/-- What a service executor answers to each of its calls, in order. -/
abbrev Executor := Nat → ExecResult

/-- What `_loop_summary` reports. -/
structure LoopSummary where
  status : String
  action : String
  reason : String
  policyResolutionRef : String := ""

/-- What one call is handed besides its configuration; a provider stands with what it answers the first and the
second time it is asked, and `loop` is the summary of the embedded loop evaluation. -/
structure RunnerArgs where
  executor : Option Executor := none
  adapter : Option Adapter := none
  now : Int := 0
  activityProvider : Option (Bool × Bool) := none
  killSwitchProvider : Option (Bool × Bool) := none
  postSmokeProvider : Option Bool := none
  clockHour : Option Int := none
  loop : Option LoopSummary := none

/-- `safety_gates`; the gates that were not come to are `none`. -/
structure Gates where
  killSwitchClear : Bool
  modeGuardedCycle : Bool
  serviceAllowlisted : Bool
  trustGrant : Bool
  noActiveWorkers : Bool
  reviewedGo : Bool
  fakeExecutorOnly : Bool := true
  cyclesUnderCap : Option Bool := none
  minIntervalElapsed : Option Bool := none
  quietHoursClear : Option Bool := none

/-- The report of a run, before `safe_event_payload`; an action is its kind with its target or action. -/
structure RunnerReport where
  status : String
  reason : String
  mode : String
  dryRun : Bool
  proposed : List (String × String)
  executed : List (String × String)
  serviceRequested : Bool
  target : String
  attempts : Int
  attemptBudget : Int
  receipt : ActionReceipt
  loop : Option LoopSummary
  gates : Gates
  idempotencyKey : String

/-- What a call answers, what it leaves in the database, and the receipt of the adapter if it got to one. -/
structure Evaluation where
  report : RunnerReport
  db : Database
  considered : Option ActionReceipt := none

section

variable (T : PyText)

/-- `FakeActionAdapter.consider` on a new adapter, which has neither a prior receipt nor a last action. -/
def fakeConsider (executor : Executor) : Adapter := fun request _ =>
  let base : ActionReceipt := {
    actionId := shortText T request.actionId, idempotencyKey := shortText T request.idempotencyKey,
    target := shortText T request.targetUnit, status := "NOOP", dryRun := true, fake := true, noop := true,
    applied := false, executed := false, attempts := 0, noopReason := "" }
  let budget := request.attemptBudget.toNat
  if budget = 0 then { base with noopReason := "no_attempt_budget" }
  else
    match (List.range budget).find? fun n => (executor n).ok with
    | some n =>
      { base with status := "GO", dryRun := false, noop := false, applied := true, executed := true,
                  attempts := n + 1, detail := shortText T (executor n).detail }
    | none => { base with status := "BLOCK", noop := false, attempts := budget, detail := "service_action_failed" }

namespace RunnerConfig

variable (c : RunnerConfig)

def serviceRequested : Bool := c.requestedAction = "service_cycle"

/-- `_has_service_cycle_grant`. -/
def hasServiceCycleGrant (now : Int) : Bool :=
  c.trustGrants.any fun grant => isValidServiceCycleGrant T grant c.targetUnit c.allowedServices c.hostId now

/-- `_has_reviewed_go`; a verdict that is found is explicit. -/
def hasReviewedGo : Bool := !c.requireReviewedSyncGo || (parseVerdictSummary T c.reviewedSummary).verdict = "GO"

/-- `_in_quiet_hours`. -/
def inQuietHours (hour : Int) : Bool :=
  if c.quietHoursStart = c.quietHoursEnd then false
  else if c.quietHoursStart < c.quietHoursEnd then c.quietHoursStart ≤ hour && hour < c.quietHoursEnd
  else c.quietHoursStart ≤ hour || hour < c.quietHoursEnd

/-- `db_key`. -/
def cycleKey : String := buildCycleKey T c.repoId c.targetUnit c.cycleRef

/-- `idem`. -/
def idem : String :=
  safeDurableRef T ("maint:runner:" ++ c.mode ++ ":" ++ c.requestedAction ++ ":" ++ orElse c.targetUnit "observe")

def actionId : String := safeDurableRef T ("action:service_cycle:" ++ orElse c.targetUnit "observe")

/-- `_resolve_adapter`. -/
def resolveAdapter (a : RunnerArgs) : Option Adapter :=
  match a.adapter, a.executor with
  | some adapter, _ => some adapter
  | none, some executor => if c.allowFakeExecute then some (fakeConsider T executor) else none
  | none, none => none

end RunnerConfig

/-- The answers of a provider, or of the configuration. -/
def answers (provider : Option (Bool × Bool)) (configured : Bool) : Bool × Bool :=
  provider.getD (configured, configured)

variable (c : RunnerConfig) (a : RunnerArgs)

def killSwitches : Bool × Bool := answers a.killSwitchProvider c.killSwitch

def activities : Bool × Bool := answers a.activityProvider c.activityActive

/-- The gates as they stand before any of them is acted on. -/
def firstGates : Gates where
  killSwitchClear := !(killSwitches c a).1
  modeGuardedCycle := c.mode = trustMode
  serviceAllowlisted := c.targetUnit ≠ "" && c.allowedServices.contains c.targetUnit
  trustGrant := c.hasServiceCycleGrant T a.now
  noActiveWorkers := !(c.requireNoActiveWorkers && (activities c a).1)
  reviewedGo := c.hasReviewedGo T

/-- `_synth_receipt`. -/
def synthReceipt (status reason : String) (dryRun applied : Bool) (attempts : Int) : ActionReceipt where
  actionId := ""
  idempotencyKey := shortText T (c.idem T)
  target := shortText T c.targetUnit
  status := status
  dryRun := dryRun
  fake := false
  noop := !applied
  applied := applied
  executed := applied
  attempts := attempts
  noopReason := if applied then "" else reason

/-- `_base_report`. -/
def baseReport (gates : Gates) (status reason : String) (dryRun : Bool) (proposed executed : List (String × String))
    (attempts : Int) (receipt : ActionReceipt) : RunnerReport where
  status := status
  reason := reason
  mode := shortText T c.mode
  dryRun := dryRun
  proposed := proposed
  executed := executed
  serviceRequested := c.serviceRequested
  target := shortText T c.targetUnit
  attempts := attempts
  attemptBudget := min c.attemptBudget hardAttemptCap
  receipt := receipt
  loop := a.loop
  gates := gates
  idempotencyKey := c.idem T

/-- A report of what a cycle that was claimed before came to. -/
def reportFromPriorCycle (gates : Gates) (prior : Cycle) (proposed : List (String × String)) : RunnerReport :=
  let (status, reason, wasApplied) := match prior.status.reported T with
    | .applied => ("GO", "duplicate_cycle_applied", true)
    | .failed => ("BLOCK", "service_action_failed", false)
    | .degraded => ("BLOCK", "post_smoke_failed", false)
    | .refused => ("BLOCK", orElse (safeJobField T "reason" prior.reason) "duplicate_cycle_refused", false)
    | .attempt => ("BLOCK", "cycle_in_progress", false)
    | .other _ => ("BLOCK", orElse (safeJobField T "reason" prior.reason) "duplicate_cycle_claim", false)
  baseReport T c a gates status reason true proposed [] 0
    { synthReceipt T c status reason true false 0 with noop := true, noopReason := reason, applied := wasApplied }

/-- `block`. -/
def block (gates : Gates) (reason : String) (db : Database) : Evaluation :=
  let report := baseReport T c a gates "BLOCK" reason true [] [] 0 (synthReceipt T c "BLOCK" reason true false 0)
  if c.serviceRequested && c.dbPath ≠ "" then
    match db.claimCycle T (c.cycleKey T) c.targetUnit c.repoId reason true false "" "maintenance.json" a.now with
    | .error prior => { report := reportFromPriorCycle T c a gates prior [], db }
    | .ok db => { report, db := db.updateCycleStatus T (c.cycleKey T) .refused reason }
  else { report, db }

def cyclesUnderCap (db : Database) : Bool :=
  db.countCyclesToday T c.repoId c.targetUnit (dayBucket a.now).1 (dayBucket a.now).2 < c.maxCyclesPerDay

def minIntervalElapsed (db : Database) : Bool :=
  (db.lastAppliedAt T c.repoId c.targetUnit).all fun lastAt => c.minSecondsBetweenCycles * 1000000 ≤ a.now - lastAt

/-- The gates over the history of the database, or the reason of the first that is not clear. -/
def historyGates (gates : Gates) (db : Database) : Except (String × Gates) Gates :=
  if c.dbPath = "" then .ok gates
  else
    let gates := { gates with cyclesUnderCap := some (cyclesUnderCap T c a db) }
    if !cyclesUnderCap T c a db then .error ("max_cycles_exhausted", gates)
    else
      let gates := { gates with minIntervalElapsed := some (minIntervalElapsed T c a db) }
      if minIntervalElapsed T c a db then .ok gates else .error ("min_interval_not_elapsed", gates)

def quietGate (gates : Gates) : Except (String × Gates) Gates :=
  if c.quietHoursEnabled then
    match a.clockHour with
    | none => .error ("quiet_hours_clock_missing", { gates with quietHoursClear := some false })
    | some hour =>
      let gates := { gates with quietHoursClear := some !c.inQuietHours hour }
      if c.inQuietHours hour then .error ("quiet_hours_active", gates) else .ok gates
  else .ok gates

/-- The gates of the service-cycle path, in the order they are acted on. -/
def cycleGates (db : Database) : Except (String × Gates) Gates :=
  let gates := firstGates T c a
  if !gates.modeGuardedCycle then .error ("mode_not_guarded_cycle", gates)
  else if !gates.serviceAllowlisted then .error ("service_not_allowlisted", gates)
  else if !gates.trustGrant then .error ("no_trust_grant", gates)
  else if !gates.noActiveWorkers then .error ("active_workers_present", gates)
  else do
    let gates ← historyGates T c a gates db
    let gates ← quietGate c a gates
    if gates.reviewedGo then .ok gates else .error ("no_reviewed_go", gates)

def proposal : String × String := ("service_restart", shortText T c.targetUnit)

/-- `_report_from_receipt`. -/
def reportFromReceipt (gates : Gates) (receipt : ActionReceipt) : RunnerReport :=
  let (status, reason, dryRun, executed) :=
    if receipt.noop then (receipt.status, orElse receipt.noopReason "noop", true, [])
    else if receipt.applied then ("GO", "service_action_applied", false, [("service_restart", receipt.target)])
    else ("BLOCK", "service_action_failed", true, [])
  baseReport T c a gates status reason dryRun [proposal T c] executed receipt.attempts receipt

/-- What is written of the adapter's receipt, and reported of it. -/
def settle (gates : Gates) (receipt : ActionReceipt) (db : Database) : Evaluation :=
  let report := reportFromReceipt T c a gates receipt
  let considered := some receipt
  let key := c.cycleKey T
  if c.dbPath = "" then { report, db, considered }
  else if receipt.applied then
    if a.postSmokeProvider.getD true then
      { report, db := db.updateCycleStatus T key .applied "service_action_applied", considered }
    else
      let db := ((db.updateCycleStatus T key .degraded "post_smoke_failed").setDegraded T true c.repoId c.targetUnit)
      let db := db.writeDeadletter T "post_smoke_failed" c.targetUnit key (orElse receipt.detail "post_smoke_unhealthy")
      let report := baseReport T c a gates "BLOCK" "post_smoke_failed" true [proposal T c] report.executed
        receipt.attempts receipt
      { report, db, considered }
  else if receipt.noop then
    { report, db := db.updateCycleStatus T key .refused (orElse receipt.noopReason "noop"), considered }
  else { report, db := db.updateCycleStatus T key .failed "service_action_failed", considered }

/-- What follows the claim: the recheck, the breaker, and the adapter. -/
def afterClaim (gates : Gates) (db : Database) : Evaluation :=
  let refuse (reason : String) : Database :=
    if c.dbPath = "" then db else db.updateCycleStatus T (c.cycleKey T) .refused reason
  if (killSwitches c a).2 || (c.requireNoActiveWorkers && (activities c a).2) then
    let reason := if (killSwitches c a).2 then "kill_switch" else "active_workers_present"
    block T c a gates reason (refuse reason)
  else if c.dbPath ≠ "" && db.isDegraded T c.repoId c.targetUnit then
    block T c a gates "degraded_state_open" (refuse "degraded_state_open")
  else
    match c.resolveAdapter T a with
    | none =>
      let receipt := { synthReceipt T c "GO" "eligible_proposal" true false 0 with
        actionId := c.actionId T, noop := true, noopReason := "proposal_only" }
      { report := baseReport T c a gates "GO" "eligible_proposal" true [proposal T c] [] 0 receipt,
        db := refuse "proposal_only" }
    | some adapter =>
      let request : ActionRequest :=
        { actionId := c.actionId T, idempotencyKey := c.idem T, targetUnit := c.targetUnit,
          attemptBudget := min c.attemptBudget hardAttemptCap }
      settle T c a gates (adapter request a.now) db

/-- The report of a configuration that requests no service action. -/
def observe (gates : Gates) : RunnerReport :=
  let status := (a.loop.map LoopSummary.status).getD "noop"
  let reason := (a.loop.map LoopSummary.reason).getD "no_request"
  let proposed := a.loop.toList.map fun loop => ("loop_proposal", loop.action)
  baseReport T c a gates status reason true proposed [] 0 (synthReceipt T c status reason true false 0)

/-- `evaluate_runner`. -/
def evaluateRunner (db : Database) : Evaluation :=
  let gates := firstGates T c a
  if c.error ≠ "" then block T c a { gates with killSwitchClear := false } "malformed_config" db
  else if c.trustGrantsMalformed then block T c a { gates with trustGrant := false } "malformed_trust_grants" db
  else if (killSwitches c a).1 then block T c a gates "kill_switch" db
  else if !c.serviceRequested then { report := observe T c a gates, db }
  else
    match cycleGates T c a db with
    | .error (reason, gates) => block T c a gates reason db
    | .ok gates =>
      if c.dbPath = "" then afterClaim T c a gates db
      else
        match db.claimCycle T (c.cycleKey T) c.targetUnit c.repoId "eligible" true true "" "maintenance.json" a.now with
        | .error prior => { report := reportFromPriorCycle T c a gates prior [proposal T c], db }
        | .ok db => afterClaim T c a gates db

end

end AgentflowHermes.Maintenance
