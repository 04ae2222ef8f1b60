import AgentflowHermes.LiveSanitize

namespace AgentflowHermes.Maintenance

/-- The `status` of a cycle; the column takes any other text too. -/
inductive CycleStatus
  | attempt
  | applied
  | failed
  | degraded
  | refused
  | other (name : String)
  deriving DecidableEq

namespace CycleStatus

def ofName : String → CycleStatus
  | "attempt" => .attempt
  | "applied" => .applied
  | "failed" => .failed
  | "degraded" => .degraded
  | "refused" => .refused
  | name => .other name

/-- The status as `_row_to_receipt` returns it, which cleans the text of the column. -/
def reported (T : PyText) : CycleStatus → CycleStatus
  | .other name => ofName (safeJobField T "status" name)
  | status => status

end CycleStatus

/-- A row of `maintenance_cycles`. Times are clock readings in microseconds. -/
structure Cycle where
  idempotencyKey : String
  status : CycleStatus := .attempt
  reason : String
  targetUnit : String
  repoId : String
  dryRun : Bool
  fake : Bool
  sourceRef : String
  policyRef : String
  createdAt : Int

/-- A row of `maintenance_deadletter`. -/
structure CycleDeadletter where
  reason : String
  targetUnit : String
  idempotencyKey : String
  ref : String

/-- The tables of one database; `state` is `maintenance_state`. -/
structure Database where
  cycles : List Cycle := []
  state : List (String × String) := []
  deadletters : List CycleDeadletter := []

/-- `text or fallback`. -/
def orElse (text fallback : String) : String := if text = "" then fallback else text

section

variable (T : PyText)

/-- `build_cycle_key`. -/
def buildCycleKey (repoId targetUnit cycleRef : String) : String :=
  safeDurableRef T ("maint:cycle:" ++ orElse repoId "default" ++ ":" ++ orElse cycleRef "nocycle" ++ ":" ++
    orElse targetUnit "observe")

/-- The length of a day, in microseconds. -/
def day : Int := 86400000000

/-- `day_bucket`. -/
def dayBucket (now : Int) : Int × Int :=
  let dayStart := now - now % day
  (dayStart, dayStart + day)

def degradedKey (repoId targetUnit : String) : String :=
  if repoId = "" ∧ targetUnit = "" then "degraded"
  else "degraded:" ++ orElse (shortText T repoId) "default" ++ ":" ++ orElse (shortText T targetUnit) "observe"

namespace Database

/-- `claim_cycle`: the row that was there before, or else the database with the new row. -/
def claimCycle (db : Database) (idempotencyKey targetUnit repoId reason : String) (dryRun fake : Bool)
    (sourceRef policyRef : String) (now : Int) : Except Cycle Database :=
  match db.cycles.find? (·.idempotencyKey = idempotencyKey) with
  | some prior => .error prior
  | none =>
    .ok { db with cycles := db.cycles ++
      [{ idempotencyKey, reason := shortText T reason, targetUnit := shortText T targetUnit,
         repoId := shortText T repoId, dryRun, fake, sourceRef := safeDurableRef T sourceRef,
         policyRef := shortText T policyRef, createdAt := now }] }

def updateCycleStatus (db : Database) (idempotencyKey : String) (status : CycleStatus) (reason : String) : Database :=
  { db with cycles := db.cycles.map fun c =>
      if c.idempotencyKey = idempotencyKey then { c with status, reason := shortText T reason } else c }

/-- The cycles of one repository and unit that were applied. -/
def applied (db : Database) (repoId targetUnit : String) : List Cycle :=
  db.cycles.filter fun c => c.repoId = shortText T repoId && c.targetUnit = shortText T targetUnit && c.status = .applied

def countCyclesToday (db : Database) (repoId targetUnit : String) (dayStart dayEnd : Int) : Nat :=
  ((db.applied T repoId targetUnit).filter fun c => dayStart ≤ c.createdAt && c.createdAt < dayEnd).length

/-- `last_applied_at`. -/
def lastAppliedAt (db : Database) (repoId targetUnit : String) : Option Int :=
  ((db.applied T repoId targetUnit).map Cycle.createdAt).max?

def setDegraded (db : Database) (value : Bool) (repoId targetUnit : String) : Database :=
  let key := degradedKey T repoId targetUnit
  { db with state := (key, if value then "1" else "0") :: db.state.filter fun entry => entry.1 ≠ key }

def isDegraded (db : Database) (repoId targetUnit : String) : Bool :=
  (db.state.find? fun entry => entry.1 = degradedKey T repoId targetUnit).any fun entry => entry.2 = "1"

def writeDeadletter (db : Database) (reason targetUnit idempotencyKey ref : String) : Database :=
  { db with deadletters := db.deadletters ++
      [{ reason := shortText T reason, targetUnit := shortText T targetUnit, idempotencyKey := shortText T idempotencyKey,
         ref := safeDurableRef T ref }] }

end Database

end

/-- The UTC day of a reading, counted from the epoch. -/
def dayOf (now : Int) : Int := now / day

theorem dayBucket_iff {now t : Int} : (dayBucket now).1 ≤ t ∧ t < (dayBucket now).2 ↔ dayOf t = dayOf now := by
  unfold dayBucket dayOf day
  dsimp only
  constructor
  · rintro ⟨low, high⟩
    omega
  · intro same
    omega

namespace Database

variable {T : PyText} {db : Database} {key unit repo reason policyRef sourceRef : String} {dryRun fake : Bool} {now : Int}

/-- A cycle is claimed under a key that no row has. -/
theorem claimCycle_ok {db' : Database}
    (h : db.claimCycle T key unit repo reason dryRun fake sourceRef policyRef now = .ok db') :
    (∀ c ∈ db.cycles, c.idempotencyKey ≠ key) ∧ ∃ row, db'.cycles = db.cycles ++ [row] ∧ db'.state = db.state ∧
      row.idempotencyKey = key ∧ row.status = .attempt ∧ row.repoId = shortText T repo ∧
      row.targetUnit = shortText T unit ∧ row.createdAt = now := by
  unfold claimCycle at h
  split at h
  · cases h
  next absent =>
    cases h
    refine ⟨fun c mem same => ?_, _, rfl, rfl, rfl, rfl, rfl, rfl, rfl⟩
    have other := List.find?_eq_none.mp absent c mem
    exact other (by simpa using same)

/-- Claiming a key and settling its row leaves every other row as it was. -/
theorem update_claimed {db' : Database} {row : Cycle} {status : CycleStatus} {reason : String}
    (fresh : ∀ c ∈ db.cycles, c.idempotencyKey ≠ key) (added : db'.cycles = db.cycles ++ [row])
    (named : row.idempotencyKey = key) :
    (db'.updateCycleStatus T key status reason).cycles =
      db.cycles ++ [{ row with status, reason := shortText T reason }] := by
  have kept : db.cycles.map (fun c => if c.idempotencyKey = key then
      { c with status, reason := shortText T reason } else c) = db.cycles := by
    refine Eq.trans (List.map_congr_left fun c mem => ?_) (List.map_id _)
    rw [if_neg (fresh c mem), id]
  unfold updateCycleStatus
  simp [added, kept, named]

theorem setDegraded_self : (db.setDegraded T true repo unit).isDegraded T repo unit = true := by
  simp [setDegraded, isDegraded]

end Database

end AgentflowHermes.Maintenance
