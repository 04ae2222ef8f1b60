import AgentflowHermes.MaintenanceBounds

namespace AgentflowHermes.Maintenance

/-- A refusal that has done nothing, and does not say that anything was done. -/
structure RunnerReport.Blocks (r : RunnerReport) : Prop where
  status : r.status = "BLOCK"
  executed : r.executed = []
  applied : r.receipt.applied = false

/-- A gate that was come to is false. -/
def Gates.closed (g : Gates) : Bool :=
  !g.killSwitchClear || !g.modeGuardedCycle || !g.serviceAllowlisted || !g.trustGrant || !g.noActiveWorkers ||
    !g.reviewedGo || !g.fakeExecutorOnly || g.cyclesUnderCap == some false || g.minIntervalElapsed == some false ||
    g.quietHoursClear == some false

section

variable (T : PyText) (c : RunnerConfig) (a : RunnerArgs) (db : Database)

/-- The row that an earlier call has left under the key of this one. -/
def priorCycle : Option Cycle := db.cycles.find? (·.idempotencyKey = c.cycleKey T)

/-- The call asks for a cycle that the database has as applied, as far as the call reads its status. -/
def PriorApplied : Prop :=
  c.serviceRequested = true ∧ c.dbPath ≠ "" ∧
    ∃ prior, priorCycle T c db = some prior ∧ prior.status.reported T = .applied

/-- What the recheck right before the adapter finds closed. -/
def recheckCloses : Bool :=
  (killSwitches c a).2 || (c.requireNoActiveWorkers && (activities c a).2) ||
    (c.dbPath ≠ "" && db.isDegraded T c.repoId c.targetUnit)

/-- Something the call has come to is closed. -/
inductive ClosedGate : Prop
  | malformed (error : c.error ≠ "")
  | malformedGrants (grants : c.trustGrantsMalformed = true)
  | killSwitch (on : (killSwitches c a).1 = true)
  | gate (requested : c.serviceRequested = true) (closed : (evaluateRunner T c a db).report.gates.closed = true)
  | recheck (gates : Gates) (requested : c.serviceRequested = true) (passed : cycleGates T c a db = .ok gates)
      (unclaimed : c.dbPath = "" ∨ priorCycle T c db = none) (closed : recheckCloses T c a db = true)

end

section

variable {T : PyText} {c : RunnerConfig} {a : RunnerArgs} {db : Database} {gates : Gates}

theorem claimCycle_prior {unit repo reason sourceRef policyRef : String} {dryRun fake : Bool} {now : Int} {prior : Cycle}
    (found : priorCycle T c db = some prior) :
    db.claimCycle T (c.cycleKey T) unit repo reason dryRun fake sourceRef policyRef now = .error prior := by
  unfold Database.claimCycle
  rw [show db.cycles.find? (fun row => row.idempotencyKey = c.cycleKey T) = some prior from found]

theorem claimCycle_none {unit repo reason sourceRef policyRef : String} {dryRun fake : Bool} {now : Int}
    (absent : priorCycle T c db = none) :
    ∃ claimed, db.claimCycle T (c.cycleKey T) unit repo reason dryRun fake sourceRef policyRef now = .ok claimed := by
  unfold Database.claimCycle
  rw [show db.cycles.find? (fun row => row.idempotencyKey = c.cycleKey T) = none from absent]
  exact ⟨_, rfl⟩

/-- Every status but one is answered with a refusal. -/
theorem priorReport_blocks_iff {prior : Cycle} {proposed : List (String × String)} :
    (reportFromPriorCycle T c a gates prior proposed).Blocks ↔ prior.status.reported T ≠ .applied := by
  cases h : prior.status.reported T with
  | applied =>
    refine iff_of_false (fun blocks => ?_) (fun other => other rfl)
    have status := blocks.status
    simp [reportFromPriorCycle, h, baseReport] at status
  | attempt | failed | degraded | refused =>
    refine iff_of_true ?_ (fun same => by cases same)
    constructor <;> simp [reportFromPriorCycle, h, baseReport, synthReceipt]
  | other name =>
    refine iff_of_true ?_ (fun same => by cases same)
    constructor <;> simp [reportFromPriorCycle, h, baseReport, synthReceipt]

/-- A refusal stands, unless the cycle was applied before. -/
theorem block_blocks_iff {reason : String} : (block T c a gates reason db).report.Blocks ↔ ¬PriorApplied T c db := by
  have refused : (baseReport T c a gates "BLOCK" reason true [] [] 0
      (synthReceipt T c "BLOCK" reason true false 0)).Blocks := ⟨rfl, rfl, rfl⟩
  unfold block
  dsimp only
  split
  next durable =>
    rw [Bool.and_eq_true, decide_eq_true_eq] at durable
    cases found : priorCycle T c db with
    | none =>
      obtain ⟨claimed, claim⟩ := @claimCycle_none T c db c.targetUnit c.repoId reason "" "maintenance.json" true false
        a.now found
      rw [claim]
      refine iff_of_true refused fun applied => ?_
      obtain ⟨_, _, prior, same, _⟩ := applied
      rw [found] at same
      cases same
    | some prior =>
      rw [claimCycle_prior found]
      refine priorReport_blocks_iff.trans ⟨fun other applied => ?_, fun unapplied same => ?_⟩
      · obtain ⟨_, _, row, same, status⟩ := applied
        rw [found] at same
        cases same
        exact other status
      · exact unapplied ⟨durable.1, durable.2, prior, found, same⟩
  next open' =>
    refine iff_of_true refused fun applied => open' ?_
    rw [Bool.and_eq_true, decide_eq_true_eq]
    exact ⟨applied.1, applied.2.1⟩

theorem historyGates_open {gates' : Gates} (h : historyGates T c a gates db = .ok gates') :
    gates'.reviewedGo = gates.reviewedGo ∧ (gates.closed = false → gates'.closed = false) := by
  unfold historyGates at h
  split at h
  · cases h
    exact ⟨rfl, id⟩
  · dsimp only at h
    cases under : cyclesUnderCap T c a db <;> cases elapsed : minIntervalElapsed T c a db <;>
      rw [under, elapsed] at h <;> cases h
    refine ⟨rfl, fun before => ?_⟩
    simp only [Gates.closed, Bool.or_eq_false_iff] at before ⊢
    simp [before]

theorem quietGate_open {gates' : Gates} (h : quietGate c a gates = .ok gates') :
    gates'.reviewedGo = gates.reviewedGo ∧ (gates.closed = false → gates'.closed = false) := by
  unfold quietGate at h
  split at h
  · split at h
    · cases h
    next hour _ =>
      dsimp only at h
      cases quiet : c.inQuietHours hour <;> rw [quiet] at h <;> cases h
      refine ⟨rfl, fun before => ?_⟩
      simp only [Gates.closed, Bool.or_eq_false_iff] at before ⊢
      simp [before]
  · cases h
    exact ⟨rfl, id⟩

/-- A call that every gate lets through has every gate it came to open. -/
theorem cycleGates_open (h : cycleGates T c a db = .ok gates) (clear : (killSwitches c a).1 = false) :
    gates.closed = false := by
  unfold cycleGates at h
  dsimp only at h
  split at h
  · cases h
  next guarded =>
  split at h
  · cases h
  next allowlisted =>
  split at h
  · cases h
  next trusted =>
  split at h
  · cases h
  next idle =>
  obtain ⟨known, history, h⟩ := bind_ok' h
  obtain ⟨last, quiet, h⟩ := bind_ok' h
  obtain ⟨sameHistory, historyOpen⟩ := historyGates_open history
  obtain ⟨sameQuiet, quietOpen⟩ := quietGate_open quiet
  split at h
  next reviewed =>
    cases h
    rw [sameQuiet, sameHistory] at reviewed
    simp only [Bool.not_eq_true', Bool.not_eq_false] at guarded allowlisted trusted idle
    have switch : (firstGates T c a).killSwitchClear = true := by simp [firstGates, clear]
    have first : (firstGates T c a).closed = false := by
      unfold Gates.closed
      rw [guarded, allowlisted, trusted, idle, reviewed, switch]
      rfl
    exact quietOpen (historyOpen first)
  · cases h

/-- What follows the claim keeps to the gates, and answers a closed recheck with a refusal. -/
theorem afterClaim_gates : (afterClaim T c a gates db).report.gates = gates := by
  have refusal (reason : String) (db : Database) : (block T c a gates reason db).report.gates = gates := by
    unfold block
    dsimp only
    split
    · split <;> rfl
    · rfl
  unfold afterClaim
  dsimp only
  split
  · exact refusal _ _
  · split
    · exact refusal _ _
    · split
      · rfl
      · unfold settle
        dsimp only
        split
        · rfl
        · split
          · split <;> rfl
          · split <;> rfl

/-- A recheck that finds anything closed is answered with a refusal, which finds its own row refused. -/
theorem afterClaim_blocks (closed : recheckCloses T c a db = true) : (afterClaim T c a gates db).report.Blocks := by
  have settled (reason : String) : ¬PriorApplied T c
      (if c.dbPath = "" then db else db.updateCycleStatus T (c.cycleKey T) .refused reason) := by
    rintro ⟨_, path, prior, found, applied⟩
    rw [if_neg path] at found
    have key := List.find?_some found
    have mem := List.mem_of_find?_eq_some found
    obtain ⟨row, _, same⟩ := List.mem_map.mp mem
    split at same
    · rw [← same] at applied
      cases applied
    next other =>
      rw [← same] at key
      exact other (of_decide_eq_true key)
  unfold afterClaim
  dsimp only
  split
  · exact block_blocks_iff.mpr (settled _)
  next clear =>
  split
  · exact block_blocks_iff.mpr (settled _)
  next healthy =>
    simp only [recheckCloses, Bool.or_eq_true] at closed clear
    rcases closed with first | degraded
    · exact absurd first clear
    · exact absurd degraded healthy

/-- A call is refused at once, or all its gates are open and it is not. -/
theorem evaluateRunner_cases :
    (∃ gates reason, evaluateRunner T c a db = block T c a gates reason db) ∨
      (c.error = "" ∧ c.trustGrantsMalformed = false ∧ (killSwitches c a).1 = false ∧
        (c.serviceRequested = true → ∃ gates, cycleGates T c a db = .ok gates)) := by
  unfold evaluateRunner
  dsimp only
  split
  · exact .inl ⟨_, _, rfl⟩
  next error =>
  split
  · exact .inl ⟨_, _, rfl⟩
  next grants =>
  split
  · exact .inl ⟨_, _, rfl⟩
  next clear =>
  simp only [not_not, Bool.not_eq_true] at error grants clear
  split
  next idle =>
    refine .inr ⟨error, grants, clear, fun requested => ?_⟩
    rw [requested] at idle
    cases idle
  · split
    · exact .inl ⟨_, _, rfl⟩
    next gates passed => exact .inr ⟨error, grants, clear, fun _ => ⟨gates, passed⟩⟩

/-- Once its gates are open, a call answers for an earlier one or goes on with a claim of its own. -/
theorem evaluateRunner_passed (error : c.error = "") (grants : c.trustGrantsMalformed = false)
    (clear : (killSwitches c a).1 = false) (requested : c.serviceRequested = true)
    (passed : cycleGates T c a db = .ok gates) :
    (c.dbPath ≠ "" ∧ (∃ prior, priorCycle T c db = some prior) ∧
        (evaluateRunner T c a db).report.gates = gates) ∨
      ∃ claimed, claimed.state = db.state ∧ evaluateRunner T c a db = afterClaim T c a gates claimed := by
  unfold evaluateRunner
  dsimp only
  rw [if_neg (not_not.mpr error), if_neg (by simp [grants]), if_neg (by simp [clear]), if_neg (by simp [requested]), passed]
  by_cases path : c.dbPath = ""
  · exact .inr ⟨db, rfl, if_pos path⟩
  · dsimp only
    rw [if_neg path]
    cases found : priorCycle T c db with
    | some prior =>
      rw [claimCycle_prior found]
      exact .inl ⟨path, ⟨prior, rfl⟩, rfl⟩
    | none =>
      obtain ⟨claimed, claim⟩ := @claimCycle_none T c db c.targetUnit c.repoId "eligible" "" "maintenance.json" true true
        a.now found
      obtain ⟨_, _, _, state, _⟩ := Database.claimCycle_ok claim
      rw [claim]
      exact .inr ⟨claimed, state, rfl⟩

/-- A closed gate is answered with a refusal exactly when the cycle was not applied before. -/
theorem closed_gate_blocks_iff (T : PyText) (c : RunnerConfig) (a : RunnerArgs) (db : Database)
    (closed : ClosedGate T c a db) :
    (evaluateRunner T c a db).report.Blocks ↔ ¬PriorApplied T c db := by
  rcases @evaluateRunner_cases T c a db with ⟨gates, reason, refused⟩ | ⟨error, grants, clear, cycle⟩
  · rw [refused]
    exact block_blocks_iff
  cases closed with
  | malformed malformed => exact absurd error malformed
  | malformedGrants malformed =>
    rw [grants] at malformed
    cases malformed
  | killSwitch on =>
    rw [clear] at on
    cases on
  | gate requested closed =>
    obtain ⟨gates, passed⟩ := cycle requested
    have same : (evaluateRunner T c a db).report.gates = gates := by
      rcases evaluateRunner_passed error grants clear requested passed with ⟨_, _, same⟩ | ⟨claimed, _, same⟩
      · exact same
      · rw [same]
        exact afterClaim_gates
    rw [same, cycleGates_open passed clear] at closed
    cases closed
  | recheck gates requested passed unclaimed closed =>
    have fresh : ¬PriorApplied T c db := by
      rintro ⟨_, path, prior, found, _⟩
      rcases unclaimed with none | absent
      · exact path none
      · rw [absent] at found
        cases found
    rcases evaluateRunner_passed error grants clear requested passed with ⟨path, ⟨prior, found⟩, _⟩ | ⟨claimed, state, same⟩
    · rcases unclaimed with none | absent
      · exact absurd none path
      · rw [absent] at found
        cases found
    · refine iff_of_true ?_ fresh
      rw [same]
      apply afterClaim_blocks
      have degraded : claimed.isDegraded T c.repoId c.targetUnit = db.isDegraded T c.repoId c.targetUnit := by
        unfold Database.isDegraded
        rw [state]
      unfold recheckCloses at closed ⊢
      rw [degraded]
      exact closed

end

/-- A database in which the cycle of a call was applied. -/
def appliedDatabase : Database :=
  (evaluateRunner asciiText (gatewayConfig.forCall (gatewayCall "one" 1000000000 true))
    (gatewayCall "one" 1000000000 true).args {}).db

def stoppedConfig : RunnerConfig := { gatewayConfig.forCall (gatewayCall "one" 2000000000 true) with killSwitch := true }

theorem closed_gate_blocks_iff_stopped :
    ClosedGate asciiText stoppedConfig {} appliedDatabase ∧
      ((evaluateRunner asciiText stoppedConfig {} appliedDatabase).report.Blocks ↔
        ¬PriorApplied asciiText stoppedConfig appliedDatabase) :=
  ⟨.killSwitch rfl, closed_gate_blocks_iff asciiText stoppedConfig {} appliedDatabase (.killSwitch rfl)⟩

/-- The kill switch is on, and the runner reports a cycle as applied. -/
theorem closed_gate_reports_go :
    ¬∀ (T : PyText) (c : RunnerConfig) (a : RunnerArgs) (db : Database), ClosedGate T c a db →
      (evaluateRunner T c a db).report.Blocks := by
  intro claim
  have blocks := claim asciiText stoppedConfig {} appliedDatabase (.killSwitch rfl)
  have status : (evaluateRunner asciiText stoppedConfig {} appliedDatabase).report.status = "GO" := by decide +kernel
  rw [blocks.status] at status
  exact absurd status (by decide)

end AgentflowHermes.Maintenance
