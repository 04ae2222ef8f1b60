import AgentflowHermes.MaintenanceRunner
import Mathlib.Data.List.Induction

namespace AgentflowHermes.Maintenance

section

variable (T : PyText)

/-- What holds when every gate holds on the first check. -/
structure FirstCheck (c : RunnerConfig) (a : RunnerArgs) (db : Database) : Prop where
  wellFormed : c.error = "" ∧ c.trustGrantsMalformed = false
  killSwitchClear : (killSwitches c a).1 = false
  requested : c.serviceRequested = true
  guarded : c.mode = trustMode
  allowlisted : c.targetUnit ≠ "" ∧ c.targetUnit ∈ c.allowedServices
  trusted : ∃ grant ∈ c.trustGrants,
    isValidServiceCycleGrant T grant c.targetUnit c.allowedServices c.hostId a.now = true
  idle : (c.requireNoActiveWorkers && (activities c a).1) = false
  underCap : (db.countCyclesToday T c.repoId c.targetUnit (dayBucket a.now).1 (dayBucket a.now).2 : Int) <
    c.maxCyclesPerDay
  elapsed : ∀ lastAt, db.lastAppliedAt T c.repoId c.targetUnit = some lastAt →
    c.minSecondsBetweenCycles * 1000000 ≤ a.now - lastAt
  quiet : c.quietHoursEnabled = true → ∃ hour, a.clockHour = some hour ∧ c.inQuietHours hour = false
  reviewed : c.hasReviewedGo T = true

/-- The gates that are asked again right before the adapter. -/
structure Recheck (c : RunnerConfig) (a : RunnerArgs) : Prop where
  killSwitchClear : (killSwitches c a).2 = false
  idle : (c.requireNoActiveWorkers && (activities c a).2) = false

/-- One evaluation of a run: its cycle and grants, and what else the call is handed. -/
structure RunnerCall where
  cycleRef : String := ""
  trustGrants : List Json := []
  trustGrantsMalformed : Bool := false
  args : RunnerArgs := {}

def RunnerConfig.forCall (c : RunnerConfig) (call : RunnerCall) : RunnerConfig :=
  { c with cycleRef := call.cycleRef, trustGrants := call.trustGrants,
           trustGrantsMalformed := call.trustGrantsMalformed }

/-- A completed evaluation, with the database it started from. -/
structure Evaluated where
  call : RunnerCall
  before : Database
  outcome : Evaluation

def Evaluated.now (r : Evaluated) : Int := r.call.args.now

/-- The adapter was reached. -/
def Evaluated.reached (r : Evaluated) : Bool := r.outcome.considered.isSome

/-- The adapter was reached, and applied the cycle. -/
def Evaluated.applied (r : Evaluated) : Bool := r.outcome.considered.any ActionReceipt.applied

def Evaluated.failedSmoke (r : Evaluated) : Bool := r.applied && r.call.args.postSmokeProvider == some false

def evaluateCall (c : RunnerConfig) (db : Database) (call : RunnerCall) : Evaluated :=
  { call, before := db, outcome := evaluateRunner T (c.forCall call) call.args db }

/-- The evaluations of a run of calls on one database. -/
def evaluations (c : RunnerConfig) (db : Database) : List RunnerCall → List Evaluated
  | [] => []
  | call :: rest => evaluateCall T c db call :: evaluations c (evaluateCall T c db call).outcome.db rest

def databaseAfter (c : RunnerConfig) (db : Database) (calls : List RunnerCall) : Database :=
  calls.foldl (fun db call => (evaluateCall T c db call).outcome.db) db

/-- What is claimed of the evaluations of a run. -/
structure Bounded (c : RunnerConfig) (run : List Evaluated) : Prop where
  once : run.Pairwise fun x y => x.reached = true → y.reached = true →
    (c.forCall x.call).cycleKey T ≠ (c.forCall y.call).cycleKey T
  gated : ∀ r ∈ run, r.reached = true →
    FirstCheck T (c.forCall r.call) r.call.args r.before ∧ Recheck (c.forCall r.call) r.call.args
  daily : ∀ d, (run.filter fun r => r.applied && dayOf r.now == d).length ≤ c.maxCyclesPerDay.toNat
  spaced : run.Pairwise fun x y => x.applied = true → y.applied = true →
    c.minSecondsBetweenCycles * 1000000 ≤ (y.now - x.now).natAbs
  broken : run.Pairwise fun x y => x.failedSmoke = true → y.reached = false

end

section

variable {T : PyText} {c : RunnerConfig} {a : RunnerArgs} {db : Database} {gates : Gates}

theorem historyGates_ok {gates' : Gates} (h : historyGates T c a gates db = .ok gates') (path : c.dbPath ≠ "") :
    cyclesUnderCap T c a db = true ∧ minIntervalElapsed T c a db = true ∧ gates'.reviewedGo = gates.reviewedGo := by
  unfold historyGates at h
  rw [if_neg path] at h
  cases under : cyclesUnderCap T c a db with
  | false =>
    rw [under] at h
    cases h
  | true =>
    cases elapsed : minIntervalElapsed T c a db with
    | false =>
      rw [under, elapsed] at h
      cases h
    | true =>
      rw [under, elapsed] at h
      cases h
      exact ⟨rfl, rfl, rfl⟩

theorem quietGate_ok {gates' : Gates} (h : quietGate c a gates = .ok gates') :
    (c.quietHoursEnabled = true → ∃ hour, a.clockHour = some hour ∧ c.inQuietHours hour = false) ∧
      gates'.reviewedGo = gates.reviewedGo := by
  unfold quietGate at h
  split at h
  next =>
    split at h
    · cases h
    next hour clock =>
      dsimp only at h
      split at h
      · cases h
      next quiet =>
        cases h
        exact ⟨fun _ => ⟨hour, clock, by simpa using quiet⟩, rfl⟩
  next off =>
    cases h
    exact ⟨fun on => absurd on off, rfl⟩

/-- The gates of the service-cycle path let a call through only when they all hold. -/
theorem cycleGates_ok (h : cycleGates T c a db = .ok gates) (path : c.dbPath ≠ "")
    (wellFormed : c.error = "" ∧ c.trustGrantsMalformed = false) (killSwitchClear : (killSwitches c a).1 = false)
    (requested : c.serviceRequested = true) : FirstCheck T c a db := by
  unfold cycleGates at h
  dsimp only at h
  split at h
  · cases h
  next guarded =>
  split at h
  · cases h
  next allowlisted =>
  split at h
  · cases h
  next trusted =>
  split at h
  · cases h
  next idle =>
  obtain ⟨known, history, h⟩ := bind_ok' h
  obtain ⟨clear, quiet, h⟩ := bind_ok' h
  split at h
  next reviewed =>
    obtain ⟨under, elapsed, sameReview⟩ := historyGates_ok history path
    obtain ⟨quietHours, review⟩ := quietGate_ok quiet
    rw [review, sameReview] at reviewed
    simp only [firstGates, Bool.not_eq_true', Bool.not_eq_false, decide_eq_true_eq, Bool.and_eq_true,
      List.contains_iff_mem] at guarded allowlisted trusted idle reviewed
    refine ⟨wellFormed, killSwitchClear, requested, guarded, allowlisted, List.any_eq_true.mp trusted, idle,
      of_decide_eq_true under, fun lastAt last => ?_, quietHours, reviewed⟩
    unfold minIntervalElapsed at elapsed
    rw [last] at elapsed
    exact of_decide_eq_true elapsed
  · cases h

/-- What has held when an evaluation reaches the adapter, and what it writes then. -/
structure ReachedStep (T : PyText) (c : RunnerConfig) (a : RunnerArgs) (db : Database) (e : Evaluation)
    (receipt : ActionReceipt) (row : Cycle) : Prop where
  considered : e.considered = some receipt
  first : FirstCheck T c a db
  recheck : Recheck c a
  closed : db.isDegraded T c.repoId c.targetUnit = false
  fresh : ∀ row ∈ db.cycles, row.idempotencyKey ≠ c.cycleKey T
  cycles : e.db.cycles = db.cycles ++ [row]
  key : row.idempotencyKey = c.cycleKey T
  repo : row.repoId = shortText T c.repoId
  unit : row.targetUnit = shortText T c.targetUnit
  time : row.createdAt = a.now
  applied : row.status = .applied ↔ receipt.applied = true ∧ a.postSmokeProvider ≠ some false
  degrades : receipt.applied = true → a.postSmokeProvider = some false →
    e.db.isDegraded T c.repoId c.targetUnit = true

/-- What one evaluation can do to the database. -/
inductive RunnerStep (T : PyText) (c : RunnerConfig) (a : RunnerArgs) (db : Database) (e : Evaluation) : Prop
  | passed (unreached : e.considered = none) (rows : List Cycle) (refused : ∀ row ∈ rows, row.status = .refused)
      (cycles : e.db.cycles = db.cycles ++ rows) (state : e.db.state = db.state)
  | reached (receipt : ActionReceipt) (row : Cycle) (step : ReachedStep T c a db e receipt row)

/-- A refusal writes a row of its own if any, and never reaches the adapter. -/
theorem block_step (reason : String) : ∃ rows : List Cycle, (block T c a gates reason db).considered = none ∧
    (∀ row ∈ rows, row.status = .refused) ∧ (block T c a gates reason db).db.cycles = db.cycles ++ rows ∧
      (block T c a gates reason db).db.state = db.state := by
  unfold block
  dsimp only
  split
  · split
    · exact ⟨[], rfl, by simp, by simp, rfl⟩
    next claimed claim =>
      obtain ⟨fresh, row, added, state, named, rest⟩ := Database.claimCycle_ok claim
      refine ⟨[{ row with status := .refused, reason := shortText T reason }], rfl, by simp, ?_, state⟩
      exact Database.update_claimed fresh added named
  · exact ⟨[], rfl, by simp, by simp, rfl⟩

/-- What follows the claim of a row settles that row. -/
theorem afterClaim_step {claimed : Database} {row : Cycle} (first : FirstCheck T c a db) (path : c.dbPath ≠ "")
    (fresh : ∀ row ∈ db.cycles, row.idempotencyKey ≠ c.cycleKey T) (added : claimed.cycles = db.cycles ++ [row])
    (state : claimed.state = db.state) (key : row.idempotencyKey = c.cycleKey T)
    (repo : row.repoId = shortText T c.repoId) (unit : row.targetUnit = shortText T c.targetUnit)
    (time : row.createdAt = a.now) : RunnerStep T c a db (afterClaim T c a gates claimed) := by
  have settled (status : CycleStatus) (reason : String) :
      (claimed.updateCycleStatus T (c.cycleKey T) status reason).cycles =
        db.cycles ++ [{ row with status, reason := shortText T reason }] :=
    Database.update_claimed fresh added key
  have refusal (reason : String) : RunnerStep T c a db
      (block T c a gates reason (claimed.updateCycleStatus T (c.cycleKey T) .refused reason)) := by
    obtain ⟨rows, unreached, refused, cycles, same⟩ := @block_step T c a
      (claimed.updateCycleStatus T (c.cycleKey T) .refused reason) gates reason
    rw [settled, List.append_assoc] at cycles
    refine .passed unreached _ (fun r mem => ?_) cycles (same.trans state)
    rcases List.mem_append.mp mem with own | more
    · rw [List.mem_singleton.mp own]
    · exact refused r more
  unfold afterClaim
  simp only [if_neg path]
  split
  · exact refusal _
  next clear =>
  split
  · exact refusal _
  next open' =>
  split
  · exact .passed rfl _ (by simp) (settled .refused "proposal_only") state
  next adapter _ =>
    simp only [Bool.or_eq_true, not_or, Bool.not_eq_true] at clear
    have closed : db.isDegraded T c.repoId c.targetUnit = false := by
      have same : claimed.isDegraded T c.repoId c.targetUnit = db.isDegraded T c.repoId c.targetUnit := by
        unfold Database.isDegraded
        rw [state]
      rw [← same]
      simpa [path] using open'
    generalize adapter _ a.now = receipt
    unfold settle
    simp only [if_neg path]
    split
    next applied =>
      split
      next healthy =>
        refine .reached receipt _ ⟨rfl, first, ⟨clear.1, clear.2⟩, closed, fresh,
          settled .applied "service_action_applied", key, repo, unit, time, ?_, ?_⟩
        · simp only [applied, true_and, true_iff]
          intro failed
          rw [failed] at healthy
          cases healthy
        · intro _ failed
          rw [failed] at healthy
          cases healthy
      next unhealthy =>
        refine .reached receipt _ ⟨rfl, first, ⟨clear.1, clear.2⟩, closed, fresh,
          settled .degraded "post_smoke_failed", key, repo, unit, time, ?_, ?_⟩
        · refine iff_of_false (by simp) fun both => ?_
          cases hs : a.postSmokeProvider with
          | none => exact unhealthy (by rw [hs]; rfl)
          | some healthy =>
            cases healthy with
            | false => exact both.2 hs
            | true => exact unhealthy (by rw [hs]; rfl)
        · intro _ _
          exact Database.setDegraded_self
    next unapplied =>
      have unset : ¬ (receipt.applied = true ∧ a.postSmokeProvider ≠ some false) := fun both => unapplied both.1
      split
      · exact .reached receipt _ ⟨rfl, first, ⟨clear.1, clear.2⟩, closed, fresh, settled .refused _, key, repo, unit, time,
          iff_of_false (by simp) unset, fun applied => absurd applied unapplied⟩
      · exact .reached receipt _ ⟨rfl, first, ⟨clear.1, clear.2⟩, closed, fresh,
          settled .failed "service_action_failed", key, repo, unit, time, iff_of_false (by simp) unset,
          fun applied => absurd applied unapplied⟩

theorem evaluateRunner_step (path : c.dbPath ≠ "") : RunnerStep T c a db (evaluateRunner T c a db) := by
  have refusal (gates : Gates) (reason : String) : RunnerStep T c a db (block T c a gates reason db) := by
    obtain ⟨rows, unreached, refused, cycles, state⟩ := @block_step T c a db gates reason
    exact .passed unreached rows refused cycles state
  unfold evaluateRunner
  dsimp only
  split
  · exact refusal _ _
  next error =>
  split
  · exact refusal _ _
  next wellFormed =>
  split
  · exact refusal _ _
  next killSwitch =>
  split
  · exact .passed rfl [] (by simp) (by simp) rfl
  next requested =>
  split
  · exact refusal _ _
  next gates passed =>
    have first := cycleGates_ok passed path ⟨by simpa using error, by simpa using wellFormed⟩ (by simpa using killSwitch)
      (by simpa using requested)
    split
    · exact .passed rfl [] (by simp) (by simp) rfl
    next claimed claim =>
      obtain ⟨fresh, row, added, state, key, _, repo, unit, time⟩ := Database.claimCycle_ok claim
      exact afterClaim_step first path fresh added state key repo unit time

/-- What the database knows of the evaluations that have led to it. -/
structure Accounted (T : PyText) (c : RunnerConfig) (run : List Evaluated) (db : Database) : Prop where
  claimed : ∀ r ∈ run, r.reached = true → ∃ row ∈ db.cycles, row.idempotencyKey = (c.forCall r.call).cycleKey T
  counted : ∀ d, (run.filter fun r => r.applied && !r.failedSmoke && dayOf r.now == d).length ≤
    ((db.applied T c.repoId c.targetUnit).filter fun row => dayOf row.createdAt == d).length
  dated : ∀ r ∈ run, r.applied = true → r.failedSmoke = false →
    ∃ row ∈ db.applied T c.repoId c.targetUnit, row.createdAt = r.now
  degraded : ∀ r ∈ run, r.failedSmoke = true → db.isDegraded T c.repoId c.targetUnit = true

theorem countCyclesToday_eq {repo unit : String} {now : Int} :
    db.countCyclesToday T repo unit (dayBucket now).1 (dayBucket now).2 =
      ((db.applied T repo unit).filter fun row => dayOf row.createdAt == dayOf now).length := by
  unfold Database.countCyclesToday
  congr 2
  funext row
  rw [Bool.eq_iff_iff]
  simp only [Bool.and_eq_true, decide_eq_true_eq, beq_iff_eq]
  exact dayBucket_iff

theorem lastAppliedAt_le {repo unit : String} {row : Cycle} (mem : row ∈ db.applied T repo unit) :
    ∃ lastAt, db.lastAppliedAt T repo unit = some lastAt ∧ row.createdAt ≤ lastAt := by
  unfold Database.lastAppliedAt
  have inside : row.createdAt ∈ (db.applied T repo unit).map Cycle.createdAt := List.mem_map_of_mem mem
  cases h : ((db.applied T repo unit).map Cycle.createdAt).max? with
  | none =>
    rw [List.max?_eq_none_iff.mp h] at inside
    cases inside
  | some lastAt => exact ⟨lastAt, rfl, (List.max?_eq_some_iff.mp h).2 _ inside⟩

theorem applied_append {db' : Database} {rows : List Cycle} {repo unit : String} (cycles : db'.cycles = db.cycles ++ rows) :
    db'.applied T repo unit = db.applied T repo unit ++ Database.applied T { cycles := rows } repo unit := by
  unfold Database.applied
  rw [cycles, List.filter_append]

theorem applied_refused {rows : List Cycle} {repo unit : String} (refused : ∀ row ∈ rows, row.status = .refused) :
    Database.applied T { cycles := rows } repo unit = [] := by
  unfold Database.applied
  rw [List.filter_eq_nil_iff]
  intro row mem
  simp [refused row mem]

theorem applied_row {row : Cycle} {repo unit : String} (inRepo : row.repoId = shortText T repo)
    (onUnit : row.targetUnit = shortText T unit) :
    Database.applied T { cycles := [row] } repo unit = if row.status = .applied then [row] else [] := by
  unfold Database.applied
  by_cases applied : row.status = .applied <;> simp [inRepo, onUnit, applied]

theorem evaluations_snoc (db : Database) (before : List RunnerCall) (call : RunnerCall) :
    evaluations T c db (before ++ [call]) =
      evaluations T c db before ++ [evaluateCall T c (databaseAfter T c db before) call] := by
  induction before generalizing db with
  | nil => rfl
  | cons first rest ih => exact congrArg _ (ih _)

theorem databaseAfter_snoc (db : Database) (before : List RunnerCall) (call : RunnerCall) :
    databaseAfter T c db (before ++ [call]) =
      (evaluateCall T c (databaseAfter T c db before) call).outcome.db := by
  simp [databaseAfter]

/-- An evaluation that does not reach the adapter changes nothing of what is bounded. -/
theorem bounded_passed {run : List Evaluated} {r : Evaluated} (h : Bounded T c run) (unreached : r.reached = false)
    (unapplied : r.applied = false) : Bounded T c (run ++ [r]) where
  once := by
    refine List.pairwise_append.mpr ⟨h.once, List.pairwise_singleton _ _, fun x _ y mem _ reached => ?_⟩
    rw [List.mem_singleton.mp mem, unreached] at reached
    cases reached
  gated := by
    intro x mem reached
    rcases List.mem_append.mp mem with old | new
    · exact h.gated x old reached
    · rw [List.mem_singleton.mp new, unreached] at reached
      cases reached
  daily := by
    intro d
    rw [List.filter_append, List.length_append]
    simpa [unapplied] using h.daily d
  spaced := by
    refine List.pairwise_append.mpr ⟨h.spaced, List.pairwise_singleton _ _, fun x _ y mem _ applied => ?_⟩
    rw [List.mem_singleton.mp mem, unapplied] at applied
    cases applied
  broken := by
    refine List.pairwise_append.mpr ⟨h.broken, List.pairwise_singleton _ _, fun x _ y mem _ => ?_⟩
    rw [List.mem_singleton.mp mem, unreached]

theorem accounted_passed {run : List Evaluated} {r : Evaluated} (known : Accounted T c run db)
    (unreached : r.reached = false) (unapplied : r.applied = false) {rows : List Cycle}
    (refused : ∀ row ∈ rows, row.status = .refused) (cycles : r.outcome.db.cycles = db.cycles ++ rows)
    (state : r.outcome.db.state = db.state) : Accounted T c (run ++ [r]) r.outcome.db := by
  have same : r.outcome.db.applied T c.repoId c.targetUnit = db.applied T c.repoId c.targetUnit := by
    rw [applied_append cycles, applied_refused refused, List.append_nil]
  have old {x : Evaluated} (mem : x ∈ run ++ [r]) (inside : x.applied = true ∨ x.reached = true) : x ∈ run := by
    rcases List.mem_append.mp mem with old | new
    · exact old
    · rw [List.mem_singleton.mp new, unreached, unapplied] at inside
      simp at inside
  constructor
  · intro x mem reached
    obtain ⟨row, hrow, key⟩ := known.claimed x (old mem (.inr reached)) reached
    exact ⟨row, by rw [cycles]; exact List.mem_append_left _ hrow, key⟩
  · intro d
    rw [List.filter_append, List.length_append, same]
    simpa [unapplied] using known.counted d
  · intro x mem applied healthy
    rw [same]
    exact known.dated x (old mem (.inl applied)) applied healthy
  · intro x mem failed
    have applied : x.applied = true := by
      rw [Evaluated.failedSmoke, Bool.and_eq_true] at failed
      exact failed.1
    unfold Database.isDegraded
    rw [state]
    exact known.degraded x (old mem (.inl applied)) failed

section

variable {run : List Evaluated} {r : Evaluated} {receipt : ActionReceipt} {row : Cycle}

/-- The breaker is closed only as long as every post-smoke has passed. -/
theorem healthy_of_closed (known : Accounted T c run db) (closed : db.isDegraded T c.repoId c.targetUnit = false)
    {x : Evaluated} (mem : x ∈ run) : x.failedSmoke = false := by
  rw [Bool.eq_false_iff]
  intro failed
  have open' := known.degraded x mem failed
  rw [closed] at open'
  cases open'

theorem reached_facts (step : ReachedStep T (c.forCall r.call) r.call.args db r.outcome receipt row) :
    r.applied = receipt.applied ∧ (r.applied && !r.failedSmoke) = decide (row.status = .applied) := by
  have applied : r.applied = receipt.applied := by
    unfold Evaluated.applied
    rw [step.considered]
    rfl
  refine ⟨applied, ?_⟩
  unfold Evaluated.failedSmoke
  rw [Bool.eq_iff_iff, decide_eq_true_eq, step.applied, applied]
  cases receipt.applied <;> simp

/-- Whoever reaches the adapter has found the day's count below the cap. -/
theorem reached_underCap (known : Accounted T c run db)
    (step : ReachedStep T (c.forCall r.call) r.call.args db r.outcome receipt row) :
    ((run.filter fun x => x.applied && dayOf x.now == dayOf r.now).length : Int) < c.maxCyclesPerDay := by
  have cap : (db.countCyclesToday T c.repoId c.targetUnit (dayBucket r.now).1 (dayBucket r.now).2 : Int) <
    c.maxCyclesPerDay := step.first.underCap
  have same : (run.filter fun x => x.applied && dayOf x.now == dayOf r.now) =
      run.filter fun x => x.applied && !x.failedSmoke && dayOf x.now == dayOf r.now := by
    refine List.filter_congr fun x mem => ?_
    rw [healthy_of_closed known step.closed mem, Bool.not_false, Bool.and_true]
  rw [countCyclesToday_eq] at cap
  have counted := known.counted (dayOf r.now)
  rw [← same] at counted
  omega

/-- Whoever reaches the adapter does so long enough after every applied cycle. -/
theorem reached_elapsed (known : Accounted T c run db)
    (step : ReachedStep T (c.forCall r.call) r.call.args db r.outcome receipt row) {x : Evaluated} (mem : x ∈ run)
    (applied : x.applied = true) : c.minSecondsBetweenCycles * 1000000 ≤ r.now - x.now := by
  obtain ⟨earlier, inside, date⟩ := known.dated x mem applied (healthy_of_closed known step.closed mem)
  obtain ⟨lastAt, last, later⟩ := lastAppliedAt_le inside
  have apart : c.minSecondsBetweenCycles * 1000000 ≤ r.now - lastAt := step.first.elapsed lastAt last
  omega

theorem bounded_reached (h : Bounded T c run) (known : Accounted T c run db) (before : r.before = db)
    (step : ReachedStep T (c.forCall r.call) r.call.args db r.outcome receipt row) : Bounded T c (run ++ [r]) where
  once := by
    refine List.pairwise_append.mpr ⟨h.once, List.pairwise_singleton _ _, fun x hx y hy reached _ => ?_⟩
    obtain ⟨old, inside, key⟩ := known.claimed x hx reached
    rw [List.mem_singleton.mp hy, ← key]
    exact step.fresh old inside
  gated := by
    intro x mem reached
    rcases List.mem_append.mp mem with old | new
    · exact h.gated x old reached
    · rw [List.mem_singleton.mp new, before]
      exact ⟨step.first, step.recheck⟩
  daily := by
    intro d
    rw [List.filter_append, List.length_append]
    cases inside : r.applied && dayOf r.now == d with
    | false => simpa [inside] using h.daily d
    | true =>
      rw [Bool.and_eq_true, beq_iff_eq] at inside
      obtain ⟨_, rfl⟩ := inside
      have underCap := reached_underCap known step
      have single : ([r].filter fun x => x.applied && dayOf x.now == dayOf r.now).length ≤ 1 := List.length_filter_le _ _
      omega
  spaced := by
    refine List.pairwise_append.mpr ⟨h.spaced, List.pairwise_singleton _ _, fun x hx y hy applied _ => ?_⟩
    have apart := reached_elapsed known step hx applied
    rw [List.mem_singleton.mp hy]
    omega
  broken := by
    refine List.pairwise_append.mpr ⟨h.broken, List.pairwise_singleton _ _, fun x hx y _ failed => ?_⟩
    rw [healthy_of_closed known step.closed hx] at failed
    cases failed

theorem accounted_reached (known : Accounted T c run db)
    (step : ReachedStep T (c.forCall r.call) r.call.args db r.outcome receipt row) :
    Accounted T c (run ++ [r]) r.outcome.db := by
  obtain ⟨receiptApplied, counts⟩ := reached_facts step
  have rows := @applied_append T db r.outcome.db [row] c.repoId c.targetUnit step.cycles
  rw [@applied_row T row c.repoId c.targetUnit step.repo step.unit] at rows
  constructor
  · intro x mem reached
    rw [step.cycles]
    rcases List.mem_append.mp mem with old | new
    · obtain ⟨row, hrow, key⟩ := known.claimed x old reached
      exact ⟨row, List.mem_append_left _ hrow, key⟩
    · rw [List.mem_singleton.mp new]
      exact ⟨row, List.mem_append_right _ List.mem_cons_self, step.key⟩
  · intro d
    have counted := known.counted d
    have one : ([r].filter fun x => x.applied && !x.failedSmoke && dayOf x.now == d).length =
        ((if row.status = .applied then [row] else []).filter fun row => dayOf row.createdAt == d).length := by
      by_cases stored : row.status = .applied
      · rw [decide_eq_true stored] at counts
        have date : r.now = row.createdAt := step.time.symm
        simp only [List.filter_cons, List.filter_nil, counts, Bool.true_and, if_pos stored, date]
        cases dayOf row.createdAt == d <;> rfl
      · rw [decide_eq_false stored] at counts
        simp [counts, if_neg stored]
    rw [rows, List.filter_append, List.filter_append, List.length_append, List.length_append]
    omega
  · intro x mem applied healthy
    rw [rows]
    rcases List.mem_append.mp mem with old | new
    · obtain ⟨row, hrow, date⟩ := known.dated x old applied healthy
      exact ⟨row, List.mem_append_left _ hrow, date⟩
    · rw [List.mem_singleton.mp new] at applied healthy ⊢
      rw [applied, healthy] at counts
      have stored : row.status = .applied := by simpa using counts.symm
      exact ⟨row, List.mem_append_right _ (by simp [stored]), step.time⟩
  · intro x mem failed
    rcases List.mem_append.mp mem with old | new
    · rw [healthy_of_closed known step.closed old] at failed
      cases failed
    · rw [List.mem_singleton.mp new, Evaluated.failedSmoke, Bool.and_eq_true, receiptApplied] at failed
      exact step.degrades failed.1 (by simpa using failed.2)

theorem bounded_step (path : c.dbPath ≠ "") (h : Bounded T c run) (known : Accounted T c run db) (call : RunnerCall) :
    Bounded T c (run ++ [evaluateCall T c db call]) ∧
      Accounted T c (run ++ [evaluateCall T c db call]) (evaluateCall T c db call).outcome.db := by
  have step : RunnerStep T (c.forCall call) call.args db (evaluateCall T c db call).outcome :=
    @evaluateRunner_step T (c.forCall call) call.args db path
  cases step with
  | passed unreached rows refused cycles state =>
    have silent : (evaluateCall T c db call).reached = false ∧ (evaluateCall T c db call).applied = false := by
      simp [Evaluated.reached, Evaluated.applied, unreached]
    exact ⟨bounded_passed h silent.1 silent.2, accounted_passed known silent.1 silent.2 refused cycles state⟩
  | reached receipt row step => exact ⟨bounded_reached h known rfl step, accounted_reached known step⟩

end

/-- The bounds hold of every run of evaluations, whatever the database held before. -/
theorem maintenance_bounded (T : PyText) (c : RunnerConfig) (path : c.dbPath ≠ "") (db : Database)
    (calls : List RunnerCall) : Bounded T c (evaluations T c db calls) := by
  have both : Bounded T c (evaluations T c db calls) ∧
      Accounted T c (evaluations T c db calls) (databaseAfter T c db calls) := by
    induction calls using List.reverseRec with
    | nil =>
      refine ⟨⟨.nil, fun r mem => ?_, fun d => Nat.zero_le _, .nil, .nil⟩,
        ⟨fun r mem => ?_, fun d => Nat.zero_le _, fun r mem => ?_, fun r mem => ?_⟩⟩
      all_goals cases mem
    | append_singleton before call ih =>
      rw [evaluations_snoc, databaseAfter_snoc]
      exact bounded_step path ih.1 ih.2 call
  exact both.1

end

/-- A configuration that lets a service be restarted. -/
def gatewayConfig : RunnerConfig where
  mode := "guarded_cycle"
  allowedServices := ["gateway.service"]
  hostId := "host"
  requestedAction := "service_cycle"
  targetUnit := "gateway.service"
  repoId := "repo"
  dbPath := "cycles.db"
  reviewedSummary := "Verdict: GO"

def gatewayGrant : Json :=
  .obj [("grant_id", .str "grant_0123456789abcdef"), ("mode", .str "guarded_cycle"), ("action", .str "service_cycle"),
    ("scope", .str "service_cycle"), ("gateway_unit", .str "gateway.service"),
    ("allowed_services", .arr [.str "gateway.service"]), ("host_id", .str "host"), ("created_at", .int 0),
    ("expires_at", .int 100000), ("provenance", .str "operator")]

/-- A cycle that an executor applies. -/
def gatewayCall (cycleRef : String) (now : Int) (healthy : Bool) : RunnerCall :=
  { cycleRef, trustGrants := [gatewayGrant],
    args := { adapter := some (fakeConsider asciiText fun _ => { ok := true }), now, postSmokeProvider := some healthy } }

def gatewayRun : List RunnerCall :=
  [gatewayCall "one" 1000000000 true, gatewayCall "two" 1100000000 true, gatewayCall "three" 3000000000 false,
    gatewayCall "four" 90000000000 true]

/-- The second cycle comes too early, and the fourth after a failed post-smoke. -/
theorem maintenance_bounded_gateway :
    (evaluations asciiText gatewayConfig {} gatewayRun).map Evaluated.reached = [true, false, true, false] ∧
      Bounded asciiText gatewayConfig (evaluations asciiText gatewayConfig {} gatewayRun) :=
  ⟨by decide +kernel, maintenance_bounded asciiText gatewayConfig (by decide) {} gatewayRun⟩

end AgentflowHermes.Maintenance
