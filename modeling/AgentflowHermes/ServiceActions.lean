import Mathlib.Algebra.Order.Group.Int
import AgentflowHermes.AttemptGate
import AgentflowHermes.Dicts
import AgentflowHermes.MaintenanceRunner

namespace AgentflowHermes.Maintenance

open AttemptGate

/-- `ServiceExecutor.restart_unit` of an executor with a state of its own; a call that raises answers `none`. -/
abbrev RestartUnit (σ : Type) := String → σ → Option ExecResult × σ

/-- `UnavailableSystemctlExecutor`. -/
def unavailableSystemctl {σ : Type} : RestartUnit σ := fun _ s => (none, s)

structure FakeServiceExecutor where
  healthy : Bool := true
  failTimes : Nat := 0
  calls : List String := []

/-- What a consideration leaves: its receipt unless it raises, the attempts it made, and both states. -/
structure Considered (α σ : Type) where
  receipt : Option ActionReceipt
  attempts : Nat
  adapter : α
  executor : σ

structure FakeActionAdapter where
  cooldown : Int
  applied : List (String × ActionReceipt) := []
  lastActionAt : Option Int := none

/-- An `ActionAdapter` of the three kinds; the live one stands with its flag. -/
inductive ActionAdapter
  | noop
  | fake (a : FakeActionAdapter)
  | live (enabled : Bool)

section

variable (T : PyText) {σ : Type}

/-- `FakeServiceExecutor.restart_unit`. -/
def FakeServiceExecutor.restartUnit : RestartUnit FakeServiceExecutor := fun unit s =>
  let calls := s.calls ++ [shortText T unit]
  let s' := { s with calls }
  if calls.length ≤ s.failTimes then (some { ok := false, detail := "canary_unhealthy" }, s')
  else (some { ok := s.healthy, detail := if s.healthy then "ok" else "unhealthy" }, s')

/-- `_base_fields`, in a receipt of no action. -/
def baseReceipt (fake : Bool) (request : ActionRequest) : ActionReceipt where
  actionId := shortText T request.actionId
  idempotencyKey := shortText T request.idempotencyKey
  target := shortText T request.targetUnit
  status := "NOOP"
  dryRun := true
  fake
  noop := true
  applied := false
  executed := false
  attempts := 0
  noopReason := ""

/-- The receipt of an action that succeeded. -/
def appliedReceipt (fake : Bool) (request : ActionRequest) (attempts : Nat) (result : ExecResult) : ActionReceipt :=
  { baseReceipt T fake request with
    status := "GO", dryRun := false, noop := false, applied := true, executed := true, attempts
    detail := shortText T result.detail }

/-- The receipt of an action that failed. -/
def failedReceipt (fake : Bool) (request : ActionRequest) (attempts : Nat) : ActionReceipt :=
  { baseReceipt T fake request with status := "BLOCK", noop := false, attempts, detail := "service_action_failed" }

/-- `NoopActionAdapter.consider`. -/
def noopConsider (request : ActionRequest) : ActionReceipt :=
  { baseReceipt T false request with noopReason := "noop_adapter" }

/-- The loop over the attempt budget: how many calls it makes, and the answer of the last one. -/
def attemptLoop (restart : RestartUnit σ) (unit : String) : Nat → Nat → ExecResult → σ → Nat × Option ExecResult × σ
  | 0, attempts, result, s => (attempts, some result, s)
  | budget + 1, attempts, _, s =>
    match restart unit s with
    | (none, s) => (attempts + 1, none, s)
    | (some result, s) =>
      if result.ok then (attempts + 1, some result, s) else attemptLoop restart unit budget (attempts + 1) result s

/-- `FakeActionAdapter.__init__`. -/
def FakeActionAdapter.new (cooldownSeconds : Int) : FakeActionAdapter := { cooldown := max 0 cooldownSeconds }

/-- Whether the cooldown gate holds a request back. -/
def FakeActionAdapter.cooling (a : FakeActionAdapter) (now : Int) : Bool :=
  a.cooldown > 0 && match a.lastActionAt with
    | some last => now - last < a.cooldown
    | none => false

/-- What `FakeActionAdapter.consider` makes of the last answer; a call that raised starts no cooldown. -/
def FakeActionAdapter.settle (a : FakeActionAdapter) (request : ActionRequest) (now : Int) (attempts : Nat)
    (executor : σ) : Option ExecResult → Considered FakeActionAdapter σ
  | none => { receipt := none, attempts, adapter := a, executor }
  | some result =>
    let a' := { a with lastActionAt := some now }
    if result.ok then
      let receipt := appliedReceipt T true request attempts result
      { receipt := some receipt, attempts, executor
        adapter := { a' with applied := Dicts.set request.idempotencyKey receipt a'.applied } }
    else { receipt := some (failedReceipt T true request attempts), attempts, adapter := a', executor }

/-- The receipt of a request whose key has a success already. -/
def replayReceipt (request : ActionRequest) (prior : ActionReceipt) : ActionReceipt :=
  { baseReceipt T true request with
    applied := prior.applied, executed := prior.executed, noopReason := "idempotent_replay", detail := prior.detail }

/-- `FakeActionAdapter.consider`. -/
def FakeActionAdapter.consider (restart : RestartUnit σ) (a : FakeActionAdapter) (s : σ) (request : ActionRequest)
    (now : Int) : Considered FakeActionAdapter σ :=
  let held := fun receipt => { receipt := some receipt, attempts := 0, adapter := a, executor := s }
  match a.applied.lookup request.idempotencyKey with
  | some prior => held (replayReceipt T request prior)
  | none =>
    if a.cooling now then held { baseReceipt T true request with noopReason := "cooldown_active" }
    else
      let budget := request.attemptBudget.toNat
      if budget = 0 then held { baseReceipt T true request with noopReason := "no_attempt_budget" }
      else
        let (attempts, answer, executor) :=
          attemptLoop restart request.targetUnit budget 0 { ok := false, detail := "not_attempted" } s
        a.settle T request now attempts executor answer

/-- `LiveActionAdapter.consider`; whatever the executor raises is a receipt. -/
def liveConsider (enabled : Bool) (restart : RestartUnit σ) (s : σ) (request : ActionRequest) :
    ActionReceipt × Nat × σ :=
  let base := baseReceipt T false request
  if enabled then
    match restart request.targetUnit s with
    | (none, s) =>
      ({ base with status := "BLOCK", attempts := 1, noopReason := "live_execution_unavailable" }, 1, s)
    | (some result, s) =>
      if result.ok then (appliedReceipt T false request 1 result, 1, s) else (failedReceipt T false request 1, 1, s)
  else ({ base with status := "BLOCK", noopReason := "live_adapter_disabled" }, 0, s)

/-- `ActionAdapter.consider`. -/
def ActionAdapter.consider (restart : RestartUnit σ) (s : σ) (request : ActionRequest) (now : Int) :
    ActionAdapter → Considered ActionAdapter σ
  | noop => { receipt := some (noopConsider T request), attempts := 0, adapter := noop, executor := s }
  | fake a =>
    let c := a.consider T restart s request now
    { receipt := c.receipt, attempts := c.attempts, adapter := fake c.adapter, executor := c.executor }
  | live enabled =>
    let (receipt, attempts, executor) := liveConsider T enabled restart s request
    { receipt := some receipt, attempts, adapter := live enabled, executor }

/-- A consideration of a run. -/
structure ConsiderStep where
  request : ActionRequest
  now : Int
  receipt : Option ActionReceipt
  attempts : Nat

def ConsiderStep.go (s : ConsiderStep) : Bool := s.receipt.any fun receipt => receipt.status = "GO"

/-- The attempt of a consideration that called the executor and did not raise. -/
def ConsiderStep.attempt (s : ConsiderStep) : Option (Attempt String Int) :=
  if 0 < s.attempts ∧ s.receipt.isSome then some ⟨s.request.idempotencyKey, s.now, s.go⟩ else none

/-- Where one adapter and its executor have got to, with what they did, the latest first. -/
structure CanaryRun (σ : Type) where
  adapter : FakeActionAdapter
  executor : σ
  steps : List ConsiderStep := []

def CanaryRun.history (r : CanaryRun σ) : List (Attempt String Int) := r.steps.filterMap ConsiderStep.attempt

def CanaryRun.next (restart : RestartUnit σ) (r : CanaryRun σ) (call : ActionRequest × Int) : CanaryRun σ :=
  let c := r.adapter.consider T restart r.executor call.1 call.2
  { adapter := c.adapter, executor := c.executor, steps := ⟨call.1, call.2, c.receipt, c.attempts⟩ :: r.steps }

/-- Every consideration of a new adapter, in order. -/
def canaryRun (restart : RestartUnit σ) (cooldownSeconds : Int) (s : σ) (calls : List (ActionRequest × Int)) :
    CanaryRun σ :=
  calls.foldl (CanaryRun.next T restart) { adapter := .new cooldownSeconds, executor := s }

/-- The executor after that many calls for a unit. -/
def stateAfter (restart : RestartUnit σ) (unit : String) (s : σ) : Nat → σ
  | 0 => s
  | n + 1 => stateAfter restart unit (restart unit s).2 n

def answerAt (restart : RestartUnit σ) (unit : String) (s : σ) (n : Nat) : Option ExecResult :=
  (restart unit (stateAfter restart unit s n)).1

/-- That many calls for a unit were made: each but the last failed, and an answer that failed was followed by another
call as long as the budget lasted. -/
structure CallsOf (restart : RestartUnit σ) (unit : String) (s : σ) (budget n : Nat) : Prop where
  pos : 0 < n
  le : n ≤ budget
  failed : ∀ i < n - 1, ∃ result, answerAt restart unit s i = some result ∧ result.ok = false
  stopped : n < budget → ∀ result, answerAt restart unit s (n - 1) = some result → result.ok = true

end

section

variable {T : PyText} {σ : Type} {restart : RestartUnit σ} {unit : String} {s : σ}

theorem attemptLoop_calls (budget attempts : Nat) (result : ExecResult) :
    ∃ n, attemptLoop restart unit (budget + 1) attempts result s =
        (attempts + n, answerAt restart unit s (n - 1), stateAfter restart unit s n) ∧
      CallsOf restart unit s (budget + 1) n := by
  induction budget generalizing attempts result s with
  | zero =>
    refine ⟨1, ?_, ⟨by omega, by omega, fun i h => absurd h (by omega), fun h => absurd h (by omega)⟩⟩
    rcases called : restart unit s with ⟨_ | answer, s'⟩
    · simp [attemptLoop, called, answerAt, stateAfter]
    · simp [attemptLoop, called, answerAt, stateAfter]
  | succ budget ih =>
    rcases called : restart unit s with ⟨_ | answer, s'⟩
    · refine ⟨1, ?_, ⟨by omega, by omega, fun i h => absurd h (by omega), fun _ result is => ?_⟩⟩
      · simp [attemptLoop, called, answerAt, stateAfter]
      · simp [answerAt, stateAfter, called] at is
    · by_cases ok : answer.ok = true
      · refine ⟨1, ?_, ⟨by omega, by omega, fun i h => absurd h (by omega), fun _ result is => ?_⟩⟩
        · simp [attemptLoop, called, answerAt, stateAfter, ok]
        · have same : answer = result := by simpa [answerAt, stateAfter, called] using is
          exact same ▸ ok
      · have failed : answer.ok = false := by simpa using ok
        obtain ⟨n, loop, calls⟩ := ih (s := s') (attempts + 1) answer
        have later : ∀ i, answerAt restart unit s (i + 1) = answerAt restart unit s' i := by
          intro i
          simp [answerAt, stateAfter, called]
        have pos := calls.pos
        refine ⟨n + 1, ?_, ⟨by omega, by have := calls.le; omega, fun i h => ?_, fun h result is => ?_⟩⟩
        · have back : n + 1 - 1 = n - 1 + 1 := by omega
          rw [back, later]
          simp only [attemptLoop, called, failed] at loop ⊢
          simp only [Bool.false_eq_true, if_false, loop, stateAfter, called]
          congr 1
          omega
        · cases i with
          | zero => exact ⟨answer, by simp [answerAt, stateAfter, called], failed⟩
          | succ i =>
            rw [later]
            exact calls.failed i (by omega)
        · have back : n + 1 - 1 = n - 1 + 1 := by omega
          rw [back, later] at is
          exact calls.stopped (by omega) result is

/-- A request that the adapter answers without its executor. -/
structure Held (a : FakeActionAdapter) (s : σ) (c : Considered FakeActionAdapter σ) : Prop where
  receipt : ∃ receipt, c.receipt = some receipt ∧ receipt.status = "NOOP"
  attempts : c.attempts = 0
  adapter : c.adapter = a
  executor : c.executor = s

/-- Whether the adapter lets a request through to its executor. -/
structure LetThrough (a : FakeActionAdapter) (request : ActionRequest) (now : Int) : Prop where
  fresh : a.applied.lookup request.idempotencyKey = none
  warm : a.cooling now = false
  budget : 0 < request.attemptBudget

theorem consider_held {a : FakeActionAdapter} {request : ActionRequest} {now : Int}
    (held : ¬ LetThrough a request now) : Held a s (a.consider T restart s request now) := by
  rcases found : a.applied.lookup request.idempotencyKey with _ | prior
  · cases cooling : a.cooling now with
    | true =>
      simp only [FakeActionAdapter.consider, found, cooling, if_true]
      exact ⟨⟨_, rfl, rfl⟩, rfl, rfl, rfl⟩
    | false =>
      have spent : request.attemptBudget.toNat = 0 := by
        by_contra some
        exact held ⟨found, cooling, by omega⟩
      simp only [FakeActionAdapter.consider, found, cooling, spent, if_true]
      exact ⟨⟨_, rfl, rfl⟩, rfl, rfl, rfl⟩
  · simp only [FakeActionAdapter.consider, found]
    exact ⟨⟨_, rfl, rfl⟩, rfl, rfl, rfl⟩

theorem consider_acts {a : FakeActionAdapter} {request : ActionRequest} {now : Int}
    (h : LetThrough a request now) :
    ∃ n, CallsOf restart request.targetUnit s request.attemptBudget.toNat n ∧
      a.consider T restart s request now =
        a.settle T request now n (stateAfter restart request.targetUnit s n)
          (answerAt restart request.targetUnit s (n - 1)) := by
  have pos := h.budget
  obtain ⟨budget, is⟩ : ∃ budget, request.attemptBudget.toNat = budget + 1 :=
    ⟨request.attemptBudget.toNat - 1, by omega⟩
  obtain ⟨n, loop, calls⟩ :=
    @attemptLoop_calls σ restart request.targetUnit s budget 0
      { ok := false, detail := "not_attempted" }
  rw [Nat.zero_add] at loop
  refine ⟨n, is ▸ calls, ?_⟩
  simp only [FakeActionAdapter.consider, h.fresh, h.warm, is, loop]
  rfl

@[simp] theorem settle_attempts {a : FakeActionAdapter} {request : ActionRequest} {now : Int} {attempts : Nat}
    {answer : Option ExecResult} : (a.settle T request now attempts s answer).attempts = attempts := by
  unfold FakeActionAdapter.settle
  split
  · rfl
  · dsimp only
    split <;> rfl

@[simp] theorem settle_executor {a : FakeActionAdapter} {request : ActionRequest} {now : Int} {attempts : Nat}
    {answer : Option ExecResult} : (a.settle T request now attempts s answer).executor = s := by
  unfold FakeActionAdapter.settle
  split
  · rfl
  · dsimp only
    split <;> rfl

theorem settle_go_iff {a : FakeActionAdapter} {request : ActionRequest} {now : Int} {attempts : Nat}
    {answer : Option ExecResult} :
    (∃ receipt, (a.settle T request now attempts s answer).receipt = some receipt ∧ receipt.status = "GO") ↔
      ∃ result, answer = some result ∧ result.ok = true := by
  cases answer with
  | none => simp [FakeActionAdapter.settle]
  | some result => cases ok : result.ok <;> simp [FakeActionAdapter.settle, ok, appliedReceipt, failedReceipt]

/-- A success is reported if and only if the last call of the consideration was one. -/
theorem consider_go_iff {a : FakeActionAdapter} {request : ActionRequest} {now : Int} :
    let c := a.consider T restart s request now
    (∃ receipt, c.receipt = some receipt ∧ receipt.status = "GO") ↔
      0 < c.attempts ∧ ∃ result, answerAt restart request.targetUnit s (c.attempts - 1) = some result ∧
        result.ok = true := by
  intro c
  by_cases through : LetThrough a request now
  · obtain ⟨n, made, is⟩ := @consider_acts T σ restart s a request now through
    have settled : c = _ := is
    rw [settled, settle_go_iff, settle_attempts]
    simp [made.pos]
  · obtain ⟨⟨receipt, is, noop⟩, none, _⟩ := @consider_held T σ restart s a request now through
    have attempts : c.attempts = 0 := none
    have receipt_eq : c.receipt = some receipt := is
    simp [attempts, receipt_eq, noop]

/-- No adapter reports an action that its executor did not do in that consideration. -/
theorem ActionAdapter.consider_go_iff {a : ActionAdapter} {request : ActionRequest} {now : Int} :
    let c := a.consider T restart s request now
    (∃ receipt, c.receipt = some receipt ∧ receipt.status = "GO") ↔
      0 < c.attempts ∧ ∃ result, answerAt restart request.targetUnit s (c.attempts - 1) = some result ∧
        result.ok = true := by
  cases a with
  | noop => simp [ActionAdapter.consider, noopConsider, baseReceipt]
  | fake a => exact Maintenance.consider_go_iff
  | live enabled =>
    cases enabled with
    | false => simp [ActionAdapter.consider, liveConsider]
    | true =>
      rcases called : restart request.targetUnit s with ⟨_ | result, s'⟩
      · simp [ActionAdapter.consider, liveConsider, called, answerAt, stateAfter]
      · cases ok : result.ok <;>
          simp [ActionAdapter.consider, liveConsider, called, answerAt, stateAfter, ok, appliedReceipt, failedReceipt]

/-- On a new adapter this is the canary's answer to one request. -/
theorem consider_new {answers : Executor} {cooldownSeconds : Int} {request : ActionRequest} {now : Int}
    (answered : ∀ n, answerAt restart request.targetUnit s n = some (answers n)) :
    ((FakeActionAdapter.new cooldownSeconds).consider T restart s request now).receipt =
      some (fakeConsider T answers request now) := by
  by_cases budget : request.attemptBudget.toNat = 0
  · simp [FakeActionAdapter.consider, FakeActionAdapter.new, FakeActionAdapter.cooling, fakeConsider, budget,
      baseReceipt]
  · have through : LetThrough (.new cooldownSeconds) request now :=
      ⟨rfl, by simp [FakeActionAdapter.cooling, FakeActionAdapter.new], by omega⟩
    obtain ⟨n, made, is⟩ := @consider_acts T σ restart s (.new cooldownSeconds) request now through
    have pos := made.pos
    have le := made.le
    have failed : ∀ i < n - 1, (answers i).ok = false := by
      intro i lt
      obtain ⟨result, answer, bad⟩ := made.failed i lt
      rw [answered] at answer
      exact Option.some.inj answer ▸ bad
    rw [is, answered]
    cases ok : (answers (n - 1)).ok with
    | true =>
      have first : (List.range request.attemptBudget.toNat).find? (fun i => (answers i).ok) = some (n - 1) := by
        rw [List.find?_range_eq_some]
        exact ⟨ok, by simpa using (by omega), fun i lt => by simp [failed i lt]⟩
      simp [FakeActionAdapter.settle, ok, fakeConsider, budget, first, appliedReceipt, baseReceipt]
      omega
    | false =>
      have all : n = request.attemptBudget.toNat := by
        by_contra less
        have good := made.stopped (by omega) _ (answered (n - 1))
        rw [ok] at good
        cases good
      have never : (List.range request.attemptBudget.toNat).find? (fun i => (answers i).ok) = none := by
        rw [List.find?_range_eq_none]
        intro i lt
        by_cases last : i = n - 1
        · simp [last, ok]
        · simp [failed i (by omega)]
      subst all
      simp [FakeActionAdapter.settle, ok, fakeConsider, budget, never, failedReceipt, baseReceipt]

/-- What the adapter's memory says of the run behind it. -/
structure Tracks (cooldown : Int) (r : CanaryRun σ) : Prop where
  cooldown_eq : r.adapter.cooldown = cooldown
  lawful : Lawful cooldown r.history
  remembers : Remembers (fun key => (r.adapter.applied.lookup key).isSome = true) r.adapter.lastActionAt r.history
  applied_iff : ∀ key receipt, r.adapter.applied.lookup key = some receipt ↔
    ∃ step ∈ r.steps, step.request.idempotencyKey = key ∧ step.receipt = some receipt ∧ receipt.status = "GO"

section

variable {cooldown : Int} {r : CanaryRun σ} {request : ActionRequest} {now : Int}

theorem tracks_new (s : σ) : Tracks (max 0 cooldown) { adapter := .new cooldown, executor := s } where
  cooldown_eq := rfl
  lawful := trivial
  remembers := remembers_nil fun key h => by simp [FakeActionAdapter.new] at h
  applied_iff := fun key receipt => by simp [FakeActionAdapter.new]

theorem cooling_iff {a : FakeActionAdapter} :
    a.cooling now = true ↔ 0 < a.cooldown ∧ ∃ latest ∈ a.lastActionAt, now - latest < a.cooldown := by
  unfold FakeActionAdapter.cooling
  cases a.lastActionAt with
  | none => simp
  | some last => simp

/-- The adapter lets through what the history of the run leaves room for, within the budget. -/
theorem Tracks.letThrough_iff (h : Tracks cooldown r) :
    LetThrough r.adapter request now ↔
      0 < request.attemptBudget ∧ LeavesRoom cooldown r.history request.idempotencyKey now := by
  have admits : Admits cooldown (fun key => (r.adapter.applied.lookup key).isSome = true) r.adapter.lastActionAt
      request.idempotencyKey now ↔ LeavesRoom cooldown r.history request.idempotencyKey now :=
    h.remembers.admits_iff h.lawful
  have gate : LetThrough r.adapter request now ↔ 0 < request.attemptBudget ∧
      Admits cooldown (fun key => (r.adapter.applied.lookup key).isSome = true) r.adapter.lastActionAt
        request.idempotencyKey now := by
    have warm : r.adapter.cooling now = false ↔
        ¬ (0 < cooldown ∧ ∃ latest ∈ r.adapter.lastActionAt, now - latest < cooldown) := by
      rw [← h.cooldown_eq, ← cooling_iff]
      simp
    have fresh : r.adapter.applied.lookup request.idempotencyKey = none ↔
        ¬ (r.adapter.applied.lookup request.idempotencyKey).isSome = true := Option.not_isSome_iff_eq_none.symm
    exact ⟨fun l => ⟨l.budget, fresh.mp l.fresh, warm.mp l.warm⟩,
      fun ⟨budget, out, out'⟩ => ⟨fresh.mpr out, warm.mpr out', budget⟩⟩
  rw [gate, admits]

/-- A step that neither calls the executor nor ends with a success leaves the memory right. -/
theorem Tracks.held (h : Tracks cooldown r) {executor : σ} {step : ConsiderStep} (none : step.attempt = none)
    (idle : ∀ receipt, step.receipt = some receipt → receipt.status ≠ "GO") :
    Tracks cooldown { adapter := r.adapter, executor, steps := step :: r.steps } where
  cooldown_eq := h.cooldown_eq
  lawful := by simpa [CanaryRun.history, none] using h.lawful
  remembers := by simpa [CanaryRun.history, none] using h.remembers
  applied_iff := fun key receipt => by
    rw [h.applied_iff key receipt]
    refine ⟨fun ⟨step', mem, is⟩ => ⟨step', List.mem_cons_of_mem _ mem, is⟩, fun ⟨step', mem, is⟩ => ?_⟩
    rcases List.mem_cons.mp mem with rfl | mem
    · exact absurd is.2.2 (idle receipt is.2.1)
    · exact ⟨step', mem, is⟩

theorem Tracks.failed (h : Tracks cooldown r) {executor : σ} {attempts : Nat} (made : 0 < attempts)
    (room : LeavesRoom cooldown r.history request.idempotencyKey now) :
    Tracks cooldown
      { adapter := { r.adapter with lastActionAt := some now }, executor
        steps := ⟨request, now, some (failedReceipt T true request attempts), attempts⟩ :: r.steps } := by
  have attempt : ConsiderStep.attempt ⟨request, now, some (failedReceipt T true request attempts), attempts⟩ =
      some ⟨request.idempotencyKey, now, false⟩ := by
    simp [ConsiderStep.attempt, made, ConsiderStep.go, failedReceipt]
  refine ⟨h.cooldown_eq, ?_, ?_, fun key receipt => ?_⟩
  · simp only [CanaryRun.history, List.filterMap_cons, attempt]
    exact ⟨room, h.lawful⟩
  · simp only [CanaryRun.history, List.filterMap_cons, attempt]
    exact h.remembers.record (a := ⟨request.idempotencyKey, now, false⟩) fun key => by simp
  · rw [h.applied_iff key receipt]
    refine ⟨fun ⟨step, mem, is⟩ => ⟨step, List.mem_cons_of_mem _ mem, is⟩, fun ⟨step, mem, is⟩ => ?_⟩
    rcases List.mem_cons.mp mem with rfl | mem
    · obtain ⟨_, same, go⟩ := is
      cases same
      simp [failedReceipt] at go
    · exact ⟨step, mem, is⟩

theorem Tracks.applied (h : Tracks cooldown r) {executor : σ} {attempts : Nat} {result : ExecResult}
    (made : 0 < attempts) (room : LeavesRoom cooldown r.history request.idempotencyKey now) :
    Tracks cooldown
      { adapter := { r.adapter with
          lastActionAt := some now
          applied := Dicts.set request.idempotencyKey (appliedReceipt T true request attempts result)
            r.adapter.applied }
        executor
        steps := ⟨request, now, some (appliedReceipt T true request attempts result), attempts⟩ :: r.steps } := by
  have attempt : ConsiderStep.attempt
      ⟨request, now, some (appliedReceipt T true request attempts result), attempts⟩ =
      some ⟨request.idempotencyKey, now, true⟩ := by
    simp [ConsiderStep.attempt, made, ConsiderStep.go, appliedReceipt]
  have fresh : r.adapter.applied.lookup request.idempotencyKey = none := by
    by_contra some
    obtain ⟨a, mem, done, same⟩ :=
      (h.remembers.done_iff request.idempotencyKey).mp (Option.isSome_iff_ne_none.mpr some)
    exact room.fresh a mem done same
  refine ⟨h.cooldown_eq, ?_, ?_, fun key receipt => ?_⟩
  · simp only [CanaryRun.history, List.filterMap_cons, attempt]
    exact ⟨room, h.lawful⟩
  · simp only [CanaryRun.history, List.filterMap_cons, attempt]
    refine h.remembers.record (a := ⟨request.idempotencyKey, now, true⟩) fun key => ?_
    rw [Dicts.lookup_set]
    by_cases same : key = request.idempotencyKey
    · simp [same]
    · have apart : request.idempotencyKey ≠ key := fun h => same h.symm
      simp [same, apart]
  · rw [Dicts.lookup_set]
    split
    next same =>
      refine ⟨fun is => ⟨_, List.mem_cons_self, same.symm, is, by cases is; rfl⟩, fun ⟨step, mem, is⟩ => ?_⟩
      rcases List.mem_cons.mp mem with rfl | mem
      · exact is.2.1
      · have there := (h.applied_iff key receipt).mpr ⟨step, mem, is⟩
        rw [same, fresh] at there
        cases there
    next apart =>
      rw [h.applied_iff key receipt]
      refine ⟨fun ⟨step, mem, is⟩ => ⟨step, List.mem_cons_of_mem _ mem, is⟩, fun ⟨step, mem, is⟩ => ?_⟩
      rcases List.mem_cons.mp mem with rfl | mem
      · exact absurd is.1.symm apart
      · exact ⟨step, mem, is⟩

/-- One consideration keeps the memory right. -/
theorem Tracks.next (h : Tracks cooldown r) (call : ActionRequest × Int) :
    Tracks cooldown (r.next T restart call) := by
  obtain ⟨request, now⟩ := call
  by_cases through : LetThrough r.adapter request now
  · have room := (h.letThrough_iff.mp through).2
    obtain ⟨n, calls, is⟩ := @consider_acts T σ restart r.executor r.adapter request now through
    simp only [CanaryRun.next, is]
    cases answerAt restart request.targetUnit r.executor (n - 1) with
    | none => exact h.held (by simp [ConsiderStep.attempt, FakeActionAdapter.settle]) (fun _ is => by cases is)
    | some result =>
      cases ok : result.ok with
      | true =>
        simp only [FakeActionAdapter.settle, ok, if_true]
        exact h.applied calls.pos room
      | false =>
        simp only [FakeActionAdapter.settle, ok, Bool.false_eq_true, if_false]
        exact h.failed calls.pos room
  · obtain ⟨⟨receipt, is, noop⟩, none, same, _⟩ :=
      @consider_held T σ restart r.executor r.adapter request now through
    simp only [CanaryRun.next, same]
    refine h.held (by simp [ConsiderStep.attempt, none]) fun receipt' is' => ?_
    rw [is] at is'
    cases is'
    simp [noop]

theorem canaryRun_tracks (calls : List (ActionRequest × Int)) :
    Tracks (max 0 cooldown) (canaryRun T restart cooldown s calls) := by
  unfold canaryRun
  generalize hstart : ({ adapter := .new cooldown, executor := s } : CanaryRun σ) = start
  have tracks : Tracks (max 0 cooldown) start := hstart ▸ tracks_new s
  clear hstart
  induction calls generalizing start with
  | nil => exact tracks
  | cons call later ih => exact ih _ (tracks.next call)

end

/-- Whatever the executor and the requests are, no key succeeds twice and attempts are a cooldown apart; the next request
gets to the executor if and only if its budget is positive and the history of the run leaves room for it, and the key of
an earlier success is answered with that success. -/
theorem canary_attempts (cooldownSeconds : Int) (s : σ) (calls : List (ActionRequest × Int)) (request : ActionRequest)
    (now : Int) :
    let r := canaryRun T restart cooldownSeconds s calls
    let c := r.adapter.consider T restart r.executor request now
    (r.history.Pairwise fun late early => early.done = true → early.key ≠ late.key) ∧
      (0 < cooldownSeconds → r.history.Pairwise fun late early => early.time + cooldownSeconds ≤ late.time) ∧
      (0 < c.attempts ↔
        0 < request.attemptBudget ∧ LeavesRoom (max 0 cooldownSeconds) r.history request.idempotencyKey now) ∧
      (0 < c.attempts → CallsOf restart request.targetUnit r.executor request.attemptBudget.toNat c.attempts) ∧
      c.executor = stateAfter restart request.targetUnit r.executor c.attempts ∧
      ((∃ receipt, c.receipt = some receipt ∧ receipt.status = "GO") ↔
        0 < c.attempts ∧ ∃ result, answerAt restart request.targetUnit r.executor (c.attempts - 1) = some result ∧
          result.ok = true) ∧
      ∀ step ∈ r.steps, ∀ receipt, step.receipt = some receipt → receipt.status = "GO" →
        step.request.idempotencyKey = request.idempotencyKey → c.receipt = some (replayReceipt T request receipt) := by
  intro r c
  have tracks : Tracks (max 0 cooldownSeconds) r := canaryRun_tracks calls
  have spaced : 0 < cooldownSeconds →
      r.history.Pairwise fun late early => early.time + cooldownSeconds ≤ late.time := by
    intro pos
    have same : max 0 cooldownSeconds = cooldownSeconds := by omega
    exact Lawful.spaced (same ▸ tracks.lawful) pos
  have replay : ∀ step ∈ r.steps, ∀ receipt, step.receipt = some receipt → receipt.status = "GO" →
      step.request.idempotencyKey = request.idempotencyKey → c.receipt = some (replayReceipt T request receipt) := by
    intro step mem receipt is go same
    have found := (tracks.applied_iff request.idempotencyKey receipt).mpr ⟨step, mem, same, is, go⟩
    simp only [c, FakeActionAdapter.consider, found]
  rw [← tracks.letThrough_iff]
  refine ⟨tracks.lawful.fresh, spaced, ?_⟩
  by_cases through : LetThrough r.adapter request now
  · obtain ⟨n, made, is⟩ := @consider_acts T σ restart r.executor r.adapter request now through
    have settled : c = _ := is
    have attempts : c.attempts = n := by rw [settled, settle_attempts]
    have executor : c.executor = stateAfter restart request.targetUnit r.executor c.attempts := by
      rw [attempts, settled, settle_executor]
    have pos := made.pos
    exact ⟨by simp [attempts, pos, through], fun _ => attempts ▸ made, executor, consider_go_iff, replay⟩
  · obtain ⟨_, none, _, same⟩ := @consider_held T σ restart r.executor r.adapter request now through
    have attempts : c.attempts = 0 := none
    have executor : c.executor = stateAfter restart request.targetUnit r.executor c.attempts := by
      rw [attempts]
      exact same
    exact ⟨by simp [attempts, through], fun pos => absurd pos (by omega), executor, consider_go_iff, replay⟩

end

end AgentflowHermes.Maintenance
