import AgentflowHermes.OutcomeEnvelope

namespace AgentflowHermes.PolicyFiles

/-- What `read_text` and `json.loads` raise. -/
inductive FileError
  | os
  | jsonDecode
  | unicodeDecode
  | tooManyDigits
  | recursion

/-- The exceptions that both loaders catch. -/
def FileError.caught : FileError → Bool
  | .os | .jsonDecode => true
  | _ => false

/-- A policy file, as far as it is read. -/
inductive PolicyFile
  | absent
  | unread (e : FileError)
  | parsed (value : Json)

inductive IntError
  | type
  | value
  | overflow

inductive LoadError
  | file (e : FileError)
  | notIterable
  | notHashable
  | number (e : IntError)

/-- The text runtime, with `int()` of a string and of a float. -/
structure PolicyText extends PyText where
  intStr : String → Except IntError Int
  intFloat : String → Except IntError Int

/-- A field of the file. -/
def PolicyFile.field (file : PolicyFile) (key : String) : Option Json :=
  match file with
  | .parsed (.obj raw) => raw.lookup key
  | _ => none

/-- `_strict_bool`. -/
def strictBool (default malformed : Bool) : Option Json → Bool
  | none => default
  | some (.bool b) => b
  | some _ => malformed

/-- `tuple(value or [])`. -/
def tupleOf (value : Option Json) : Except LoadError (List Json) :=
  match value.filter Json.truthy with
  | none => .ok []
  | some value => match value.iter? with
    | none => .error .notIterable
    | some items => .ok items

section

variable (T : PolicyText)

/-- `int(value)`. -/
def intOf : Json → Except IntError Int
  | .int n => .ok n
  | .bool b => .ok (if b then 1 else 0)
  | .float f => T.intFloat f
  | .str s => T.intStr s
  | _ => .error .type

/-! `live/policy.py` -/

/-- `LivePolicy`; what the tuples hold is not checked. -/
structure LivePolicy where
  liveDispatchEnabled : Bool := false
  activeWakeEnabled : Bool := false
  kanbanApplyEnabled : Bool := false
  allowedTargets : List Json := []
  canaryTargets : List Json := []
  maxSendsPerMin : Int := 3
  maxSendsPerTargetPerHour : Int := 10
  killSwitch : Bool := false

abbrev Environment := String → Option String

/-- `_env_bool`. -/
def envBool (env : Environment) (name : String) : Option Bool :=
  (env name).map fun value => ["1", "true"].contains (lowerText (PyText.strip T.isSpace value).toList)

/-- `int(raw.get(key, default))`. -/
def limitOf (raw : List (String × Json)) (key : String) (default : Int) : Except LoadError Int :=
  match raw.lookup key with
  | none => .ok default
  | some value => (intOf T value).mapError .number

/-- The policy of a file. -/
def filePolicy : PolicyFile → Except LoadError LivePolicy
  | .absent => .ok {}
  | .unread e => if e.caught then .ok {} else .error (.file e)
  | .parsed (.obj raw) => do
    let allowedTargets ← tupleOf (raw.lookup "allowed_targets")
    let canaryTargets ← tupleOf (raw.lookup "canary_targets")
    let maxSendsPerMin ← limitOf T raw "max_sends_per_min" 3
    let maxSendsPerTargetPerHour ← limitOf T raw "max_sends_per_target_per_hour" 10
    return {
      liveDispatchEnabled := strictBool false false (raw.lookup "live_dispatch_enabled")
      activeWakeEnabled := strictBool false false (raw.lookup "active_wake_enabled")
      kanbanApplyEnabled := strictBool false false (raw.lookup "kanban_apply_enabled")
      allowedTargets, canaryTargets, maxSendsPerMin, maxSendsPerTargetPerHour
      killSwitch := strictBool false true (raw.lookup "kill_switch") }
  | .parsed _ => .ok {}

/-- `load_policy`. -/
def loadPolicy (file : PolicyFile) (env : Environment) : Except LoadError LivePolicy := do
  let policy ← filePolicy T file
  return { policy with
    liveDispatchEnabled := (envBool T env "AGENTFLOW_LIVE_DISPATCH").getD policy.liveDispatchEnabled
    activeWakeEnabled := (envBool T env "AGENTFLOW_LIVE_WAKE").getD policy.activeWakeEnabled
    kanbanApplyEnabled := (envBool T env "AGENTFLOW_LIVE_KANBAN_APPLY").getD policy.kanbanApplyEnabled
    killSwitch := (envBool T env "AGENTFLOW_KILL_SWITCH").getD policy.killSwitch }

/-! `maintenance/policy.py` -/

structure MaintenancePolicy where
  mode : String := "request_only"
  maintenanceKillSwitch : Bool := false
  allowedServices : List String := []
  repoPath : String := ""
  error : String := ""
  maxCyclesPerDay : Int := 2
  minSecondsBetweenCycles : Int := 1800
  requireNoActiveWorkers : Bool := true
  requireReviewedSyncGo : Bool := true
  canaryBeforeCycle : Bool := true

def validModes : List String := ["disabled", "observe_only", "request_only", "guarded_cycle"]

/-- The mode of the file; what is not hashable is in no set. -/
def modeOf (value : Option Json) : Except LoadError String :=
  match value with
  | none => .ok "request_only"
  | some (.str s) => .ok (if validModes.contains s then s else "request_only")
  | some (.arr _) | some (.obj _) => .error .notHashable
  | some _ => .ok "request_only"

/-- `_strict_int`; `none` is the `_MalformedField`. -/
def strictInt (raw : List (String × Json)) (key : String) (default : Int) : Except LoadError (Option Int) :=
  match raw.lookup key with
  | none => .ok (some default)
  | some (.bool _) => .ok none
  | some value => match intOf T value with
    | .ok n => .ok (some n)
    | .error .overflow => .error (.number .overflow)
    | .error _ => .ok none

/-- `load_maintenance_policy`. -/
def loadMaintenancePolicy : PolicyFile → Except LoadError MaintenancePolicy
  | .absent => .ok {}
  | .unread e =>
    if e.caught then .ok { maintenanceKillSwitch := true, error := "malformed_policy" } else .error (.file e)
  | .parsed (.obj raw) => do
    let mode ← modeOf (raw.lookup "mode")
    let items ← tupleOf (raw.lookup "allowed_services")
    let services := items.filterMap fun item => match item with
      | .str s => some s
      | _ => none
    let repoPath := T.strOr (raw.lookup "repo_path") ""
    let malformed : MaintenancePolicy := {
      mode := if mode = "disabled" then "disabled" else "request_only"
      maintenanceKillSwitch := true
      allowedServices := services
      repoPath
      error := "malformed_numeric_field" }
    match ← strictInt T raw "max_cycles_per_day" 2 with
    | none => return malformed
    | some maxCyclesPerDay => match ← strictInt T raw "min_seconds_between_cycles" 1800 with
      | none => return malformed
      | some minSecondsBetweenCycles => return {
          mode
          maintenanceKillSwitch := strictBool false true (raw.lookup "maintenance_kill_switch")
          allowedServices := services
          repoPath, maxCyclesPerDay, minSecondsBetweenCycles
          requireNoActiveWorkers := strictBool true true (raw.lookup "require_no_active_workers")
          requireReviewedSyncGo := strictBool true true (raw.lookup "require_reviewed_sync_go")
          canaryBeforeCycle := strictBool true true (raw.lookup "canary_before_cycle") }
  | .parsed _ => .ok { maintenanceKillSwitch := true, error := "malformed_policy" }

/-! What the policies may permit. -/

/-- What `dispatch_live` asks of a policy before anything else. -/
def LivePolicy.Permits (p : LivePolicy) (target : String) : Prop :=
  p.killSwitch = false ∧ p.liveDispatchEnabled = true ∧ Json.str target ∈ p.allowedTargets ∧ Json.str target ∈ p.canaryTargets

def MaintenancePolicy.PermitsCycle (p : MaintenancePolicy) : Prop :=
  p.maintenanceKillSwitch = false ∧ p.mode = "guarded_cycle"

/-- A permission is a literal of the file, or the environment's. -/
def Granted (file : PolicyFile) (env : Environment) (field name : String) : Prop :=
  file.field field = some (.bool true) ∨ envBool T env name = some true

/-- A file that is not read, or a limit of it that `int()` refuses. -/
def Unparsed (file : PolicyFile) : Prop :=
  (∃ e, file = .unread e) ∨ ∃ key ∈ ["max_sends_per_min", "max_sends_per_target_per_hour"], ∃ value,
    file.field key = some value ∧ ∃ e, intOf T value = .error e

/-- A limit of maintenance that is no number. -/
def Malformed (value : Json) : Prop := (∃ b, value = .bool b) ∨ ∃ e, intOf T value = .error e

def MaintenanceUnparsed (file : PolicyFile) : Prop :=
  (∃ e, file = .unread e) ∨ ∃ key ∈ ["max_cycles_per_day", "min_seconds_between_cycles"], ∃ value,
    file.field key = some value ∧ Malformed T value

structure LivePolicy.Closed (file : PolicyFile) (env : Environment) (p : LivePolicy) : Prop where
  dispatch : p.liveDispatchEnabled = true → Granted T file env "live_dispatch_enabled" "AGENTFLOW_LIVE_DISPATCH"
  wake : p.activeWakeEnabled = true → Granted T file env "active_wake_enabled" "AGENTFLOW_LIVE_WAKE"
  kanban : p.kanbanApplyEnabled = true → Granted T file env "kanban_apply_enabled" "AGENTFLOW_LIVE_KANBAN_APPLY"
  killed : ∀ value, file.field "kill_switch" = some value → value ≠ .bool false → env "AGENTFLOW_KILL_SWITCH" = none →
    p.killSwitch = true
  targets : ∀ target ∈ p.allowedTargets, ∃ items s, file.field "allowed_targets" = some (.arr items) ∧ target = .str s ∧
    Json.str s ∈ items
  unparsed : Unparsed T file → ∀ target, ¬p.Permits target

structure MaintenancePolicy.Closed (file : PolicyFile) (p : MaintenancePolicy) : Prop where
  killed : ∀ value, file.field "maintenance_kill_switch" = some value → value ≠ .bool false → p.maintenanceKillSwitch = true
  services : ∀ service ∈ p.allowedServices, ∃ items, file.field "allowed_services" = some (.arr items) ∧
    Json.str service ∈ items
  unparsed : MaintenanceUnparsed T file → ¬p.PermitsCycle

/-- A policy file that is loaded, and loaded closed. -/
def LiveFailsClosed (file : PolicyFile) (env : Environment) : Prop :=
  ∃ policy, loadPolicy T file env = .ok policy ∧ policy.Closed T file env

def MaintenanceFailsClosed (file : PolicyFile) : Prop :=
  ∃ policy, loadMaintenancePolicy T file = .ok policy ∧ policy.Closed T file

/-- What a policy file has to be for it. -/
structure LiveTame (file : PolicyFile) : Prop where
  readable : ∀ e, file = .unread e → e.caught = true
  allowed : ∀ value, file.field "allowed_targets" = some value → value.truthy = true →
    ∃ items, value = .arr items ∧ ∀ item ∈ items, ∃ s, item = .str s
  canary : ∀ value, file.field "canary_targets" = some value → value.truthy = true → value.iter? ≠ none
  limits : ∀ key ∈ ["max_sends_per_min", "max_sends_per_target_per_hour"], ∀ value, file.field key = some value →
    ∃ n, intOf T value = .ok n

structure MaintenanceTame (file : PolicyFile) : Prop where
  readable : ∀ e, file = .unread e → e.caught = true
  mode : ∀ value, file.field "mode" = some value → (∀ items, value ≠ .arr items) ∧ ∀ fields, value ≠ .obj fields
  services : ∀ value, file.field "allowed_services" = some value → value.truthy = true → ∃ items, value = .arr items
  cycles : ∀ value, file.field "max_cycles_per_day" = some value → intOf T value ≠ .error .overflow
  seconds : ∀ value, file.field "min_seconds_between_cycles" = some value → intOf T value = .error .overflow →
    ∃ first, file.field "max_cycles_per_day" = some first ∧ Malformed T first

end

section

variable {T : PolicyText} {file : PolicyFile} {env : Environment}

theorem tupleOf_ok {value : Option Json} {items : List Json} (tuple : tupleOf value = .ok items) :
    items = [] ∨ ∃ v, value = some v ∧ v.truthy = true ∧ v.iter? = some items := by
  unfold tupleOf at tuple
  cases kept : value.filter Json.truthy with
  | none =>
    rw [kept] at tuple
    cases tuple
    exact .inl rfl
  | some v =>
    rw [kept] at tuple
    obtain ⟨given, truthy⟩ := Option.filter_eq_some_iff.mp kept
    dsimp only at tuple
    split at tuple
    · cases tuple
    next items' iter =>
      cases tuple
      exact .inr ⟨v, given, truthy, iter⟩

theorem tupleOf_truthy {value : Json} {items : List Json} (truthy : value.truthy = true)
    (tuple : tupleOf (some value) = .ok items) : value.iter? = some items := by
  unfold tupleOf at tuple
  rw [Option.filter_some, if_pos truthy] at tuple
  dsimp only at tuple
  split at tuple
  · cases tuple
  next items' iter =>
    cases tuple
    exact iter

theorem tupleOf_iter {value : Option Json} (iter : ∀ v, value = some v → v.truthy = true → v.iter? ≠ none) :
    ∃ items, tupleOf value = .ok items := by
  unfold tupleOf
  cases kept : value.filter Json.truthy with
  | none => exact ⟨[], rfl⟩
  | some v =>
    obtain ⟨given, truthy⟩ := Option.filter_eq_some_iff.mp kept
    obtain ⟨items, found⟩ := Option.ne_none_iff_exists'.mp (iter v given truthy)
    dsimp only
    rw [found]
    exact ⟨items, rfl⟩

theorem iter_given {value : Json} {items : List Json} (truthy : value.truthy = true) (iter : value.iter? = some items) :
    items ≠ [] := by
  rintro rfl
  cases value with
  | arr xs =>
    obtain rfl : xs = [] := Option.some.inj iter
    cases truthy
  | obj fields =>
    obtain rfl := List.map_eq_nil_iff.mp (Option.some.inj iter)
    cases truthy
  | str s =>
    have empty : s = "" := String.toList_eq_nil_iff.mp (List.map_eq_nil_iff.mp (Option.some.inj iter))
    rw [empty] at truthy
    cases truthy
  | null | bool | int | float => cases iter

theorem strictBool_false {value : Option Json} (on : strictBool false false value = true) : value = some (.bool true) := by
  unfold strictBool at on
  split at on
  · cases on
  · rw [on]
  · cases on

theorem limitOf_ok {raw : List (String × Json)} {key : String} {default n : Int} (limit : limitOf T raw key default = .ok n) :
    ∀ value, raw.lookup key = some value → ∃ n, intOf T value = .ok n := by
  intro value given
  unfold limitOf at limit
  rw [given] at limit
  cases parsed : intOf T value with
  | error e =>
    dsimp only at limit
    rw [parsed] at limit
    cases limit
  | ok n => exact ⟨n, rfl⟩

theorem limitOf_parsed {raw : List (String × Json)} {key : String} {default : Int}
    (parsed : ∀ value, raw.lookup key = some value → ∃ n, intOf T value = .ok n) : ∃ n, limitOf T raw key default = .ok n := by
  unfold limitOf
  cases given : raw.lookup key with
  | none => exact ⟨default, rfl⟩
  | some value =>
    obtain ⟨n, number⟩ := parsed value given
    dsimp only
    rw [number]
    exact ⟨n, rfl⟩

/-- What `load_policy` makes of a file that it loads. -/
structure Loaded (T : PolicyText) (file : PolicyFile) (p : LivePolicy) : Prop where
  readable : ∀ e, file = .unread e → e.caught = true
  dispatch : p.liveDispatchEnabled = strictBool false false (file.field "live_dispatch_enabled")
  wake : p.activeWakeEnabled = strictBool false false (file.field "active_wake_enabled")
  kanban : p.kanbanApplyEnabled = strictBool false false (file.field "kanban_apply_enabled")
  killed : p.killSwitch = strictBool false true (file.field "kill_switch")
  allowed : tupleOf (file.field "allowed_targets") = .ok p.allowedTargets
  canary : tupleOf (file.field "canary_targets") = .ok p.canaryTargets
  limits : ∀ key ∈ ["max_sends_per_min", "max_sends_per_target_per_hour"], ∀ value, file.field key = some value →
    ∃ n, intOf T value = .ok n

theorem filePolicy_loaded {p : LivePolicy} (loaded : filePolicy T file = .ok p) : Loaded T file p := by
  have bare : ∀ file : PolicyFile, (∀ key, file.field key = none) → (∀ e, file = .unread e → e.caught = true) →
      Loaded T file {} := by
    intro file none' readable
    refine ⟨readable, ?_, ?_, ?_, ?_, ?_, ?_, fun key _ value given => ?_⟩
    all_goals first
      | rw [none']
        rfl
      | rw [none'] at given
        cases given
  unfold filePolicy at loaded
  split at loaded
  · cases loaded
    exact bare .absent (fun _ => rfl) fun _ none' => nomatch none'
  next e =>
    split at loaded
    next caught =>
      cases loaded
      refine bare (.unread e) (fun _ => rfl) fun e' same => ?_
      cases same
      exact caught
    · cases loaded
  next raw =>
    obtain ⟨allowed, first, loaded⟩ := bind_ok' loaded
    obtain ⟨canary, second, loaded⟩ := bind_ok' loaded
    obtain ⟨perMin, third, loaded⟩ := bind_ok' loaded
    obtain ⟨perTarget, fourth, loaded⟩ := bind_ok' loaded
    cases loaded
    refine ⟨fun _ none' => (nomatch none'), rfl, rfl, rfl, rfl, first, second, fun key known value given => ?_⟩
    simp only [List.mem_cons, List.not_mem_nil, or_false] at known
    rcases known with rfl | rfl
    · exact limitOf_ok third value given
    · exact limitOf_ok fourth value given
  next value other =>
    cases loaded
    refine bare (.parsed value) (fun key => ?_) fun _ none' => nomatch none'
    cases value with
    | obj raw => exact absurd rfl (other raw)
    | null | bool | int | float | str | arr => rfl

/-- A file whose limits are numbers and whose tuples can be gone through is loaded. -/
theorem filePolicy_tame (tame : LiveTame T file) : ∃ p, filePolicy T file = .ok p := by
  unfold filePolicy
  split
  · exact ⟨{}, rfl⟩
  next e =>
    rw [if_pos (tame.readable e rfl)]
    exact ⟨{}, rfl⟩
  next raw =>
    obtain ⟨allowed, first⟩ := @tupleOf_iter (raw.lookup "allowed_targets") fun v given truthy => by
      obtain ⟨items, rfl, _⟩ := tame.allowed v given truthy
      exact Option.some_ne_none items
    obtain ⟨canary, second⟩ := @tupleOf_iter (raw.lookup "canary_targets") fun v given truthy =>
      tame.canary v given truthy
    obtain ⟨perMin, third⟩ := @limitOf_parsed T raw "max_sends_per_min" 3 fun value given =>
      tame.limits _ List.mem_cons_self value given
    obtain ⟨perTarget, fourth⟩ := @limitOf_parsed T raw "max_sends_per_target_per_hour" 10 fun value given =>
      tame.limits _ (List.mem_cons_of_mem _ List.mem_cons_self) value given
    rw [first, second, third, fourth]
    exact ⟨_, rfl⟩
  · exact ⟨{}, rfl⟩

/-- A flag that the file and the environment decide is granted by one of them. -/
theorem granted {field name : String} (on : (envBool T env name).getD (strictBool false false (file.field field)) = true) :
    Granted T file env field name := by
  cases override : envBool T env name with
  | none =>
    rw [override] at on
    exact .inl (strictBool_false on)
  | some b =>
    rw [override] at on
    exact .inr (on ▸ override)

/-- The live policy fails closed exactly for the files that are tame. -/
theorem live_fails_closed_iff : LiveFailsClosed T file env ↔ LiveTame T file := by
  constructor
  · rintro ⟨policy, loaded, closed⟩
    obtain ⟨p, read, same⟩ := bind_ok' loaded
    have file' := filePolicy_loaded read
    cases same
    refine ⟨file'.readable, fun value given truthy => ?_, fun value given truthy none' => ?_, file'.limits⟩
    · have allowed := file'.allowed
      rw [given] at allowed
      have iter := tupleOf_truthy truthy allowed
      obtain ⟨first, others, nonempty⟩ := List.exists_cons_of_ne_nil (iter_given truthy iter)
      obtain ⟨items, _, listed, _⟩ := closed.targets first (nonempty ▸ List.mem_cons_self)
      rw [given] at listed
      obtain rfl : value = .arr items := Option.some.inj listed
      have same : items = p.allowedTargets := Option.some.inj iter
      refine ⟨items, rfl, fun item mem => ?_⟩
      obtain ⟨_, s, _, text, _⟩ := closed.targets item (same ▸ mem)
      exact ⟨s, text⟩
    · have canary := file'.canary
      rw [given] at canary
      have iter := tupleOf_truthy truthy canary
      rw [none'] at iter
      cases iter
  · intro tame
    obtain ⟨p, read⟩ := filePolicy_tame tame
    have file' := filePolicy_loaded read
    refine ⟨_, by rw [loadPolicy, read]; rfl, fun on => granted (file'.dispatch ▸ on), fun on => granted (file'.wake ▸ on),
      fun on => granted (file'.kanban ▸ on), fun value given other unset => ?_, fun target mem => ?_, fun unparsed target may => ?_⟩
    · have kept : envBool T env "AGENTFLOW_KILL_SWITCH" = none := by rw [envBool, unset, Option.map_none]
      dsimp only
      rw [kept, Option.getD_none, file'.killed, given]
      cases value with
      | bool b => cases b with
        | true => rfl
        | false => exact absurd rfl other
      | null | int | float | str | arr | obj => rfl
    · rcases tupleOf_ok file'.allowed with empty | ⟨value, given, truthy, iter⟩
      · have mem : target ∈ p.allowedTargets := mem
        rw [empty] at mem
        cases mem
      · obtain ⟨items, rfl, texts⟩ := tame.allowed value given truthy
        have same : items = p.allowedTargets := Option.some.inj iter
        have mem : target ∈ items := same ▸ mem
        obtain ⟨s, rfl⟩ := texts target mem
        exact ⟨items, s, given, rfl, mem⟩
    · rcases unparsed with ⟨e, rfl⟩ | ⟨key, known, value, given, e, refused⟩
      · have none' : p.allowedTargets = [] := (Except.ok.inj file'.allowed).symm
        have mem : Json.str target ∈ p.allowedTargets := may.2.2.1
        rw [none'] at mem
        cases mem
      · obtain ⟨n, number⟩ := file'.limits key known value given
        rw [refused] at number
        cases number

/-- What `_strict_int` answers of a limit: it is malformed, or a number, or too large to be either. -/
theorem strictInt_cases (T : PolicyText) (raw : List (String × Json)) (key : String) (default : Int) :
    (strictInt T raw key default = .ok none ∧ ∃ value, raw.lookup key = some value ∧ Malformed T value ∧
      intOf T value ≠ .error .overflow) ∨
    (∃ n, strictInt T raw key default = .ok (some n) ∧ ∀ value, raw.lookup key = some value → ¬Malformed T value) ∨
    (∃ e, strictInt T raw key default = .error e) ∧ ∃ value, raw.lookup key = some value ∧
      intOf T value = .error .overflow := by
  unfold strictInt
  cases given : raw.lookup key with
  | none => exact .inr (.inl ⟨default, rfl, fun _ none' => nomatch none'⟩)
  | some value =>
    split
    next none' => cases none'
    next b same =>
      cases same
      exact .inl ⟨rfl, _, rfl, .inl ⟨b, rfl⟩, fun overflow => nomatch overflow⟩
    next value' other same =>
      cases same
      cases parsed : intOf T value with
      | ok n =>
        refine .inr (.inl ⟨n, rfl, ?_⟩)
        rintro _ same (⟨b, rfl⟩ | ⟨e, refused⟩)
        · exact other b (Option.some.inj same)
        · cases same
          rw [parsed] at refused
          cases refused
      | error e => cases e with
        | overflow => exact .inr (.inr ⟨⟨_, rfl⟩, value, rfl, parsed⟩)
        | type => exact .inl ⟨rfl, value, rfl, .inr ⟨_, parsed⟩, by rw [parsed]; exact fun same => nomatch same⟩
        | value => exact .inl ⟨rfl, value, rfl, .inr ⟨_, parsed⟩, by rw [parsed]; exact fun same => nomatch same⟩

/-- What `load_maintenance_policy` makes of a file that it loads. -/
structure MaintenanceLoaded (T : PolicyText) (file : PolicyFile) (p : MaintenancePolicy) : Prop where
  readable : ∀ e, file = .unread e → e.caught = true
  mode : ∃ mode, modeOf (file.field "mode") = .ok mode
  services : ∃ items, tupleOf (file.field "allowed_services") = .ok items ∧
    ∀ service, service ∈ p.allowedServices ↔ Json.str service ∈ items
  killed : p.maintenanceKillSwitch = true ∨
    p.maintenanceKillSwitch = strictBool false true (file.field "maintenance_kill_switch")
  cycles : ∀ value, file.field "max_cycles_per_day" = some value → intOf T value ≠ .error .overflow
  seconds : ∀ value, file.field "min_seconds_between_cycles" = some value → intOf T value = .error .overflow →
    ∃ first, file.field "max_cycles_per_day" = some first ∧ Malformed T first
  unparsed : MaintenanceUnparsed T file → p.maintenanceKillSwitch = true

theorem maintenance_loaded {p : MaintenancePolicy} (loaded : loadMaintenancePolicy T file = .ok p) :
    MaintenanceLoaded T file p := by
  have bare : ∀ (file : PolicyFile) (p : MaintenancePolicy), (∀ key, file.field key = none) →
      (∀ e, file = .unread e → e.caught = true ∧ p.maintenanceKillSwitch = true) → p.allowedServices = [] →
      (p.maintenanceKillSwitch = true ∨ p.maintenanceKillSwitch = false) → MaintenanceLoaded T file p := by
    intro file p none' readable empty killed
    refine ⟨fun e unread => (readable e unread).1, ⟨"request_only", by rw [none']; rfl⟩, ⟨[], by rw [none']; rfl, ?_⟩, ?_, ?_, ?_, ?_⟩
    · rw [empty]
      exact fun service => iff_of_false List.not_mem_nil List.not_mem_nil
    · rw [none']
      exact killed
    · intro value given
      rw [none'] at given
      cases given
    · intro value given
      rw [none'] at given
      cases given
    · rintro (⟨e, unread⟩ | ⟨key, _, value, given, _⟩)
      · exact (readable e unread).2
      · rw [none'] at given
        cases given
  unfold loadMaintenancePolicy at loaded
  split at loaded
  · cases loaded
    exact bare .absent {} (fun _ => rfl) (fun _ none' => nomatch none') rfl (.inr rfl)
  next e =>
    split at loaded
    next caught =>
      cases loaded
      refine bare (.unread e) _ (fun _ => rfl) (fun e' same => ?_) rfl (.inl rfl)
      cases same
      exact ⟨caught, rfl⟩
    · cases loaded
  next raw =>
    obtain ⟨mode, hashable, loaded⟩ := bind_ok' loaded
    obtain ⟨items, tuple, loaded⟩ := bind_ok' loaded
    have texts : ∀ service, service ∈ items.filterMap (fun item => match item with
        | .str s => some s
        | _ => none) ↔ Json.str service ∈ items := by
      intro service
      rw [List.mem_filterMap]
      constructor
      · rintro ⟨item, mem, same⟩
        split at same
        · cases same
          exact mem
        · cases same
      · exact fun mem => ⟨_, mem, rfl⟩
    have readable : ∀ e, PolicyFile.parsed (.obj raw) = .unread e → e.caught = true := fun _ none' => nomatch none'
    dsimp only at loaded
    rcases strictInt_cases T raw "max_cycles_per_day" 2 with
      ⟨malformed, first, given, bad, small⟩ | ⟨cycles, number, fine⟩ | ⟨⟨e, refused⟩, _⟩
    · rw [malformed] at loaded
      cases loaded
      refine ⟨readable, ⟨mode, hashable⟩, ⟨items, tuple, texts⟩, .inl rfl, fun value given' => ?_, fun _ _ _ => ⟨first, given, bad⟩,
        fun _ => rfl⟩
      rw [Option.some.inj (given'.symm.trans given)]
      exact small
    · rw [number] at loaded
      have notLarge : ∀ value, raw.lookup "max_cycles_per_day" = some value → intOf T value ≠ .error .overflow :=
        fun value given large => fine value given (.inr ⟨_, large⟩)
      rcases strictInt_cases T raw "min_seconds_between_cycles" 1800 with
        ⟨malformed, second, given, bad, small⟩ | ⟨seconds, number', fine'⟩ | ⟨⟨e, refused⟩, _⟩
      · dsimp only [bind, Except.bind] at loaded
        rw [malformed] at loaded
        cases loaded
        refine ⟨readable, ⟨mode, hashable⟩, ⟨items, tuple, texts⟩, .inl rfl, notLarge, fun value given' large => ?_, fun _ => rfl⟩
        rw [Option.some.inj (given'.symm.trans given)] at large
        exact absurd large small
      · dsimp only [bind, Except.bind] at loaded
        rw [number'] at loaded
        cases loaded
        refine ⟨readable, ⟨mode, hashable⟩, ⟨items, tuple, texts⟩, .inr rfl, notLarge,
          fun value given' large => absurd (.inr ⟨_, large⟩) (fine' value given'), ?_⟩
        rintro (⟨e, unread⟩ | ⟨key, known, value, given, bad⟩)
        · cases unread
        · simp only [List.mem_cons, List.not_mem_nil, or_false] at known
          rcases known with rfl | rfl
          · exact absurd bad (fine value given)
          · exact absurd bad (fine' value given)
      · dsimp only [bind, Except.bind] at loaded
        rw [refused] at loaded
        cases loaded
    · rw [refused] at loaded
      cases loaded
  next value other =>
    cases loaded
    refine bare (.parsed value) _ (fun key => ?_) (fun _ none' => nomatch none') rfl (.inl rfl)
    cases value with
    | obj raw => exact absurd rfl (other raw)
    | null | bool | int | float | str | arr => rfl

theorem modeOf_hashable {value : Option Json}
    (hashable : ∀ v, value = some v → (∀ items, v ≠ .arr items) ∧ ∀ fields, v ≠ .obj fields) :
    ∃ mode, modeOf value = .ok mode := by
  cases value with
  | none => exact ⟨_, rfl⟩
  | some v => cases v with
    | arr items => exact absurd rfl ((hashable _ rfl).1 items)
    | obj fields => exact absurd rfl ((hashable _ rfl).2 fields)
    | null | bool | int | float | str => exact ⟨_, rfl⟩

theorem maintenance_tame (tame : MaintenanceTame T file) : ∃ p, loadMaintenancePolicy T file = .ok p := by
  unfold loadMaintenancePolicy
  split
  · exact ⟨_, rfl⟩
  next e =>
    rw [if_pos (tame.readable e rfl)]
    exact ⟨_, rfl⟩
  next raw =>
    obtain ⟨mode, hashable⟩ := @modeOf_hashable (raw.lookup "mode") tame.mode
    obtain ⟨items, tuple⟩ := @tupleOf_iter (raw.lookup "allowed_services") fun v given truthy => by
      obtain ⟨items, rfl⟩ := tame.services v given truthy
      exact Option.some_ne_none items
    rw [hashable, tuple]
    dsimp only [bind, Except.bind]
    rcases strictInt_cases T raw "max_cycles_per_day" 2 with ⟨malformed, _⟩ | ⟨cycles, number, fine⟩ | ⟨_, value, given, large⟩
    · rw [malformed]
      exact ⟨_, rfl⟩
    · rw [number]
      dsimp only
      rcases strictInt_cases T raw "min_seconds_between_cycles" 1800 with
        ⟨malformed, _⟩ | ⟨seconds, number', _⟩ | ⟨_, value, given, large⟩
      · rw [malformed]
        exact ⟨_, rfl⟩
      · rw [number']
        exact ⟨_, rfl⟩
      · obtain ⟨first, given', bad⟩ := tame.seconds value given large
        exact absurd bad (fine first given')
    · exact absurd large (tame.cycles value given)
  · exact ⟨_, rfl⟩

/-- The maintenance policy fails closed exactly for the files that are tame. -/
theorem maintenance_fails_closed_iff : MaintenanceFailsClosed T file ↔ MaintenanceTame T file := by
  constructor
  · rintro ⟨p, loaded, closed⟩
    have file' := maintenance_loaded loaded
    refine ⟨file'.readable, fun value given => ?_, fun value given truthy => ?_, file'.cycles, file'.seconds⟩
    · obtain ⟨mode, hashable⟩ := file'.mode
      rw [given] at hashable
      refine ⟨?_, ?_⟩
      · rintro items rfl
        cases hashable
      · rintro fields rfl
        cases hashable
    · obtain ⟨items, tuple, texts⟩ := file'.services
      rw [given] at tuple
      have iter := tupleOf_truthy truthy tuple
      obtain ⟨first, others, nonempty⟩ := List.exists_cons_of_ne_nil (iter_given truthy iter)
      have listed : ∀ service, Json.str service ∈ items → ∃ items, value = .arr items := by
        intro service mem
        obtain ⟨listed, given', _⟩ := closed.services service ((texts service).mpr mem)
        exact ⟨listed, Option.some.inj (given.symm.trans given')⟩
      cases value with
      | arr items => exact ⟨items, rfl⟩
      | obj fields =>
        cases iter
        obtain ⟨f, _, rfl⟩ := List.mem_map.mp (nonempty ▸ List.mem_cons_self : first ∈ fields.map fun f => Json.str f.1)
        exact listed f.1 (nonempty ▸ List.mem_cons_self)
      | str s =>
        cases iter
        obtain ⟨c, _, rfl⟩ := List.mem_map.mp
          (nonempty ▸ List.mem_cons_self : first ∈ s.toList.map fun c => Json.str (String.singleton c))
        exact listed _ (nonempty ▸ List.mem_cons_self)
      | null | bool | int | float => cases iter
  · intro tame
    obtain ⟨p, loaded⟩ := maintenance_tame tame
    have file' := maintenance_loaded loaded
    refine ⟨p, loaded, fun value given other => ?_, fun service mem => ?_, fun unparsed permits => ?_⟩
    · rcases file'.killed with on | on
      · exact on
      · rw [on, given]
        cases value with
        | bool b => cases b with
          | true => rfl
          | false => exact absurd rfl other
        | null | int | float | str | arr | obj => rfl
    · obtain ⟨items, tuple, texts⟩ := file'.services
      have mem := (texts service).mp mem
      rcases tupleOf_ok tuple with rfl | ⟨value, given, truthy, iter⟩
      · cases mem
      · obtain ⟨listed, rfl⟩ := tame.services value given truthy
        cases iter
        exact ⟨items, given, mem⟩
    · have off := permits.1
      rw [file'.unparsed unparsed] at off
      cases off

/-- Both policies fail closed, for the files for which they do. -/
theorem policies_fail_closed_iff (T : PolicyText) :
    (∀ file env, LiveFailsClosed T file env ↔ LiveTame T file) ∧ ∀ file, MaintenanceFailsClosed T file ↔ MaintenanceTame T file :=
  ⟨fun _ _ => live_fails_closed_iff, fun _ => maintenance_fails_closed_iff⟩

end

/-- A runtime that reads no number of a text. -/
def asciiPolicyText : PolicyText where
  toPyText := asciiText
  intStr _ := .error .value
  intFloat _ := .error .overflow

/-- A limit that is null makes the loader raise. -/
theorem null_limit_raises : ¬((∀ file env, LiveFailsClosed asciiPolicyText file env) ∧
    ∀ file, MaintenanceFailsClosed asciiPolicyText file) := by
  rintro ⟨live, _⟩
  obtain ⟨policy, loaded, _⟩ := live (.parsed (.obj [("max_sends_per_min", .null)])) fun _ => none
  cases loaded

end AgentflowHermes.PolicyFiles
