import AgentflowHermes.Dicts
import AgentflowHermes.MaintenanceRunner
import AgentflowHermes.PolicyFiles
import AgentflowHermes.ShortTexts

namespace AgentflowHermes.Maintenance

open PolicyFiles

abbrev PolicyDict := List (String × Json)

/-- What a host binding is made of: the override in the environment, and the name of the host with the directory of
the configuration. -/
structure Machine where
  override : Option String := none
  hostname : String
  root : String

/-- `default_maintenance_config`. -/
def defaultMaintenanceConfig : PolicyDict :=
  [("mode", .str "request_only"), ("maintenance_kill_switch", .bool false), ("allowed_services", .arr []),
    ("trust_grants", .arr []), ("requested_action", .str "observe")]

/-- `f"{t:.6f}"` of a time. -/
def sixDigits (t : Int) : String :=
  let micros := toString (t.toNat % 1000000)
  toString (t.toNat / 1000000) ++ "." ++ String.ofList (List.replicate (6 - micros.length) '0') ++ micros

section

variable (T : PyText)

/-- `validate_config_path`. -/
def validateConfigPath (path : String) : Bool :=
  !(path.toList.any fun c => T.isSpace c || c == '\x00') && "/".toList.isPrefixOf path.toList

/-- `host_binding` for a configuration file. -/
def hostBinding (m : Machine) : String :=
  match m.override.filter (· ≠ "") with
  | some id => safeJobField T "host_id" id
  | none => String.ofList ((sha256Hex (m.hostname ++ ":" ++ m.root)).toList.take 16)

/-- `_grant_id`. -/
def grantId (unit hostId : String) (created expires : Int) : String :=
  let digest := sha256Hex (unit ++ ":" ++ hostId ++ ":" ++ sixDigits created ++ ":" ++ sixDigits expires)
  String.ofList ("grant_".toList ++ digest.toList.take 16)

/-- A grant that `build_trust_grant` builds; a time is a float by its text. -/
structure TrustGrant where
  unit : String
  hostId : String
  createdAt : String
  expiresAt : String
  provenance : Option Json
  created : Int
  expires : Int
  valid : validateUnit T (.str unit) = some unit
  starts : strictFloat T (.float createdAt) = some created
  ends : strictFloat T (.float expiresAt) = some expires
  later : created < expires

variable {T}

/-- The record of a grant. -/
def TrustGrant.record (g : TrustGrant T) : Json :=
  .obj [("grant_id", .str (grantId g.unit g.hostId g.created g.expires)), ("mode", .str trustMode),
    ("action", .str trustScope), ("scope", .str trustScope), ("gateway_unit", .str g.unit),
    ("allowed_services", .arr [.str g.unit]), ("host_id", .str g.hostId), ("created_at", .float g.createdAt),
    ("expires_at", .float g.expiresAt), ("provenance", .str (sanitizeProvenance T g.provenance))]

theorem validateUnit_eq_some {value : Json} {unit : String} (h : validateUnit T value = some unit) :
    unit = shortText T (text T value) ∧ unit ≠ "" ∧ (unit.toList.any fun c => !safeUnitChar c) = false ∧
      ".service".toList.isSuffixOf unit.toList = true := by
  unfold validateUnit at h
  dsimp only at h
  split at h
  · cases h
  next named =>
    split at h
    · cases h
    next service =>
      cases h
      simp only [Bool.or_eq_true, decide_eq_true_eq, not_or, Bool.not_eq_true] at named
      exact ⟨rfl, named.1, named.2, by simpa using service⟩

/-- A unit has no white space in it, so that it is shortened to itself. -/
theorem shortText_unit {value : Json} {unit : String} (h : validateUnit T value = some unit) :
    shortText T unit = unit := by
  obtain ⟨made, _, safe, _⟩ := validateUnit_eq_some h
  refine shortText_plain (fun c mem => ?_) (made ▸ shortText_length)
  have kept : safeUnitChar c = true := by simpa using none_of safe mem
  rw [made, shortText_eq, String.toList_ofList] at mem
  rcases mem_intercalate (List.take_subset _ _ mem) with rfl | ⟨w, word, inside⟩
  · exact absurd kept (by decide)
  · exact (wordsOf_solid _).parted w word c inside

theorem validateUnit_again {value : Json} {unit : String} (h : validateUnit T value = some unit) :
    validateUnit T (.str unit) = some unit := by
  obtain ⟨_, named, safe, service⟩ := validateUnit_eq_some h
  have same : shortText T (text T (.str unit)) = unit := by
    rw [show text T (.str unit) = unit from T.str_str unit]
    exact shortText_unit h
  unfold validateUnit
  dsimp only
  rw [same, safe, service]
  simp [named]

variable (T)

/-- `build_trust_grant`; the error is the code of the `TrustGrantError`. -/
def buildTrustGrant (gatewayUnit hostId createdAt expiresAt provenance : String) : Except String (TrustGrant T) :=
  match valid : validateUnit T (.str gatewayUnit) with
  | none => .error "invalid_gateway_unit"
  | some unit =>
    match starts : strictFloat T (.float createdAt) with
    | none => .error "invalid_created_at"
    | some created =>
      match ends : strictFloat T (.float expiresAt) with
      | none => .error "invalid_expiry"
      | some expires =>
        if late : expires ≤ created then .error "expiry_not_after_created"
        else .ok {
          unit, hostId := safeJobField T "host_id" hostId, createdAt, expiresAt, provenance := some (.str provenance)
          created, expires, valid := validateUnit_again valid, starts, ends, later := Int.not_le.mp late }

/-- What stops a command: the code of its refusal, or an exception that it does not catch. -/
inductive TrustStop
  | refused (code : String)
  | raised (e : LoadError)

/-- `_load_policy_for_trust`. -/
def loadPolicyForTrust : PolicyFile → Except TrustStop PolicyDict
  | .absent => .ok defaultMaintenanceConfig
  | .parsed (.obj raw) => .ok raw
  | .unread .recursion => .error (.raised (.file .recursion))
  | .unread _ | .parsed _ => .error (.refused "malformed_grant_file")

/-- What every command does first. -/
def openPolicy (path : String) (file : PolicyFile) : Except TrustStop PolicyDict :=
  if validateConfigPath T path then loadPolicyForTrust file else .error (.refused "invalid_config_path")

/-- `_safe_result`. -/
def safeResult (payload : PolicyDict) : Json :=
  .obj (payload ++ [("policy_ref", .str "maintenance.json"), ("systemctl_calls", .arr [])])

def trustRefusal (code : String) (dryRun : Bool) : Json :=
  safeResult [("success", .bool false), ("error", .str code), ("dry_run", .bool dryRun), ("wrote_file", .bool false)]

/-- `_grant_summary`. -/
def grantSummary (grant : Json) : PolicyDict :=
  [("grant_id", .str ""), ("mode", .str ""), ("action", .str ""), ("scope", .str ""), ("gateway_unit", .str ""),
    ("allowed_services", .arr []), ("host_id", .str ""), ("created_at", .float "0.0"), ("expires_at", .float "0.0"),
    ("provenance", .str "")].map fun entry => (entry.1, (grant.get? entry.1).getD entry.2)

/-- What a command leaves in the file and reports, before `safe_event_payload`. -/
abbrev TrustOutcome := Except LoadError (PolicyFile × Json)

/-- A refusal leaves the file as it is. -/
def settleStop (file : PolicyFile) (dryRun : Bool) : TrustStop → TrustOutcome
  | .refused code => .ok (file, trustRefusal code dryRun)
  | .raised e => .error e

/-- A grant of the service cycle of a unit. -/
def cycleGrantOf (unit : String) (grant : Json) : Bool :=
  grant.isDict && isText (field grant "gateway_unit") unit && isText (field grant "scope") trustScope

/-- The policy that a grant is written into, with the other records that are kept. -/
def grantedPolicy (policy : PolicyDict) (unit : String) (grants : List Json) : PolicyDict :=
  let policy := Dicts.set "mode" (.str trustMode) policy
  let policy := Dicts.set "requested_action" (.str trustScope) policy
  let policy := Dicts.set "target_unit" (.str unit) policy
  let policy := Dicts.set "allowed_services" (.arr [.str unit]) policy
  let policy := Dicts.set "trust_grants" (.arr grants) policy
  if (policy.lookup "maintenance_kill_switch").isNone then Dicts.set "maintenance_kill_switch" (.bool false) policy
  else policy

/-- `create_trust_grant`. -/
def createTrustGrant (m : Machine) (path : String) (file : PolicyFile)
    (gatewayUnit expiresAt provenance now : String) (write : Bool) : TrustOutcome :=
  let built : Except TrustStop (PolicyDict × TrustGrant T) := do
    let policy ← openPolicy T path file
    let grant ← (buildTrustGrant T gatewayUnit (hostBinding T m) now expiresAt provenance).mapError .refused
    return (policy, grant)
  match built with
  | .error stop => settleStop file (!write) stop
  | .ok (policy, grant) =>
    match ((policy.lookup "trust_grants").getD (.arr [])).iter? with
    | none => .error .notIterable
    | some entries =>
      let grants := (entries.filter fun g => g.isDict && !cycleGrantOf grant.unit g) ++ [grant.record]
      let policy := grantedPolicy policy grant.unit grants
      .ok (if write then .parsed (.obj policy) else file, safeResult
        [("success", .bool true), ("error", .str (if write then "" else "dry_run")), ("dry_run", .bool !write),
          ("wrote_file", .bool write), ("grant", .obj (grantSummary grant.record)),
          ("policy", .obj [("mode", .str trustMode), ("requested_action", .str trustScope),
            ("target_unit", .str grant.unit), ("allowed_services", .arr [.str grant.unit]),
            ("trust_grants", .arr (grants.map fun g => .obj (grantSummary g)))])])

/-- The records of a policy, if it has a list of them. -/
def listedGrants (policy : PolicyDict) : List Json :=
  match policy.lookup "trust_grants" with
  | some (.arr entries) => entries
  | _ => []

def serviceTexts (items : List Json) : List String := items.filterMap fun item =>
  match item with
  | .str service => some service
  | _ => none

/-- `inspect_trust_grants`; it only reads. -/
def inspectTrustGrants (m : Machine) (path : String) (file : PolicyFile) (now : Int) : TrustOutcome :=
  match openPolicy T path file with
  | .error stop => settleStop file true stop
  | .ok policy =>
    let records := (listedGrants policy).filter Json.isDict
    match (if records.isEmpty then .ok [] else tupleOf (policy.lookup "allowed_services")) with
    | .error e => .error e
    | .ok services =>
      let summaries := records.map fun grant => Json.obj (grantSummary grant ++
        [("valid_now", .bool (isValidServiceCycleGrant T grant (T.strOr (grant.get? "gateway_unit") "")
          (serviceTexts services) (hostBinding T m) now))])
      .ok (file, safeResult [("success", .bool true), ("error", .str ""),
        ("mode", (policy.lookup "mode").getD (.str "request_only")),
        ("allowed_services", (policy.lookup "allowed_services").getD (.arr [])), ("trust_grants", .arr summaries),
        ("dry_run", .bool true), ("wrote_file", .bool false)])

/-- The policy without the grant of a unit. -/
def revokedPolicy (policy : PolicyDict) (grants : List Json) (remaining : List String) : PolicyDict :=
  let policy := Dicts.set "trust_grants" (.arr grants) policy
  let policy := Dicts.set "allowed_services" (.arr (remaining.map .str)) policy
  if grants.isEmpty || remaining.isEmpty then
    Dicts.set "target_unit" (.str "")
      (Dicts.set "requested_action" (.str "observe") (Dicts.set "mode" (.str "request_only") policy))
  else policy

/-- `revoke_trust_grant`. -/
def revokeTrustGrant (path : String) (file : PolicyFile) (gatewayUnit : String) (write : Bool) : TrustOutcome :=
  let opened : Except TrustStop (PolicyDict × String) := do
    let policy ← openPolicy T path file
    match validateUnit T (.str gatewayUnit) with
    | none => .error (.refused "invalid_gateway_unit")
    | some unit => return (policy, unit)
  match opened with
  | .error stop => settleStop file (!write) stop
  | .ok (policy, unit) =>
    match tupleOf (policy.lookup "allowed_services") with
    | .error e => .error e
    | .ok items =>
      let grants := (listedGrants policy).filter fun g => !cycleGrantOf unit g
      let remaining := (serviceTexts items).filter (· ≠ unit)
      let policy := revokedPolicy policy grants remaining
      .ok (if write then .parsed (.obj policy) else file, safeResult
        [("success", .bool true), ("error", .str (if write then "" else "dry_run")), ("dry_run", .bool !write),
          ("wrote_file", .bool write), ("revoked_gateway_unit", .str unit), ("mode", (policy.lookup "mode").getD .null),
          ("allowed_services", .arr (remaining.map .str)),
          ("trust_grants", .arr ((grants.filter Json.isDict).map fun g => .obj (grantSummary g)))])

end

section

variable (T : PolicyText)

/-- `_strict_budget`. -/
def strictBudget : Json → Int
  | .int n => max 0 n
  | _ => 0

/-- `_strict_hour`. -/
def strictHour : Option Json → Int
  | some (.int n) => max 0 (min 23 n)
  | _ => 0

/-- `value if isinstance(value, dict) else {}`. -/
def dictOr (value : Option Json) : Json :=
  match value with
  | some (.obj fields) => .obj fields
  | _ => .obj []

/-- `value is True`. -/
def isTrue : Option Json → Bool
  | some (.bool b) => b
  | _ => false

/-- The configuration of a file and of the policy that is loaded from it. -/
def runnerConfigOf (m : Machine) (raw : PolicyDict) (policy : MaintenancePolicy) : RunnerConfig :=
  let activity := dictOr (raw.lookup "activity")
  let quietHours := dictOr (raw.lookup "quiet_hours")
  let requested := isText ((raw.lookup "requested_action").getD .null) "service_cycle"
  { mode := policy.mode
    killSwitch := policy.maintenanceKillSwitch
    allowedServices := policy.allowedServices
    trustGrants := (listedGrants raw).filter Json.isDict
    trustGrantsMalformed := !validateTrustGrantsShape T.toPyText ((raw.lookup "trust_grants").getD (.arr []))
    hostId := shortText T.toPyText (T.strOr (raw.lookup "host_id") (hostBinding T.toPyText m))
    requestedAction := if requested then "service_cycle" else "observe"
    targetUnit := shortText T.toPyText (T.strOr (raw.lookup "target_unit") "")
    attemptBudget := strictBudget ((raw.lookup "attempt_budget").getD (.int 1))
    allowFakeExecute := isTrue (raw.lookup "allow_fake_execute")
    error := policy.error
    repoId := shortText T.toPyText (T.strOr (raw.lookup "repo_id") "")
    cycleRef := shortText T.toPyText (T.strOr (raw.lookup "cycle_ref") "")
    dbPath := shortText T.toPyText (T.strOr (raw.lookup "db_path") "") 4000
    activityActive := isTrue (activity.get? "active")
    reviewedSummary := shortText T.toPyText (T.strOr (raw.lookup "reviewed_summary") "") 2000
    requireNoActiveWorkers := policy.requireNoActiveWorkers
    requireReviewedSyncGo := policy.requireReviewedSyncGo
    maxCyclesPerDay := policy.maxCyclesPerDay
    minSecondsBetweenCycles := policy.minSecondsBetweenCycles
    quietHoursEnabled := isTrue (quietHours.get? "enabled")
    quietHoursStart := strictHour (quietHours.get? "start_hour")
    quietHoursEnd := strictHour (quietHours.get? "end_hour") }

/-- `load_runner_config`. -/
def loadRunnerConfig (m : Machine) (file : PolicyFile) : Except LoadError RunnerConfig :=
  match file with
  | .parsed (.obj raw) => (loadMaintenancePolicy T file).map (runnerConfigOf T m raw)
  | .unread .recursion => .error (.file .recursion)
  | .absent | .unread _ | .parsed _ => .ok { killSwitch := true, error := "malformed_config" }

end

end AgentflowHermes.Maintenance
