import AgentflowHermes.SanitiserFixpoints
import AgentflowHermes.TrustGrants

namespace AgentflowHermes.Maintenance

open PolicyFiles

section

variable {T : PyText} {s : String} {n : Nat}

theorem shortText_head (some' : shortText T s n ≠ "") :
    ∃ c cs, (shortText T s n).toList = c :: cs ∧ T.isSpace c = false := by
  have solid := wordsOf_solid (p := T.isSpace) s.toList
  rw [shortText_eq, String.toList_ofList] at *
  cases words : wordsOf T.isSpace s.toList with
  | nil => simp [words] at some'
  | cons w ws =>
    rw [words] at solid some'
    cases w with
    | nil => exact absurd rfl (solid.named [] List.mem_cons_self)
    | cons c cs =>
      have parted := solid.parted (c :: cs) List.mem_cons_self c List.mem_cons_self
      have flat : ∃ rest, [' '].intercalate ((c :: cs) :: ws) = c :: rest := by
        cases ws with
        | nil => exact ⟨cs, by simp⟩
        | cons u us => exact ⟨cs ++ [' '] ++ [' '].intercalate (u :: us), by rw [List.intercalate_cons_cons]; rfl⟩
      obtain ⟨rest, flat⟩ := flat
      rw [flat] at some' ⊢
      cases n with
      | zero => simp at some'
      | succ n => exact ⟨c, rest.take n, rfl, parted⟩

theorem safeJobField_ne_empty {c : Char} {cs : List Char} {key : String} (solid : T.isSpace c = false)
    (hs : s.toList = c :: cs) : safeJobField T key s ≠ "" := by
  have named := shortText_ne_empty solid hs (show 0 < 2000 by decide)
  unfold safeJobField
  dsimp only
  rw [if_neg named]
  split
  · exact Jobs.marker_ne_empty key
  · exact named

/-- A provenance is not sanitised away a second time. -/
theorem provenance_kept (plain : T.Plain) (value : Option Json) :
    safeJobField T "provenance" (sanitizeProvenance T value) ≠ "" := by
  have solid : ∃ c cs, (sanitizeProvenance T value).toList = c :: cs ∧ T.isSpace c = false := by
    unfold sanitizeProvenance
    dsimp only
    split
    · exact ⟨'o', _, rfl, plain 'o' (by decide)⟩
    next named =>
      unfold safeJobField at named ⊢
      dsimp only at named ⊢
      split at named
      · exact absurd rfl named
      next short =>
        rw [if_neg short]
        split
        · exact ⟨'p', _, by rw [String.toList_append]; rfl, plain 'p' (by decide)⟩
        · exact shortText_head short
  obtain ⟨c, cs, chars, solid⟩ := solid
  exact safeJobField_ne_empty solid chars

theorem grantId_shape (unit hostId : String) (created expires : Int) :
    validGrantIdShape (.str (grantId unit hostId created expires)) = true := by
  have prefixed : "grant_".toList.length = 6 := rfl
  unfold validGrantIdShape grantIdPrefixed grantId
  simp only [String.toList_ofList, Bool.and_eq_true, List.isPrefixOf_iff_prefix, List.prefix_append, true_and,
    beq_iff_eq, List.all_eq_true]
  rw [List.drop_append_of_le_length (by decide), List.drop_of_length_le (by decide), List.nil_append]
  constructor
  · unfold sha256Hex
    rw [List.length_take, Sha256.hexdigest_length]
    rfl
  · intro c mem
    exact List.contains_iff_mem.mpr (sha256Hex_chars (List.take_subset _ _ mem))

variable (g : TrustGrant T)

@[simp] theorem record_unit : field g.record "gateway_unit" = .str g.unit := rfl

@[simp] theorem record_host : field g.record "host_id" = .str g.hostId := rfl

@[simp] theorem record_ends : field g.record "expires_at" = .float g.expiresAt := rfl

@[simp] theorem record_isDict : g.record.isDict = true := rfl

@[simp] theorem text_str : text T (.str s) = s := T.str_str s

theorem cycleGrantOf_record (unit : String) : cycleGrantOf unit g.record = decide (g.unit = unit) := by
  have scope : isText (field g.record "scope") trustScope = true := rfl
  unfold cycleGrantOf
  rw [scope, record_unit, record_isDict]
  simp [isText, Bool.beq_eq_decide_eq]

/-- A record has the required shape unless nothing is left of its host. -/
theorem record_shape (plain : T.Plain) :
    isTrustGrantRecordShape T g.record = decide (safeJobField T "host_id" g.hostId ≠ "") := by
  have complete : (requiredGrantFields.any fun key => (g.record.get? key).isNone) = false := rfl
  have starts : field g.record "created_at" = .float g.createdAt := rfl
  have services : onlyService (field g.record "allowed_services") g.unit = true := beq_self_eq_true g.unit
  have mode : isText (field g.record "mode") trustMode = true := rfl
  have action : isText (field g.record "action") trustScope = true := rfl
  have scope : isText (field g.record "scope") trustScope = true := rfl
  have id : validGrantIdShape (field g.record "grant_id") = true := grantId_shape g.unit g.hostId g.created g.expires
  have provenance : safeJobField T "provenance" (text T (field g.record "provenance")) ≠ "" := by
    rw [show field g.record "provenance" = .str (sanitizeProvenance T g.provenance) from rfl, text_str]
    exact provenance_kept plain g.provenance
  unfold isTrustGrantRecordShape
  rw [complete, record_unit, record_ends, record_host, starts, g.valid, g.starts, g.ends]
  simp [services, mode, action, scope, g.later, id, provenance]

end

/-- The grants on file, one for each unit, and the unit that may be cycled. -/
structure TrustLedger (T : PyText) where
  granted : List (TrustGrant T) := []
  current : Option String := none

namespace TrustLedger

variable {T : PyText} (l : TrustLedger T)

/-- A new grant takes the place of the unit's former one, and its unit is the one that may be cycled. -/
def grant (g : TrustGrant T) : TrustLedger T where
  granted := (l.granted.filter fun other => other.unit ≠ g.unit) ++ [g]
  current := some g.unit

def revoke (unit : String) : TrustLedger T where
  granted := l.granted.filter fun other => other.unit ≠ unit
  current := l.current.filter (· ≠ unit)

/-- On a host and at a time a unit may be cycled: it is the current one, its grant was made for the host and lasts,
and of no grant on file is the host blank. -/
structure Authorises (host unit : String) (now : Int) : Prop where
  current : l.current = some unit
  lasting : ∃ g ∈ l.granted, g.unit = unit ∧ safeJobField T "host_id" g.hostId = host ∧ now < g.expires
  bound : ∀ g ∈ l.granted, safeJobField T "host_id" g.hostId ≠ ""

end TrustLedger

/-- A command of an operator on the configuration file. -/
inductive TrustCommand
  | create (gatewayUnit expiresAt provenance now : String) (write : Bool)
  | inspect (now : Int)
  | revoke (gatewayUnit : String) (write : Bool)

section

variable (T : PyText)

def TrustCommand.perform (path : String) (file : PolicyFile) (m : Machine) : TrustCommand → TrustOutcome
  | .create unit expiresAt provenance now write => createTrustGrant T m path file unit expiresAt provenance now write
  | .inspect now => inspectTrustGrants T m path file now
  | .revoke unit write => revokeTrustGrant T path file unit write

/-- The file after a command; one that raises has written nothing. -/
def fileAfter (path : String) (file : PolicyFile) (call : Machine × TrustCommand) : PolicyFile :=
  match call.2.perform T path file call.1 with
  | .ok (file, _) => file
  | .error _ => file

/-- What a command does to the ledger. -/
def ledgerAfter (l : TrustLedger T) (call : Machine × TrustCommand) : TrustLedger T :=
  match call.2 with
  | .create unit expiresAt provenance now true =>
    match buildTrustGrant T unit (hostBinding T call.1) now expiresAt provenance with
    | .ok g => l.grant g
    | .error _ => l
  | .revoke unit true => ((validateUnit T (.str unit)).map l.revoke).getD l
  | _ => l

end

/-- The keys of a policy that the commands write. -/
def trustKeys : List String :=
  ["mode", "requested_action", "target_unit", "allowed_services", "trust_grants", "maintenance_kill_switch"]

/-- A policy that renders a ledger, and for the rest is the base. -/
structure Renders {T : PyText} (base raw : PolicyDict) (l : TrustLedger T) : Prop where
  grants : (raw.lookup "trust_grants").getD (.arr []) = .arr (l.granted.map TrustGrant.record)
  services : (raw.lookup "allowed_services").getD (.arr []) = .arr (l.current.toList.map .str)
  guarded : ∀ unit, l.current = some unit → raw.lookup "mode" = some (.str trustMode) ∧
    raw.lookup "requested_action" = some (.str trustScope) ∧ raw.lookup "target_unit" = some (.str unit) ∧
    ∃ g ∈ l.granted, g.unit = unit
  killed : strictBool false true (raw.lookup "maintenance_kill_switch") =
    strictBool false true (base.lookup "maintenance_kill_switch")
  others : ∀ key, key ∉ trustKeys → raw.lookup key = base.lookup key

def Represents {T : PyText} (base : PolicyDict) (file : PolicyFile) (l : TrustLedger T) : Prop :=
  (file = .absent ∧ base = defaultMaintenanceConfig ∧ l = {}) ∨ ∃ raw, file = .parsed (.obj raw) ∧ Renders base raw l

section

variable {T : PyText} {base raw : PolicyDict} {l : TrustLedger T} {path : String} {file : PolicyFile}

theorem filter_records (unit : String) (grants : List (TrustGrant T)) :
    ((grants.map TrustGrant.record).filter fun g => !cycleGrantOf unit g) =
      (grants.filter fun g => g.unit ≠ unit).map TrustGrant.record := by
  rw [List.filter_map]
  congr 1
  refine List.filter_congr fun g _ => ?_
  simp [cycleGrantOf_record]

/-- The default configuration grants nothing. -/
theorem default_renders : Renders defaultMaintenanceConfig defaultMaintenanceConfig ({} : TrustLedger T) where
  grants := rfl
  services := rfl
  guarded := nofun
  killed := rfl
  others _ _ := rfl

theorem lookup_grantedPolicy (grants : List Json) (unit key : String) :
    (grantedPolicy raw unit grants).lookup key =
      if key = "mode" then some (.str trustMode)
      else if key = "requested_action" then some (.str trustScope)
      else if key = "target_unit" then some (.str unit)
      else if key = "allowed_services" then some (.arr [.str unit])
      else if key = "trust_grants" then some (.arr grants)
      else if key = "maintenance_kill_switch" then some ((raw.lookup key).getD (.bool false))
      else raw.lookup key := by
  unfold grantedPolicy
  dsimp only
  have kept : (Dicts.set "trust_grants" (.arr grants) (Dicts.set "allowed_services" (.arr [.str unit])
      (Dicts.set "target_unit" (.str unit) (Dicts.set "requested_action" (.str trustScope)
        (Dicts.set "mode" (.str trustMode) raw))))).lookup "maintenance_kill_switch" =
      raw.lookup "maintenance_kill_switch" := by simp [Dicts.lookup_set]
  rw [kept]
  cases killed : raw.lookup "maintenance_kill_switch" with
  | none =>
    rw [if_pos Option.isNone_none]
    simp only [Dicts.lookup_set]
    grind
  | some v =>
    rw [if_neg (by simp)]
    simp only [Dicts.lookup_set]
    grind

theorem lookup_revokedPolicy (grants : List Json) (remaining : List String) (key : String) :
    (revokedPolicy raw grants remaining).lookup key =
      if grants.isEmpty || remaining.isEmpty then
        if key = "mode" then some (.str "request_only")
        else if key = "requested_action" then some (.str "observe")
        else if key = "target_unit" then some (.str "")
        else if key = "allowed_services" then some (.arr (remaining.map .str))
        else if key = "trust_grants" then some (.arr grants)
        else raw.lookup key
      else if key = "allowed_services" then some (.arr (remaining.map .str))
      else if key = "trust_grants" then some (.arr grants)
      else raw.lookup key := by
  unfold revokedPolicy
  dsimp only
  split
  · simp only [Dicts.lookup_set]
    grind
  · simp only [Dicts.lookup_set]

theorem renders_granted (renders : Renders base raw l) (g : TrustGrant T) :
    Renders base (grantedPolicy raw g.unit (((l.granted.map TrustGrant.record).filter fun r =>
      r.isDict && !cycleGrantOf g.unit r) ++ [g.record])) (l.grant g) := by
  have records : ((l.granted.map TrustGrant.record).filter fun r => r.isDict && !cycleGrantOf g.unit r) =
      (l.granted.filter fun other => other.unit ≠ g.unit).map TrustGrant.record := by
    rw [← filter_records]
    refine List.filter_congr fun r mem => ?_
    obtain ⟨other, _, rfl⟩ := List.mem_map.mp mem
    rw [record_isDict, Bool.true_and]
  rw [records]
  constructor
  · rw [lookup_grantedPolicy]
    simp [TrustLedger.grant]
  · rw [lookup_grantedPolicy]
    simp [TrustLedger.grant]
  · intro unit current
    obtain rfl := Option.some.inj current
    refine ⟨?_, ?_, ?_, g, List.mem_append_right _ List.mem_cons_self, rfl⟩
    all_goals
      rw [lookup_grantedPolicy]
      simp
  · rw [lookup_grantedPolicy, ← renders.killed]
    cases raw.lookup "maintenance_kill_switch" <;> simp [strictBool]
  · intro key other
    rw [← renders.others key other, lookup_grantedPolicy]
    simp only [trustKeys, List.mem_cons, List.not_mem_nil, or_false, not_or] at other
    obtain ⟨mode, action, target, services, grants, killed⟩ := other
    rw [if_neg mode, if_neg action, if_neg target, if_neg services, if_neg grants, if_neg killed]

theorem renders_tuple (renders : Renders base raw l) :
    tupleOf (raw.lookup "allowed_services") = .ok (l.current.toList.map .str) := by
  have services := renders.services
  cases listed : raw.lookup "allowed_services" with
  | none =>
    rw [listed] at services
    cases current : l.current with
    | none => rfl
    | some unit => simp [current] at services
  | some value =>
    rw [listed, Option.getD_some] at services
    subst services
    cases current : l.current with
    | none => rfl
    | some unit => rfl

theorem renders_listed (renders : Renders base raw l) : listedGrants raw = l.granted.map TrustGrant.record := by
  have grants := renders.grants
  unfold listedGrants
  cases listed : raw.lookup "trust_grants" with
  | none =>
    rw [listed] at grants
    simpa using grants
  | some value =>
    rw [listed, Option.getD_some] at grants
    subst grants
    rfl

@[simp] theorem serviceTexts_strs (services : List String) : serviceTexts (services.map .str) = services := by
  unfold serviceTexts
  rw [List.filterMap_map]
  exact List.filterMap_some

theorem renders_revoked (renders : Renders base raw l) (unit : String) :
    Renders base (revokedPolicy raw ((l.granted.map TrustGrant.record).filter fun g => !cycleGrantOf unit g)
      ((l.current.toList).filter (· ≠ unit))) (l.revoke unit) := by
  rw [filter_records]
  have remaining : l.current.toList.filter (· ≠ unit) = (l.revoke unit).current.toList := by
    unfold TrustLedger.revoke
    cases l.current with
    | none => rfl
    | some other => by_cases same : other = unit <;> simp [same, Option.filter]
  rw [remaining]
  constructor
  · rw [lookup_revokedPolicy]
    simp [TrustLedger.revoke]
  · rw [lookup_revokedPolicy]
    simp
  · intro other current
    rw [current]
    obtain ⟨before, apart⟩ := Option.filter_eq_some_iff.mp current
    obtain ⟨mode, action, target, g, mem, own⟩ := renders.guarded other before
    have kept : g ∈ l.granted.filter fun g => g.unit ≠ unit :=
      List.mem_filter.mpr ⟨mem, by simpa [own] using apart⟩
    have some' : ((l.granted.filter fun g => g.unit ≠ unit).map TrustGrant.record).isEmpty = false := by
      rw [List.isEmpty_eq_false_iff]
      exact List.ne_nil_of_mem (List.mem_map_of_mem kept)
    refine ⟨?_, ?_, ?_, g, kept, own⟩
    all_goals
      rw [lookup_revokedPolicy, some']
      simpa
  · rw [lookup_revokedPolicy, ← renders.killed]
    simp
  · intro key other
    rw [← renders.others key other, lookup_revokedPolicy]
    simp only [trustKeys, List.mem_cons, List.not_mem_nil, or_false, not_or] at other
    obtain ⟨mode, action, target, services, grants, _⟩ := other
    rw [if_neg mode, if_neg action, if_neg target, if_neg services, if_neg grants, ite_self]

theorem opened_policy (valid : validateConfigPath T path = true) (represents : Represents base file l) :
    ∃ raw, openPolicy T path file = .ok raw ∧ Renders base raw l := by
  unfold openPolicy
  rw [if_pos valid]
  rcases represents with ⟨rfl, rfl, rfl⟩ | ⟨raw, rfl, renders⟩
  · exact ⟨_, rfl, default_renders⟩
  · exact ⟨raw, rfl, renders⟩

theorem create_file (opened : openPolicy T path file = .ok raw)
    (renders : Renders base raw l) (m : Machine) (unit expiresAt provenance now : String) (write : Bool) :
    fileAfter T path file (m, .create unit expiresAt provenance now write) =
      match buildTrustGrant T unit (hostBinding T m) now expiresAt provenance with
      | .error _ => file
      | .ok g => if write then .parsed (.obj (grantedPolicy raw g.unit
          (((l.granted.map TrustGrant.record).filter fun r => r.isDict && !cycleGrantOf g.unit r) ++ [g.record])))
        else file := by
  unfold fileAfter TrustCommand.perform createTrustGrant
  dsimp only
  rw [opened]
  cases buildTrustGrant T unit (hostBinding T m) now expiresAt provenance with
  | error code => rfl
  | ok g =>
    simp only [Except.mapError, bind, Except.bind, pure, Except.pure]
    rw [renders.grants]
    rfl

theorem create_step (valid : validateConfigPath T path = true) (represents : Represents base file l) (m : Machine)
    (unit expiresAt provenance now : String) (write : Bool) :
    Represents base (fileAfter T path file (m, .create unit expiresAt provenance now write))
      (ledgerAfter T l (m, .create unit expiresAt provenance now write)) := by
  obtain ⟨raw, opened, renders⟩ := opened_policy valid represents
  rw [create_file opened renders]
  cases write with
  | false =>
    unfold ledgerAfter
    split <;> exact represents
  | true =>
    unfold ledgerAfter
    dsimp only
    cases buildTrustGrant T unit (hostBinding T m) now expiresAt provenance with
    | error code => exact represents
    | ok g => exact .inr ⟨_, rfl, renders_granted renders g⟩

theorem revoke_file (opened : openPolicy T path file = .ok raw) (renders : Renders base raw l) (m : Machine)
    (gatewayUnit : String) (write : Bool) :
    fileAfter T path file (m, .revoke gatewayUnit write) =
      match validateUnit T (.str gatewayUnit) with
      | none => file
      | some unit => if write then .parsed (.obj (revokedPolicy raw
          ((l.granted.map TrustGrant.record).filter fun g => !cycleGrantOf unit g)
          (l.current.toList.filter (· ≠ unit))))
        else file := by
  unfold fileAfter TrustCommand.perform revokeTrustGrant
  dsimp only
  rw [opened]
  cases validateUnit T (.str gatewayUnit) with
  | none => rfl
  | some unit =>
    simp only [bind, Except.bind, pure, Except.pure]
    rw [renders_tuple renders]
    dsimp only
    rw [serviceTexts_strs, renders_listed renders]

theorem revoke_step (valid : validateConfigPath T path = true) (represents : Represents base file l) (m : Machine)
    (gatewayUnit : String) (write : Bool) : Represents base (fileAfter T path file (m, .revoke gatewayUnit write))
      (ledgerAfter T l (m, .revoke gatewayUnit write)) := by
  obtain ⟨raw, opened, renders⟩ := opened_policy valid represents
  rw [revoke_file opened renders]
  cases write with
  | false =>
    unfold ledgerAfter
    split <;> exact represents
  | true =>
    unfold ledgerAfter
    dsimp only
    cases validateUnit T (.str gatewayUnit) with
    | none => exact represents
    | some unit => exact .inr ⟨_, rfl, renders_revoked renders unit⟩

theorem inspect_file (m : Machine) (now : Int) : fileAfter T path file (m, .inspect now) = file := by
  unfold fileAfter TrustCommand.perform inspectTrustGrants
  dsimp only
  cases openPolicy T path file with
  | error stop => cases stop <;> rfl
  | ok policy =>
    dsimp only
    split
    next outcome done =>
      split at done
      · cases done
      · cases done
        rfl
    · rfl

/-- The file goes on rendering the ledger. -/
theorem trust_step (valid : validateConfigPath T path = true) (represents : Represents base file l)
    (call : Machine × TrustCommand) : Represents base (fileAfter T path file call) (ledgerAfter T l call) := by
  obtain ⟨m, command⟩ := call
  cases command with
  | create unit expiresAt provenance now write =>
    exact create_step valid represents m unit expiresAt provenance now write
  | inspect now =>
    rw [inspect_file]
    exact represents
  | revoke unit write => exact revoke_step valid represents m unit write

theorem trust_run (valid : validateConfigPath T path = true) (represents : Represents base file l)
    (calls : List (Machine × TrustCommand)) :
    Represents base (calls.foldl (fileAfter T path) file) (calls.foldl (ledgerAfter T) l) := by
  induction calls generalizing file l with
  | nil => exact represents
  | cons call rest ih => exact ih (trust_step valid represents call)

end

end AgentflowHermes.Maintenance
