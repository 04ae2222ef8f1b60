import AgentflowHermes.TrustLedger

namespace AgentflowHermes.Maintenance

open PolicyFiles

section

variable (T : PyText)

/-- The gates of trust are clear for the configured target. -/
structure RunnerConfig.Trusted (c : RunnerConfig) (now : Int) : Prop where
  wellFormed : c.error = "" ∧ c.trustGrantsMalformed = false
  killSwitchClear : c.killSwitch = false
  requested : c.serviceRequested = true
  guarded : c.mode = trustMode
  allowlisted : c.targetUnit ≠ "" ∧ c.targetUnit ∈ c.allowedServices
  trusted : c.hasServiceCycleGrant T now = true

end

section

variable (T : PolicyText)

/-- On a machine and at a time the runner that reads the file trusts a unit. -/
def Authorised (m : Machine) (file : PolicyFile) (unit : String) (now : Int) : Prop :=
  ∃ c, loadRunnerConfig T m file = .ok c ∧ c.targetUnit = unit ∧ c.Trusted T.toPyText now

/-- The limits of a policy are numbers, and its kill switch is off. -/
structure Sound (base : PolicyDict) : Prop where
  cycles : ∃ n, strictInt T base "max_cycles_per_day" 2 = .ok (some n)
  seconds : ∃ n, strictInt T base "min_seconds_between_cycles" 1800 = .ok (some n)
  clear : strictBool false true (base.lookup "maintenance_kill_switch") = false

/-- The host of the runner. -/
def runnerHost (m : Machine) (base : PolicyDict) : String :=
  shortText T.toPyText (T.strOr (base.lookup "host_id") (hostBinding T.toPyText m))

variable {T} {base raw : PolicyDict} {l : TrustLedger T.toPyText} {m : Machine} {now : Int} {unit : String}

theorem loadMaintenancePolicy_sound {p : MaintenancePolicy}
    (loaded : loadMaintenancePolicy T (.parsed (.obj raw)) = .ok p)
    (fine : p.error = "") (clear : p.maintenanceKillSwitch = false) : Sound T raw := by
  unfold loadMaintenancePolicy at loaded
  obtain ⟨mode, hashable, loaded⟩ := bind_ok' loaded
  obtain ⟨items, tuple, loaded⟩ := bind_ok' loaded
  obtain ⟨cycles, number, loaded⟩ := bind_ok' loaded
  cases cycles with
  | none =>
    cases loaded
    exact absurd fine (show "malformed_numeric_field" ≠ "" by decide)
  | some cycles =>
    obtain ⟨seconds, number', loaded⟩ := bind_ok' loaded
    cases seconds with
    | none =>
      cases loaded
      exact absurd fine (show "malformed_numeric_field" ≠ "" by decide)
    | some seconds =>
      cases loaded
      exact ⟨⟨cycles, number⟩, ⟨seconds, number'⟩, clear⟩

theorem sound_loads (sound : Sound T raw) {mode : String} (hashable : modeOf (raw.lookup "mode") = .ok mode)
    {items : List Json} (tuple : tupleOf (raw.lookup "allowed_services") = .ok items) :
    ∃ p, loadMaintenancePolicy T (.parsed (.obj raw)) = .ok p ∧ p.error = "" ∧ p.maintenanceKillSwitch = false ∧
      p.mode = mode ∧ p.allowedServices = serviceTexts items := by
  obtain ⟨⟨cycles, number⟩, ⟨seconds, number'⟩, clear⟩ := sound
  unfold loadMaintenancePolicy
  dsimp only
  rw [hashable, tuple, number, number', clear]
  exact ⟨_, rfl, rfl, rfl, rfl, rfl⟩

theorem renders_sound (renders : Renders base raw l) : Sound T raw ↔ Sound T base := by
  have cycles : raw.lookup "max_cycles_per_day" = base.lookup "max_cycles_per_day" := renders.others _ (by decide)
  have seconds : raw.lookup "min_seconds_between_cycles" = base.lookup "min_seconds_between_cycles" :=
    renders.others _ (by decide)
  have same (key : String) (default : Int) (is : raw.lookup key = base.lookup key) :
      strictInt T raw key default = strictInt T base key default := by
    unfold strictInt
    rw [is]
  constructor
  · rintro ⟨first, second, clear⟩
    rw [same _ _ cycles] at first
    rw [same _ _ seconds] at second
    exact ⟨first, second, renders.killed ▸ clear⟩
  · rintro ⟨first, second, clear⟩
    rw [← same _ _ cycles] at first
    rw [← same _ _ seconds] at second
    exact ⟨first, second, renders.killed.trans clear⟩

theorem renders_shape (plain : T.Plain) (renders : Renders base raw l) :
    validateTrustGrantsShape T.toPyText ((raw.lookup "trust_grants").getD (.arr [])) = true ↔
      ∀ g ∈ l.granted, safeJobField T.toPyText "host_id" g.hostId ≠ "" := by
  rw [renders.grants]
  unfold validateTrustGrantsShape
  simp [record_shape _ plain]

/-- Of the grants on file one is valid for a unit, a host and a time. -/
theorem renders_valid (plain : T.Plain) (renders : Renders base raw l)
    (bound : ∀ g ∈ l.granted, safeJobField T.toPyText "host_id" g.hostId ≠ "") {services : List String}
    (listed : unit ∈ services) (host : String) :
    (((listedGrants raw).filter Json.isDict).any fun grant =>
      isValidServiceCycleGrant T.toPyText grant unit services host now) = true ↔
      ∃ g ∈ l.granted, g.unit = unit ∧ safeJobField T.toPyText "host_id" g.hostId = host ∧ now < g.expires := by
  have shaped := (renders_shape plain renders).mpr bound
  rw [renders.grants] at shaped
  have dicts : (l.granted.map TrustGrant.record).filter Json.isDict = l.granted.map TrustGrant.record :=
    List.filter_eq_self.mpr fun r mem => by
      obtain ⟨g, _, rfl⟩ := List.mem_map.mp mem
      rfl
  have valid (g : TrustGrant T.toPyText) (mem : g ∈ l.granted) :
      isValidServiceCycleGrant T.toPyText g.record unit services host now = true ↔
        g.unit = unit ∧ safeJobField T.toPyText "host_id" g.hostId = host ∧ now < g.expires := by
    rw [shaped_grant_valid shaped (List.mem_map_of_mem mem), record_unit, record_host, record_ends, g.valid, g.ends,
      text_str]
    simp [listed]
  rw [renders_listed renders, dicts, List.any_map, List.any_eq_true]
  constructor
  · rintro ⟨g, mem, is⟩
    exact ⟨g, mem, (valid g mem).mp is⟩
  · rintro ⟨g, mem, is⟩
    exact ⟨g, mem, (valid g mem).mpr is⟩

theorem modeOf_guarded {value : Option Json} : modeOf value = .ok trustMode ↔ value = some (.str trustMode) := by
  unfold modeOf
  constructor
  · intro h
    split at h
    · exact absurd (Except.ok.inj h) (by decide)
    next s =>
      split at h
      next => rw [Except.ok.inj h]
      next => exact absurd (Except.ok.inj h) (by decide)
    · cases h
    · cases h
    · exact absurd (Except.ok.inj h) (by decide)
  · rintro rfl
    rfl

theorem loaded_policy {c : RunnerConfig} (loaded : loadRunnerConfig T m (.parsed (.obj raw)) = .ok c) :
    ∃ p, loadMaintenancePolicy T (.parsed (.obj raw)) = .ok p ∧ runnerConfigOf T m raw p = c := by
  unfold loadRunnerConfig at loaded
  cases policy : loadMaintenancePolicy T (.parsed (.obj raw)) with
  | error e =>
    dsimp only at loaded
    rw [policy] at loaded
    cases loaded
  | ok p =>
    dsimp only at loaded
    rw [policy] at loaded
    exact ⟨p, rfl, Except.ok.inj loaded⟩

/-- A target that is listed and has a valid grant is authorised. -/
theorem renders_trusted (plain : T.Plain) (renders : Renders base raw l) {c : RunnerConfig}
    (loaded : loadRunnerConfig T m (.parsed (.obj raw)) = .ok c) (shaped : c.trustGrantsMalformed = false)
    (listed : c.targetUnit ∈ c.allowedServices) (valid : c.hasServiceCycleGrant T.toPyText now = true) :
    l.Authorises (runnerHost T m base) c.targetUnit now := by
  obtain ⟨p, policy, rfl⟩ := loaded_policy loaded
  obtain ⟨items, tuple, services⟩ := (maintenance_loaded policy).services
  obtain rfl : items = l.current.toList.map .str := Except.ok.inj (tuple.symm.trans (renders_tuple renders))
  have bound := (renders_shape plain renders).mp (by simpa [runnerConfigOf] using shaped)
  have mem := (services _).mp listed
  refine ⟨by simpa using mem, ?_, bound⟩
  obtain ⟨g, mem, own, bind, lasts⟩ := (renders_valid plain renders bound listed _).mp valid
  refine ⟨g, mem, own, bind.trans ?_, lasts⟩
  have host : raw.lookup "host_id" = base.lookup "host_id" := renders.others _ (by decide)
  unfold runnerHost
  rw [← host]
  rfl

/-- The runner trusts what the ledger authorises, on a sound base. -/
theorem renders_authorised_iff (plain : T.Plain) (renders : Renders base raw l) :
    Authorised T m (.parsed (.obj raw)) unit now ↔ Sound T base ∧ l.Authorises (runnerHost T m base) unit now := by
  have host : raw.lookup "host_id" = base.lookup "host_id" := renders.others _ (by decide)
  constructor
  · rintro ⟨c, loaded, rfl, trusted⟩
    obtain ⟨p, policy, is⟩ := loaded_policy loaded
    have fine : p.error = "" := by
      have wellFormed := trusted.wellFormed.1
      rwa [← is] at wellFormed
    have clear : p.maintenanceKillSwitch = false := by
      have off := trusted.killSwitchClear
      rwa [← is] at off
    exact ⟨(renders_sound renders).mp (loadMaintenancePolicy_sound policy fine clear),
      renders_trusted plain renders loaded trusted.wellFormed.2 trusted.allowlisted.2 trusted.trusted⟩
  · rintro ⟨sound, current, lasting, bound⟩
    obtain ⟨mode, action, target, g, _, own⟩ := renders.guarded unit current
    obtain ⟨p, policy, fine, clear, guarded, services⟩ :=
      sound_loads ((renders_sound renders).mpr sound) (modeOf_guarded.mpr mode) (renders_tuple renders)
    rw [serviceTexts_strs, current] at services
    have named : (runnerConfigOf T m raw p).targetUnit = unit := by
      have some' : unit ≠ "" := own ▸ (validateUnit_eq_some g.valid).2.1
      have kept : shortText T.toPyText unit = unit := own ▸ shortText_unit g.valid
      unfold runnerConfigOf
      dsimp only
      rw [target]
      unfold PyText.strOr
      simp [Json.truthy, some', T.str_str, kept]
    refine ⟨runnerConfigOf T m raw p, ?_, named, ⟨fine, ?_⟩, clear, ?_, guarded, ⟨?_, ?_⟩, ?_⟩
    · unfold loadRunnerConfig
      dsimp only
      rw [policy]
      rfl
    · simpa [runnerConfigOf] using (renders_shape plain renders).mpr bound
    · simp [RunnerConfig.serviceRequested, runnerConfigOf, action, isText, trustScope]
    · rw [named]
      exact own ▸ (validateUnit_eq_some g.valid).2.1
    · rw [named]
      show unit ∈ p.allowedServices
      simp [services]
    · unfold RunnerConfig.hasServiceCycleGrant
      rw [named]
      refine (renders_valid plain renders bound ?_ _).mpr ?_
      · show unit ∈ p.allowedServices
        simp [services]
      · obtain ⟨g, mem, own, bind, lasts⟩ := lasting
        refine ⟨g, mem, own, bind.trans ?_, lasts⟩
        unfold runnerHost runnerConfigOf
        rw [← host]

end

/-- A file that grants nothing: there is none, or it is a policy with no grants and no services. -/
def Fresh (base : PolicyDict) (file : PolicyFile) : Prop :=
  (file = .absent ∧ base = defaultMaintenanceConfig) ∨ file = .parsed (.obj base) ∧
    (base.lookup "trust_grants").getD (.arr []) = .arr [] ∧ (base.lookup "allowed_services").getD (.arr []) = .arr []

theorem fresh_represents {T : PyText} {base : PolicyDict} {file : PolicyFile} (fresh : Fresh base file) :
    Represents base file ({} : TrustLedger T) := by
  rcases fresh with ⟨rfl, rfl⟩ | ⟨rfl, grants, services⟩
  · exact .inl ⟨rfl, rfl, rfl⟩
  · exact .inr ⟨base, rfl, grants, services, nofun, rfl, fun _ _ => rfl⟩

/-- An evaluation that gets to the adapter has gone through the gates of trust. -/
theorem evaluateRunner_reached {T : PyText} {c : RunnerConfig} {a : RunnerArgs} {db : Database}
    (reached : (evaluateRunner T c a db).considered ≠ none) :
    c.trustGrantsMalformed = false ∧ c.targetUnit ∈ c.allowedServices ∧ c.hasServiceCycleGrant T a.now = true := by
  have blocked (gates : Gates) (reason : String) (db : Database) : (block T c a gates reason db).considered = none := by
    unfold block
    dsimp only
    split
    · split <;> rfl
    · rfl
  unfold evaluateRunner at reached
  dsimp only at reached
  split at reached
  · exact absurd (blocked ..) reached
  split at reached
  · exact absurd (blocked ..) reached
  next shaped =>
    split at reached
    · exact absurd (blocked ..) reached
    split at reached
    · exact absurd rfl reached
    split at reached
    · exact absurd (blocked ..) reached
    next gates passed =>
      unfold cycleGates at passed
      dsimp only at passed
      split at passed
      · cases passed
      split at passed
      · cases passed
      next listed =>
        split at passed
        · cases passed
        next trusted =>
          have listed : (firstGates T c a).serviceAllowlisted = true := by simpa using listed
          have trusted : (firstGates T c a).trustGrant = true := by simpa using trusted
          unfold firstGates at listed
          exact ⟨by simpa using shaped, by simpa using (Bool.and_eq_true_iff.mp listed).2, trusted⟩

/-- After any run of commands on a file that granted nothing, the runner trusts exactly what the ledger of the run
authorises, no evaluation gets to an adapter without, and the other settings are as they were. -/
theorem trust_authorises_iff (T : PolicyText) (plain : T.Plain) {path : String}
    (valid : validateConfigPath T.toPyText path = true) {base : PolicyDict} {file : PolicyFile}
    (fresh : Fresh base file) (calls : List (Machine × TrustCommand)) :
    (∀ m unit now, Authorised T m (calls.foldl (fileAfter T.toPyText path) file) unit now ↔
      Sound T base ∧ (calls.foldl (ledgerAfter T.toPyText) {}).Authorises (runnerHost T m base) unit now) ∧
    (∀ m c a db, loadRunnerConfig T m (calls.foldl (fileAfter T.toPyText path) file) = .ok c →
      (evaluateRunner T.toPyText c a db).considered ≠ none →
        (calls.foldl (ledgerAfter T.toPyText) {}).Authorises (runnerHost T m base) c.targetUnit a.now) ∧
    ∀ raw, calls.foldl (fileAfter T.toPyText path) file = .parsed (.obj raw) →
      ∀ key, key ∉ trustKeys → raw.lookup key = base.lookup key := by
  have represents := trust_run valid (fresh_represents (T := T.toPyText) fresh) calls
  generalize calls.foldl (fileAfter T.toPyText path) file = last at *
  generalize calls.foldl (ledgerAfter T.toPyText) {} = l at *
  rcases represents with ⟨rfl, rfl, rfl⟩ | ⟨raw, rfl, renders⟩
  · refine ⟨fun m unit now => ⟨?_, ?_⟩, fun m c a db loaded reached => ?_, nofun⟩
    · rintro ⟨c, loaded, _, trusted⟩
      cases loaded
      exact absurd trusted.wellFormed.1 (show "malformed_config" ≠ "" by decide)
    · rintro ⟨_, authorises⟩
      cases authorises.current
    · cases loaded
      cases (evaluateRunner_reached reached).2.1
  · refine ⟨fun m unit now => renders_authorised_iff plain renders, fun m c a db loaded reached => ?_,
      fun raw' same key other => ?_⟩
    · obtain ⟨shaped, listed, trusted⟩ := evaluateRunner_reached reached
      exact renders_trusted plain renders loaded shaped listed trusted
    · cases same
      exact renders.others key other

section

variable {T : PyText}

theorem hex_absent {text : List Char} (hex : ∀ c ∈ text, c ∈ "0123456789abcdef".toList) (word : String) {letter : Char}
    (inside : letter ∈ word.toList) (h : ("0123456789abcdef".toList.any (foldsTo letter)) = false) :
    BacktrackRegex.Absent (lit word) text := absent_lit inside fun x mem => none_of h (hex x mem)

theorem hex_harmless {text : List Char} (hex : ∀ c ∈ text, c ∈ "0123456789abcdef".toList) : Harmless text where
  keys := by
    intro r mem
    simp only [keyWords, List.mem_cons, List.not_mem_nil, or_false] at mem
    rcases mem with rfl | rfl | rfl
    · exact @hex_absent _ hex "TOKEN" 'T' (by decide) (by decide)
    · exact .all List.mem_cons_self (@hex_absent _ hex "API" 'P' (by decide) (by decide))
    · exact @hex_absent _ hex "SECRET" 'T' (by decide) (by decide)
  values := by
    intro r mem
    simp only [valueWords, List.mem_cons, List.not_mem_nil, or_false] at mem
    rcases mem with rfl | rfl | rfl | rfl | rfl | rfl
    · exact @hex_absent _ hex "PASSWORD" 'P' (by decide) (by decide)
    · exact @hex_absent _ hex "PASSWD" 'P' (by decide) (by decide)
    · exact @hex_absent _ hex "AUTHORIZATION" 'U' (by decide) (by decide)
    · exact @hex_absent _ hex "BEARER" 'R' (by decide) (by decide)
    · exact @hex_absent _ hex "SESSION" 'S' (by decide) (by decide)
    · exact @hex_absent _ hex "COOKIE" 'O' (by decide) (by decide)
  bearer := @hex_absent _ hex "Bearer" 'r' (by decide) (by decide)
  dash h := absurd (hex _ h) (by decide)
  slash h := absurd (hex _ h) (by decide)
  backslash h := absurd (hex _ h) (by decide)

/-- The binding of a machine without an override is left as it is. -/
theorem hostBinding_kept (plain : T.Plain) {m : Machine} (unset : m.override = none) :
    hostBinding T m ≠ "" ∧ shortText T (hostBinding T m) = hostBinding T m ∧
      ∀ key, safeJobField T key (hostBinding T m) = hostBinding T m := by
  have binding : hostBinding T m = String.ofList ((sha256Hex (m.hostname ++ ":" ++ m.root)).toList.take 16) := by
    unfold hostBinding
    rw [unset]
    rfl
  rw [binding]
  generalize digest : (sha256Hex (m.hostname ++ ":" ++ m.root)).toList.take 16 = hex
  have length : hex.length = 16 := by
    rw [← digest]
    unfold sha256Hex
    rw [List.length_take, Sha256.hexdigest_length]
    rfl
  have chars : ∀ c ∈ hex, c ∈ "0123456789abcdef".toList := by
    intro c mem
    rw [← digest] at mem
    exact sha256Hex_chars (List.take_subset _ _ mem)
  have spaces : ∀ c ∈ (String.ofList hex).toList, T.isSpace c = false := by
    intro c mem
    rw [String.toList_ofList] at mem
    have inside : "0123456789abcdef".toList.all refChar = true := by decide
    exact plain c (List.all_eq_true.mp inside c (chars c mem))
  have short : (String.ofList hex).toList.length = 16 := by rw [String.toList_ofList, length]
  have some' : String.ofList hex ≠ "" := by
    intro empty
    rw [empty] at short
    cases short
  refine ⟨some', shortText_plain spaces (by omega), fun key => ?_⟩
  have clean : containsSensitiveText T (String.ofList hex) = false :=
    Harmless.clean (by rw [String.toList_ofList]; exact hex_harmless chars)
  unfold safeJobField
  rw [shortText_plain spaces (by omega)]
  dsimp only
  rw [if_neg some', clean]
  rfl

theorem buildTrustGrant_ok (hostId provenance : String) {gatewayUnit unit createdAt expiresAt : String}
    {created expires : Int} (named : validateUnit T (.str gatewayUnit) = some unit)
    (starts : strictFloat T (.float createdAt) = some created)
    (ends : strictFloat T (.float expiresAt) = some expires) (later : created < expires) :
    ∃ g, buildTrustGrant T gatewayUnit hostId createdAt expiresAt provenance = .ok g ∧ g.unit = unit ∧
      g.hostId = safeJobField T "host_id" hostId ∧ g.expires = expires := by
  unfold buildTrustGrant
  split
  next none' =>
    rw [named] at none'
    cases none'
  next unit' named' =>
    obtain rfl := Option.some.inj (named.symm.trans named')
    split
    next none' =>
      rw [starts] at none'
      cases none'
    next created' starts' =>
      obtain rfl := Option.some.inj (starts.symm.trans starts')
      split
      next none' =>
        rw [ends] at none'
        cases none'
      next expires' ends' =>
        obtain rfl := Option.some.inj (ends.symm.trans ends')
        rw [dif_neg (Int.not_le.mpr later)]
        exact ⟨_, rfl, rfl, rfl, rfl⟩

end

/-- A runtime that reads two floats. -/
def clockText : PolicyText where
  toPyText := { asciiText with
    float := fun value => match value with
      | .float "100.0" => some 100000000
      | .float "200.0" => some 200000000
      | _ => none }
  intStr _ := .error .value
  intFloat _ := .error .overflow

theorem gateway_short : shortText clockText.toPyText "gw.service" = "gw.service" := by
  have solid : ("gw.service".toList.all fun c => !clockText.isSpace c) = true := by decide +kernel
  exact shortText_plain (fun c mem => by simpa using List.all_eq_true.mp solid c mem) (by decide)

theorem gateway_valid : validateUnit clockText.toPyText (.str "gw.service") = some "gw.service" := by
  unfold validateUnit
  rw [text_str]
  dsimp only
  rw [gateway_short]
  decide

def gatewayBox : Machine := { hostname := "box", root := "/etc/agentflow" }

/-- A grant that is written into a new file lets the runner of the machine cycle the unit until it expires. -/
theorem trust_authorises_gateway : Authorised clockText gatewayBox
    ([(gatewayBox, TrustCommand.create "gw.service" "200.0" "" "100.0" true)].foldl
      (fileAfter clockText.toPyText "/etc/agentflow/maintenance.json") .absent) "gw.service" 150000000 := by
  obtain ⟨kept, short, same⟩ := hostBinding_kept (T := clockText.toPyText) asciiText_plain (m := gatewayBox) rfl
  obtain ⟨g, built, unit, host, expires⟩ := buildTrustGrant_ok (hostBinding clockText.toPyText gatewayBox) ""
    gateway_valid (show strictFloat _ (.float "100.0") = some 100000000 by decide)
    (show strictFloat _ (.float "200.0") = some 200000000 by decide) (by decide)
  have ledger : [(gatewayBox, TrustCommand.create "gw.service" "200.0" "" "100.0" true)].foldl
      (ledgerAfter clockText.toPyText) {} = TrustLedger.grant {} g := by
    unfold List.foldl ledgerAfter
    dsimp only
    rw [built]
    rfl
  refine (((trust_authorises_iff clockText asciiText_plain (by decide) (.inl ⟨rfl, rfl⟩) _).1 gatewayBox "gw.service"
    150000000).mpr ⟨⟨⟨2, rfl⟩, ⟨1800, rfl⟩, rfl⟩, ?_⟩)
  rw [ledger]
  have runner : runnerHost clockText gatewayBox defaultMaintenanceConfig =
      hostBinding clockText.toPyText gatewayBox := short
  have own : safeJobField clockText.toPyText "host_id" g.hostId = hostBinding clockText.toPyText gatewayBox := by
    rw [host, same, same]
  refine ⟨by rw [← unit]; rfl, ⟨g, List.mem_singleton_self g, unit, own.trans runner.symm, by rw [expires]; decide⟩, ?_⟩
  intro other mem
  obtain rfl : other = g := List.mem_singleton.mp mem
  rw [own]
  exact kept

section

variable {T : PyText} {path unit : String} {file : PolicyFile}

/-- The command does not write a grant for the unit. -/
def Spares (T : PyText) (unit : String) (call : Machine × TrustCommand) : Prop :=
  ∀ gatewayUnit expiresAt provenance now, call.2 = .create gatewayUnit expiresAt provenance now true →
    validateUnit T (.str gatewayUnit) ≠ some unit

end

end AgentflowHermes.Maintenance
