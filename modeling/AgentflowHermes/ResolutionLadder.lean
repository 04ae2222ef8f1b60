import AgentflowHermes.StandingPolicies

namespace AgentflowHermes

theorem bind_error {ε α β : Type} {x : Except ε α} {f : α → Except ε β} {e : ε}
    (h : (x >>= f) = .error e) :
    x = .error e ∨ ∃ a, x = .ok a ∧ f a = .error e := by
  cases x with
  | error err =>
    cases h
    exact .inl rfl
  | ok a => exact .inr ⟨a, rfl, h⟩

namespace HumanEffortResolver

/-- `ResolutionResult`; its contradictions are never filled in. -/
structure ResolutionResult where
  satisfied : List SatisfiedRequirement := []
  unresolved : List Requirement := []
  evidenceRefs : List String := []
  interactionNeeded : Bool := false

structure Scope where
  ownerRef : String := ""
  projectScope : String := ""
  actionScope : String := ""

section

variable (T : PyText) (store : Option PolicyStore) (scope : Scope) (context : List (String × Json))

/-- `StandingPolicyMatcher.resolve`; there is no matcher without a store. -/
def matchPolicy (r : Requirement) : Except PyError (Option StandingPolicy) :=
  match store with
  | none => .ok none
  | some s =>
    if policyIneligible r.kind then .ok none
    else findMatch T scope.ownerRef scope.projectScope scope.actionScope (contextFor (.obj context) "policy_conditions")
      (latestById s.rows)

/-- `_resolve_one`, with the lookups a resolver has by default. -/
def resolveOne (r : Requirement) : Except PyError (Option SatisfiedRequirement) := do
  match ← contextGet (.obj context) "system_derived" r.name with
  | some v => return some ⟨r, v, "system_derived", "", ""⟩
  | none =>
    match (← contextGet (.obj context) "verified_artifacts" r.name).bind (artifactOf T) with
    | some (v, ref) => return some ⟨r, v, "verified_artifact", ref, ""⟩
    | none =>
      match ← matchPolicy T store scope context r with
      | some p => return some ⟨r, .str (decisionText T p.decision), "standing_policy", "", p.policyId⟩
      | none => contextAnswer (.obj context) r

/-- The loop of `resolve` over the requirements, with what it has gathered. -/
def resolveLoop : List Requirement → ResolutionResult → Except PyError ResolutionResult
  | [], res => .ok { res with interactionNeeded := !res.unresolved.isEmpty }
  | r :: rest, res => do
    match ← resolveOne T store scope context r with
    | none => resolveLoop rest { res with unresolved := res.unresolved ++ [r] }
    | some hit =>
      resolveLoop rest { res with
        satisfied := res.satisfied ++ [hit]
        evidenceRefs := if hit.sourceRef = "" then res.evidenceRefs else res.evidenceRefs ++ [hit.sourceRef] }

def resolve (requirements : List Requirement) : Except PyError ResolutionResult :=
  resolveLoop T store scope context requirements {}

end

/-- Every part of a context that a rung looks into is a dict, or falsy and so an empty one. -/
def Shaped (context : List (String × Json)) : Prop :=
  ∀ key ∈ ["system_derived", "verified_artifacts", "policy_conditions", "context_candidates"],
    (contextFor (.obj context) key).isDict

section

variable (T : PyText) (store : Option PolicyStore) (scope : Scope) (context : List (String × Json))

def derived (r : Requirement) : Option Json := contextField (.obj context) "system_derived" r.name

def artifact (r : Requirement) : Option (Json × String) :=
  (contextField (.obj context) "verified_artifacts" r.name).bind (artifactOf T)

def candidate (r : Requirement) : Option Json := contextField (.obj context) "context_candidates" r.name

variable (counts : StandingPolicy → Bool)

/-- An enabled policy of the scope whose conditions are met, with no newer version among those that count. -/
structure Decides (p : StandingPolicy) : Prop where
  stored : ∃ s, store = some s ∧ p ∈ s.rows ∧ ∀ q ∈ s.rows, q.policyId = p.policyId → counts q → q.version ≤ p.version
  enabled : p.enabled
  inScope : InScope scope.ownerRef scope.projectScope scope.actionScope p
  met : Met T (contextFor (.obj context) "policy_conditions") p

/-- A requirement and the answer of the first rung that has one. -/
inductive Answered (r : Requirement) : SatisfiedRequirement → Prop
  | derived {v} (h : derived context r = some v) : Answered r ⟨r, v, "system_derived", "", ""⟩
  | artifact {v ref} (above : derived context r = none) (h : artifact T context r = some (v, ref)) :
      Answered r ⟨r, v, "verified_artifact", ref, ""⟩
  | policy {p} (above : derived context r = none) (above' : artifact T context r = none)
      (eligible : policyIneligible r.kind = false) (h : Decides T store scope context counts p) :
      Answered r ⟨r, .str (decisionText T p.decision), "standing_policy", "", p.policyId⟩
  | candidate {v} (above : derived context r = none) (above' : artifact T context r = none)
      (above'' : policyIneligible r.kind = false → ∀ p, ¬Decides T store scope context counts p)
      (h : candidate context r = some v) : Answered r ⟨r, v, "current_owner_reply", "", ""⟩

/-- No rung has an answer. -/
structure Unanswered (r : Requirement) : Prop where
  derived : derived context r = none
  artifact : artifact T context r = none
  policy : policyIneligible r.kind = false → ∀ p, ¬Decides T store scope context counts p
  candidate : candidate context r = none

/-- A resolution splits the requirements in their order, and goes by the first rung that has an answer. -/
structure Ladder (requirements : List Requirement) (res : ResolutionResult) : Prop where
  whole : (res.satisfied.map (·.requirement) ++ res.unresolved).Perm requirements
  satisfiedInOrder : (res.satisfied.map (·.requirement)).Sublist requirements
  unresolvedInOrder : res.unresolved.Sublist requirements
  asks : res.interactionNeeded = true ↔ res.unresolved ≠ []
  evidence : res.evidenceRefs = (res.satisfied.map (·.sourceRef)).filter (· != "")
  first : ∀ hit ∈ res.satisfied, Answered T store scope context counts hit.requirement hit
  unheld : ∀ hit ∈ res.satisfied, hit.source = "standing_policy" →
    hit.requirement.kind ≠ .fact ∧ hit.requirement.kind ≠ .evidence
  left : ∀ r ∈ res.unresolved, Unanswered T store scope context counts r

end

section

variable {T : PyText} {store : Option PolicyStore} {scope : Scope} {context : List (String × Json)} {r : Requirement}
  {e : PyError}

theorem matchPolicy_some {p : StandingPolicy} (h : matchPolicy T store scope context r = .ok (some p)) :
    policyIneligible r.kind = false ∧ Decides T store scope context (·.enabled) p := by
  unfold matchPolicy at h
  cases store with
  | none => cases h
  | some s =>
    dsimp only at h
    split at h
    · cases h
    next eligible =>
      obtain ⟨mem, inside, met⟩ := findMatch_some h
      obtain ⟨stored, enabled, newest⟩ := (mem_latestById s.unique).mp mem
      exact ⟨by simpa using eligible, ⟨s, rfl, stored, newest⟩, enabled, inside, met⟩

theorem matchPolicy_none (h : matchPolicy T store scope context r = .ok none)
    (eligible : policyIneligible r.kind = false) (p : StandingPolicy) : ¬Decides T store scope context (·.enabled) p := by
  rintro ⟨⟨s, rfl, stored, newest⟩, enabled, inside, met⟩
  unfold matchPolicy at h
  dsimp only at h
  rw [if_neg (by simp [eligible])] at h
  exact findMatch_none h p ((mem_latestById s.unique).mpr ⟨stored, enabled, newest⟩) inside met

theorem matchPolicy_error (h : matchPolicy T store scope context r = .error e) :
    e = .attributeError ∧ ¬(contextFor (.obj context) "policy_conditions").isDict := by
  unfold matchPolicy at h
  cases store with
  | none => cases h
  | some s =>
    dsimp only at h
    split at h
    · cases h
    · exact findMatch_error h

theorem contextGet_ok {md : Json} {key name : String} {x : Option Json} (h : contextGet md key name = .ok x) :
    contextField md key name = x := by
  by_cases dict : (contextFor md key).isDict
  · rw [contextGet_dict dict] at h
    exact Except.ok.inj h
  · rw [contextGet_stuck dict] at h
    cases h

theorem contextGet_error {md : Json} {key name : String} (h : contextGet md key name = .error e) :
    e = .attributeError ∧ ¬(contextFor md key).isDict := by
  by_cases dict : (contextFor md key).isDict
  · rw [contextGet_dict dict] at h
    cases h
  · rw [contextGet_stuck dict] at h
    cases h
    exact ⟨rfl, dict⟩

/-- The answer of the ladder, where it comes to one. -/
theorem resolveOne_ok {hit : Option SatisfiedRequirement} (h : resolveOne T store scope context r = .ok hit) :
    match hit with
    | some hit => Answered T store scope context (·.enabled) r hit
    | none => Unanswered T store scope context (·.enabled) r := by
  unfold resolveOne at h
  obtain ⟨first, isDerived, h⟩ := bind_ok' h
  have derivedIs : derived context r = first := contextGet_ok isDerived
  cases first with
  | some v =>
    cases h
    exact .derived derivedIs
  | none =>
    obtain ⟨stored, isArtifact, h⟩ := bind_ok' h
    have artifactIs : artifact T context r = stored.bind (artifactOf T) := by
      unfold artifact
      rw [contextGet_ok isArtifact]
    cases found : stored.bind (artifactOf T) with
    | some va =>
      rw [found] at h artifactIs
      cases h
      exact .artifact derivedIs artifactIs
    | none =>
      rw [found] at h artifactIs
      obtain ⟨decision, isPolicy, h⟩ := bind_ok' h
      cases decision with
      | some p =>
        cases h
        obtain ⟨eligible, decides⟩ := matchPolicy_some isPolicy
        exact .policy derivedIs artifactIs eligible decides
      | none =>
        have none := matchPolicy_none isPolicy
        obtain ⟨last, isCandidate, h⟩ := bind_ok' h
        have candidateIs : candidate context r = last := contextGet_ok isCandidate
        cases last with
        | some v =>
          cases h
          exact .candidate derivedIs artifactIs none candidateIs
        | none =>
          cases h
          exact ⟨derivedIs, artifactIs, none, candidateIs⟩

/-- The ladder only breaks over a part of the context that is no dict. -/
theorem resolveOne_error (h : resolveOne T store scope context r = .error e) :
    e = .attributeError ∧ ¬Shaped context := by
  have stuck {key : String}
      (mem : key ∈ ["system_derived", "verified_artifacts", "policy_conditions", "context_candidates"])
      (why : e = .attributeError ∧ ¬(contextFor (.obj context) key).isDict) :
      e = .attributeError ∧ ¬Shaped context :=
    ⟨why.1, fun shaped => why.2 (shaped key mem)⟩
  unfold resolveOne at h
  rcases bind_error h with h | ⟨first, -, h⟩
  · exact stuck (by simp) (contextGet_error h)
  cases first with
  | some v => cases h
  | none =>
    rcases bind_error h with h | ⟨stored, -, h⟩
    · exact stuck (by simp) (contextGet_error h)
    cases found : stored.bind (artifactOf T) with
    | some va =>
      rw [found] at h
      cases h
    | none =>
      rw [found] at h
      rcases bind_error h with h | ⟨decision, -, h⟩
      · exact stuck (by simp) (matchPolicy_error h)
      cases decision with
      | some p => cases h
      | none =>
        rcases bind_error h with h | ⟨last, -, h⟩
        · exact stuck (by simp) (contextGet_error h)
        cases last <;> cases h

/-- A list of requirements, the hits of those that are answered and those that are left, each in order. -/
inductive Sorted (T : PyText) (store : Option PolicyStore) (scope : Scope) (context : List (String × Json)) :
    List Requirement → List SatisfiedRequirement → List Requirement → Prop
  | nil : Sorted T store scope context [] [] []
  | hit {r rs hit hits left} (h : Answered T store scope context (·.enabled) r hit)
      (rest : Sorted T store scope context rs hits left) : Sorted T store scope context (r :: rs) (hit :: hits) left
  | left {r rs hits left} (h : Unanswered T store scope context (·.enabled) r)
      (rest : Sorted T store scope context rs hits left) : Sorted T store scope context (r :: rs) hits (r :: left)

theorem resolveLoop_ok {requirements : List Requirement} {start res : ResolutionResult}
    (h : resolveLoop T store scope context requirements start = .ok res) :
    ∃ hits left, Sorted T store scope context requirements hits left ∧
      res = { satisfied := start.satisfied ++ hits, unresolved := start.unresolved ++ left
              evidenceRefs := start.evidenceRefs ++ (hits.map (·.sourceRef)).filter (· != "")
              interactionNeeded := !(start.unresolved ++ left).isEmpty } := by
  induction requirements generalizing start with
  | nil =>
    cases h
    exact ⟨[], [], .nil, by simp⟩
  | cons r rest ih =>
    unfold resolveLoop at h
    obtain ⟨hit, one, h⟩ := bind_ok' h
    have here := resolveOne_ok one
    cases hit with
    | none =>
      obtain ⟨hits, left, sorted, rfl⟩ := ih h
      exact ⟨hits, r :: left, .left here sorted, by simp⟩
    | some hit =>
      obtain ⟨hits, left, sorted, rfl⟩ := ih h
      refine ⟨hit :: hits, left, .hit here sorted, ?_⟩
      by_cases bare : hit.sourceRef = ""
      · simp [bare]
      · simp [bare]

theorem resolveLoop_error {requirements : List Requirement} {start : ResolutionResult}
    (h : resolveLoop T store scope context requirements start = .error e) :
    e = .attributeError ∧ ¬Shaped context := by
  induction requirements generalizing start with
  | nil => cases h
  | cons r rest ih =>
    unfold resolveLoop at h
    rcases bind_error h with h | ⟨hit, -, h⟩
    · exact resolveOne_error h
    · cases hit with
      | none => exact ih h
      | some hit => exact ih h

theorem Answered.requirement {counts : StandingPolicy → Bool} {hit : SatisfiedRequirement}
    (h : Answered T store scope context counts r hit) : hit.requirement = r := by
  cases h <;> rfl

/-- What a policy answered was decided by one, for a requirement that policies may answer. -/
theorem Answered.decided {counts : StandingPolicy → Bool} {hit : SatisfiedRequirement}
    (h : Answered T store scope context counts r hit) (held : hit.source = "standing_policy") :
    policyIneligible r.kind = false ∧ ∃ p, Decides T store scope context counts p := by
  cases h with
  | policy _ _ eligible decides => exact ⟨eligible, _, decides⟩
  | _ => exact absurd held (by simp)

theorem Answered.unheld {counts : StandingPolicy → Bool} {hit : SatisfiedRequirement}
    (h : Answered T store scope context counts r hit) (held : hit.source = "standing_policy") :
    r.kind ≠ .fact ∧ r.kind ≠ .evidence := by
  have eligible := (h.decided held).1
  refine ⟨fun fact => ?_, fun evidence => ?_⟩
  · rw [fact] at eligible
    cases eligible
  · rw [evidence] at eligible
    cases eligible

theorem Sorted.ladder {requirements left : List Requirement} {hits : List SatisfiedRequirement}
    (h : Sorted T store scope context requirements hits left) :
    (hits.map (·.requirement) ++ left).Perm requirements ∧ (hits.map (·.requirement)).Sublist requirements ∧
      left.Sublist requirements ∧
      (∀ hit ∈ hits, Answered T store scope context (·.enabled) hit.requirement hit) ∧
      ∀ r ∈ left, Unanswered T store scope context (·.enabled) r := by
  induction h with
  | nil => exact ⟨.nil, .slnil, .slnil, by simp, by simp⟩
  | hit here _ ih =>
    obtain ⟨whole, satisfied, unresolved, answered, unanswered⟩ := ih
    rw [List.map_cons, here.requirement]
    exact ⟨whole.cons _, satisfied.cons_cons _, unresolved.cons _,
      List.forall_mem_cons.mpr ⟨here.requirement.symm ▸ here, answered⟩, unanswered⟩
  | left here _ ih =>
    obtain ⟨whole, satisfied, unresolved, answered, unanswered⟩ := ih
    exact ⟨List.perm_middle.trans (whole.cons _), satisfied.cons _, unresolved.cons_cons _, answered,
      List.forall_mem_cons.mpr ⟨here, unanswered⟩⟩

end

/-- Requirements are resolved by the first rung that has an answer, a policy by its newest enabled version; only a
context with a part that is no dict stops it. -/
theorem resolve_ladder (T : PyText) (store : Option PolicyStore) (scope : Scope) (context : List (String × Json))
    (requirements : List Requirement) :
    match resolve T store scope context requirements with
    | .ok res => Ladder T store scope context (·.enabled) requirements res
    | .error e => e = .attributeError ∧ ¬Shaped context := by
  cases done : resolve T store scope context requirements with
  | error e => exact resolveLoop_error done
  | ok res =>
    obtain ⟨hits, left, sorted, rfl⟩ := resolveLoop_ok done
    obtain ⟨whole, satisfied, unresolved, answered, unanswered⟩ := sorted.ladder
    exact
      { whole
        satisfiedInOrder := satisfied
        unresolvedInOrder := unresolved
        asks := by simp
        evidence := rfl
        first := answered
        unheld := fun hit mem held => (answered hit mem).unheld held
        left := unanswered }

/-- `_context_for`: the parts of the run metadata that the rungs look into. -/
def contextOf (runMetadata : Json) : List (String × Json) :=
  ["system_derived", "verified_artifacts", "context_candidates", "policy_conditions"].map fun key =>
    (key, contextFor runMetadata key)

section

variable {T : PyText} {md : Json} {key : String}

theorem contextFor_contextOf
    (mem : key ∈ ["system_derived", "verified_artifacts", "context_candidates", "policy_conditions"]) :
    contextFor (.obj (contextOf md)) key = contextFor md key := by
  have settled : (if (contextFor md key).truthy then contextFor md key else .obj []) = contextFor md key := by
    unfold contextFor
    split
    · split <;> simp_all
    · simp
  have found : (Json.obj (contextOf md)).get? key = some (contextFor md key) := by
    simp only [List.mem_cons, List.not_mem_nil, or_false] at mem
    rcases mem with rfl | rfl | rfl | rfl <;> rfl
  conv_lhs => unfold contextFor
  rw [found]
  exact settled

theorem contextGet_contextOf
    (mem : key ∈ ["system_derived", "verified_artifacts", "context_candidates", "policy_conditions"]) (name : String) :
    contextGet (.obj (contextOf md)) key name = contextGet md key name := by
  unfold contextGet
  rw [contextFor_contextOf mem]

theorem resolveOne_contextOf (s : PolicyStore) (board contractRef : String) (r : Requirement) :
    resolveOne T (some s) ⟨"", board, contractRef⟩ (contextOf md) r =
      AgentflowHermes.resolveOne T s.rows board contractRef md r := by
  rw [resolveOne_rungs]
  unfold resolveOne matchPolicy policyAnswer contextAnswer
  rw [contextGet_contextOf (by simp), contextGet_contextOf (by simp), contextGet_contextOf (by simp),
    contextFor_contextOf (by simp)] <;> rfl

theorem resolveLoop_contextOf (s : PolicyStore) (board contractRef : String) (requirements : List Requirement)
    (start : ResolutionResult) :
    (resolveLoop T (some s) ⟨"", board, contractRef⟩ (contextOf md) requirements start).map
        (fun res => (⟨res.satisfied, res.unresolved⟩ : Resolution)) =
      (resolveAll T s.rows board contractRef md requirements).map fun res =>
        ⟨start.satisfied ++ res.satisfied, start.unresolved ++ res.unresolved⟩ := by
  induction requirements generalizing start with
  | nil => simp [resolveLoop, resolveAll, Except.map]
  | cons r rest ih =>
    unfold resolveLoop resolveAll
    rw [resolveOne_contextOf]
    cases AgentflowHermes.resolveOne T s.rows board contractRef md r with
    | error e => rfl
    | ok hit =>
      cases hit with
      | none =>
        refine (ih _).trans ?_
        cases resolveAll T s.rows board contractRef md rest with
        | error e => rfl
        | ok later => simp [Except.map, Bind.bind, Except.bind, pure, Except.pure]
      | some hit =>
        refine (ih _).trans ?_
        cases resolveAll T s.rows board contractRef md rest with
        | error e => rfl
        | ok later => simp [Except.map, Bind.bind, Except.bind, pure, Except.pure]

/-- The resolver of the engine is the ladder over the run metadata, in the scope of a board. -/
theorem humanEffortResolver_ladder (s : PolicyStore) (board contractRef : String) (requirements : List Requirement) :
    humanEffortResolver T s.rows board contractRef requirements md =
      (resolve T (some s) ⟨"", board, contractRef⟩ (contextOf md) requirements).map fun res =>
        ⟨res.satisfied, res.unresolved⟩ := by
  refine Eq.trans ?_ (resolveLoop_contextOf s board contractRef requirements {}).symm
  unfold humanEffortResolver
  cases resolveAll T s.rows board contractRef md requirements with
  | error e => rfl
  | ok res => simp [Except.map]

end

/-- A policy that its second version has switched off. -/
def withdrawnStore : PolicyStore :=
  (PolicyStore.empty.createStandingPolicy "docs" "" "main" "generic" [] (.obj [("decision", .str "approve")]) true)
    |>.createStandingPolicy "docs" "" "main" "generic" [] (.obj [("decision", .str "hold")]) false

def approval : Requirement := { name := "approve", kind := .authorization }

/-- The version that was switched off is passed over, and the one before it decides. -/
theorem withdrawn_policy_decides :
    ¬∀ (T : PyText) (store : Option PolicyStore) (scope : Scope) (context : List (String × Json))
      (requirements : List Requirement) (res : ResolutionResult),
      resolve T store scope context requirements = .ok res →
        Ladder T store scope context (fun _ => true) requirements res := by
  intro claim
  have ladder := claim asciiText (some withdrawnStore) { projectScope := "main", actionScope := "generic" } [] [approval]
    { satisfied := [⟨approval, .str "approve", "standing_policy", "", "docs"⟩] } rfl
  obtain ⟨-, p, ⟨s, stored, mem, newest⟩, enabled, -, -⟩ :=
    (ladder.first _ List.mem_cons_self).decided rfl
  cases stored
  have rows : withdrawnStore.rows =
      [⟨"docs", 1, "", "main", "generic", [], .obj [("decision", .str "approve")], true⟩,
        ⟨"docs", 2, "", "main", "generic", [], .obj [("decision", .str "hold")], false⟩] := rfl
  rw [rows] at mem newest
  simp only [List.mem_cons, List.not_mem_nil, or_false] at mem
  rcases mem with rfl | rfl
  · exact absurd (newest _ (List.mem_cons_of_mem _ List.mem_cons_self) rfl rfl) (by decide)
  · cases enabled

end HumanEffortResolver

end AgentflowHermes
