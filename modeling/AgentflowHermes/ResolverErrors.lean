import AgentflowHermes.OutcomeCompiler
import AgentflowHermes.OutcomeErrors

namespace AgentflowHermes

/-- A row of `standing_policies`. -/
structure StandingPolicy where
  policyId : String
  version : Int
  ownerRef : String
  projectScope : String
  actionScope : String
  conditions : List (String × Json)
  decision : Json
  enabled : Bool

def policyIneligible : RequirementKind → Bool
  | .fact | .evidence => true
  | _ => false

/-- `latest_by_id` takes a row up: a dict keeps the place of a key it already has. -/
def takeLatest (latest : List StandingPolicy) (row : StandingPolicy) : List StandingPolicy :=
  if latest.any fun p => p.policyId == row.policyId then
    latest.map fun p => if p.policyId = row.policyId ∧ p.version < row.version then row else p
  else latest ++ [row]

def latestById (policies : List StandingPolicy) : List StandingPolicy :=
  (policies.filter fun p => p.enabled).foldl takeLatest []

section

variable (T : PyText)

def conditionsMatch (candidate : Json) : List (String × Json) → Except PyError Bool
  | [] => .ok true
  | (key, value) :: rest =>
    if !candidate.isDict then .error .attributeError
    else if T.equal ((candidate.get? key).getD .null) value then conditionsMatch candidate rest
    else .ok false

/-- `_row_to_policy` on the decision column. -/
def decisionText (decision : Json) : String :=
  if decision.isDict then T.str ((decision.get? "decision").getD (.str "")) else T.str decision

/-- The first policy of the scope whose conditions hold. -/
def findMatch (ownerRef projectScope actionScope : String) (conditions : Json) :
    List StandingPolicy → Except PyError (Option StandingPolicy)
  | [] => .ok none
  | p :: rest =>
    if p.ownerRef ≠ ownerRef ∨ p.projectScope ≠ projectScope ∨ p.actionScope ≠ actionScope then
      findMatch ownerRef projectScope actionScope conditions rest
    else do
      if ← conditionsMatch T conditions p.conditions then return some p
      findMatch ownerRef projectScope actionScope conditions rest

/-- One entry of `_context_for`: `metadata.get(key) or {}`. -/
def contextFor (runMetadata : Json) (key : String) : Json :=
  match runMetadata.get? key with
  | some v => if v.truthy then v else .obj []
  | none => .obj []

/-- `(context.get(key) or {}).get(name)`; a truthy value that is no dict has no `get`. -/
def contextGet (runMetadata : Json) (key name : String) : Except PyError (Option Json) :=
  match contextFor runMetadata key with
  | .obj fields => .ok ((fields.lookup name).bind fun v => match v with
      | .null => none
      | v => some v)
  | _ => .error .attributeError

/-- `_default_artifact_lookup`: the value and where it comes from. -/
def artifactOf (hit : Json) : Option (Json × String) :=
  match hit with
  | .obj _ =>
    match hit.get? "value" with
    | none | some .null => none
    | some v => some (v, T.strOr (hit.get? "source_ref") "")
  | v => some (v, "")

/-- `_resolve_one`: derivation, artifact, policy, context; `none` leaves it to the owner. -/
def resolveOne (policies : List StandingPolicy) (projectScope actionScope : String) (runMetadata : Json)
    (r : Requirement) : Except PyError (Option SatisfiedRequirement) := do
  match ← contextGet runMetadata "system_derived" r.name with
  | some v => return some ⟨r, v, "system_derived", "", ""⟩
  | none =>
    match (← contextGet runMetadata "verified_artifacts" r.name).bind (artifactOf T) with
    | some (v, ref) => return some ⟨r, v, "verified_artifact", ref, ""⟩
    | none =>
      let policy ← if policyIneligible r.kind then .ok none
        else findMatch T "" projectScope actionScope (contextFor runMetadata "policy_conditions") (latestById policies)
      match policy with
      | some p => return some ⟨r, .str (decisionText T p.decision), "standing_policy", "", p.policyId⟩
      | none =>
        match ← contextGet runMetadata "context_candidates" r.name with
        | some v => return some ⟨r, v, "current_owner_reply", "", ""⟩
        | none => return none

def resolveAll (policies : List StandingPolicy) (projectScope actionScope : String) (runMetadata : Json) :
    List Requirement → Except PyError Resolution
  | [] => .ok ⟨[], []⟩
  | r :: rest => do
    let hit ← resolveOne T policies projectScope actionScope runMetadata r
    let later ← resolveAll policies projectScope actionScope runMetadata rest
    match hit with
    | some hit => return ⟨hit :: later.satisfied, later.unresolved⟩
    | none => return ⟨later.satisfied, r :: later.unresolved⟩

/-- `HumanEffortResolver.resolve` over the standing policies of the store, in the scope of a board. -/
def humanEffortResolver (policies : List StandingPolicy) (board : String) (contractRef : String)
    (requirements : List Requirement) (runMetadata : Json) : Except PyError Resolution :=
  resolveAll T policies board contractRef runMetadata requirements

end

section

variable {T : PyText} {md : Json} {key name owner scope action : String} {conditions candidate : Json}

/-- What a rung of the ladder finds under a name. -/
def contextField (md : Json) (key name : String) : Option Json :=
  ((contextFor md key).get? name).bind fun v => match v with
    | .null => none
    | v => some v

theorem contextGet_dict (h : (contextFor md key).isDict) (name : String) :
    contextGet md key name = .ok (contextField md key name) := by
  unfold contextGet contextField
  cases hc : contextFor md key with
  | obj fields => rfl
  | _ => rw [hc] at h; cases h

theorem contextGet_stuck (h : ¬(contextFor md key).isDict) (name : String) :
    contextGet md key name = .error .attributeError := by
  unfold contextGet
  cases hc : contextFor md key with
  | obj fields => rw [hc] at h; exact absurd rfl h
  | _ => rfl

def InScope (owner scope action : String) (p : StandingPolicy) : Bool :=
  p.ownerRef == owner && p.projectScope == scope && p.actionScope == action

section

variable (T) (policies : List StandingPolicy) (scope action : String) (md : Json) (r : Requirement)

/-- The policy rung; facts and evidence pass it by. -/
def policyAnswer : Except PyError (Option StandingPolicy) :=
  if policyIneligible r.kind then .ok none
  else findMatch T "" scope action (contextFor md "policy_conditions") (latestById policies)

end

/-- The last rung. -/
def contextAnswer (md : Json) (r : Requirement) : Except PyError (Option SatisfiedRequirement) := do
  match ← contextGet md "context_candidates" r.name with
  | some v => return some ⟨r, v, "current_owner_reply", "", ""⟩
  | none => return none

theorem resolveOne_rungs (policies : List StandingPolicy) (r : Requirement) :
    resolveOne T policies scope action md r = (do
      match ← contextGet md "system_derived" r.name with
      | some v => return some ⟨r, v, "system_derived", "", ""⟩
      | none =>
        match (← contextGet md "verified_artifacts" r.name).bind (artifactOf T) with
        | some (v, ref) => return some ⟨r, v, "verified_artifact", ref, ""⟩
        | none =>
          match ← policyAnswer T policies scope action md r with
          | some p => return some ⟨r, .str (decisionText T p.decision), "standing_policy", "", p.policyId⟩
          | none => contextAnswer md r) := by
  unfold resolveOne policyAnswer contextAnswer
  cases policyIneligible r.kind <;> rfl

end

end AgentflowHermes
