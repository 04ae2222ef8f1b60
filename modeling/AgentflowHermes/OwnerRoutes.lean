import AgentflowHermes.IngestRules
import AgentflowHermes.OutcomeSource

namespace AgentflowHermes

open CrashProgram

/-- The ways the owner branch can go. -/
inductive OwnerRoute
  | noop
  | raises (error : String)
  | auto (contract : InputContract) (r : Resolution)
  | ask (contract : InputContract) (r : Resolution)

def autoContractRef (e : OutcomeEnvelope) : String := orText e.contractRef genericOwnerInputContract

def ownerRoute (cfg : IngestConfig) (e : OutcomeEnvelope) (requirements : List Requirement) (runMetadata : Json) :
    OwnerRoute :=
  match ownerContract cfg.contracts (autoContractRef e) requirements with
  | none => .noop
  | some (none, _) => .raises "ValueError"
  | some (some contract, requirements) =>
    match cfg.resolve (autoContractRef e) requirements runMetadata with
    | .error _ => .raises "AttributeError"
    | .ok r => if r.unresolved = [] then .auto contract r else .ask contract r

def OwnerRoute.perform (cfg : IngestConfig) (e : OutcomeEnvelope) : OwnerRoute → Run OwnerOutcome
  | .noop => return ⟨"noop", none, false, none, false⟩
  | .raises error => .raise error
  | .auto contract r => autoResolve e (autoContractRef e) contract r cfg.adapter
  | .ask contract r => do
    let plan ← OwnerInputHandler.plan e cfg.adapter contract cfg.inbox r.unresolved "" ""
    return ⟨"owner_input_planned", some plan.instanceId, plan.created, some plan.state, false⟩

theorem ownerInputLike_perform (cfg : IngestConfig) (e : OutcomeEnvelope) (requirements : List Requirement) (md : Json) :
    ownerInputLike cfg e requirements md = (ownerRoute cfg e requirements md).perform cfg e := by
  unfold ownerInputLike ownerRoute autoContractRef
  dsimp only
  rcases ownerContract cfg.contracts (orText e.contractRef genericOwnerInputContract) requirements with
    _ | ⟨_ | contract, required⟩
  · rfl
  · rfl
  · dsimp only
    cases cfg.resolve (orText e.contractRef genericOwnerInputContract) required md with
    | error => rfl
    | ok r => by_cases hr : r.unresolved = [] <;> simp only [hr, if_true, if_false] <;> rfl

/-- The kind filter lets the outcome through. -/
def handles (cfg : IngestConfig) (e : OutcomeEnvelope) : Bool :=
  !cfg.handleKinds.any fun kinds => !kinds.contains e.continuationKind

/-- The outcome of an event that comes from `src`. -/
def compileFrom (T : PyText) (src : SourceRef) (ev : BoardEvent) : Except PyError CompiledOutcome :=
  compileOutcome T (fun _ => none) ev.runMetadata ⟨ev.title, ev.summary, ev.eventKind, ev.assignee, []⟩ src

/-- The owner branch an event takes; an event of another kind takes none. -/
def eventOwnerRoute (T : PyText) (cfg : IngestConfig) (ev : BoardEvent) : OwnerRoute :=
  match compileEvent T cfg ev with
  | .error _ => .raises "OutcomeEnvelopeError"
  | .ok c =>
    if handles cfg c.envelope && c.envelope.continuationKind.ownerInput then
      ownerRoute cfg c.envelope c.requirements ev.runMetadata
    else .noop

variable {T : PyText} {cfg : IngestConfig} {ev : BoardEvent} {c : CompiledOutcome}

theorem routeEvent_owner (hc : compileEvent T cfg ev = .ok c) (handled : handles cfg c.envelope)
    (owner : c.envelope.continuationKind.ownerInput) : routeEvent T cfg ev = (do
      let o ← (eventOwnerRoute T cfg ev).perform cfg c.envelope
      return ⟨⟨ev.eventId, o.action, none, o.state, []⟩, false⟩) := by
  have route : eventOwnerRoute T cfg ev = ownerRoute cfg c.envelope c.requirements ev.runMetadata := by
    unfold eventOwnerRoute
    rw [hc]
    simp only [handled, owner, Bool.and_self, if_true]
  have passes : ¬(cfg.handleKinds.any fun kinds => !kinds.contains c.envelope.continuationKind) = true := by
    simpa [handles] using handled
  rw [route, ← ownerInputLike_perform]
  unfold routeEvent
  rw [hc]
  unfold routeCompiled
  dsimp only
  rw [if_neg passes]
  cases hk : c.envelope.continuationKind with
  | needsInput => rfl
  | approvalRequired => rfl
  | _ => rw [hk] at owner; cases owner

theorem routeEvent_filtered (hc : compileEvent T cfg ev = .ok c) (filtered : ¬handles cfg c.envelope) :
    routeEvent T cfg ev = pure ⟨⟨ev.eventId, "noop", none, none, []⟩, false⟩ := by
  have stops : (cfg.handleKinds.any fun kinds => !kinds.contains c.envelope.continuationKind) = true := by
    simpa [handles] using filtered
  unfold routeEvent
  rw [hc]
  unfold routeCompiled
  dsimp only
  rw [if_pos stops]

theorem compileEvent_source (hc : compileEvent T cfg ev = .ok c) : c.envelope.toSourceRef = eventSource cfg ev :=
  compileOutcome_source _ _ _ c hc

/-- An owner branch that asks or resolves is one of a compiled, handled owner event. -/
theorem eventOwnerRoute_compiled {contract : InputContract} {r : Resolution}
    (h : eventOwnerRoute T cfg ev = .ask contract r ∨ eventOwnerRoute T cfg ev = .auto contract r) :
    ∃ c, compileEvent T cfg ev = .ok c ∧ handles cfg c.envelope ∧ c.envelope.continuationKind.ownerInput := by
  unfold eventOwnerRoute at h
  cases hc : compileEvent T cfg ev with
  | error =>
    rw [hc] at h
    rcases h with h | h <;> cases h
  | ok c =>
    rw [hc] at h
    dsimp only at h
    split at h
    next hb =>
      rw [Bool.and_eq_true] at hb
      exact ⟨c, rfl, hb⟩
    next => rcases h with h | h <;> cases h

end AgentflowHermes
