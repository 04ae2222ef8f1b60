import AgentflowHermes.LiveSanitize

namespace AgentflowHermes.Roadmap

inductive StepRole
  | work
  | review
  | terminal
  deriving DecidableEq, Repr

def StepRole.value : StepRole → String
  | .work => "work"
  | .review => "review"
  | .terminal => "terminal"

structure TemplateStep where
  kind : String
  role : StepRole
  objective : String
  deriving DecidableEq, Repr

structure TemplatePreset where
  name : String
  lane : String
  sliceTemplate : List String
  steps : List TemplateStep
  goalAnchor : String

def legacyPreset : TemplatePreset where
  name := "impl-review-fanin"
  lane := "#hermes-main / agentflow-hermes"
  sliceTemplate := ["impl", "review", "fanin"]
  steps := [
    ⟨"impl", .work, "Implement the bounded slice and produce concrete commit/test evidence."⟩,
    ⟨"review", .review,
      "Review the implementation fail-closed and emit GO/BLOCK/NEED_MORE with continuation markers when GO."⟩,
    ⟨"fanin", .terminal,
      "Fan in implementation and review evidence, verify the ACK edge, and report the final roadmap continuation state."⟩]
  goalAnchor := "#hermes-main / agentflow-hermes exists to ship reviewed, ACKed AgentFlow-Hermes implementation slices without channel-policy sprawl."

def researchLoop : TemplatePreset where
  name := "research-loop"
  lane := "#research / warroom-os"
  sliceTemplate := ["scout", "evidence", "scorecard", "review", "brief"]
  steps := [
    ⟨"scout", .work, "Find the candidate topic/source/event, define the research question, and bound the scope."⟩,
    ⟨"evidence", .work, "Collect primary-source links, citations, numbers, contradictions, and uncertainty notes."⟩,
    ⟨"scorecard", .work, "Rank confidence, impact, actionability, and red flags from the gathered evidence."⟩,
    ⟨"review", .review,
      "Review source quality, evidence sufficiency, scorecard logic, and lane fit; fail closed on unsupported claims."⟩,
    ⟨"brief", .terminal,
      "Produce the concise final research brief with citations, scorecard outcome, ACK evidence, and continuation markers."⟩]
  goalAnchor := "#research / warroom-os exists to turn signals into sourced, scored, operator-useful research briefs; do not drift into generic implementation tasks or unverified speculation."

def shamanLoop : TemplatePreset where
  name := "shaman-loop"
  lane := "#shaman / oracle-lab"
  sliceTemplate := ["design", "impl", "browser_e2e", "review", "fanin"]
  steps := [
    ⟨"design", .work, "Design the bounded artifact UX/IA/content contract for oracle-lab/wiki/KB experiences."⟩,
    ⟨"impl", .work, "Implement the bounded artifact, config, or template slice with concrete evidence."⟩,
    ⟨"browser_e2e", .work, "Run browser/user-flow smoke for generated or UI artifacts and capture runtime evidence."⟩,
    ⟨"review", .review,
      "Review drift, safety, raw-envelope leaks, browser/e2e evidence, and final-report readiness."⟩,
    ⟨"fanin", .terminal,
      "Fan in design, implementation, browser smoke, and review evidence into the final ACK report."⟩]
  goalAnchor := "#shaman / oracle-lab exists to build accumulated oracle/wiki/KB artifacts with browser-verifiable UX; do not drift into generic guardrail work or unsupported esoteric claims."

def presets : List TemplatePreset := [legacyPreset, researchLoop, shamanLoop]

/-- `kind.replace("_", "").replace("-", "").isalnum()`. -/
def identifierSafe (T : PyText) (kind : String) : Bool :=
  let letters := kind.toList.filter fun c => c != '_' && c != '-'
  !letters.isEmpty && letters.all T.isWord

/-- `ResolvedRoadmapTemplate`, with what `_validate_resolved` checks. -/
structure ResolvedTemplate (T : PyText) where
  name : String
  lane : String
  goalAnchor : String
  steps : List TemplateStep
  distinct : (steps.map TemplateStep.kind).Pairwise (· ≠ ·)
  identifiers : ∀ s ∈ steps, identifierSafe T s.kind = true
  oneReview : (steps.filter fun s => s.role = .review).length = 1
  oneTerminal : (steps.filter fun s => s.role = .terminal).length = 1
  final : (steps.getLast?.any fun s => s.role = .terminal) = true

section

variable (T : PyText)

def validateResolved (name lane goalAnchor : String) (steps : List TemplateStep) : Except String (ResolvedTemplate T) :=
  if steps = [] then .error "template requires at least one step"
  else if distinct : (steps.map TemplateStep.kind).Pairwise (· ≠ ·) then
    if identifiers : ∀ s ∈ steps, identifierSafe T s.kind = true then
      if oneReview : (steps.filter fun s => s.role = .review).length = 1 then
        if oneTerminal : (steps.filter fun s => s.role = .terminal).length = 1 then
          if final : (steps.getLast?.any fun s => s.role = .terminal) = true then
            .ok { name, lane, goalAnchor, steps, distinct, identifiers, oneReview, oneTerminal, final }
          else .error "terminal step must be final"
        else .error "template requires exactly one terminal step"
      else .error "template requires exactly one review step"
    else .error "template step kind must be identifier-safe"
  else .error "template step kinds must be unique"

def TemplatePreset.stepFor (p : TemplatePreset) (kind : String) : Option TemplateStep :=
  p.steps.find? fun s => s.kind == kind

def legacyStep (preset : TemplatePreset) (total : Nat) (kind : String) (index : Nat) : TemplateStep :=
  match preset.stepFor kind with
  | some step => step
  | none =>
    if kind = StepRole.review.value then
      ⟨kind, .review, "Review the " ++ kind ++ " step and emit a fail-closed verdict."⟩
    else if index + 1 = total then
      ⟨kind, .terminal, "Complete terminal fan-in/ACK for the " ++ kind ++ " step."⟩
    else ⟨kind, .work, "Complete the " ++ kind ++ " work step with concrete evidence."⟩

/-- `resolve_template`: a named preset is taken whole, and without one the roles follow from the sequence. -/
def resolveTemplate (templatePreset : String) (sliceTemplate : List String) (goalAnchor : String) :
    Except String (ResolvedTemplate T) :=
  if templatePreset = "" then
    let sequence := if sliceTemplate = [] then legacyPreset.sliceTemplate else sliceTemplate
    let name := if sequence = legacyPreset.sliceTemplate then legacyPreset.name else "legacy-inferred"
    validateResolved T name legacyPreset.lane (if goalAnchor = "" then legacyPreset.goalAnchor else goalAnchor)
      (sequence.zipIdx.map fun k => legacyStep legacyPreset sequence.length k.1 k.2)
  else match presets.find? fun p => p.name == templatePreset with
    | none => .error ("unknown template_preset: " ++ templatePreset)
    | some preset =>
      if sliceTemplate ≠ [] ∧ sliceTemplate ≠ preset.sliceTemplate then
        .error "slice_template does not match template_preset"
      else validateResolved T preset.name preset.lane (if goalAnchor = "" then preset.goalAnchor else goalAnchor) preset.steps

end

theorem ResolvedTemplate.nonempty {T : PyText} (t : ResolvedTemplate T) : t.steps ≠ [] := by
  intro empty
  have final := t.final
  rw [empty] at final
  cases final

section

variable {T : PyText} {template : ResolvedTemplate T}

theorem validateResolved_steps {name lane anchor : String} {steps : List TemplateStep}
    (valid : validateResolved T name lane anchor steps = .ok template) : template.steps = steps := by
  unfold validateResolved at valid
  repeat' split at valid
  all_goals first
    | cases valid; rfl
    | cases valid

theorem presets_kinds : ∀ p ∈ presets, p.steps.map TemplateStep.kind = p.sliceTemplate ∧ p.sliceTemplate ≠ [] := by
  decide

theorem legacyStep_kind (total : Nat) (kind : String) (index : Nat) : (legacyStep legacyPreset total kind index).kind = kind := by
  unfold legacyStep
  cases found : legacyPreset.stepFor kind with
  | some step =>
    have same := List.find?_some found
    simpa using same
  | none =>
    dsimp only
    split
    · rfl
    · split <;> rfl

/-- The steps of a sequence without a preset have the kinds of the sequence. -/
theorem legacySteps_kinds (sequence : List String) (total : Nat) :
    (sequence.zipIdx.map fun k => legacyStep legacyPreset total k.1 k.2).map TemplateStep.kind = sequence := by
  rw [List.map_map]
  have kinds : (TemplateStep.kind ∘ fun k : String × Nat => legacyStep legacyPreset total k.1 k.2) = Prod.fst :=
    funext fun k => legacyStep_kind total k.1 k.2
  rw [kinds, List.zipIdx_map_fst]

/-- A template is resolved again from the sequence that it was resolved to. -/
theorem resolve_again {preset goalAnchor : String} {given : List String}
    (resolved : resolveTemplate T preset given goalAnchor = .ok template) :
    resolveTemplate T preset (template.steps.map TemplateStep.kind) goalAnchor = .ok template := by
  unfold resolveTemplate at resolved
  by_cases bare : preset = ""
  · rw [if_pos bare] at resolved
    have steps := validateResolved_steps resolved
    generalize chosen : (if given = [] then legacyPreset.sliceTemplate else given) = sequence at resolved steps
    have some' : sequence ≠ [] := by
      rw [← chosen]
      split
      · decide
      · assumption
    rw [steps, legacySteps_kinds]
    unfold resolveTemplate
    rw [if_pos bare, if_neg some']
    exact resolved
  · rw [if_neg bare] at resolved
    cases found : presets.find? fun p => p.name == preset with
    | none =>
      rw [found] at resolved
      cases resolved
    | some p =>
      rw [found] at resolved
      dsimp only at resolved
      split at resolved
      · cases resolved
      next =>
        obtain ⟨same, _⟩ := presets_kinds p (List.mem_of_find?_eq_some found)
        rw [validateResolved_steps resolved, same]
        unfold resolveTemplate
        rw [if_neg bare, found]
        dsimp only
        rw [if_neg fun both => both.2 rfl]
        exact resolved

end

end AgentflowHermes.Roadmap
