import AgentflowHermes.RoadmapApply
import AgentflowHermes.RoadmapConfig

namespace AgentflowHermes.Roadmap

/-- `ResolvedRoadmapTemplate.step_for`. -/
def ResolvedTemplate.stepFor {T : PyText} (template : ResolvedTemplate T) (kind : String) : Except String TemplateStep :=
  match template.steps.find? fun s => s.kind == kind with
  | some step => .ok step
  | none => .error ("resolved template " ++ template.name ++ " has no step: " ++ kind)

/-- `_apply_task_profile`, which resolves the template of the transition again. -/
def taskProfile (T : PyText) (t : Transition) (policy : Policy) (kind : String) : Except String TaskProfile := do
  let template ← t.template T
  let _ ← template.stepFor kind
  return applyTaskProfile T t template policy kind

/-- What `_validate_resolved` leaves: different kinds, one review, and one terminal step at the end. -/
structure WellFormed (steps : List TemplateStep) : Prop where
  distinct : (steps.map TemplateStep.kind).Pairwise (· ≠ ·)
  oneReview : (steps.filter fun s => s.role = .review).length = 1
  oneTerminal : (steps.filter fun s => s.role = .terminal).length = 1
  final : ∃ last, steps.getLast? = some last ∧ last.role = .terminal

section

variable {T : PyText} {template : ResolvedTemplate T}

theorem ResolvedTemplate.wellFormed (template : ResolvedTemplate T) : WellFormed template.steps where
  distinct := template.distinct
  oneReview := template.oneReview
  oneTerminal := template.oneTerminal
  final := by
    have final := template.final
    cases last : template.steps.getLast? with
    | none =>
      rw [last] at final
      cases final
    | some step =>
      rw [last] at final
      exact ⟨step, rfl, by simpa using final⟩

/-- Each step is found under its kind. -/
theorem ResolvedTemplate.stepFor_mem {step : TemplateStep} (mem : step ∈ template.steps) :
    template.stepFor step.kind = .ok step := by
  unfold ResolvedTemplate.stepFor
  cases found : template.steps.find? fun s => s.kind == step.kind with
  | none =>
    have other := List.find?_eq_none.mp found step mem
    simp at other
  | some first =>
    have same : first.kind = step.kind := by simpa using List.find?_some found
    have there := List.mem_of_find?_eq_some found
    have one : first = step := List.inj_on_of_nodup_map template.distinct there mem same
    rw [one]

theorem roleOf_stepFor {step : TemplateStep} (found : template.stepFor step.kind = .ok step) :
    roleOf T template step.kind = step.role := by
  unfold ResolvedTemplate.stepFor at found
  unfold roleOf
  cases first : template.steps.find? fun s => s.kind == step.kind with
  | none =>
    rw [first] at found
    cases found
  | some one =>
    rw [first] at found
    rw [Except.ok.inj found]
    rfl

/-- The steps that cards are planned for. -/
theorem mem_candidates {t : Transition} {key : String} {depth : Int} {s : PlanSource} {parentKey : String}
    {steps : List TemplateStep} {c : Candidate} (mem : c ∈ candidates T t template key depth s parentKey steps) :
    ∃ step ∈ steps, c.kind = step.kind ∧ c.metadata.templateRole = step.role.value := by
  induction steps generalizing parentKey with
  | nil => cases mem
  | cons step rest ih =>
    rw [candidates] at mem
    rcases List.mem_cons.mp mem with rfl | later
    · exact ⟨step, List.mem_cons_self, rfl, rfl⟩
    · obtain ⟨other, there, kept⟩ := ih later
      exact ⟨other, List.mem_cons_of_mem _ there, kept⟩

end

end AgentflowHermes.Roadmap

namespace AgentflowHermes.Config

open Roadmap

variable {r : Reader}

/-- The sequence of a transition is the one that its template is resolved to. -/
def Templated (r : Reader) (t : Transition) : Prop :=
  ∃ template, t.template r.text = .ok template ∧ template.steps.map TemplateStep.kind = t.sliceTemplate

theorem loadTransition_template {key : String} {value : Json} {t : Transition} (loaded : loadTransition r key value = .ok t) :
    Templated r t := by
  unfold loadTransition at loaded
  split at loaded
  next fields =>
    dsimp only at loaded
    cases sequence : strItems r (fields.lookup "slice_template") with
    | error e =>
      rw [sequence] at loaded
      cases loaded
    | ok given =>
      rw [sequence] at loaded
      dsimp only [bind, Except.bind] at loaded
      split at loaded
      next => cases loaded
      next template resolved =>
        cases refs : strItems r (fields.lookup "policy_refs") with
        | error e =>
          rw [refs] at loaded
          cases loaded
        | ok policyRefs =>
          rw [refs] at loaded
          cases loaded
          exact ⟨template, resolve_again resolved, rfl⟩
  next => cases loaded

theorem foldlM_templated {fields : List (String × Json)} {before after : List (String × Transition)}
    (loaded : fields.foldlM (fun transitions f => do
      let transition ← loadTransition r f.1 f.2
      return Dicts.set f.1 transition transitions) before = .ok after)
    (kept : ∀ entry ∈ before, Templated r entry.2) : ∀ entry ∈ after, Templated r entry.2 := by
  induction fields generalizing before with
  | nil =>
    cases loaded
    exact kept
  | cons f fields ih =>
    rw [List.foldlM_cons] at loaded
    cases one : loadTransition r f.1 f.2 with
    | error e =>
      rw [one] at loaded
      cases loaded
    | ok t =>
      rw [one] at loaded
      refine ih loaded fun entry mem => ?_
      rcases Dicts.mem_set mem with rfl | old
      · exact loadTransition_template one
      · exact kept entry old

theorem loadTransitions_template {raw : Option Json} {ts : List (String × Transition)} (loaded : loadTransitions r raw = .ok ts) :
    ∀ entry ∈ ts, Templated r entry.2 := by
  unfold loadTransitions at loaded
  split at loaded
  next => exact foldlM_templated loaded fun _ none' => absurd none' List.not_mem_nil
  next =>
    cases loaded
    exact fun _ none' => absurd none' List.not_mem_nil

/-- A planned card of a transition: its kind has one step, whose role is that of the card and of its profile. -/
structure PlannedStep (T : PyText) (t : Transition) (template : ResolvedTemplate T) (c : Candidate) : Prop where
  step : ∃ step ∈ template.steps, step.kind = c.kind ∧ c.metadata.templateRole = step.role.value ∧
    template.stepFor c.kind = .ok step ∧ roleOf T template c.kind = step.role
  profile : ∀ policy, taskProfile T t policy c.kind = .ok (applyTaskProfile T t template policy c.kind)

theorem plannedStep {T : PyText} {t : Transition} {template : ResolvedTemplate T} (resolved : t.template T = .ok template)
    {key : String} {depth : Int} {s : PlanSource} {c : Candidate}
    (mem : c ∈ (buildPlan T t template key depth s).candidates) : PlannedStep T t template c := by
  obtain ⟨step, there, kind, role⟩ := mem_candidates mem
  have found := ResolvedTemplate.stepFor_mem there
  refine ⟨⟨step, there, kind.symm, role, kind ▸ found, kind ▸ roleOf_stepFor found⟩, fun policy => ?_⟩
  unfold taskProfile
  rw [resolved, kind]
  dsimp only [bind, Except.bind]
  rw [found]
  rfl

/-- What is resolved is well formed and is resolved again to itself, so that a transition that was loaded is planned and
applied with one role for each kind. -/
theorem resolveTemplate_stable (T : PyText) (r : Reader) :
    (∀ preset sequence goalAnchor, match resolveTemplate T preset sequence goalAnchor with
      | .error _ => True
      | .ok template => WellFormed template.steps ∧
        resolveTemplate T preset (template.steps.map TemplateStep.kind) goalAnchor = .ok template) ∧
    ∀ raw, match loadTransitions r raw with
      | .error _ => True
      | .ok ts => ∀ entry ∈ ts, ∃ template, entry.2.template r.text = .ok template ∧
        template.steps.map TemplateStep.kind = entry.2.sliceTemplate ∧
        ∀ key depth s, ∀ c ∈ (buildPlan r.text entry.2 template key depth s).candidates,
          PlannedStep r.text entry.2 template c := by
  constructor
  · intro preset sequence goalAnchor
    cases resolved : resolveTemplate T preset sequence goalAnchor with
    | error e => trivial
    | ok template => exact ⟨template.wellFormed, resolve_again resolved⟩
  · intro raw
    cases loaded : loadTransitions r raw with
    | error e => trivial
    | ok ts =>
      intro entry mem
      obtain ⟨template, resolved, same⟩ := loadTransitions_template loaded entry mem
      exact ⟨template, resolved, same, fun _ _ _ c planned => plannedStep resolved planned⟩

end AgentflowHermes.Config
