import AgentflowHermes.OutcomeCompiler

namespace AgentflowHermes

/-- What the computation returns, if it returns, satisfies `P`. -/
def OkOnly {α : Type} (P : α → Prop) (x : Except PyError α) : Prop := ∀ a, x = .ok a → P a

variable {α β : Type} {P : α → Prop} {Q : β → Prop}

theorem okOnly_ok {a : α} : OkOnly P (.ok a) ↔ P a := ⟨fun h => h a rfl, fun h _ he => by cases he; exact h⟩

theorem okOnly_error {e : PyError} : OkOnly P (.error e) := fun _ h => nomatch h

theorem okOnly_bind {x : Except PyError α} {f : α → Except PyError β} (hx : OkOnly P x)
    (hf : ∀ a, P a → OkOnly Q (f a)) : OkOnly Q (x >>= f) := by
  cases x with
  | error e => exact okOnly_error
  | ok a => exact hf a (hx a rfl)

theorem okOnly_map {x : Except PyError α} {f : α → β} (hx : OkOnly P x) (hf : ∀ a, P a → Q (f a)) :
    OkOnly Q (f <$> x) := by
  cases x with
  | error e => exact okOnly_error
  | ok a => exact okOnly_ok.mpr (hf a (hx a rfl))

theorem okOnly_catch {x y : Except PyError α} (hx : OkOnly P x) (hy : OkOnly P y) : OkOnly P (catchEnvelope x y) := by
  unfold catchEnvelope
  split
  · exact hy
  · exact hx

theorem okOnly_true {x : Except PyError α} : OkOnly (fun _ => True) x := fun _ _ => trivial

section

variable {T : PyText} {c : SourceRef}

theorem make_source {d : Draft} : OkOnly (fun e => e.toSourceRef = c) (OutcomeEnvelope.make c d) :=
  fun _ h => (OutcomeEnvelope.make_ok h).1

/-- An answer that is nothing, or an envelope of the source. -/
def SourceOf (c : SourceRef) {α : Type} : Option (OutcomeEnvelope × α) → Prop
  | some (e, _) => e.toSourceRef = c
  | none => True

theorem catch_make_source {d : Draft} {f : OutcomeEnvelope → Option (OutcomeEnvelope × α)}
    (hf : ∀ e, e.toSourceRef = c → SourceOf c (f e)) :
    OkOnly (SourceOf c) (catchEnvelope (f <$> OutcomeEnvelope.make c d) (.ok none)) :=
  okOnly_catch (okOnly_map make_source hf) (okOnly_ok.mpr trivial)

theorem fromStructured_source (block : Json) : OkOnly (fun e? => ∀ e ∈ e?, e.toSourceRef = c) (fromStructured T c block) := by
  have nothing : OkOnly (fun e? : Option OutcomeEnvelope => ∀ e ∈ e?, e.toSourceRef = c) (.ok none) :=
    okOnly_ok.mpr fun _ h => nomatch h
  unfold fromStructured
  split
  · exact nothing
  · split
    · refine okOnly_bind okOnly_true fun items _ => okOnly_catch (okOnly_map make_source ?_) nothing
      rintro e he _ ⟨⟩
      exact he
    · exact nothing

theorem unknownEnvelope_source (v : Verdict) : OkOnly (fun e => e.toSourceRef = c) (unknownEnvelope c v) := make_source

theorem fromVerdictText_source (text : String) : OkOnly (fun e => e.toSourceRef = c) (fromVerdictText T c text) := by
  unfold fromVerdictText
  dsimp only
  split
  · exact make_source
  · split
    · exact make_source
    · split
      · exact make_source
      · exact unknownEnvelope_source _

theorem fromTextFallback_source (text : String) : OkOnly (fun e => e.toSourceRef = c) (fromTextFallback T c text) := by
  unfold fromTextFallback
  split
  next marker _ =>
    unfold fromMarker
    dsimp only
    split
    · split
      · exact okOnly_catch make_source (unknownEnvelope_source _)
      · exact fromVerdictText_source text
    · exact fromVerdictText_source text
  next => exact fromVerdictText_source text

theorem compileFlatReviewer_source (md : Json) : OkOnly (SourceOf c) (compileFlatReviewer T c md) := by
  unfold compileFlatReviewer
  split
  · split
    · exact catch_make_source fun _ he => he
    · split
      · exact catch_make_source fun _ he => he
      · exact okOnly_ok.mpr trivial
  · exact okOnly_ok.mpr trivial

theorem compileGenericBlockerProse_source (text : String) : OkOnly (SourceOf c) (compileGenericBlockerProse T c text) := by
  unfold compileGenericBlockerProse
  split
  · exact okOnly_ok.mpr trivial
  · split
    · exact okOnly_ok.mpr trivial
    · dsimp only
      split
      · exact catch_make_source fun _ he => he
      · split
        · exact okOnly_ok.mpr trivial
        · exact catch_make_source fun _ he => he

theorem compileNaturalProse_source (text : String) : OkOnly (SourceOf c) (compileNaturalProse T c text) := by
  unfold compileNaturalProse
  split
  · dsimp only
    split
    · exact okOnly_ok.mpr trivial
    · exact catch_make_source fun _ he => he
  · exact okOnly_ok.mpr trivial

theorem compileDeterministic_source (text : String) : OkOnly (SourceOf c) (compileDeterministic T c text) := by
  unfold compileDeterministic
  refine okOnly_bind (fromTextFallback_source text) fun e he => ?_
  split
  · exact okOnly_bind okOnly_true fun _ _ => okOnly_ok.mpr he
  · refine okOnly_bind (compileGenericBlockerProse_source text) fun r hr => ?_
    cases r with
    | some r => exact okOnly_ok.mpr hr
    | none => exact compileNaturalProse_source text

theorem compileModelCandidate_source (candidate : Json) : OkOnly (SourceOf c) (compileModelCandidate T c candidate) := by
  unfold compileModelCandidate
  split
  · exact okOnly_bind okOnly_true fun _ _ => catch_make_source fun _ he => he
  · exact okOnly_ok.mpr trivial

theorem settleCandidate_source {r : Option (OutcomeEnvelope × List Requirement)} (hr : SourceOf c r) :
    OkOnly (fun r => r.envelope.toSourceRef = c) (settleCandidate c r) := by
  cases r with
  | none => exact okOnly_bind (unknownEnvelope_source _) fun _ he => okOnly_ok.mpr he
  | some r => exact okOnly_ok.mpr hr

theorem compileByModel_source (model : ModelCompiler) (input : ModelInput) :
    OkOnly (fun r => r.envelope.toSourceRef = c) (compileByModel T model input c) := by
  unfold compileByModel
  split
  next j _ => exact okOnly_bind (compileModelCandidate_source j) fun r hr => settleCandidate_source hr
  next =>
    have nothing : SourceOf c (none : Option (OutcomeEnvelope × List Requirement)) := trivial
    exact settleCandidate_source nothing

theorem deterministicOutcome_source {text : String} {e : OutcomeEnvelope} {rs : List Requirement} :
    (deterministicOutcome T text e rs).envelope = e := by
  unfold deterministicOutcome
  split
  · rfl
  · split <;> rfl

/-- A compiled outcome is about the event it was compiled from. -/
theorem compileOutcome_source (model : ModelCompiler) (md : Json) (input : ModelInput) :
    OkOnly (fun r => r.envelope.toSourceRef = c) (compileOutcome T model md input c) := by
  unfold compileOutcome
  split
  next block _ =>
    refine okOnly_bind (fromStructured_source block) fun e? he => ?_
    cases e? with
    | some e => exact okOnly_bind okOnly_true fun _ _ => okOnly_ok.mpr (he e rfl)
    | none => exact okOnly_bind (unknownEnvelope_source _) fun _ he => okOnly_ok.mpr he
  next =>
    refine okOnly_bind (compileFlatReviewer_source md) fun r hr => ?_
    cases r with
    | some r => exact okOnly_ok.mpr hr
    | none =>
      refine okOnly_bind (compileDeterministic_source input.summary) fun r hr => ?_
      cases r with
      | some r =>
        refine okOnly_ok.mpr ?_
        rw [deterministicOutcome_source]
        exact hr
      | none => exact compileByModel_source model input

end

end AgentflowHermes
