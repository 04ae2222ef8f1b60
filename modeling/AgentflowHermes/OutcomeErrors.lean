import AgentflowHermes.OutcomeSource

namespace AgentflowHermes

open BacktrackRegex

def Succeeds {ε α : Type} (x : Except ε α) : Prop := ∃ a, x = .ok a

/-- The structural checks of the envelope are what failed. -/
def Rejected {α : Type} (x : Except PyError α) : Prop := ∃ message, x = .error (.envelope message)

variable {α β : Type}

theorem rejected_bind {x : Except PyError α} (hx : Rejected x) (f : α → Except PyError β) : Rejected (x >>= f) := by
  obtain ⟨message, rfl⟩ := hx
  exact ⟨message, rfl⟩

theorem catch_rejected {x y : Except PyError α} (hx : Rejected x) : catchEnvelope x y = y := by
  obtain ⟨message, rfl⟩ := hx
  rfl

section

variable {T : PyText} {c : SourceRef} {md : Json}

theorem make_succeeds {d : Draft} (hc : c.Complete) (hd : d.Coherent) : Succeeds (OutcomeEnvelope.make c d) :=
  ⟨_, OutcomeEnvelope.make_eq hc hd⟩

theorem make_rejected (hc : ¬c.Complete) (d : Draft) : Rejected (OutcomeEnvelope.make c d) := by
  unfold OutcomeEnvelope.make
  rw [dif_neg fun h => hc h.1]
  exact ⟨_, rfl⟩

theorem unknownEnvelope_succeeds (hc : c.Complete) (v : Verdict) : Succeeds (unknownEnvelope c v) :=
  make_succeeds hc ⟨by simp, by simp, by simp⟩

/-- The contract a summary names is not empty. -/
theorem continuationContract_ne {g : List Char} {text : List Char}
    (h : searchGroup (continuationContractRe T) text = some g) : String.ofList g ≠ "" := by
  have ends : EndsInGroup (continuationContractRe T) := (endsInGroup_plus _).seq.seq.seq.seq.seq
  have filled := searchGroup_ne_nil ends h
  intro empty
  exact filled (by simpa using empty)

theorem fromVerdictText_succeeds (hc : c.Complete) (text : String) : Succeeds (fromVerdictText T c text) := by
  unfold fromVerdictText
  dsimp only
  split
  next =>
    refine make_succeeds hc ⟨by simp, fun _ => ?_, by simp⟩
    cases hg : searchGroup (continuationContractRe T) text.toList with
    | none => exact show genericOwnerInputContract ≠ "" by decide
    | some g => exact continuationContract_ne hg
  next =>
    split
    next hb => exact make_succeeds hc ⟨by simp [hb.1], by simp, by simp⟩
    next =>
      split
      next => exact make_succeeds hc ⟨by simp, by simp, by simp⟩
      next => exact unknownEnvelope_succeeds hc _

theorem fromVerdictText_rejected (hc : ¬c.Complete) (text : String) : Rejected (fromVerdictText T c text) := by
  unfold fromVerdictText
  dsimp only
  split
  · exact make_rejected hc _
  · split
    · exact make_rejected hc _
    · split
      · exact make_rejected hc _
      · exact make_rejected hc _

theorem fromTextFallback_rejected (hc : ¬c.Complete) (text : String) : Rejected (fromTextFallback T c text) := by
  unfold fromTextFallback
  split
  next marker _ =>
    unfold fromMarker
    dsimp only
    split
    · split
      · rw [Option.getD_some, catch_rejected (make_rejected hc _)]
        exact make_rejected hc _
      · exact fromVerdictText_rejected hc text
    · exact fromVerdictText_rejected hc text
  next => exact fromVerdictText_rejected hc text

/-- What a `for` loop over the field meets is no iterable. -/
def NoLoop (block : Json) (key : String) : Prop := ∃ v, block.get? key = some v ∧ v.truthy ∧ v.iter? = none

theorem loopItems_cases (block : Json) (key : String) :
    Succeeds (loopItems block key) ∧ ¬NoLoop block key ∨ loopItems block key = .error .typeError ∧ NoLoop block key := by
  unfold loopItems NoLoop
  cases hv : block.get? key with
  | none => exact .inl ⟨⟨_, rfl⟩, by simp⟩
  | some v =>
    by_cases ht : v.truthy
    · cases hi : v.iter? with
      | none => exact .inr ⟨by simp [ht, hi], v, rfl, ht, hi⟩
      | some items => exact .inl ⟨⟨items, by simp [ht, hi]⟩, by simp [hi]⟩
    · exact .inl ⟨⟨[], by simp [ht]⟩, by simp [ht]⟩

theorem compileDeterministic_rejected (hc : ¬c.Complete) (text : String) : Rejected (compileDeterministic T c text) :=
  rejected_bind (fromTextFallback_rejected hc text) _

end

end AgentflowHermes
