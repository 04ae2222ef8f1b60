import AgentflowHermes.OutcomeErrors
import AgentflowHermes.UnsafeBlockers

namespace AgentflowHermes

open BacktrackRegex

/-- The kind that a marker names. -/
def markerKind (marker : List Char) : Option ContinuationKind := ContinuationKind.ofString? (lowerText marker)

section

variable (T : PyText) (text : String) (marker : List Char)

/-- The marker branch has an answer: a kind with a contract, or `needs_input`. -/
def markerAnswers : Bool :=
  (markerKind marker).any fun k => (searchGroup (continuationContractRe T) text.toList).isSome || k = .needsInput

/-- The answer is an envelope of its kind, rather than one that fails its checks. -/
def markerSettles : Bool :=
  markerAnswers T text marker && (markerKind marker).any fun k =>
    k ≠ .unknown && k ≠ .roadmapNext && !(k = .codeFix && summaryVerdict T text = .go)

/-- A bare BLOCK or NEED_MORE that waits for a field of the owner. -/
def pendingOwner : Bool :=
  ((searchGroup (bareVerdictRe T) text.toList).bind fun g => Verdict.ofString? (asciiUpper (String.ofList g))).any
      Verdict.blocking &&
    (searchGroup (pendingOwnerRe T) text.toList).any fun phrase => slugifyFieldName T (String.ofList phrase) ≠ ""

/-- A candidate of the model that is let through. -/
structure Accepted (candidate : Json) : Prop where
  verdict : (Verdict.ofString? (T.strOr (candidate.get? "verdict") "")).isSome = true
  kind : ContinuationKind.ofString? (T.strOr (candidate.get? "continuation_kind") "") = some .needsInput
  inputs : ¬NoLoop candidate "required_inputs"

/-- No branch behind the marker's has a kind of its own for the text. -/
def Unclaimed (model : ModelCompiler) (input : ModelInput) : Prop :=
  let verdict := summaryVerdict T input.summary
  let candidates := blockerCandidatesFromText T input.summary
  if verdict.blocking ∧ unsafeBlockerCategories T candidates ≠ [] then True
  else if verdict.blocking ∧ candidates.filter (isConcreteCodeBlocker T) ≠ [] then markerKind marker = some .codeFix
  else pendingOwner T input.summary = false ∧ ∀ j, model input = some j → ¬Accepted T j

/-- The marker settles the outcome, or what comes behind it leaves the outcome to it. -/
def MarkerStands (model : ModelCompiler) (input : ModelInput) : Prop :=
  let text := input.summary
  let verdict := summaryVerdict T text
  if markerSettles T text marker then True
  else if markerAnswers T text marker then Unclaimed T marker model input
  else if verdict.blocking ∧ search (operatorMustRe T) text.toList then False
  else if verdict = .block ∧ (parseVerdictSummary T text).blockers ≠ [] then markerKind marker = some .codeFix
  else if verdict = .go then markerKind marker = some .complete
  else Unclaimed T marker model input

/-- What is claimed: the marked kind, a refusal, or nothing. -/
def OutcomeKept (model : ModelCompiler) (md : Json) (input : ModelInput) (c : SourceRef) : Prop :=
  ∀ o, compileOutcome T model md input c = .ok o →
    some o.envelope.continuationKind = markerKind marker ∨ o.envelope.continuationKind = .semanticRefusal ∨
      o.envelope.continuationKind = .unknown

end

section

variable {T : PyText} {c : SourceRef} {text : String} {marker : List Char} {md : Json} {model : ModelCompiler}
  {input : ModelInput}

theorem fromMarker_none (h : markerAnswers T text marker = false) : fromMarker T c text marker = none := by
  unfold markerAnswers markerKind at h
  unfold fromMarker
  dsimp only
  cases kind : ContinuationKind.ofString? (lowerText marker) with
  | none => rfl
  | some k =>
    rw [kind] at h
    have open' : ¬((searchGroup (continuationContractRe T) text.toList).isSome = true ∨ k = .needsInput) := by
      simpa using h
    exact if_neg open'

/-- What an answering marker comes to: an envelope of its kind, or the fail-closed one. -/
theorem fromMarker_some (hc : c.Complete) (h : markerAnswers T text marker = true) :
    ∃ k e, markerKind marker = some k ∧ fromMarker T c text marker = some (.ok e) ∧
      (markerSettles T text marker = true → e.continuationKind = k ∧ k ≠ .unknown) ∧
      (markerSettles T text marker = false → e.continuationKind = .unknown) := by
  have answers := h
  unfold markerAnswers at h
  cases kind : markerKind marker with
  | none =>
    rw [kind] at h
    cases h
  | some k =>
    rw [kind] at h
    have closed : (searchGroup (continuationContractRe T) text.toList).isSome = true ∨ k = .needsInput := by
      simpa using h
    have settles : markerSettles T text marker =
        (k ≠ .unknown && k ≠ .roadmapNext && !(k = .codeFix && summaryVerdict T text = .go) : Bool) := by
      unfold markerSettles
      rw [answers, kind]
      rfl
    unfold fromMarker
    dsimp only
    rw [show ContinuationKind.ofString? (lowerText marker) = some k from kind]
    dsimp only
    rw [if_pos closed]
    let ref := ((searchGroup (continuationContractRe T) text.toList).map String.ofList).getD ""
    generalize contract : (if some k = some .needsInput ∧ ref = "" then genericOwnerInputContract else ref) = contractRef
    have named : k = .needsInput → contractRef ≠ "" := by
      intro needs
      rw [← contract]
      split
      · decide
      next filled => exact fun empty => filled ⟨by rw [needs], empty⟩
    have coherent : Draft.Coherent {
        verdict := summaryVerdict T text, continuationKind := k, contractRef := contractRef, confidence := .textExplicit } ↔
          k ≠ .roadmapNext ∧ ¬(k = .codeFix ∧ summaryVerdict T text = .go) :=
      ⟨fun h => ⟨fun next => h.2.2 next rfl, fun both => h.1 both.symm⟩,
        fun h => ⟨fun both => h.2 both.symm, named, fun next => absurd next h.1⟩⟩
    by_cases fits : k ≠ .roadmapNext ∧ ¬(k = .codeFix ∧ summaryVerdict T text = .go)
    · refine ⟨k, ⟨c, _, hc, coherent.mpr fits⟩, rfl, ?_, ?_, ?_⟩
      · exact congrArg (fun x => some (catchEnvelope x (unknownEnvelope c .unknown))) (OutcomeEnvelope.make_eq hc (coherent.mpr fits))
      · intro settled
        rw [settles] at settled
        simp only [Bool.and_eq_true, decide_eq_true_eq] at settled
        exact ⟨rfl, settled.1.1⟩
      · intro unsettled
        rw [settles] at unsettled
        show k = .unknown
        by_contra known
        simp [known, fits] at unsettled
    · refine ⟨k, ⟨c, { verdict := .unknown, continuationKind := .unknown, confidence := .none }, hc, by simp [Draft.Coherent]⟩,
        rfl, ?_, ?_, fun _ => rfl⟩
      · have refused : OutcomeEnvelope.make c {
            verdict := summaryVerdict T text, continuationKind := k, contractRef := contractRef, confidence := .textExplicit } =
            .error (.envelope (envelopeError c {
              verdict := summaryVerdict T text, continuationKind := k, contractRef := contractRef,
              confidence := .textExplicit })) :=
          dif_neg fun h => fits (coherent.mp h.2)
        exact congrArg (fun x => some (catchEnvelope x (unknownEnvelope c .unknown))) refused |>.trans
          (congrArg some (OutcomeEnvelope.make_eq hc (by simp [Draft.Coherent])))
      · intro settled
        rw [settles] at settled
        simp only [Bool.and_eq_true, decide_eq_true_eq, Bool.not_eq_true', Bool.and_eq_false_iff, decide_eq_false_iff_not] at settled
        exact absurd ⟨settled.1.2, fun both => settled.2.elim (· both.1) (· both.2)⟩ fits

/-- The metadata says nothing of the outcome. -/
structure Unstructured (T : PyText) (md : Json) : Prop where
  structured : extractStructured md = none
  flat : extractFlatBlockers T md = none

theorem compileOutcome_text (silent : Unstructured T md) :
    compileOutcome T model md input c = (compileDeterministic T c input.summary >>= fun found =>
      match found with
      | some (e, requirements) => pure (deterministicOutcome T input.summary e requirements)
      | none => compileByModel T model input c) := by
  unfold compileOutcome compileFlatReviewer
  rw [silent.structured, silent.flat]
  rfl

/-- An outcome of the text grammar is the compiled one. -/
theorem compileOutcome_found (silent : Unstructured T md) {e : OutcomeEnvelope} {rs : List Requirement}
    (h : compileDeterministic T c input.summary = .ok (some (e, rs))) :
    ∃ o, compileOutcome T model md input c = .ok o ∧ o.envelope = e := by
  rw [compileOutcome_text silent, h]
  exact ⟨_, rfl, deterministicOutcome_envelope⟩

theorem compileDeterministic_known {e : OutcomeEnvelope} (h : fromTextFallback T c text = .ok e)
    (known : e.continuationKind ≠ .unknown) : ∃ rs, compileDeterministic T c text = .ok (some (e, rs)) := by
  unfold compileDeterministic
  rw [h]
  dsimp only [Bind.bind, Except.bind]
  rw [if_pos known]
  exact ⟨_, rfl⟩

theorem compileDeterministic_unknown {e : OutcomeEnvelope} (h : fromTextFallback T c text = .ok e)
    (unknown : e.continuationKind = .unknown) :
    compileDeterministic T c text = (compileGenericBlockerProse T c text >>= fun found =>
      match found with
      | some r => pure (some r)
      | none => compileNaturalProse T c text) := by
  unfold compileDeterministic
  rw [h]
  dsimp only [Bind.bind, Except.bind]
  exact if_neg (not_not_intro unknown)

theorem kept_iff_of_result {o : CompiledOutcome} (h : compileOutcome T model md input c = .ok o) :
    OutcomeKept T marker model md input c ↔ some o.envelope.continuationKind = markerKind marker ∨
      o.envelope.continuationKind = .semanticRefusal ∨ o.envelope.continuationKind = .unknown := by
  constructor
  · intro kept
    exact kept o h
  · intro kept o' same
    rw [h] at same
    cases same
    exact kept

theorem kept_iff_of_found (silent : Unstructured T md) {e : OutcomeEnvelope} {rs : List Requirement}
    (h : compileDeterministic T c input.summary = .ok (some (e, rs))) :
    OutcomeKept T marker model md input c ↔ some e.continuationKind = markerKind marker ∨
      e.continuationKind = .semanticRefusal ∨ e.continuationKind = .unknown := by
  obtain ⟨o, compiled, rfl⟩ := @compileOutcome_found T c md model input silent e rs h
  exact kept_iff_of_result compiled

/-- What the verdict branches make of a text that no marker settles. -/
theorem fromVerdictText_kind (hc : c.Complete) : ∃ e, fromVerdictText T c text = .ok e ∧ e.continuationKind =
    if (summaryVerdict T text).blocking ∧ search (operatorMustRe T) text.toList then .needsInput
    else if summaryVerdict T text = .block ∧ (parseVerdictSummary T text).blockers ≠ [] then .codeFix
    else if summaryVerdict T text = .go then .complete
    else .unknown := by
  obtain ⟨e, he⟩ := fromVerdictText_succeeds (T := T) hc text
  refine ⟨e, he, ?_⟩
  unfold fromVerdictText at he
  dsimp only at he
  split_ifs at he with ask named go
  · rw [if_pos ask, make_kind he]
  · rw [if_neg ask, if_pos named, make_kind he]
  · rw [if_neg ask, if_neg named, if_pos go, make_kind he]
  · rw [if_neg ask, if_neg named, if_neg go, make_kind he]

theorem compileGenericBlockerProse_quiet (h : (summaryVerdict T text).blocking = false) :
    compileGenericBlockerProse T c text = .ok none := by
  unfold compileGenericBlockerProse
  cases parsed : Verdict.ofString? (parseVerdictSummary T text).verdict with
  | none => rfl
  | some v =>
    have same : summaryVerdict T text = v := by simp [summaryVerdict, parsed]
    rw [same] at h
    dsimp only
    rw [if_pos (by simp [h])]

theorem compileGenericBlockerProse_refuses (hc : c.Complete) (hb : (summaryVerdict T text).blocking = true)
    (harm : unsafeBlockerCategories T (blockerCandidatesFromText T text) ≠ []) :
    ∃ e, compileGenericBlockerProse T c text = .ok (some (e, [])) ∧ e.continuationKind = .semanticRefusal := by
  unfold compileGenericBlockerProse
  simp only [summaryVerdict_parsed hb, hb, harm, Bool.not_true, Bool.false_eq_true, if_false, ne_eq, not_false_eq_true, if_true]
  exact ⟨_, catch_make_eq hc (by simp [Draft.Coherent]), rfl⟩

theorem compileGenericBlockerProse_vague (hb : (summaryVerdict T text).blocking = true)
    (safe : unsafeBlockerCategories T (blockerCandidatesFromText T text) = [])
    (vague : (blockerCandidatesFromText T text).filter (isConcreteCodeBlocker T) = []) :
    compileGenericBlockerProse T c text = .ok none := by
  unfold compileGenericBlockerProse
  simp only [summaryVerdict_parsed hb, hb, safe, vague, Bool.not_true, Bool.false_eq_true, if_false, ne_eq,
    not_true_eq_false, if_true]

/-- The natural grammar asks exactly for a pending field of the owner. -/
theorem compileNaturalProse_pending (hc : c.Complete) (h : pendingOwner T text = true) :
    ∃ e rs, compileNaturalProse T c text = .ok (some (e, rs)) ∧ e.continuationKind = .needsInput := by
  unfold pendingOwner at h
  unfold compileNaturalProse
  cases verdict : (searchGroup (bareVerdictRe T) text.toList).bind fun g => Verdict.ofString? (asciiUpper (String.ofList g)) with
  | none =>
    rw [verdict] at h
    cases h
  | some v =>
    cases phrase : searchGroup (pendingOwnerRe T) text.toList with
    | none =>
      rw [phrase, Option.any_none, Bool.and_false] at h
      cases h
    | some phrase' =>
      rw [verdict, phrase] at h
      obtain ⟨blocking, named⟩ : v.blocking = true ∧ slugifyFieldName T (String.ofList phrase') ≠ "" := by simpa using h
      dsimp only
      rw [if_neg (by simp [blocking, named])]
      exact ⟨_, _, catch_make_eq hc ⟨by simp, fun _ => show genericOwnerInputContract ≠ "" by decide, by simp⟩, rfl⟩

theorem compileNaturalProse_quiet (h : pendingOwner T text = false) : compileNaturalProse T c text = .ok none := by
  unfold pendingOwner at h
  unfold compileNaturalProse
  cases verdict : (searchGroup (bareVerdictRe T) text.toList).bind fun g => Verdict.ofString? (asciiUpper (String.ofList g)) with
  | none => rfl
  | some v =>
    cases phrase : searchGroup (pendingOwnerRe T) text.toList with
    | none => rfl
    | some phrase' =>
      rw [verdict, phrase] at h
      dsimp only
      rw [if_pos]
      by_cases blocking : v.blocking = true
      · right
        simpa [blocking] using h
      · left
        simpa using blocking

/-- A candidate of the model is let through exactly as a request for input. -/
theorem compileModelCandidate_iff (hc : c.Complete) {j : Json} :
    (∃ e rs, compileModelCandidate T c j = .ok (some (e, rs)) ∧ e.continuationKind = .needsInput) ∧ Accepted T j ∨
      (∀ e rs, compileModelCandidate T c j ≠ .ok (some (e, rs))) ∧ ¬Accepted T j := by
  unfold compileModelCandidate
  cases verdict : Verdict.ofString? (T.strOr (j.get? "verdict") "") with
  | none => exact .inr ⟨fun e rs h => (by cases h), fun ok => by simpa [verdict] using ok.verdict⟩
  | some v =>
    cases kind : ContinuationKind.ofString? (T.strOr (j.get? "continuation_kind") "") with
    | none => exact .inr ⟨fun e rs h => (by cases h), fun ok => by simpa [kind] using ok.kind⟩
    | some k =>
      by_cases needs : k = .needsInput
      · subst needs
        dsimp only
        rcases loopItems_cases j "required_inputs" with ⟨⟨items, found⟩, fine⟩ | ⟨stuck, bad⟩
        · rw [found]
          left
          refine ⟨?_, by simp [verdict], kind, fine⟩
          dsimp only [Bind.bind, Except.bind]
          refine ⟨_, _, catch_make_eq hc ⟨by simp, fun _ => ?_, by simp⟩, rfl⟩
          dsimp only
          split
          · decide
          · assumption
        · rw [stuck]
          exact .inr ⟨fun e rs h => (by cases h), fun ok => ok.inputs bad⟩
      · right
        refine ⟨fun e rs h => ?_, fun ok => needs (Option.some.inj (kind.symm.trans ok.kind))⟩
        cases k <;> first | exact needs rfl | cases h

theorem markerKind_open (h : markerSettles T text marker = false) : markerKind marker ≠ some .needsInput := by
  intro kind
  unfold markerSettles markerAnswers at h
  rw [kind] at h
  simp at h

/-- Behind the marker's branch the outcome stays the marker's exactly where no later branch claims the text. -/
theorem kept_iff_unclaimed (silent : Unstructured T md) (hc : c.Complete)
    (unsettled : markerSettles T input.summary marker = false) {e : OutcomeEnvelope}
    (fallback : fromTextFallback T c input.summary = .ok e) (unknown : e.continuationKind = .unknown) :
    OutcomeKept T marker model md input c ↔ Unclaimed T marker model input := by
  have later := compileDeterministic_unknown fallback unknown
  unfold Unclaimed
  dsimp only
  by_cases harm : (summaryVerdict T input.summary).blocking = true ∧
      unsafeBlockerCategories T (blockerCandidatesFromText T input.summary) ≠ []
  · obtain ⟨e', prose, kind⟩ := compileGenericBlockerProse_refuses hc harm.1 harm.2
    rw [if_pos harm]
    rw [prose] at later
    rw [kept_iff_of_found silent later]
    exact iff_of_true (.inr (.inl kind)) trivial
  rw [if_neg harm]
  by_cases concrete : (summaryVerdict T input.summary).blocking = true ∧
      (blockerCandidatesFromText T input.summary).filter (isConcreteCodeBlocker T) ≠ []
  · have safe : unsafeBlockerCategories T (blockerCandidatesFromText T input.summary) = [] := by
      by_contra filled
      exact harm ⟨concrete.1, filled⟩
    obtain ⟨e', prose, kind⟩ := compileGenericBlockerProse_remediable hc concrete.1 ⟨safe, concrete.2⟩
    rw [if_pos concrete]
    rw [prose] at later
    rw [kept_iff_of_found silent later, kind]
    simp [eq_comm]
  rw [if_neg concrete]
  have quiet : compileGenericBlockerProse T c input.summary = .ok none := by
    cases blocking : (summaryVerdict T input.summary).blocking with
    | false => exact compileGenericBlockerProse_quiet blocking
    | true =>
      refine compileGenericBlockerProse_vague blocking ?_ ?_
      · by_contra filled
        exact harm ⟨blocking, filled⟩
      · by_contra filled
        exact concrete ⟨blocking, filled⟩
  rw [quiet] at later
  have other : some ContinuationKind.needsInput ≠ markerKind marker := (markerKind_open unsettled).symm
  cases pending : pendingOwner T input.summary with
  | true =>
    obtain ⟨e', rs, natural, kind⟩ := compileNaturalProse_pending hc pending
    have found : compileDeterministic T c input.summary = .ok (some (e', rs)) := later.trans natural
    rw [kept_iff_of_found silent found, kind]
    exact iff_of_false (by simp [other]) (by simp)
  | false =>
    have none' : compileDeterministic T c input.summary = .ok none := later.trans (compileNaturalProse_quiet pending)
    have compiled : compileOutcome T model md input c = compileByModel T model input c := by
      rw [compileOutcome_text silent, none']
      rfl
    obtain ⟨unknown', made⟩ := unknownEnvelope_succeeds hc .unknown
    have silentModel : settleCandidate c none = .ok { envelope := unknown', stage := .unresolved } := by
      show (unknownEnvelope c .unknown >>= _) = _
      rw [made]
      rfl
    unfold compileByModel at compiled
    cases proposed : model input with
    | none =>
      rw [proposed] at compiled
      rw [kept_iff_of_result (compiled.trans silentModel)]
      exact iff_of_true (.inr (.inr (make_kind made))) ⟨rfl, fun j h => by cases h⟩
    | some j =>
      rw [proposed] at compiled
      rcases compileModelCandidate_iff (T := T) hc (j := j) with ⟨⟨e', rs, candidate, kind⟩, accepted⟩ | ⟨refused, foreign⟩
      · have result : compileOutcome T model md input c = .ok { envelope := e', stage := .model, requirements := rs } := by
          rw [compiled]
          dsimp only
          rw [candidate]
          rfl
        rw [kept_iff_of_result result, kind]
        exact iff_of_false (by simp [other]) fun h => h.2 j rfl accepted
      · refine iff_of_true ?_ ⟨rfl, fun j' same => by rw [← Option.some.inj same]; exact foreign⟩
        intro o h
        rw [compiled] at h
        dsimp only at h
        cases answer : compileModelCandidate T c j with
        | error err =>
          rw [answer] at h
          cases h
        | ok found =>
          cases found with
          | none =>
            rw [answer] at h
            have same := Except.ok.inj (h.symm.trans silentModel)
            rw [same]
            exact .inr (.inr (make_kind made))
          | some pair => exact absurd answer (refused pair.1 pair.2)

/-- The marker has the last word exactly where it settles the outcome or no later branch claims the text. -/
theorem marker_kept_iff (T : PyText) (model : ModelCompiler) (md : Json) (input : ModelInput) (c : SourceRef)
    (silent : Unstructured T md) (marker : List Char) (marked : searchGroup (outcomeKindRe T) input.summary.toList = some marker) :
    OutcomeKept T marker model md input c ↔ (c.Complete → MarkerStands T marker model input) := by
  by_cases hc : c.Complete
  · rw [forall_prop_of_true hc]
    have fallback : fromTextFallback T c input.summary =
        (fromMarker T c input.summary marker).getD (fromVerdictText T c input.summary) := by
      unfold fromTextFallback
      rw [marked]
    unfold MarkerStands
    dsimp only
    cases answers : markerAnswers T input.summary marker with
    | true =>
      obtain ⟨k, e, named, made, settled, failed⟩ := fromMarker_some hc answers
      rw [made, Option.getD_some] at fallback
      cases settles : markerSettles T input.summary marker with
      | true =>
        obtain ⟨kind, known⟩ := settled settles
        obtain ⟨rs, found⟩ := compileDeterministic_known fallback (by rw [kind]; exact known)
        rw [if_pos rfl, kept_iff_of_found silent found, kind, named]
        exact iff_of_true (.inl rfl) trivial
      | false =>
        rw [if_neg (by decide), if_pos rfl]
        exact kept_iff_unclaimed silent hc settles fallback (failed settles)
    | false =>
      have open' : markerSettles T input.summary marker = false := by
        unfold markerSettles
        rw [answers]
        rfl
      rw [fromMarker_none answers, Option.getD_none] at fallback
      rw [open', if_neg (by decide), if_neg (by decide)]
      obtain ⟨e, made, kind⟩ := @fromVerdictText_kind T c input.summary hc
      rw [made] at fallback
      by_cases ask : (summaryVerdict T input.summary).blocking = true ∧ search (operatorMustRe T) input.summary.toList = true
      · rw [if_pos ask] at kind ⊢
        obtain ⟨rs, found⟩ := compileDeterministic_known fallback (by rw [kind]; decide)
        rw [kept_iff_of_found silent found, kind]
        exact iff_of_false (by simp [(markerKind_open open').symm]) id
      rw [if_neg ask] at kind ⊢
      by_cases named : summaryVerdict T input.summary = .block ∧ (parseVerdictSummary T input.summary).blockers ≠ []
      · rw [if_pos named] at kind ⊢
        obtain ⟨rs, found⟩ := compileDeterministic_known fallback (by rw [kind]; decide)
        rw [kept_iff_of_found silent found, kind]
        simp [eq_comm]
      rw [if_neg named] at kind ⊢
      by_cases go : summaryVerdict T input.summary = .go
      · rw [if_pos go] at kind ⊢
        obtain ⟨rs, found⟩ := compileDeterministic_known fallback (by rw [kind]; decide)
        rw [kept_iff_of_found silent found, kind]
        simp [eq_comm]
      rw [if_neg go] at kind ⊢
      exact kept_iff_unclaimed silent hc open' fallback kind
  · refine iff_of_true (fun o h => ?_) fun complete => absurd complete hc
    rw [compileOutcome_text silent] at h
    obtain ⟨message, failed⟩ := compileDeterministic_rejected (T := T) hc input.summary
    rw [failed] at h
    cases h

end

def markedInput (summary : String) : ModelInput := ⟨"", summary, "", "", []⟩

theorem unstructured_null : Unstructured asciiText .null := ⟨rfl, rfl⟩

theorem marker_kept_needsInput : OutcomeKept asciiText "needs_input".toList (fun _ => none) .null
    (markedInput "Outcome-Kind: needs_input\nVerdict: BLOCK\nBlockers: stale_final_fanin") droppedTableSource := by
  refine (marker_kept_iff asciiText _ .null _ droppedTableSource unstructured_null _ (by decide +kernel)).mpr fun _ => ?_
  unfold MarkerStands
  dsimp only
  rw [if_pos (by decide +kernel)]
  trivial

/-- The kind that a summary without metadata is compiled to. -/
def compiledKind (summary : String) : Option ContinuationKind :=
  (compileOutcome asciiText (fun _ => none) .null (markedInput summary) droppedTableSource).toOption.map
    (·.envelope.continuationKind)

/-- A marker without a contract is overridden by the verdict: an approval that is required is compiled as complete. -/
theorem marker_overridden : searchGroup (outcomeKindRe asciiText) "Outcome-Kind: approval_required\nVerdict: GO".toList =
      some "approval_required".toList ∧
    ¬OutcomeKept asciiText "approval_required".toList (fun _ => none) .null
      (markedInput "Outcome-Kind: approval_required\nVerdict: GO") droppedTableSource := by
  refine ⟨by decide +kernel, fun kept => ?_⟩
  have compiled : compiledKind "Outcome-Kind: approval_required\nVerdict: GO" = some .complete := by decide +kernel
  unfold compiledKind at compiled
  cases result : compileOutcome asciiText (fun _ => none) .null
      (markedInput "Outcome-Kind: approval_required\nVerdict: GO") droppedTableSource with
  | error e =>
    rw [result] at compiled
    cases compiled
  | ok o =>
    rw [result] at compiled
    have kind := Option.some.inj compiled
    dsimp only at kind
    rcases kept o result with named | other
    · rw [kind] at named
      exact absurd named (by decide)
    · rw [kind] at other
      exact absurd other (by decide)

end AgentflowHermes
