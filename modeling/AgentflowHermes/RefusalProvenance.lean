import AgentflowHermes.BlockerCategories
import AgentflowHermes.OutcomeSource

namespace AgentflowHermes

open BacktrackRegex BacktrackRegex.Pattern

/-- The refusal categories stand on a refusal and on nothing else, they are those of the blockers it carries, and a code fix
that was read from flat metadata or from the summary carries a blocker. -/
structure Provenance (T : PyText) (r : CompiledOutcome) : Prop where
  refused : r.refusalCategories ≠ [] ↔ r.envelope.continuationKind = .semanticRefusal
  matched : r.refusalCategories = unsafeBlockerCategories T r.blockers
  named : r.envelope.continuationKind = .codeFix → r.stage = .flat ∨ r.stage = .deterministic → r.blockers ≠ []

/-- The blockers that a code fix from this summary carries are the known ones it names, or concrete phrases of which none is
unsafe. -/
def NamesSafely (T : PyText) (text : String) : Prop :=
  (parseVerdictSummary T text).blockers ≠ [] ∨
    genericBlockersFromText T text ≠ [] ∧ unsafeBlockerCategories T (genericBlockersFromText T text) = []

/-- The kind that an `Outcome-Kind` marker settles. -/
def markedKind (T : PyText) (text : String) : Option ContinuationKind :=
  match searchGroup (outcomeKindRe T) text.toList with
  | some marker => (ContinuationKind.ofString? (lowerText marker)).filter fun k =>
      (searchGroup (continuationContractRe T) text.toList).isSome || k == .needsInput
  | none => none

/-- A marker settles the summary without the phrases that its kind would stand on. -/
def MarkedUnsourced (T : PyText) (text : String) : Prop :=
  (markedKind T text = some .semanticRefusal ∧ unsafeBlockerCategories T (blockerCandidatesFromText T text) = []) ∨
    (markedKind T text = some .codeFix ∧ summaryVerdict T text ≠ .go ∧ ¬NamesSafely T text)

/-- The structured metadata itself declares a refusal. -/
def StructuredRefusal (T : PyText) (md : Json) : Prop :=
  ∃ block verdict items, extractStructured md = some block ∧
    (block.get? "schema_version").all (fun v => !v.equalsOne) = false ∧
    Verdict.ofString? (T.strOr (block.get? "verdict") "") = some verdict ∧
    ContinuationKind.ofString? (T.strOr (block.get? "continuation_kind") "") = some .semanticRefusal ∧
    loopItems block "required_inputs" = .ok items

section

variable {T : PyText} {c : SourceRef} {text : String} {md : Json} {model : ModelCompiler} {input : ModelInput}

theorem parsed_safe : unsafeBlockerCategories T (parseVerdictSummary T text).blockers = [] := by
  have either : (parseVerdictSummary T text).blockers = detectBlockers T text ∨ (parseVerdictSummary T text).blockers = [] :=
    ite_eq_or_eq _ _ _
  rcases either with known | nothing
  · rw [known]
    exact detectBlockers_safe
  · rw [nothing]
    exact unsafeBlockerCategories_nil

theorem proseRemediable.safely (prose : proseRemediable T text) : NamesSafely T text :=
  .inr ⟨prose.2, unsafeBlockerCategories_subset (fun _ mem => (List.mem_filter.mp mem).1) prose.1⟩

theorem TextRemediable.safely (remediable : TextRemediable T text) : NamesSafely T text := by
  rcases remediable.2.2 with ⟨_, named⟩ | prose
  · exact .inl named
  · exact prose.safely

theorem provenance_plain {r : CompiledOutcome} (kind : r.envelope.continuationKind ≠ .semanticRefusal)
    (noBlockers : r.blockers = []) (noCategories : r.refusalCategories = [])
    (unread : r.envelope.continuationKind = .codeFix → r.stage = .structured) : Provenance T r where
  refused := by simp [noCategories, kind]
  matched := by rw [noCategories, noBlockers, unsafeBlockerCategories_nil]
  named fix read := by
    rw [unread fix] at read
    rcases read with read | read
    · cases read
    · cases read

theorem deterministic_codeFix {e : OutcomeEnvelope} {rs : List Requirement} (kind : e.continuationKind = .codeFix) :
    Provenance T (deterministicOutcome T text e rs) ↔ NamesSafely T text := by
  have shape : deterministicOutcome T text e rs =
      { envelope := e, stage := .deterministic, requirements := rs
        blockers := if (parseVerdictSummary T text).blockers = [] then genericBlockersFromText T text
          else (parseVerdictSummary T text).blockers } := if_pos kind
  rw [shape]
  unfold NamesSafely
  by_cases none' : (parseVerdictSummary T text).blockers = []
  · simp only [none', if_true, ne_eq, not_true_eq_false, false_or]
    constructor
    · intro provenance
      exact ⟨provenance.named kind (.inr rfl), provenance.matched.symm⟩
    · rintro ⟨some', safe⟩
      exact ⟨by simp [kind], safe.symm, fun _ _ => some'⟩
  · simp only [none', if_false, ne_eq, not_false_eq_true, true_or, iff_true]
    exact ⟨by simp [kind], parsed_safe.symm, fun _ _ => none'⟩

theorem deterministic_refusal {e : OutcomeEnvelope} {rs : List Requirement} (kind : e.continuationKind = .semanticRefusal) :
    Provenance T (deterministicOutcome T text e rs) ↔ unsafeBlockerCategories T (blockerCandidatesFromText T text) ≠ [] := by
  have other : ¬e.continuationKind = .codeFix := by simp [kind]
  have shape : deterministicOutcome T text e rs =
      { envelope := e, stage := .deterministic, requirements := rs
        blockers := (blockerCandidatesFromText T text).filter fun p => unsafeBlockerCategories T [p] ≠ []
        refusalCategories := unsafeBlockerCategories T (blockerCandidatesFromText T text) } := by
    rw [deterministicOutcome, if_neg other, if_pos kind]
  rw [shape]
  constructor
  · exact fun provenance => provenance.refused.mpr kind
  · exact fun some' => ⟨by simp [kind, some'], (unsafeBlockerCategories_filter _).symm, fun fix => absurd fix other⟩

theorem deterministic_other {e : OutcomeEnvelope} {rs : List Requirement} (fix : e.continuationKind ≠ .codeFix)
    (refusal : e.continuationKind ≠ .semanticRefusal) : Provenance T (deterministicOutcome T text e rs) := by
  have shape : deterministicOutcome T text e rs = { envelope := e, stage := .deterministic, requirements := rs } := by
    rw [deterministicOutcome, if_neg fix, if_neg refusal]
  rw [shape]
  exact provenance_plain refusal rfl rfl fun never => absurd never fix

theorem fromTextFallback_marked : match markedKind T text with
    | some k => ∃ d : Draft, d.verdict = summaryVerdict T text ∧ d.continuationKind = k ∧
        (k = .needsInput → d.contractRef ≠ "") ∧
        fromTextFallback T c text = catchEnvelope (OutcomeEnvelope.make c d) (unknownEnvelope c .unknown)
    | none => fromTextFallback T c text = fromVerdictText T c text := by
  unfold markedKind fromTextFallback
  cases searchGroup (outcomeKindRe T) text.toList with
  | none => rfl
  | some marker =>
    dsimp only
    unfold fromMarker
    cases kind : ContinuationKind.ofString? (lowerText marker) with
    | none => rfl
    | some k =>
      dsimp only [Option.filter]
      by_cases settles : (searchGroup (continuationContractRe T) text.toList).isSome ∨ k = .needsInput
      · rw [if_pos (by simpa using settles), if_pos settles]
        refine ⟨_, rfl, rfl, fun ask => ?_, rfl⟩
        subst ask
        dsimp only
        split
        next => decide
        next given => exact fun empty => given ⟨rfl, empty⟩
      · rw [if_neg (by simpa using settles), if_neg settles]
        rfl

theorem fromVerdictText_refuses_never {e : OutcomeEnvelope} (h : fromVerdictText T c text = .ok e) :
    e.continuationKind ≠ .semanticRefusal := by
  unfold fromVerdictText at h
  dsimp only at h
  split_ifs at h
  · simp [make_kind h]
  · simp [make_kind h]
  · simp [make_kind h]
  · simp [make_kind h]

theorem fromTextFallback_codeFix {e : OutcomeEnvelope} (read : fromTextFallback T c text = .ok e)
    (kind : e.continuationKind = .codeFix) :
    (markedKind T text = some .codeFix ∧ summaryVerdict T text ≠ .go) ∨ NamesSafely T text := by
  have shape := @fromTextFallback_marked T c text
  cases marked : markedKind T text with
  | none =>
    rw [marked] at shape
    exact .inr (fromVerdictText_codeFix (shape.symm.trans read) kind).safely
  | some k =>
    rw [marked] at shape
    obtain ⟨d, verdict, same, -, shape⟩ := shape
    rw [shape] at read
    cases made : OutcomeEnvelope.make c d with
    | ok e' =>
      rw [made] at read
      cases read
      have fix : k = .codeFix := by rw [← same, ← make_kind made, kind]
      have apart : summaryVerdict T text ≠ .go := by
        intro go
        have coherent := e.coherent.1
        rw [(OutcomeEnvelope.make_ok made).2] at coherent
        exact coherent ⟨verdict.trans go, same.trans fix⟩
      exact .inl ⟨by rw [fix], apart⟩
    | error err =>
      rw [made] at read
      cases err with
      | envelope message =>
        have unknown := make_kind (show unknownEnvelope c .unknown = .ok e from read)
        rw [kind] at unknown
        cases unknown
      | _ => cases read

theorem fromTextFallback_refusal {e : OutcomeEnvelope} (read : fromTextFallback T c text = .ok e)
    (kind : e.continuationKind = .semanticRefusal) : markedKind T text = some .semanticRefusal := by
  have shape := @fromTextFallback_marked T c text
  cases marked : markedKind T text with
  | none =>
    rw [marked] at shape
    exact absurd kind (fromVerdictText_refuses_never (shape.symm.trans read))
  | some k =>
    rw [marked] at shape
    obtain ⟨d, -, same, -, shape⟩ := shape
    rw [shape] at read
    cases made : OutcomeEnvelope.make c d with
    | ok e' =>
      rw [made] at read
      cases read
      rw [← same, ← make_kind made, kind]
    | error err =>
      rw [made] at read
      cases err with
      | envelope message =>
        have unknown := make_kind (show unknownEnvelope c .unknown = .ok e from read)
        rw [kind] at unknown
        cases unknown
      | _ => cases read

theorem compileGenericBlockerProse_refusal {e : OutcomeEnvelope} {rs : List Requirement}
    (h : compileGenericBlockerProse T c text = .ok (some (e, rs))) (kind : e.continuationKind = .semanticRefusal) :
    unsafeBlockerCategories T (blockerCandidatesFromText T text) ≠ [] := by
  intro safe
  unfold compileGenericBlockerProse at h
  split at h
  next => cases h
  next =>
    dsimp only at h
    rw [safe] at h
    split_ifs at h with quiet vague
    · cases h
    · exact absurd rfl ‹[] ≠ []›
    · cases h
    · simp [catch_make_kind h] at kind

/-- A code fix read from a summary names its blockers, or a marker without a GO settles it. -/
theorem compileDeterministic_fix {e : OutcomeEnvelope} {rs : List Requirement}
    (h : compileDeterministic T c text = .ok (some (e, rs))) (kind : e.continuationKind = .codeFix) :
    (markedKind T text = some .codeFix ∧ summaryVerdict T text ≠ .go) ∨ NamesSafely T text := by
  obtain ⟨fallback, read, h⟩ := bind_ok h
  split_ifs at h with settled
  · obtain ⟨reqs, _, h⟩ := bind_ok h
    obtain ⟨rfl, -⟩ : fallback = e ∧ reqs = rs := by simpa [pure, Except.pure] using h
    exact fromTextFallback_codeFix read kind
  · obtain ⟨prose?, prose, h⟩ := bind_ok h
    cases prose? with
    | none => exact absurd kind (by simp [compileNaturalProse_kind h])
    | some given =>
      obtain rfl : given = (e, rs) := by simpa [pure, Except.pure] using h
      exact .inr (compileGenericBlockerProse_codeFix prose kind).2.safely

theorem compileDeterministic_refusal {e : OutcomeEnvelope} {rs : List Requirement}
    (h : compileDeterministic T c text = .ok (some (e, rs))) (kind : e.continuationKind = .semanticRefusal) :
    markedKind T text = some .semanticRefusal ∨ unsafeBlockerCategories T (blockerCandidatesFromText T text) ≠ [] := by
  obtain ⟨fallback, read, h⟩ := bind_ok h
  split_ifs at h with settled
  · obtain ⟨reqs, _, h⟩ := bind_ok h
    obtain ⟨rfl, -⟩ : fallback = e ∧ reqs = rs := by simpa [pure, Except.pure] using h
    exact .inl (fromTextFallback_refusal read kind)
  · obtain ⟨prose?, prose, h⟩ := bind_ok h
    cases prose? with
    | none => exact absurd kind (by simp [compileNaturalProse_kind h])
    | some given =>
      obtain rfl : given = (e, rs) := by simpa [pure, Except.pure] using h
      exact .inr (compileGenericBlockerProse_refusal prose kind)

/-- A marker that settles the summary makes an outcome of its kind. -/
theorem compileDeterministic_marked (complete : c.Complete) {k : ContinuationKind} (marked : markedKind T text = some k)
    (refusal : k = .semanticRefusal ∨ (k = .codeFix ∧ summaryVerdict T text ≠ .go)) :
    ∃ e rs, compileDeterministic T c text = .ok (some (e, rs)) ∧ e.continuationKind = k := by
  have shape := @fromTextFallback_marked T c text
  rw [marked] at shape
  obtain ⟨d, verdict, same, -, shape⟩ := shape
  have coherent : d.Coherent := by
    unfold Draft.Coherent
    rw [verdict, same]
    rcases refusal with rfl | ⟨rfl, apart⟩
    · simp
    · simp [apart]
  have settled : d.continuationKind ≠ .unknown := by
    rw [same]
    rcases refusal with rfl | ⟨rfl, _⟩
    · simp
    · simp
  have made := OutcomeEnvelope.make_eq complete coherent
  have run : ∃ rs, compileDeterministic T c text = .ok (some (⟨c, d, complete, coherent⟩, rs)) := by
    unfold compileDeterministic
    rw [shape, made]
    simp only [catchEnvelope, bind, Except.bind, pure, Except.pure]
    rw [if_pos settled]
    exact ⟨_, rfl⟩
  obtain ⟨rs, run⟩ := run
  exact ⟨_, rs, run, same⟩

theorem settled_plain {o : Option (OutcomeEnvelope × List Requirement)} {r : CompiledOutcome}
    (input : ∀ p, o = some p → p.1.continuationKind = .needsInput) (h : settleCandidate c o = .ok r) : Provenance T r := by
  cases o with
  | none =>
    obtain ⟨e, made, h⟩ := bind_ok h
    cases h
    have kind := make_kind made
    exact provenance_plain (by simp [kind]) rfl rfl fun fix => by simp [kind] at fix
  | some p =>
    cases h
    have kind := input p rfl
    exact provenance_plain (by simp [kind]) rfl rfl fun fix => by simp [kind] at fix

theorem compileByModel_plain {r : CompiledOutcome} (h : compileByModel T model input c = .ok r) : Provenance T r := by
  unfold compileByModel at h
  cases answer : model input with
  | none =>
    simp only [answer] at h
    have h : settleCandidate c none = .ok r := h
    exact settled_plain (fun _ given => by cases given) h
  | some j =>
    simp only [answer] at h
    obtain ⟨o, read, h⟩ := bind_ok h
    exact settled_plain (fun p given => compileModelCandidate_kind (read.trans (by rw [given]))) h

theorem compileFlatReviewer_provenance {e : OutcomeEnvelope} {bs : List String}
    (h : compileFlatReviewer T c md = .ok (some (e, bs))) : Provenance T
      { envelope := e, stage := .flat, blockers := bs
        refusalCategories := if e.continuationKind = .semanticRefusal then unsafeBlockerCategories T bs else [] } := by
  unfold compileFlatReviewer at h
  split at h
  next blockers verdict hb hv =>
    dsimp only at h
    split_ifs at h with block harm go
    · obtain ⟨e', made, same⟩ := catch_make_some h
      obtain ⟨rfl, rfl⟩ := Prod.mk.inj same
      have kind := make_kind made
      have kind : e'.continuationKind = .semanticRefusal := kind
      exact ⟨by simp [kind, harm], by simp [kind], fun fix => by simp [kind] at fix⟩
    · obtain ⟨e', made, same⟩ := catch_make_some h
      obtain ⟨rfl, rfl⟩ := Prod.mk.inj same
      have kind : e'.continuationKind = .codeFix := make_kind made
      rw [not_not] at harm
      exact ⟨by simp [kind], by simp [kind, harm], fun _ _ => block.2⟩
    · obtain ⟨e', made, same⟩ := catch_make_some h
      obtain ⟨rfl, rfl⟩ := Prod.mk.inj same
      have kind : e'.continuationKind = .complete := make_kind made
      exact ⟨by simp [kind], by simp [kind], fun fix => by simp [kind] at fix⟩
    · cases h
  next => cases h

theorem fromStructured_kind {block : Json} {e : OutcomeEnvelope} (h : fromStructured T c block = .ok (some e)) :
    (block.get? "schema_version").all (fun v => !v.equalsOne) = false ∧
    ∃ verdict, Verdict.ofString? (T.strOr (block.get? "verdict") "") = some verdict ∧
      ContinuationKind.ofString? (T.strOr (block.get? "continuation_kind") "") = some e.continuationKind ∧
      ∃ items, loopItems block "required_inputs" = .ok items := by
  unfold fromStructured at h
  split at h
  next => cases h
  next version =>
    refine ⟨by simpa using version, ?_⟩
    split at h
    next verdict kind hv hk =>
      obtain ⟨items, looped, h⟩ := bind_ok h
      obtain ⟨e', made, same⟩ := catch_make_some h
      obtain rfl : e' = e := same
      exact ⟨verdict, hv, by rw [make_kind made]; exact hk, items, looped⟩
    next => cases h

theorem fromStructured_refusal (complete : c.Complete) (declared : StructuredRefusal T md) :
    ∃ r, compileOutcome T model md input c = .ok r ∧ ¬Provenance T r := by
  obtain ⟨block, verdict, items, typed, version, hv, hk, looped⟩ := declared
  have read : ∃ e, fromStructured T c block = .ok (some e) ∧ e.continuationKind = .semanticRefusal := by
    unfold fromStructured
    rw [if_neg (by simp [version])]
    simp only [hv, hk, looped, bind, Except.bind]
    exact ⟨_, catch_make_eq complete (by simp [Draft.Coherent]), rfl⟩
  obtain ⟨e, read, kind⟩ := read
  obtain ⟨rs, reqs⟩ : ∃ rs, requirementsFromEnvelope T e (some block) = .ok rs := by
    unfold requirementsFromEnvelope
    simp only [looped, bind, Except.bind, pure, Except.pure]
    exact ⟨_, rfl⟩
  refine ⟨{ envelope := e, stage := .structured, requirements := rs }, ?_, fun provenance => ?_⟩
  · unfold compileOutcome
    simp only [typed, read, reqs, bind, Except.bind, pure, Except.pure]
  · exact provenance.refused.mpr kind rfl

theorem compileOutcome_unsourced (complete : c.Complete) (untyped : extractStructured md = none) (undecided : ¬FlatDecides T md)
    (unsourced : MarkedUnsourced T input.summary) : ∃ r, compileOutcome T model md input c = .ok r ∧ ¬Provenance T r := by
  have flat := (@compileFlatReviewer_none_iff T c md complete).mpr undecided
  have run : ∀ e rs, compileDeterministic T c input.summary = .ok (some (e, rs)) →
      compileOutcome T model md input c = .ok (deterministicOutcome T input.summary e rs) := by
    intro e rs read
    unfold compileOutcome
    simp only [untyped, flat, read, bind, Except.bind, pure, Except.pure]
  rcases unsourced with ⟨marked, safe⟩ | ⟨marked, apart, unnamed⟩
  · obtain ⟨e, rs, read, kind⟩ := compileDeterministic_marked complete marked (.inl rfl)
    exact ⟨_, run e rs read, fun provenance => (deterministic_refusal kind).mp provenance safe⟩
  · obtain ⟨e, rs, read, kind⟩ := compileDeterministic_marked complete marked (.inr ⟨rfl, apart⟩)
    exact ⟨_, run e rs read, fun provenance => unnamed ((deterministic_codeFix kind).mp provenance)⟩

end

/-- Every outcome compiled says where its refusal or code fix comes from, unless structured metadata or a marker in the summary
declares the kind with nothing that it stands on. -/
theorem compileOutcome_provenance_iff (T : PyText) (model : ModelCompiler) (md : Json) (input : ModelInput) (c : SourceRef) :
    (∀ r, compileOutcome T model md input c = .ok r → Provenance T r) ↔
      ¬(c.Complete ∧ (StructuredRefusal T md ∨
        extractStructured md = none ∧ ¬FlatDecides T md ∧ MarkedUnsourced T input.summary)) := by
  constructor
  · rintro always ⟨complete, declared | ⟨untyped, undecided, unsourced⟩⟩
    · obtain ⟨r, run, broken⟩ := fromStructured_refusal complete declared
      exact broken (always r run)
    · obtain ⟨r, run, broken⟩ := compileOutcome_unsourced complete untyped undecided unsourced
      exact broken (always r run)
  · intro sourced r run
    have complete : c.Complete := by
      have whole := r.envelope.complete
      rwa [compileOutcome_source model md input r run] at whole
    have structured : ¬StructuredRefusal T md := fun declared => sourced ⟨complete, .inl declared⟩
    unfold compileOutcome at run
    cases typed : extractStructured md with
    | some block =>
      simp only [typed] at run
      obtain ⟨e?, read, run⟩ := bind_ok run
      cases e? with
      | some e =>
        obtain ⟨rs, _, run⟩ := bind_ok run
        cases run
        obtain ⟨version, verdict, hv, hk, items, looped⟩ := fromStructured_kind read
        have kind : e.continuationKind ≠ .semanticRefusal := fun refusal =>
          structured ⟨block, verdict, items, typed, version, hv, by rw [hk, refusal], looped⟩
        exact provenance_plain kind rfl rfl fun _ => rfl
      | none =>
        obtain ⟨e, made, run⟩ := bind_ok run
        cases run
        have kind : e.continuationKind = .unknown := make_kind made
        exact provenance_plain (by simp [kind]) rfl rfl fun fix => by simp [kind] at fix
    | none =>
      simp only [typed] at run
      obtain ⟨flat?, flat, run⟩ := bind_ok run
      cases flat? with
      | some pair =>
        cases run
        exact compileFlatReviewer_provenance flat
      | none =>
        have undecided := (compileFlatReviewer_none_iff complete).mp flat
        have marked : ¬MarkedUnsourced T input.summary := fun unsourced =>
          sourced ⟨complete, .inr ⟨typed, undecided, unsourced⟩⟩
        obtain ⟨read?, read, run⟩ := bind_ok run
        cases read? with
        | none => exact compileByModel_plain run
        | some pair =>
          obtain ⟨e, rs⟩ := pair
          cases run
          by_cases fix : e.continuationKind = .codeFix
          · refine (deterministic_codeFix fix).mpr ?_
            rcases compileDeterministic_fix read fix with ⟨settled, apart⟩ | safely
            · exact not_not.mp fun unnamed => marked (.inr ⟨settled, apart, unnamed⟩)
            · exact safely
          · by_cases refusal : e.continuationKind = .semanticRefusal
            · refine (deterministic_refusal refusal).mpr ?_
              rcases compileDeterministic_refusal read refusal with settled | some'
              · exact fun safe => marked (.inl ⟨settled, safe⟩)
              · exact some'
            · exact deterministic_other fix refusal

def declaredRefusal : Json := .obj [("agentflow_outcome",
  .obj [("schema_version", .int 1), ("verdict", .str "BLOCK"), ("continuation_kind", .str "semantic_refusal")])]

def declaredSource : SourceRef := ⟨"e1", "b", "t1", "g", "", "", ""⟩

def markedFix : String := "Verdict: BLOCK\nOutcome-Kind: code_fix\nContinuation-Contract: fix.v1"

theorem declared_kind_unsourced :
    (¬∀ r, compileOutcome asciiText (fun _ => none) declaredRefusal ⟨"", "", "", "", []⟩ declaredSource = .ok r →
      Provenance asciiText r) ∧
    ¬∀ r, compileOutcome asciiText (fun _ => none) .null ⟨"", markedFix, "", "", []⟩ declaredSource = .ok r →
      Provenance asciiText r := by
  have complete : declaredSource.Complete := by decide
  constructor
  · intro always
    have declared : StructuredRefusal asciiText declaredRefusal :=
      ⟨_, .block, [], rfl, by decide, by decide, by decide, rfl⟩
    obtain ⟨r, run, broken⟩ := fromStructured_refusal complete declared
    exact broken (always r run)
  · intro always
    have unsourced : MarkedUnsourced asciiText markedFix :=
      .inr ⟨by decide +kernel, by decide +kernel, fun named => by
        rcases named with named | ⟨named, _⟩
        · exact named (by decide +kernel)
        · exact named (by decide +kernel)⟩
    have undecided : ¬FlatDecides asciiText .null := by
      rintro ⟨_, _, flat, _⟩
      cases flat
    obtain ⟨r, run, broken⟩ := @compileOutcome_unsourced asciiText declaredSource .null (fun _ => none)
      ⟨"", markedFix, "", "", []⟩ complete rfl undecided unsourced
    exact broken (always r run)

end AgentflowHermes
