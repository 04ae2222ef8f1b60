import AgentflowHermes.OutcomeCompiler
import Mathlib.Tactic.Common

namespace AgentflowHermes

open BacktrackRegex

variable {T : PyText} {c : SourceRef} {text : String} {md : Json} {model : ModelCompiler} {input : ModelInput}

/-- The envelope a `make` under `except OutcomeEnvelopeError` may still return. -/
theorem catch_make_some {α : Type} {d : Draft} {g : OutcomeEnvelope → α} {a : α}
    (h : catchEnvelope ((fun e => some (g e)) <$> OutcomeEnvelope.make c d) (.ok none) = .ok (some a)) :
    ∃ e, OutcomeEnvelope.make c d = .ok e ∧ g e = a := by
  cases hm : OutcomeEnvelope.make c d with
  | ok e =>
    rw [hm] at h
    exact ⟨e, rfl, Option.some.inj (Except.ok.inj h)⟩
  | error err =>
    rw [hm] at h
    cases err <;> cases h

theorem catch_make_eq {α : Type} {d : Draft} {g : OutcomeEnvelope → α} (hc : c.Complete) (hd : d.Coherent) :
    catchEnvelope ((fun e => some (g e)) <$> OutcomeEnvelope.make c d) (.ok none) =
      .ok (some (g ⟨c, d, hc, hd⟩)) := by
  rw [OutcomeEnvelope.make_eq hc hd]
  rfl

theorem catch_make_kind {α : Type} {d : Draft} {x : α} {e : OutcomeEnvelope} {a : α}
    (h : catchEnvelope ((fun e => some (e, x)) <$> OutcomeEnvelope.make c d) (.ok none) = .ok (some (e, a))) :
    e.continuationKind = d.continuationKind := by
  obtain ⟨e', hm, he⟩ := catch_make_some h
  obtain ⟨rfl, -⟩ := Prod.mk.inj he
  rw [(OutcomeEnvelope.make_ok hm).2]

theorem make_kind {d : Draft} {e : OutcomeEnvelope} (h : OutcomeEnvelope.make c d = .ok e) :
    e.continuationKind = d.continuationKind := by
  rw [(OutcomeEnvelope.make_ok h).2]

theorem make_complete {d : Draft} {e : OutcomeEnvelope} (h : OutcomeEnvelope.make c d = .ok e) : c.Complete := by
  have := e.complete
  rwa [(OutcomeEnvelope.make_ok h).1] at this

theorem searchGroup_none {r : Pattern} {cs : List Char} (h : search r cs = false) :
    searchGroup r cs = none := by
  unfold search at h
  unfold searchGroup
  rw [Option.isSome_eq_false_iff, Option.isNone_iff_eq_none] at h
  rw [h]
  rfl

/-- A BLOCK that names one of the known blockers; the candidate phrases are never collected for it. -/
def namedBlock (T : PyText) (text : String) : Prop :=
  summaryVerdict T text = .block ∧ (parseVerdictSummary T text).blockers ≠ []

/-- The prose grammar collected no unsafe phrase and at least one concrete one. -/
def proseRemediable (T : PyText) (text : String) : Prop :=
  unsafeBlockerCategories T (blockerCandidatesFromText T text) = [] ∧
    (blockerCandidatesFromText T text).filter (isConcreteCodeBlocker T) ≠ []

/-- The summaries the deterministic grammar turns into a CODE_FIX. -/
def TextRemediable (T : PyText) (text : String) : Prop :=
  (summaryVerdict T text).blocking ∧ search (operatorMustRe T) text.toList = false ∧
    (namedBlock T text ∨ proseRemediable T text)

theorem blocking_ne_go {v : Verdict} (h : v.blocking) : v ≠ .go := by
  rintro rfl
  cases h

theorem fromVerdictText_codeFix {e : OutcomeEnvelope} (h : fromVerdictText T c text = .ok e)
    (hk : e.continuationKind = .codeFix) : TextRemediable T text := by
  unfold fromVerdictText at h
  dsimp only at h
  split_ifs at h with ask named go
  · simp [make_kind h] at hk
  · have hb : (summaryVerdict T text).blocking := by rw [named.1]; rfl
    exact ⟨hb, by simpa [hb] using ask, .inl named⟩
  · simp [make_kind h] at hk
  · simp [make_kind h] at hk

theorem fromVerdictText_unknown {e : OutcomeEnvelope} (h : fromVerdictText T c text = .ok e)
    (hk : e.continuationKind = .unknown) (hb : (summaryVerdict T text).blocking) :
    search (operatorMustRe T) text.toList = false := by
  unfold fromVerdictText at h
  dsimp only at h
  split_ifs at h with ask named go
  · simp [make_kind h] at hk
  · simp [make_kind h] at hk
  · simp [make_kind h] at hk
  · simpa [hb] using ask

theorem fromVerdictText_complete {e : OutcomeEnvelope} (h : fromVerdictText T c text = .ok e) : c.Complete := by
  unfold fromVerdictText at h
  dsimp only at h
  split_ifs at h
  all_goals exact make_complete h

theorem fromVerdictText_remediable (hc : c.Complete) (h : TextRemediable T text) :
    ∃ e, fromVerdictText T c text = .ok e ∧
      (e.continuationKind = .codeFix ∨ e.continuationKind = .unknown ∧ proseRemediable T text) := by
  obtain ⟨hb, ask, rest⟩ := h
  unfold fromVerdictText
  simp only [ask, Bool.false_eq_true, and_false, if_false]
  split_ifs with named go
  · exact ⟨_, OutcomeEnvelope.make_eq hc (by simp [Draft.Coherent, named.1]), .inl rfl⟩
  · exact absurd go (blocking_ne_go hb)
  · exact ⟨_, OutcomeEnvelope.make_eq hc (by simp [Draft.Coherent]), .inr ⟨rfl, rest.resolve_left named⟩⟩

theorem summaryVerdict_parsed (h : (summaryVerdict T text).blocking) :
    Verdict.ofString? (parseVerdictSummary T text).verdict = some (summaryVerdict T text) := by
  unfold summaryVerdict at h ⊢
  cases hs : Verdict.ofString? (parseVerdictSummary T text).verdict with
  | none => rw [hs] at h; cases h
  | some w => rfl

theorem compileGenericBlockerProse_codeFix {e : OutcomeEnvelope} {rs : List Requirement}
    (h : compileGenericBlockerProse T c text = .ok (some (e, rs))) (hk : e.continuationKind = .codeFix) :
    (summaryVerdict T text).blocking ∧ proseRemediable T text := by
  unfold compileGenericBlockerProse at h
  cases hv : Verdict.ofString? (parseVerdictSummary T text).verdict with
  | none => simp [hv] at h
  | some v =>
    have hsv : summaryVerdict T text = v := by simp [summaryVerdict, hv]
    simp only [hv] at h
    split_ifs at h with quiet harm vague
    · cases h
    · simp [catch_make_kind h] at hk
    · cases h
    · exact ⟨by simpa [hsv] using quiet, by simpa using harm, vague⟩

theorem compileGenericBlockerProse_remediable (hc : c.Complete) (hb : (summaryVerdict T text).blocking)
    (h : proseRemediable T text) :
    ∃ e, compileGenericBlockerProse T c text = .ok (some (e, [])) ∧ e.continuationKind = .codeFix := by
  have hgo := blocking_ne_go hb
  unfold compileGenericBlockerProse
  simp only [summaryVerdict_parsed hb, hb, h.1, h.2, Bool.not_true, Bool.false_eq_true, if_false, ne_eq,
    not_true_eq_false]
  exact ⟨_, catch_make_eq hc (by simp [Draft.Coherent, hgo]), rfl⟩

theorem compileNaturalProse_kind {e : OutcomeEnvelope} {rs : List Requirement}
    (h : compileNaturalProse T c text = .ok (some (e, rs))) : e.continuationKind = .needsInput := by
  unfold compileNaturalProse at h
  split at h
  next =>
    dsimp only at h
    split_ifs at h
    · cases h
    · exact catch_make_kind h
  next => cases h

theorem fromTextFallback_eq (hm : search (outcomeKindRe T) text.toList = false) :
    fromTextFallback T c text = fromVerdictText T c text := by
  unfold fromTextFallback
  rw [searchGroup_none hm]

theorem bind_ok {α β : Type} {x : Except PyError α} {f : α → Except PyError β} {b : β}
    (h : (x >>= f) = .ok b) : ∃ a, x = .ok a ∧ f a = .ok b := by
  cases x with
  | error err => cases h
  | ok a => exact ⟨a, rfl, h⟩

theorem compileDeterministic_codeFix {e : OutcomeEnvelope} {rs : List Requirement}
    (hm : search (outcomeKindRe T) text.toList = false)
    (h : compileDeterministic T c text = .ok (some (e, rs))) (hk : e.continuationKind = .codeFix) :
    c.Complete ∧ TextRemediable T text := by
  obtain ⟨f, hf, h⟩ := bind_ok h
  rw [fromTextFallback_eq hm] at hf
  refine ⟨fromVerdictText_complete hf, ?_⟩
  split_ifs at h with settled
  · obtain ⟨reqs, _, h⟩ := bind_ok h
    obtain ⟨rfl, -⟩ : f = e ∧ reqs = rs := by simpa [pure, Except.pure] using h
    exact fromVerdictText_codeFix hf hk
  · obtain ⟨g, hg, h⟩ := bind_ok h
    cases g with
    | none =>
      have := compileNaturalProse_kind h
      simp [hk] at this
    | some g =>
      obtain rfl : g = (e, rs) := by simpa [pure, Except.pure] using h
      obtain ⟨hb, prose⟩ := compileGenericBlockerProse_codeFix hg hk
      exact ⟨hb, fromVerdictText_unknown hf (by simpa using settled) hb, .inr prose⟩

theorem compileDeterministic_remediable (hm : search (outcomeKindRe T) text.toList = false)
    (hc : c.Complete) (h : TextRemediable T text) :
    ∃ e rs, compileDeterministic T c text = .ok (some (e, rs)) ∧ e.continuationKind = .codeFix := by
  obtain ⟨f, hf, kind⟩ := fromVerdictText_remediable hc h
  unfold compileDeterministic
  rw [fromTextFallback_eq hm, hf]
  rcases kind with kind | ⟨kind, prose⟩
  · exact ⟨f, _, by simp [bind, Except.bind, pure, Except.pure, kind, requirementsFromEnvelope]; rfl, kind⟩
  · obtain ⟨e, he, hk⟩ := compileGenericBlockerProse_remediable (c := c) hc h.1 prose
    exact ⟨e, [], by simp [bind, Except.bind, pure, Except.pure, kind, he], hk⟩

theorem compileModelCandidate_kind {candidate : Json} {e : OutcomeEnvelope} {rs : List Requirement}
    (h : compileModelCandidate T c candidate = .ok (some (e, rs))) : e.continuationKind = .needsInput := by
  unfold compileModelCandidate at h
  split at h
  next =>
    obtain ⟨items, _, h⟩ := bind_ok h
    exact catch_make_kind h
  next => cases h

theorem settleCandidate_kind {o : Option (OutcomeEnvelope × List Requirement)} {r : CompiledOutcome}
    (ho : ∀ p, o = some p → p.1.continuationKind = .needsInput) (h : settleCandidate c o = .ok r) :
    r.envelope.continuationKind ≠ .codeFix := by
  cases o with
  | none =>
    obtain ⟨e, he, h⟩ := bind_ok h
    cases h
    simp [make_kind he]
  | some p =>
    cases h
    simp [ho p rfl]

theorem compileByModel_kind {r : CompiledOutcome} (h : compileByModel T model input c = .ok r) :
    r.envelope.continuationKind ≠ .codeFix := by
  unfold compileByModel at h
  cases hj : model input with
  | none =>
    simp only [hj] at h
    have h : settleCandidate c none = .ok r := h
    exact settleCandidate_kind (by simp) h
  | some j =>
    simp only [hj] at h
    obtain ⟨o, ho, h⟩ := bind_ok h
    exact settleCandidate_kind (fun p hp => compileModelCandidate_kind (ho.trans (by rw [hp]))) h

/-- The flat reviewer metadata settles the outcome before the summary is read. -/
def FlatDecides (T : PyText) (md : Json) : Prop :=
  ∃ blockers verdict, extractFlatBlockers T md = some blockers ∧ flatVerdict T md = some verdict ∧
    (verdict = .go ∨ verdict.blocking ∧ blockers ≠ [])

theorem compileFlatReviewer_safe {e : OutcomeEnvelope} {bs : List String}
    (h : compileFlatReviewer T c md = .ok (some (e, bs))) (hk : e.continuationKind = .codeFix) :
    ∃ blockers verdict, extractFlatBlockers T md = some blockers ∧ flatVerdict T md = some verdict ∧
      unsafeBlockerCategories T blockers = [] := by
  unfold compileFlatReviewer at h
  split at h
  next blockers verdict hb hv =>
    dsimp only at h
    split_ifs at h with block harm go
    · simp [catch_make_kind h] at hk
    · exact ⟨blockers, verdict, hb, hv, by simpa using harm⟩
    · simp [catch_make_kind h] at hk
    · cases h
  next => cases h

theorem compileFlatReviewer_none_iff (hc : c.Complete) :
    compileFlatReviewer T c md = .ok none ↔ ¬FlatDecides T md := by
  constructor
  · rintro h ⟨blockers, verdict, hb, hv, decides⟩
    unfold compileFlatReviewer at h
    simp only [hb, hv] at h
    split_ifs at h with block harm go
    · rw [catch_make_eq hc (by simp [Draft.Coherent])] at h
      cases h
    · rw [catch_make_eq hc (by simp [Draft.Coherent, blocking_ne_go block.1])] at h
      cases h
    · rw [catch_make_eq hc (by simp [Draft.Coherent])] at h
      cases h
    · exact decides.elim go block
  · intro h
    unfold compileFlatReviewer
    split
    next blockers verdict hb hv =>
      have block : ¬(verdict.blocking ∧ blockers ≠ []) := fun b => h ⟨blockers, verdict, hb, hv, .inr b⟩
      have go : verdict ≠ .go := fun g => h ⟨blockers, verdict, hb, hv, .inl g⟩
      simp only [block, go, if_false]
    next => rfl

theorem deterministicOutcome_envelope {e : OutcomeEnvelope} {rs : List Requirement} :
    (deterministicOutcome T text e rs).envelope = e := by
  unfold deterministicOutcome
  split_ifs <;> rfl

/-- A phrase the reviewer offers as a blocker: the value of a blocker field wherever the field
matches, or a bullet when a bare heading asks for bullets. -/
def BlockerPhrase (T : PyText) (text phrase : String) : Prop :=
  ∃ start g stop, start.before.reverse ++ start.after = text.toList ∧
    (matchAt (blockerFieldRe T) start = some (g, stop) ∨
      matchAt (bulletRe T) start = some (g, stop) ∧
        ∃ heading, heading.before.reverse ++ heading.after = text.toList ∧
          heading.before.length ≤ start.before.length ∧ (matchAt (bareBlockersRe T) heading).isSome) ∧
    phrase = PyText.strip T.isSpace (String.ofList g)

/-- An unsafe blocker stands in the flat metadata, or in the summary when no flat verdict does. -/
def OffersUnsafe (T : PyText) (md : Json) (text : String) : Prop :=
  (∃ blockers, extractFlatBlockers T md = some blockers ∧ ∃ b ∈ blockers, unsafeText T b) ∨
    (extractFlatBlockers T md = none ∨ flatVerdict T md = none) ∧ ∃ phrase, BlockerPhrase T text phrase ∧ unsafeText T phrase

theorem unsafeBlockerCategories_ne_nil {ps : List String} {p : String} (hp : p ∈ ps) (h : unsafeText T p) :
    unsafeBlockerCategories T ps ≠ [] := by
  obtain ⟨cat, hcat, hs⟩ := List.any_eq_true.mp h
  have found : cat ∈ (unsafeCategories T).filter fun c => ps.any fun p => search c.2 p.toList :=
    List.mem_filter.mpr ⟨hcat, List.any_eq_true.mpr ⟨p, hp, hs⟩⟩
  intro hnil
  have hmem : cat.1 ∈ unsafeBlockerCategories T ps := List.mem_mergeSort.mpr (List.mem_map_of_mem found)
  simp [hnil] at hmem

theorem compileOutcome_remediable (noMarker : search (outcomeKindRe T) input.summary.toList = false)
    (untyped : extractStructured md = none) (hc : c.Complete) (hflat : ¬FlatDecides T md)
    (htext : TextRemediable T input.summary) :
    ∃ r, compileOutcome T model md input c = .ok r ∧ r.envelope.continuationKind = .codeFix := by
  obtain ⟨e, rs, he, hk⟩ := compileDeterministic_remediable (c := c) noMarker hc htext
  refine ⟨deterministicOutcome T input.summary e rs, ?_, deterministicOutcome_envelope ▸ hk⟩
  unfold compileOutcome
  simp only [untyped, (compileFlatReviewer_none_iff hc).mpr hflat, he, bind, Except.bind, pure, Except.pure]

/-- The unsafe categories guard the flat metadata and the prose grammar, and neither guards a
summary the text fallback settles or phrases the collection of candidates leaves out. -/
theorem compileOutcome_unsafe_not_codeFix_iff (T : PyText) (model : ModelCompiler) (md : Json)
    (input : ModelInput) (c : SourceRef) (noMarker : search (outcomeKindRe T) input.summary.toList = false)
    (untyped : extractStructured md = none) (offers : OffersUnsafe T md input.summary) :
    (∀ r, compileOutcome T model md input c = .ok r → r.envelope.continuationKind ≠ .codeFix) ↔
      ¬(c.Complete ∧ ¬FlatDecides T md ∧ TextRemediable T input.summary) := by
  constructor
  · rintro never ⟨hc, hflat, htext⟩
    obtain ⟨r, hr, hk⟩ := compileOutcome_remediable noMarker untyped hc hflat htext
    exact never r hr hk
  · intro cond r hr hk
    unfold compileOutcome at hr
    simp only [untyped] at hr
    obtain ⟨flat, hflat, hr⟩ := bind_ok hr
    cases flat with
    | some p =>
      obtain ⟨e, bs⟩ := p
      cases hr
      obtain ⟨blockers, verdict, hb, hv, safe⟩ := compileFlatReviewer_safe hflat hk
      rcases offers with ⟨blockers', hb', b, hmem, harm⟩ | ⟨none' | none', _⟩
      · obtain rfl : blockers = blockers' := Option.some.inj (hb.symm.trans hb')
        exact unsafeBlockerCategories_ne_nil hmem harm safe
      · simp [none'] at hb
      · simp [none'] at hv
    | none =>
      obtain ⟨det, hdet, hr⟩ := bind_ok hr
      cases det with
      | some p =>
        obtain ⟨e, rs⟩ := p
        cases hr
        rw [deterministicOutcome_envelope] at hk
        obtain ⟨hc, htext⟩ := compileDeterministic_codeFix noMarker hdet hk
        exact cond ⟨hc, (compileFlatReviewer_none_iff hc).mp hflat, htext⟩
      | none => exact compileByModel_kind hr hk

def droppedTableSummary : String :=
  "Verdict: BLOCK\nBlockers: stale_final_fanin\nReason: drop table users"

def droppedTableSource : SourceRef := ⟨"e1", "b", "t1", "g", "", "", ""⟩

theorem droppedTable_noMarker : search (outcomeKindRe asciiText) droppedTableSummary.toList = false := by
  decide +kernel

theorem droppedTable_remediable : TextRemediable asciiText droppedTableSummary := by
  refine ⟨by decide +kernel, by decide +kernel, .inl ⟨by decide +kernel, by decide +kernel⟩⟩

theorem droppedTable_offers : OffersUnsafe asciiText .null droppedTableSummary := by
  refine .inr ⟨.inl rfl, "drop table users", ⟨⟨"Verdict: BLOCK\nBlockers: stale_final_fanin\n".toList.reverse,
    "Reason: drop table users".toList⟩, "drop table users".toList,
    ⟨droppedTableSummary.toList.reverse, []⟩, ?_, .inl ?_, ?_⟩, ?_⟩
  · decide +kernel
  · decide +kernel
  · decide +kernel
  · decide +kernel

theorem compileOutcome_unsafe_not_codeFix_iff_droppedTable :
    ¬∀ r, compileOutcome asciiText (fun _ => none) .null ⟨"", droppedTableSummary, "", "", []⟩ droppedTableSource =
      .ok r → r.envelope.continuationKind ≠ .codeFix := by
  rw [compileOutcome_unsafe_not_codeFix_iff asciiText _ .null _ droppedTableSource droppedTable_noMarker rfl
    droppedTable_offers, not_not]
  exact ⟨by decide, fun ⟨_, _, h, _⟩ => (by cases h), droppedTable_remediable⟩

/-- A BLOCK that names a known blocker is settled before the unsafe categories are looked at. -/
theorem unsafe_blocker_not_guarded :
    ¬∀ (T : PyText) (model : ModelCompiler) (md : Json) (input : ModelInput) (c : SourceRef),
      search (outcomeKindRe T) input.summary.toList = false → extractStructured md = none →
      OffersUnsafe T md input.summary →
      ∀ r, compileOutcome T model md input c = .ok r → r.envelope.continuationKind ≠ .codeFix := by
  intro never
  have noFlat : ¬FlatDecides asciiText .null := fun ⟨_, _, h, _⟩ => by cases h
  obtain ⟨r, hr, hk⟩ : ∃ r, compileOutcome asciiText (fun _ => none) .null ⟨"", droppedTableSummary, "", "", []⟩
      droppedTableSource = .ok r ∧ r.envelope.continuationKind = .codeFix :=
    compileOutcome_remediable droppedTable_noMarker rfl (by decide) noFlat droppedTable_remediable
  exact never asciiText (fun _ => none) .null _ droppedTableSource droppedTable_noMarker rfl
    droppedTable_offers r hr hk

end AgentflowHermes
