import AgentflowHermes.LoopHonesty

namespace AgentflowHermes.Loop

theorem max_append_iff {l : List Int} {k : Int} :
    ((l ++ [k]).max?).getD 0 = (l.max?).getD 0 ↔ k ≤ (l.max?).getD 0 ∧ (l = [] → k = 0) := by
  cases found : l.max? with
  | none =>
    obtain rfl := List.max?_eq_none_iff.mp found
    simp only [List.nil_append, List.max?_singleton, Option.getD_some, Option.getD_none, true_imp_iff]
    omega
  | some top =>
    obtain ⟨mem, above⟩ := List.max?_eq_some_iff.mp found
    have nonempty : l ≠ [] := List.ne_nil_of_mem mem
    have more : (l ++ [k]).max? = some (max top k) := by
      apply List.max?_eq_some_iff.mpr
      constructor
      · rcases Int.le_total k top with low | high
        · rw [Int.max_eq_left low]
          exact List.mem_append_left _ mem
        · rw [Int.max_eq_right high]
          exact List.mem_append_right _ (List.mem_singleton_self k)
      · intro x inside
        rcases List.mem_append.mp inside with old | new
        · have := above x old
          omega
        · rw [List.mem_singleton.mp new]
          omega
    rw [more, Option.getD_some, Option.getD_some]
    constructor
    · intro same
      exact ⟨by omega, fun empty => absurd empty nonempty⟩
    · intro kept
      omega

section

variable {T : PyText} {σ : Type} {ledger : LoopLedger} {r : LoopReceipt} {g b : String}

namespace LoopLedger

theorem ofGraph_singleton : ofGraph T [r] g = if r.sourceGraphId = safeDurableRef T g then [r] else [] := by
  unfold ofGraph
  by_cases same : r.sourceGraphId = safeDurableRef T g <;> simp [same]

theorem ofGraph_snoc : ofGraph T (ledger ++ [r]) g = ofGraph T ledger g ++ ofGraph T [r] g := List.filter_append ..

theorem ofBlocker_snoc : ofBlocker T (ledger ++ [r]) g b = ofBlocker T ledger g b ++ ofBlocker T [r] g b := by
  unfold ofBlocker
  rw [ofGraph_snoc, List.filter_append]

/-- A receipt that does not count leaves the caps and the cooldown of every blocker. -/
theorem ofBlocker_uncounted (uncounted : r.decision.counted = false) : ofBlocker T (ledger ++ [r]) g b = ofBlocker T ledger g b := by
  have none : ofBlocker T [r] g b = [] := by
    unfold ofBlocker
    rw [ofGraph_singleton]
    split <;> simp [uncounted]
  rw [ofBlocker_snoc, none, List.append_nil]

theorem countBlocker_counted (counts : r.decision.counted = true) (graph : safeDurableRef T r.sourceGraphId = r.sourceGraphId)
    (blocker : shortText T r.blockerClass = r.blockerClass) :
    countBlocker T (ledger ++ [r]) r.sourceGraphId r.blockerClass = countBlocker T ledger r.sourceGraphId r.blockerClass + 1 := by
  have one : ofBlocker T [r] r.sourceGraphId r.blockerClass = [r] := by
    unfold ofBlocker
    rw [ofGraph_singleton, if_pos graph.symm]
    simp [blocker, counts]
  unfold countBlocker
  rw [ofBlocker_snoc, one, List.length_append, List.length_singleton]

theorem ofGraph_congr {g' : String} (same : safeDurableRef T g = safeDurableRef T g') :
    ofGraph T ledger g = ofGraph T ledger g' := by
  unfold ofGraph
  rw [same]

/-- The highest round of a graph stays if it is no lower, and 0 where the graph is new. -/
theorem maxRound_snoc_iff (inside : r.sourceGraphId = safeDurableRef T g) :
    maxRoundForGraph T (ledger ++ [r]) g = maxRoundForGraph T ledger g ↔
      r.roundNo ≤ maxRoundForGraph T ledger g ∧ (ofGraph T ledger g = [] → r.roundNo = 0) := by
  unfold maxRoundForGraph
  rw [ofGraph_snoc, ofGraph_singleton, if_pos inside, List.map_append, List.map_singleton, max_append_iff, List.map_eq_nil_iff]

theorem maxRound_snoc_other (outside : r.sourceGraphId ≠ safeDurableRef T g) :
    maxRoundForGraph T (ledger ++ [r]) g = maxRoundForGraph T ledger g := by
  unfold maxRoundForGraph
  rw [ofGraph_snoc, ofGraph_singleton, if_neg outside, List.append_nil]

end LoopLedger

/-- A GO that goes by no name and whose receipt leaves the rounds of its graph as they are. -/
structure Unnoticed (T : PyText) (ev : LoopEvent) (ledger : LoopLedger) : Prop where
  nameless : safeDurableRef T ev.eventId = ""
  direct : supersedes ev = false
  go : verdictOf T ev = "GO"
  round : ev.roundNo ≤ ledger.maxRoundForGraph T (safeGraph T ev)
  first : ledger.ofGraph T (safeGraph T ev) = [] → ev.roundNo = 0

theorem evaluateLoopEvent_known {given : Option LoopPolicy} {ev : LoopEvent} {args : LoopArgs σ} {s : LoopState σ}
    (known : s.receipts.hasEvent T ev.eventId = true) : ∃ d, evaluateLoopEvent T given args ev s = .ok (d, s) ∧
      d.reason = "duplicate_event" := by
  unfold evaluateLoopEvent
  dsimp only
  rw [if_pos known]
  exact ⟨_, rfl, rfl⟩

/-- An adapter that does what it is asked, and lists nothing. -/
def obliging : LoopAdapter σ where
  createGraph _ board := ({ success := true, taskId := "task" }, board)
  recordSourceReceipt _ board := board
  createIntent _ board := ({ success := true, taskId := "task" }, board)
  listExisting _ _ := false

theorem obliging_working : (obliging : LoopAdapter σ).Working where
  graph _ _ := ⟨rfl, show "task" ≠ "" by decide⟩
  intent _ _ := rfl
  fresh _ _ := rfl

theorem Filed.named {ev : LoopEvent} (filed : Filed T ev r) (named : safeDurableRef T ev.eventId ≠ "") :
    LoopLedger.hasEvent T (ledger ++ [r]) ev.eventId = true := by
  have name : r.eventId = safeDurableRef T ev.eventId := by
    rw [filed.event]
    exact if_neg named
  unfold LoopLedger.hasEvent
  rw [List.any_append]
  simp [name]

theorem Filed.nameless {ev : LoopEvent} (filed : Filed T ev r) (nameless : safeDurableRef T ev.eventId = "") :
    LoopLedger.hasEvent T (ledger ++ [r]) ev.eventId = LoopLedger.hasEvent T ledger ev.eventId := by
  have name : r.eventId = "missing_event_id" := by
    rw [filed.event]
    exact if_pos nameless
  unfold LoopLedger.hasEvent
  rw [List.any_append]
  simp [name, nameless]

theorem ReachesGo.mono {given : Option LoopPolicy} {ev : LoopEvent} {ledger' : LoopLedger} (h : ReachesGo T given ev ledger)
    (new : ledger'.hasEvent T ev.eventId = false) : ReachesGo T given ev ledger' :=
  { h with new }

variable {c : LoopCase} {a : LoopAdapter σ} {s : LoopState σ} {d : LoopDecision} {s' : LoopState (σ × List Bool)}

theorem retryable_of_clean (sound : false ∉ s'.board.2) (said : d.saysApplied = true → true ∈ s'.board.2) :
    Retryable T c s d s' :=
  ⟨said, fun failed => absurd failed sound, fun failed => absurd failed sound⟩

/-- A refused graph of a GO is retried, and leaves no trace in the caps, exactly when the GO goes unnoticed. -/
theorem retryable_refused_iff (plain : T.Plain) (reached : ReachesGo T c.policy c.event s.receipts)
    (failed : false ∈ s'.board.2) (silent : d.saysApplied = false) (added : s'.receipts = s.receipts ++ [r])
    (filed : Filed T c.event r) (uncounted : r.decision.counted = false) (round : r.roundNo = c.event.roundNo)
    (again : ∀ (receipts : LoopLedger) (a : LoopAdapter σ), ReachesGo T c.policy c.event receipts →
      ∃ d' s'', c.evaluate T a ⟨receipts, s'.promotions, s'.applied, s'.board.1⟩ = .ok (d', s'') ∧
        d'.reason = "go_terminal" ∧ s''.board.2 ≠ []) :
    Retryable T c s d s' ↔ Unnoticed T c.event s.receipts := by
  have stored : safeDurableRef T (safeGraph T c.event) = safeGraph T c.event := safeGraph_reference.durable plain
  constructor
  · intro retryable
    have nameless : safeDurableRef T c.event.eventId = "" := by
      by_contra named
      obtain ⟨d', s'', evaluated, fresh, -⟩ := retryable.retried failed obliging obliging_working
      have known : s'.unlogged.logging.receipts.hasEvent T c.event.eventId = true := by
        show s'.receipts.hasEvent T c.event.eventId = true
        rw [added]
        exact filed.named named
      obtain ⟨d'', duplicate, reason⟩ := @evaluateLoopEvent_known T _ c.policy c.event (c.args obliging) _ known
      have same := Except.ok.inj (evaluated.symm.trans duplicate)
      rw [(Prod.mk.inj same).1] at fresh
      exact fresh reason
    have kept := (retryable.uncounted failed (safeGraph T c.event) "").1
    rw [added, LoopLedger.maxRound_snoc_iff (by rw [filed.graph, stored]), round] at kept
    exact ⟨nameless, reached.plain, reached.go, kept.1, kept.2⟩
  · intro unnoticed
    refine ⟨fun said => ?_, fun _ a' _ => ?_, fun _ graph blocker => ?_⟩
    · rw [silent] at said
      cases said
    · have fresh : s'.receipts.hasEvent T c.event.eventId = false := by
        rw [added, filed.nameless unnoticed.nameless]
        exact reached.new
      obtain ⟨d', s'', evaluated, reason, called⟩ := again s'.receipts a' (reached.mono fresh)
      refine ⟨d', s'', evaluated, ?_, called⟩
      rw [reason]
      decide
    · rw [added]
      unfold LoopLedger.countBlocker LoopLedger.lastActionTime
      rw [LoopLedger.ofBlocker_uncounted uncounted]
      refine ⟨?_, rfl, rfl⟩
      by_cases inside : r.sourceGraphId = safeDurableRef T graph
      · have same : safeDurableRef T graph = safeDurableRef T (safeGraph T c.event) := by
          rw [← inside, filed.graph, stored]
        rw [LoopLedger.maxRound_snoc_iff inside, round]
        unfold LoopLedger.maxRoundForGraph
        rw [LoopLedger.ofGraph_congr same]
        exact ⟨unnoticed.round, unnoticed.first⟩
      · exact LoopLedger.maxRound_snoc_other inside

theorem retryable_iff (plain : T.Plain) (h : c.evaluate T a s = .ok (d, s')) :
    Retryable T c s d s' ↔ false ∉ s'.board.2 ∨ Unnoticed T c.event s.receipts := by
  cases evaluate_wrote plain h with
  | clean sound said => exact iff_of_true (retryable_of_clean sound said) (.inl sound)
  | counted said r added counts graph blocker branch =>
    have noticed : ¬Unnoticed T c.event s.receipts := fun u => branch ⟨u.direct, u.go⟩
    constructor
    · intro retryable
      by_contra both
      rw [not_or, not_not] at both
      have kept := (retryable.uncounted both.1 r.sourceGraphId r.blockerClass).2.1
      rw [added, LoopLedger.countBlocker_counted counts graph blocker] at kept
      omega
    · rintro (sound | unnoticed)
      · refine retryable_of_clean sound fun applied => ?_
        obtain ⟨first, rest, same⟩ := List.exists_cons_of_ne_nil (said applied)
        rw [same] at sound ⊢
        cases first with
        | true => exact List.mem_cons_self
        | false => exact absurd List.mem_cons_self sound
      · exact absurd unnoticed noticed
  | refused reached failed silent r added filed uncounted round again =>
    rw [retryable_refused_iff plain reached failed silent added filed uncounted round again]
    exact ⟨.inr, fun h => h.resolve_left (not_not_intro failed)⟩

end

section

variable {σ : Type} (T : PyText) (c : LoopCase) (a : LoopAdapter σ) (s : LoopState σ)

/-- What is claimed of a case with an adapter; an evaluation that raises decides and records nothing. -/
def LoopCase.Retries : Prop := ∀ d s', c.evaluate T a s = .ok (d, s') → Retryable T c s d s'

/-- Every create of the evaluation comes through. -/
def LoopCase.AllThrough : Prop := ∀ d s', c.evaluate T a s = .ok (d, s') → false ∉ s'.board.2

/-- The loop reports what happened and stays retryable exactly when no create fails, or the GO goes unnoticed. -/
theorem retries_iff (plain : T.Plain) : c.Retries T a s ↔ c.AllThrough T a s ∨ Unnoticed T c.event s.receipts := by
  unfold LoopCase.Retries LoopCase.AllThrough
  cases evaluated : c.evaluate T a s with
  | error e => exact iff_of_true (fun d s' h => by cases h) (.inl fun d s' h => by cases h)
  | ok result =>
    obtain ⟨d, s'⟩ := result
    have exact' := retryable_iff plain evaluated
    constructor
    · intro retries
      rcases exact'.mp (retries d s' rfl) with through | unnoticed
      · left
        intro d' s'' same
        cases same
        exact through
      · exact .inr unnoticed
    · intro condition d' s'' same
      cases same
      exact exact'.mpr (condition.imp_left fun through => through d s' rfl)

end

/-- An adapter that refuses every create. -/
def refusing : LoopAdapter Unit where
  createGraph _ board := ({ success := false }, board)
  recordSourceReceipt _ board := board
  createIntent _ board := ({ success := false }, board)
  listExisting _ _ := false

/-- A BLOCK by a policy that applies its remediation. -/
def appliedBlock : LoopCase where
  event := {
    eventId := "event-1"
    sourceGraphId := "graph-1"
    verdict := "BLOCK"
    summary := "Verdict: BLOCK — stale_inline_route"
    blockerClass := "stale_inline_route"
    subscriptionStatus := "verified"
    policyResolutionRef := "policy-1"
    occurredAt := 5 }
  policy := some { activeMode := "apply", applyEnabled := true, allowlistedBlockers := ["stale_inline_route"] }
  registry := none
  promoter := none
  clock := 0

theorem retries_iff_obliging : appliedBlock.Retries asciiText (obliging : LoopAdapter Unit) { board := () } ↔
    appliedBlock.AllThrough asciiText (obliging : LoopAdapter Unit) { board := () } ∨
      Unnoticed asciiText appliedBlock.event [] :=
  retries_iff asciiText appliedBlock obliging { board := () } asciiText_plain

/-- What came of the creates of an evaluation, and whether the decision says that they were applied. -/
def LoopCase.report {σ : Type} (T : PyText) (c : LoopCase) (a : LoopAdapter σ) (s : LoopState σ) : Option (List Bool × Bool) :=
  (c.evaluate T a s).toOption.map fun result => (result.2.board.2, result.1.saysApplied)

/-- Three creates are refused, and the decision says applied. -/
theorem refused_applied : ¬appliedBlock.Retries asciiText refusing { board := () } := by
  intro retries
  have report : appliedBlock.report asciiText refusing { board := () } = some ([false, false, false], true) := by
    decide +kernel
  unfold LoopCase.report at report
  cases evaluated : appliedBlock.evaluate asciiText refusing { board := () } with
  | error e =>
    rw [evaluated] at report
    cases report
  | ok result =>
    rw [evaluated] at report
    obtain ⟨log, said⟩ := Prod.mk.inj (Option.some.inj report)
    have through := (retries result.1 result.2 evaluated).applied said
    rw [log] at through
    exact absurd through (by decide)

end AgentflowHermes.Loop
