import AgentflowHermes.LoopRetries

namespace AgentflowHermes.Loop

section

variable {T : PyText} {σ : Type}

/-- The verdict that an event is decided by. -/
def verdictOf (T : PyText) (ev : LoopEvent) : String := asciiUpper (orText ev.verdict (parseVerdictSummary T ev.summary).verdict)

/-- The event comes to the GO branch. -/
structure ReachesGo (T : PyText) (given : Option LoopPolicy) (ev : LoopEvent) (ledger : LoopLedger) : Prop where
  new : ledger.hasEvent T ev.eventId = false
  sound : (coercePolicy given).2 = false
  alive : (coercePolicy given).1.killSwitch = false
  active : (coercePolicy given).1.activeMode ≠ "disabled"
  origin : originOk ev (coercePolicy given).1 = true
  plain : supersedes ev = false
  go : verdictOf T ev = "GO"

def goDecision (T : PyText) (given : Option LoopPolicy) (ev : LoopEvent) (clock : Int) : LoopDecision :=
  decision T ev .stabilize "go_terminal" (coercePolicy given).1 (timeOf ev clock) { verdict := verdictOf T ev }

/-- The adapter that a policy lets an evaluation have. -/
def LoopPolicy.allowed (p : LoopPolicy) (adapter : Option (LoopAdapter σ)) : Option (LoopAdapter σ) :=
  if p.applyEffectivelyEnabled then adapter else none

theorem evaluateLoopEvent_go {given : Option LoopPolicy} {ev : LoopEvent} {args : LoopArgs σ} {s : LoopState σ}
    (h : ReachesGo T given ev s.receipts) : evaluateLoopEvent T given args ev s =
      (attachRoadmapAutopromote T (goDecision T given ev args.clock) ev (coercePolicy given).1 (timeOf ev args.clock) args
        ((coercePolicy given).1.allowed args.adapter) s).bind fun result => .ok (record result.2 result.1) := by
  unfold evaluateLoopEvent
  dsimp only
  rw [if_neg (by simp [h.new]), if_neg (by simp [h.sound]), if_neg (by simp [h.alive]), if_neg h.active,
    if_neg (by simp [h.origin]), if_neg (by simp [h.plain]), if_pos (show asciiUpper _ = "GO" from h.go)]
  rfl

/-- What an attached roadmap answer makes of a decision. -/
def attached (T : PyText) (d : LoopDecision) (answer : Roadmap.ApplyAnswer) : LoopDecision := { d with
  roadmap := some (.applied answer)
  receipt := LoopReceipt.safe T { d.receipt with payload := { d.receipt.payload with roadmap := some (.applied answer) } } }

/-- A GO is applied at the roadmap. -/
structure Armed (p : LoopPolicy) : Prop where
  auto : p.roadmapAutoContinue = true
  applies : (roadmapPolicy p).applyEnabled = true

theorem Armed.effective {p : LoopPolicy} (h : Armed p) : p.applyEffectivelyEnabled = true := by
  have applies := h.applies
  simp only [roadmapPolicy, Bool.and_eq_true] at applies
  exact applies.2

theorem attachRoadmapAutopromote_armed {d : LoopDecision} {ev : LoopEvent} {p : LoopPolicy} {now : Int} {args : LoopArgs σ}
    {a : LoopAdapter σ} {s : LoopState σ} (armed : Armed p) :
    attachRoadmapAutopromote T d ev p now args (some a) s =
      (Roadmap.applyRoadmapPromotion T args.registry (some (roadmapPolicy p)) (some a.toGraphAdapter) (promotionEvent ev now)
        ⟨s.promotions.getD [], s.applied.getD [], s.board⟩).bind fun result => .ok (attached T d result.1, { s with
          promotions := s.promotions.map fun _ => result.2.ledger
          applied := s.applied.map fun _ => result.2.applied
          board := result.2.board }) := by
  unfold attachRoadmapAutopromote
  rw [if_neg (by simp [armed.auto])]
  dsimp only
  rw [if_pos armed.applies]
  rfl

/-- Without the apply gate nothing is created, and nothing is said to be. -/
theorem attachRoadmapAutopromote_unarmed {d d' : LoopDecision} {ev : LoopEvent} {p : LoopPolicy} {now : Int} {args : LoopArgs σ}
    {adapter : Option (LoopAdapter σ)} {s s' : LoopState σ} (silent : d.saysApplied = false)
    (unarmed : ¬Armed p)
    (h : attachRoadmapAutopromote T d ev p now args adapter s = .ok (d', s')) :
    s'.board = s.board ∧ d'.saysApplied = false := by
  unfold attachRoadmapAutopromote at h
  dsimp only at h
  split at h
  · cases h
    exact ⟨rfl, silent⟩
  next auto =>
  split at h
  next a chosen =>
    split at chosen
    next armed => exact absurd ⟨by simpa using auto, armed⟩ unarmed
    · cases chosen
  · cases h
    refine ⟨rfl, ?_⟩
    unfold LoopDecision.saysApplied at silent ⊢
    have quiet : d.applied = false := by
      rw [Bool.or_eq_false_iff] at silent
      exact silent.1
    show (d.applied || false) = false
    rw [quiet]
    rfl

/-- How an evaluation leaves the ledger and the log. -/
inductive Wrote (T : PyText) (c : LoopCase) (s : LoopState σ) (d : LoopDecision) (s' : LoopState (σ × List Bool)) : Prop
  | clean (sound : false ∉ s'.board.2) (said : d.saysApplied = true → true ∈ s'.board.2)
  | counted (said : d.saysApplied = true → s'.board.2 ≠ []) (r : LoopReceipt) (added : s'.receipts = s.receipts ++ [r])
      (counts : r.decision.counted = true) (graph : safeDurableRef T r.sourceGraphId = r.sourceGraphId)
      (blocker : shortText T r.blockerClass = r.blockerClass)
      (branch : ¬(supersedes c.event = false ∧ verdictOf T c.event = "GO"))
  | refused (reached : ReachesGo T c.policy c.event s.receipts) (failed : false ∈ s'.board.2) (silent : d.saysApplied = false)
      (r : LoopReceipt) (added : s'.receipts = s.receipts ++ [r]) (filed : Filed T c.event r)
      (uncounted : r.decision.counted = false) (round : r.roundNo = c.event.roundNo)
      (again : ∀ (receipts : LoopLedger) (a : LoopAdapter σ), ReachesGo T c.policy c.event receipts →
        ∃ d' s'', c.evaluate T a ⟨receipts, s'.promotions, s'.applied, s'.board.1⟩ = .ok (d', s'') ∧
          d'.reason = "go_terminal" ∧ s''.board.2 ≠ [])

variable {c : LoopCase} {a : LoopAdapter σ} {s : LoopState σ} {d : LoopDecision} {s' : LoopState (σ × List Bool)}

theorem goDecision_silent {given : Option LoopPolicy} {ev : LoopEvent} {clock : Int} :
    (goDecision T given ev clock).saysApplied = false := rfl

/-- A GO that is applied at the roadmap: the promotion, and the receipt of its answer. -/
theorem evaluate_armed (reached : ReachesGo T c.policy c.event s.receipts) (armed : Armed (coercePolicy c.policy).1) :
    c.evaluate T a s = (Roadmap.applyRoadmapPromotion T c.registry (some (roadmapPolicy (coercePolicy c.policy).1))
      (some a.logged.toGraphAdapter) (promotionEvent c.event (timeOf c.event c.clock))
      ⟨s.promotions.getD [], s.applied.getD [], (s.board, [])⟩).bind fun result =>
        .ok (record ⟨s.receipts, s.promotions.map fun _ => result.2.ledger, s.applied.map fun _ => result.2.applied,
          result.2.board⟩ (attached T (goDecision T c.policy c.event c.clock) result.1)) := by
  have allows : (coercePolicy c.policy).1.allowed (c.args a).adapter = some a.logged := if_pos armed.effective
  unfold LoopCase.evaluate
  rw [@evaluateLoopEvent_go T _ c.policy c.event (c.args a) s.logging reached, allows, attachRoadmapAutopromote_armed armed]
  unfold Except.bind
  dsimp only [LoopCase.args, LoopState.logging]
  cases Roadmap.applyRoadmapPromotion T c.registry (some (roadmapPolicy (coercePolicy c.policy).1))
    (some a.logged.toGraphAdapter) (promotionEvent c.event (timeOf c.event c.clock))
    ⟨s.promotions.getD [], s.applied.getD [], (s.board, [])⟩ <;> rfl

theorem attached_filed (plain : T.Plain) {ev : LoopEvent} {given : Option LoopPolicy} {clock : Int}
    {answer : Roadmap.ApplyAnswer} : Filed T ev (attached T (goDecision T given ev clock) answer).receipt :=
  Filed.safe plain ⟨(decision_filed plain).event, (decision_filed plain).graph⟩

theorem getD_map {α : Type} (x : Option (List α)) : (x.map fun _ => x.getD []).getD [] = x.getD [] := by
  cases x <;> rfl

/-- A GO leaves a log without a failure, or a receipt of a graph that was refused. -/
theorem wrote_go (plain : T.Plain) (reached : ReachesGo T c.policy c.event s.receipts)
    (h : c.evaluate T a s = .ok (d, s')) : Wrote T c s d s' := by
  by_cases armed : Armed (coercePolicy c.policy).1
  · rw [evaluate_armed reached armed] at h
    obtain ⟨course, runs⟩ := Roadmap.applyRoadmapPromotion_course (s.promotions.getD []) (s.applied.getD []) T c.registry
      (some (roadmapPolicy (coercePolicy c.policy).1)) (promotionEvent c.event (timeOf c.event c.clock))
    rw [runs] at h
    cases course with
    | settled answer quiet ledger =>
      cases h
      refine .clean (by simp) fun said => ?_
      have silent : (attached T (goDecision T c.policy c.event c.clock) answer).saysApplied = answer.isApplied := rfl
      have := said.symm.trans (silent.trans quiet)
      cases this
    | raised e => cases h
    | graph profile plan some failed quiet done receipt saved ledger =>
      obtain ⟨result, board', more, created, called, refused⟩ := createTasks_logged a profile plan [] [] s.board []
      unfold Roadmap.Course.run at h
      dsimp only at h
      rw [created] at h
      cases result with
      | ok tasks =>
        have sound : false ∉ more := by simp [refused]
        cases h
        refine .clean sound fun _ => ?_
        obtain ⟨first, rest, same⟩ := List.exists_cons_of_ne_nil (called some)
        show true ∈ more
        rw [same] at sound ⊢
        cases first with
        | true => exact List.mem_cons_self
        | false => exact absurd List.mem_cons_self sound
      | error failure =>
        cases h
        refine .refused reached (refused.mpr ⟨failure, rfl⟩) (quiet failure) _ rfl (attached_filed plain) rfl rfl ?_
        intro receipts a' reached'
        obtain ⟨result', board'', more', created', called', -⟩ := createTasks_logged a' profile plan [] [] board' []
        have same := @evaluate_armed T σ c a' ⟨receipts, s.promotions.map fun _ => s.promotions.getD [],
          s.applied.map fun _ => s.applied.getD [], board'⟩ reached' armed
        rw [getD_map, getD_map, runs] at same
        unfold Roadmap.Course.run at same
        dsimp only at same
        rw [created'] at same
        cases result' with
        | ok tasks => exact ⟨_, _, same, rfl, called' some⟩
        | error failure' => exact ⟨_, _, same, rfl, called' some⟩
  · unfold LoopCase.evaluate at h
    rw [@evaluateLoopEvent_go T _ c.policy c.event (c.args a) s.logging reached] at h
    obtain ⟨⟨d₁, s₁⟩, attached, done⟩ := bind_ok' h
    obtain ⟨board, silent⟩ := attachRoadmapAutopromote_unarmed goDecision_silent armed attached
    cases done
    refine .clean ?_ fun said => ?_
    · show false ∉ s₁.board.2
      rw [board]
      simp [LoopState.logging]
    · have := said.symm.trans silent
      cases this

theorem decision_said {ev : LoopEvent} {action : LoopAction} {reason : String} {p : LoopPolicy} {now : Int}
    {details : Details} (said : (decision T ev action reason p now details).saysApplied = true) :
    0 < details.adapterAttempts := by
  unfold LoopDecision.saysApplied decision at said
  simp only [Option.any_none, Bool.or_false, Bool.and_eq_true, decide_eq_true_eq] at said
  exact said.2

theorem boundedRound_quiet {ev : LoopEvent} {p : LoopPolicy} {now : Int} {blocker : String} {e : LoopAction × String × Details}
    {ledger : LoopLedger} (h : boundedRound T ev p now blocker ledger = .error e) : e.2.2.adapterAttempts = 0 := by
  unfold boundedRound at h
  dsimp only at h
  repeat' split at h
  all_goals
    cases h
    try rfl

/-- A decision without attempts, on a board that was not written to. -/
theorem Wrote.quiet {ev : LoopEvent} {action : LoopAction} {reason : String} {p : LoopPolicy} {now : Int}
    {details : Details} (none : details.adapterAttempts = 0) {after : LoopState (σ × List Bool)} (log : after.board.2 = []) :
    Wrote T c s (decision T ev action reason p now details) after := by
  refine .clean (by simp [log]) fun said => ?_
  have := decision_said said
  omega

/-- A receipt counts under names that are looked up as they are. -/
theorem Wrote.remediated (plain : T.Plain) {action : LoopAction} {reason : String} {p : LoopPolicy} {now : Int}
    {details : Details} {after : LoopState (σ × List Bool)} (attempts : details.adapterAttempts = after.board.2.length)
    (counts : action.counted = true) (branch : ¬(supersedes c.event = false ∧ verdictOf T c.event = "GO"))
    (blocker : shortText T (safeJobField T "blocker_class" (shortText T details.blocker)) =
      safeJobField T "blocker_class" (shortText T details.blocker))
    (added : after.receipts = s.receipts ++ [(decision T c.event action reason p now details).receipt]) :
    Wrote T c s (decision T c.event action reason p now details) after := by
  refine .counted (fun said empty => ?_) _ added counts ?_ blocker branch
  · have := decision_said said
    rw [attempts, empty] at this
    exact absurd this (by decide)
  · have filed := @decision_filed T p c.event now plain action reason details
    rw [filed.graph]
    exact safeGraph_reference.durable plain

theorem shortText_jobField (plain : T.Plain) (raw : String) :
    shortText T (safeJobField T "blocker_class" (shortText T (shortText T raw))) =
      safeJobField T "blocker_class" (shortText T (shortText T raw)) := by
  have short : (shortText T raw).toList.length ≤ 240 := shortText_length
  unfold safeJobField
  dsimp only
  rw [shortText_shortText short (by decide)]
  split
  next empty => exact shortText_plain (by simp) (by simp)
  split
  · exact shortText_plain (fun ch mem => plain ch (List.all_eq_true.mp (by decide : "blocker_class:redacted".toList.all refChar = true) ch mem))
      (by decide)
  · exact shortText_shortText short (Nat.le_refl _)

theorem stale_jobField (plain : T.Plain) :
    shortText T (safeJobField T "blocker_class" (shortText T "stale_final_fanin")) =
      safeJobField T "blocker_class" (shortText T "stale_final_fanin") := by
  have reference : Reference T "stale_final_fanin" := ⟨clean_of_words (by decide) (by decide), .inr (by decide)⟩
  rw [reference.shortText plain (Nat.le_refl _), reference.jobField plain, reference.shortText plain (Nat.le_refl _)]

theorem allowed_logged {p : LoopPolicy} : p.allowed (c.args a).adapter = (p.allowed (some a)).map LoopAdapter.logged := by
  unfold LoopPolicy.allowed
  split <;> rfl

theorem wrote_supersession (plain : T.Plain) {p : LoopPolicy} {now : Int} {allowed : Option (LoopAdapter σ)}
    (branch : supersedes c.event = true)
    (h : evaluateSupersession T c.event p now (allowed.map LoopAdapter.logged) s.logging = (d, s')) : Wrote T c s d s' := by
  obtain ⟨receipts, promotions, applied, board⟩ := s
  change evaluateSupersession T c.event p now (allowed.map LoopAdapter.logged) ⟨receipts, promotions, applied, (board, [])⟩ =
    (d, s') at h
  unfold evaluateSupersession at h
  dsimp only at h
  split at h
  · cases h
    exact .quiet rfl rfl
  generalize (if c.event.oldFinalCard = [] then _ else c.event.oldFinalCard) = oldFinal at h
  generalize (if c.event.remediationReviewCard = [] then _ else c.event.remediationReviewCard) = review at h
  by_cases known : receipts.hasIdempotencyKey T (finalSupersessionKey T c.event) = true
  · rw [if_pos known] at h
    cases h
    exact .quiet rfl rfl
  rw [if_neg known] at h
  obtain ⟨attempts, failed⟩ := @resolveStaleFinalCandidate_logged σ T allowed oldFinal review c.event.origin
    c.event.returnTo (graphPolicy p "stale_final_fanin") board
  revert h attempts failed
  generalize resolveStaleFinalCandidate T oldFinal review c.event.origin c.event.returnTo _ _ _ = result
  intro h attempts failed
  obtain ⟨result, board', log⟩ := result
  dsimp only at h attempts failed
  by_cases success : result.success = true
  · rw [if_neg (by simp [success])] at h
    cases h
    exact .remediated plain attempts rfl (by simp [branch]) (stale_jobField plain) rfl
  · have refused : result.success = false := by simpa using success
    rw [if_pos (by simp [refused])] at h
    cases h
    exact .quiet rfl (failed refused)

theorem wrote_block (plain : T.Plain) {p : LoopPolicy} {now : Int} {allowed : Option (LoopAdapter σ)}
    (branch : verdictOf T c.event ≠ "GO")
    (h : evaluateBlock T c.event p now (blockerOf T c.event) (c.args a) (allowed.map LoopAdapter.logged) s.logging = (d, s')) :
    Wrote T c s d s' := by
  unfold evaluateBlock at h
  split at h
  next action reason details stopped =>
    cases h
    exact .quiet (boundedRound_quiet stopped) rfl
  next ledgerMaxRound effectiveRound bounded =>
    dsimp only at h
    cases h
    refine .remediated plain (proposeRemediationGraph_logged _ s.board) ?_ (by simp [branch]) (shortText_jobField plain _) rfl
    cases p.applyEffectivelyEnabled <;> rfl

/-- Each evaluation that does not raise leaves a clean log, a receipt that counts, or one of a refused graph. -/
theorem evaluate_wrote (plain : T.Plain) (h : c.evaluate T a s = .ok (d, s')) : Wrote T c s d s' := by
  have whole := h
  unfold LoopCase.evaluate evaluateLoopEvent at h
  dsimp only at h
  split at h
  · cases h
    exact .quiet rfl rfl
  next unknown =>
  split at h
  · cases h
    exact .quiet rfl rfl
  next sound =>
  split at h
  · cases h
    exact .quiet rfl rfl
  next alive =>
  split at h
  · cases h
    exact .quiet rfl rfl
  next active =>
  split at h
  · cases h
    exact .quiet rfl rfl
  next origin =>
  split at h
  next branch =>
    rw [show (if (coercePolicy c.policy).1.applyEffectivelyEnabled = true then (c.args a).adapter else none) = _ from
      allowed_logged] at h
    exact wrote_supersession plain branch (Except.ok.inj h)
  next direct =>
  split at h
  next go =>
    refine wrote_go plain ⟨?_, ?_, ?_, active, ?_, ?_, go⟩ whole
    · simpa [LoopState.logging] using unknown
    · simpa using sound
    · simpa using alive
    · simpa using origin
    · simpa using direct
  next other =>
  split at h
  · cases h
    exact .quiet rfl rfl
  split at h
  · cases h
    exact .quiet rfl rfl
  · rw [show (if (coercePolicy c.policy).1.applyEffectivelyEnabled = true then (c.args a).adapter else none) = _ from
      allowed_logged] at h
    exact wrote_block plain other (Except.ok.inj h)

end

end AgentflowHermes.Loop
