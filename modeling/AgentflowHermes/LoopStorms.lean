import AgentflowHermes.LiveSanitize
import AgentflowHermes.LoopSupervisor
import Mathlib.Data.List.Induction

namespace AgentflowHermes.Loop

/-- One event of a run, and what its evaluation is handed. -/
structure LoopCall (σ : Type) where
  event : LoopEvent
  args : LoopArgs σ := {}

/-- An event with the decision about it. -/
structure Evaluated where
  event : LoopEvent
  now : Int
  decision : LoopDecision

/-- Whether an event got a decision of its own. -/
def Evaluated.decided (x : Evaluated) : Bool := x.decision.reason ≠ "duplicate_event"

/-- Whether a graph was to be remediated. -/
def Evaluated.remediates (x : Evaluated) : Bool := x.decision.reason = "bounded_remediation"

section

variable (T : PyText) {σ : Type} (policy : LoopPolicy)

/-- The decision of a call if it does not raise, and the ledgers after it. -/
def LoopCall.run (c : LoopCall σ) (s : LoopState σ) : Option Evaluated × LoopState σ :=
  match evaluateLoopEvent T (some policy) c.args c.event s with
  | .error _ => (none, s)
  | .ok (decision, s') => (some { event := c.event, now := timeOf c.event c.args.clock, decision }, s')

/-- The decisions of a run. -/
def evaluations (s : LoopState σ) : List (LoopCall σ) → List Evaluated
  | [] => []
  | c :: rest => (c.run T policy s).1.toList ++ evaluations (c.run T policy s).2 rest

def stateAfter (s : LoopState σ) (calls : List (LoopCall σ)) : LoopState σ :=
  calls.foldl (fun s c => (c.run T policy s).2) s

/-- The blocker of an event, as the policy is asked for it. -/
def blockerOf (ev : LoopEvent) : String :=
  shortText T (orText ev.blockerClass ((parseVerdictSummary T ev.summary).blockers.headD ""))

/-- The receipt of an event goes under the names it is looked up by, with a round that is not negative. -/
structure Recorded (ev : LoopEvent) : Prop where
  event : safeDurableRef T ev.eventId ≠ ""
  graph : safeDurableRef T ev.sourceGraphId ≠ ""
  round : 0 ≤ ev.roundNo
  blocker : policy.allowlistedBlockers.contains (blockerOf T ev) = true →
    safeJobField T "blocker_class" (shortText T (blockerOf T ev)) = shortText T (blockerOf T ev)

end

/-- The remediations of a graph. -/
def remediationsOf (run : List Evaluated) (graph : String) : List Evaluated :=
  run.filter fun x => x.remediates && x.event.sourceGraphId = graph

/-- The remediations of a graph for a blocker. -/
def remediationsFor (run : List Evaluated) (graph blocker : String) : List Evaluated :=
  (remediationsOf run graph).filter fun x => x.decision.blockerClass = blocker

/-- The decisions of their own that an event id got. -/
def decisionsOn (run : List Evaluated) (eventId : String) : List Evaluated :=
  run.filter fun x => x.decided && x.event.eventId = eventId

/-- What is claimed of the decisions of a run. -/
structure StormBounds (policy : LoopPolicy) (run : List Evaluated) : Prop where
  rounds : ∀ g, ((remediationsOf run g).length : Int) ≤ policy.maxRounds
  blockers : ∀ g b, ((remediationsFor run g b).length : Int) ≤ policy.maxSameBlocker
  cooled : ∀ g b, (remediationsFor run g b).Pairwise fun x y => policy.cooldownSeconds * 1000000 ≤ y.now - x.now
  once : ∀ id, (decisionsOn run id).length ≤ 1

section

variable {T : PyText} {σ : Type} {policy : LoopPolicy} {ev : LoopEvent} {now : Int}

theorem safeEvent_reference : Reference T (safeEvent T ev) := by
  unfold safeEvent orText
  split
  · exact missingEventId_reference
  · exact safeDurableRef_reference _

theorem safeGraph_reference : Reference T (safeGraph T ev) := by
  unfold safeGraph orText
  split
  · exact ⟨(harmless_of_words (by decide) (by decide)).clean, .inr (by decide)⟩
  · exact safeDurableRef_reference _

/-- A receipt that goes under the names of its event. -/
structure Filed (T : PyText) (ev : LoopEvent) (r : LoopReceipt) : Prop where
  event : r.eventId = safeEvent T ev
  graph : r.sourceGraphId = safeGraph T ev

theorem Filed.safe (plain : T.Plain) {r : LoopReceipt} (h : Filed T ev r) : Filed T ev (r.safe T) where
  event := by
    show safeJobField T "event_id" r.eventId = _
    rw [h.event]
    exact safeEvent_reference.jobField plain _
  graph := by
    show safeJobField T "source_graph_id" r.sourceGraphId = _
    rw [h.graph]
    exact safeGraph_reference.jobField plain _

theorem decision_filed (plain : T.Plain) {action : LoopAction} {reason : String} {d : Details} :
    Filed T ev (decision T ev action reason policy now d).receipt :=
  Filed.safe plain ⟨rfl, rfl⟩

/-- How an evaluation leaves the loop ledger. -/
inductive LoopStep (T : PyText) (policy : LoopPolicy) (ev : LoopEvent) (now : Int) (ledger : LoopLedger)
    (d : LoopDecision) (ledger' : LoopLedger) : Prop
  | duplicate (known : ledger.hasEvent T ev.eventId = true) (same : ledger' = ledger) (reason : d.reason = "duplicate_event")
  | decided (new : ledger.hasEvent T ev.eventId = false) (r : LoopReceipt) (added : ledger' = ledger ++ [r])
      (filed : Filed T ev r) (round : r.roundNo = ev.roundNo) (reason : d.reason ≠ "bounded_remediation")
  | remediated (new : ledger.hasEvent T ev.eventId = false) (r : LoopReceipt) (added : ledger' = ledger ++ [r])
      (filed : Filed T ev r) (reason : d.reason = "bounded_remediation") (blocker : d.blockerClass = shortText T (blockerOf T ev))
      (stored : r.blockerClass = safeJobField T "blocker_class" d.blockerClass) (counted : r.decision.counted = true)
      (time : r.createdAt = now) (rounds : Int × Int)
      (bounded : boundedRound T ev policy now (blockerOf T ev) ledger = .ok rounds) (round : r.roundNo = rounds.2 + 1)

variable {s s' : LoopState σ} {d : LoopDecision}

theorem decided_step (plain : T.Plain) (new : s.receipts.hasEvent T ev.eventId = false) {action : LoopAction}
    {reason : String} {details : Details} (round : details.receiptRoundNo = none) (other : reason ≠ "bounded_remediation") :
    LoopStep T policy ev now s.receipts (record s (decision T ev action reason policy now details)).1
      (record s (decision T ev action reason policy now details)).2.receipts := by
  refine .decided new _ rfl (decision_filed plain) ?_ other
  show details.receiptRoundNo.getD ev.roundNo = ev.roundNo
  rw [round]
  rfl

theorem resolve_error {oldFinal review : List (String × Json)} {origin returnTo : String} {p : GraphPolicy}
    {adapter : Option (LoopAdapter σ)} {board : σ}
    (failed : (resolveStaleFinalCandidate T oldFinal review origin returnTo p adapter board).1.success = false) :
    (resolveStaleFinalCandidate T oldFinal review origin returnTo p adapter board).1.error ∈
      ["old_final_not_done_or_blocked", "remediation_review_no_go_verdict"] := by
  unfold resolveStaleFinalCandidate at failed ⊢
  dsimp only at failed ⊢
  split
  · exact List.mem_cons_self
  next done =>
    rw [if_neg done] at failed
    split
    · exact List.mem_cons_of_mem _ List.mem_cons_self
    next go =>
      rw [if_neg go] at failed
      cases adapter with
      | none => cases failed
      | some adapter =>
        dsimp only at failed
        split at failed <;> cases failed

theorem supersessionRefusal_reason {reason : String} (h : supersessionRefusal T ev policy = some reason) :
    reason ≠ "bounded_remediation" := by
  unfold supersessionRefusal at h
  repeat' split at h
  all_goals
    cases h
    try decide

theorem evaluateSupersession_step (plain : T.Plain) {adapter : Option (LoopAdapter σ)}
    (new : s.receipts.hasEvent T ev.eventId = false) :
    LoopStep T policy ev now s.receipts (evaluateSupersession T ev policy now adapter s).1
      (evaluateSupersession T ev policy now adapter s).2.receipts := by
  unfold evaluateSupersession
  dsimp only
  split
  next reason refused => exact decided_step plain new rfl (supersessionRefusal_reason refused)
  generalize (if ev.oldFinalCard = [] then _ else ev.oldFinalCard) = oldFinal
  generalize (if ev.remediationReviewCard = [] then _ else ev.remediationReviewCard) = review
  split
  · exact decided_step plain new rfl (by decide)
  split
  next failed =>
    have error := resolve_error (by simpa using failed)
    refine @decided_step T σ policy ev now { s with board := _ } plain new _ _ _ rfl ?_
    rcases List.mem_cons.mp error with same | later
    · rw [same]
      decide
    · rw [List.mem_singleton.mp later]
      decide
  · exact @decided_step T σ policy ev now { s with board := _ } plain new _ _ _ rfl (by decide)

theorem attachRoadmapAutopromote_ok (plain : T.Plain) {args : LoopArgs σ} {adapter : Option (LoopAdapter σ)}
    {d' : LoopDecision} (filed : Filed T ev d.receipt)
    (h : attachRoadmapAutopromote T d ev policy now args adapter s = .ok (d', s')) :
    Filed T ev d'.receipt ∧ d'.receipt.roundNo = d.receipt.roundNo ∧ d'.reason = d.reason ∧ s'.receipts = s.receipts := by
  have attached (outcome : RoadmapOutcome) : Filed T ev (LoopReceipt.safe T
      { d.receipt with payload := { d.receipt.payload with roadmap := some outcome } }) :=
    Filed.safe plain ⟨filed.event, filed.graph⟩
  unfold attachRoadmapAutopromote at h
  dsimp only at h
  split at h
  · cases h
    exact ⟨filed, rfl, rfl, rfl⟩
  split at h
  · obtain ⟨⟨answer, after⟩, applied, h⟩ := bind_ok' h
    cases h
    exact ⟨attached _, rfl, rfl, rfl⟩
  · cases h
    exact ⟨attached _, rfl, rfl, rfl⟩

theorem boundedRound_error {blocker : String} {e : LoopAction × String × Details} {ledger : LoopLedger}
    (h : boundedRound T ev policy now blocker ledger = .error e) :
    e.2.1 ≠ "bounded_remediation" ∧ e.2.2.receiptRoundNo = none := by
  unfold boundedRound at h
  dsimp only at h
  repeat' split at h
  all_goals
    cases h
    try exact ⟨of_decide_eq_true rfl, rfl⟩

theorem evaluateBlock_step (plain : T.Plain) {args : LoopArgs σ} {adapter : Option (LoopAdapter σ)}
    (new : s.receipts.hasEvent T ev.eventId = false) :
    LoopStep T policy ev now s.receipts (evaluateBlock T ev policy now (blockerOf T ev) args adapter s).1
      (evaluateBlock T ev policy now (blockerOf T ev) args adapter s).2.receipts := by
  unfold evaluateBlock
  split
  next action reason details stopped =>
    obtain ⟨other, round⟩ := boundedRound_error stopped
    exact decided_step plain new round other
  next ledgerMaxRound effectiveRound bounded =>
    dsimp only
    refine .remediated new _ rfl (decision_filed plain) rfl rfl rfl ?_ rfl _ bounded rfl
    cases policy.applyEffectivelyEnabled <;> rfl

/-- An evaluation repeats a decision, makes one of its own, or remediates within the bounds. -/
theorem evaluateLoopEvent_step (plain : T.Plain) (wellFormed : policy.malformed = false) {args : LoopArgs σ}
    (h : evaluateLoopEvent T (some policy) args ev s = .ok (d, s')) :
    LoopStep T policy ev (timeOf ev args.clock) s.receipts d s'.receipts := by
  have coerced : coercePolicy (some policy) = (policy, false) := by
    show (if policy.malformed = true then _ else _) = _
    rw [wellFormed]
    rfl
  unfold evaluateLoopEvent at h
  rw [coerced] at h
  dsimp only at h
  split at h
  next known =>
    cases h
    exact .duplicate known rfl rfl
  next unknown =>
  have new : s.receipts.hasEvent T ev.eventId = false := by simpa using unknown
  rw [if_neg (by decide)] at h
  split at h
  · cases h
    exact decided_step plain new rfl (by decide)
  split at h
  · cases h
    exact decided_step plain new rfl (by decide)
  split at h
  · cases h
    exact decided_step plain new rfl (by decide)
  split at h
  · have step := @evaluateSupersession_step T σ policy ev (timeOf ev args.clock) s plain
      (if policy.applyEffectivelyEnabled then args.adapter else none) new
    rw [Except.ok.inj h] at step
    exact step
  split at h
  · obtain ⟨⟨d', after⟩, attached, h⟩ := bind_ok' h
    cases h
    obtain ⟨filed, round, reason, receipts⟩ := attachRoadmapAutopromote_ok plain (decision_filed plain) attached
    refine .decided new d'.receipt ?_ filed round ?_
    · show after.receipts ++ [d'.receipt] = _
      rw [receipts]
    · rw [reason]
      show "go_terminal" ≠ "bounded_remediation"
      decide
  split at h
  · cases h
    exact decided_step plain new rfl (by decide)
  split at h
  · cases h
    exact decided_step plain new rfl (by decide)
  · have step := @evaluateBlock_step T σ policy ev (timeOf ev args.clock) s plain args
      (if policy.applyEffectivelyEnabled then args.adapter else none) new
    rw [show evaluateBlock T ev policy _ (blockerOf T ev) args _ s = (d, s') from Except.ok.inj h] at step
    exact step

end

end AgentflowHermes.Loop
