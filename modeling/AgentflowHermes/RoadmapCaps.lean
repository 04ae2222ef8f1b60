import AgentflowHermes.RoadmapJudgement

namespace AgentflowHermes.Roadmap

/-- A call on a promotion ledger. An apply brings its own adapter, apply ledger and board. -/
inductive Call (σ : Type)
  | propose (ev : PromotionEvent)
  | apply (ev : PromotionEvent) (adapter : Option (GraphAdapter σ)) (applied : ApplyLedger) (board : σ)

def Call.event {σ : Type} : Call σ → PromotionEvent
  | propose ev => ev
  | apply ev .. => ev

/-- Whether an apply promoted its event: the graph was applied, or the proposal stands where apply is not armed. -/
def ApplyAnswer.promoted : ApplyAnswer → Bool
  | applied .. => true
  | proposalOnly p _ reason => p.decision = .propose && reason == "apply_disabled"
  | _ => false

/-- An event that was promoted, and what it was promoted to. -/
structure Accepted (T : PyText) where
  event : PromotionEvent
  promotion : Promotion T

namespace Accepted

variable {T : PyText}

def roadmapId (a : Accepted T) : String := a.promotion.transition.roadmapId

def depth (a : Accepted T) : Int := a.promotion.depth

def time (a : Accepted T) : Int := a.event.occurredAt

/-- The receipt as the ledger has it. -/
def stored (registry : Option Registry) (a : Accepted T) : PromotionReceipt :=
  (a.promotion.receipt T registry a.event).safe T

end Accepted

/-- Whether an apply promoted its event, and the ledger after it; an exception leaves it. -/
def applyEffect {σ : Type} (ledger : PromotionLedger) : Except String (ApplyAnswer × ApplyState σ) → Bool × PromotionLedger
  | .error _ => (false, ledger)
  | .ok (answer, s) => (answer.promoted, s.ledger)

section

variable (T : PyText) {σ : Type} (registry : Option Registry) (policy : Option Policy)

/-- Whether a call promoted its event, and the ledger after it. -/
def Call.run (ledger : PromotionLedger) : Call σ → Bool × PromotionLedger
  | propose ev =>
    let r := proposeRoadmapPromotion T registry ledger policy ev
    (r.1.decision = .propose, r.2)
  | apply ev adapter applied board =>
    applyEffect ledger (applyRoadmapPromotion T registry policy adapter ev ⟨ledger, applied, board⟩)

def Call.accepted (ledger : PromotionLedger) (c : Call σ) : List (Accepted T) :=
  if (c.run T registry policy ledger).1 then
    match judge T registry ledger policy c.event with
    | .ok p => [⟨c.event, p⟩]
    | .error _ => []
  else []

/-- The promotions of a sequence of calls, and the ledger after them. -/
def runCalls (ledger : PromotionLedger) : List (Call σ) → List (Accepted T) × PromotionLedger
  | [] => ([], ledger)
  | c :: rest =>
    let later := runCalls (c.run T registry policy ledger).2 rest
    (c.accepted T registry policy ledger ++ later.1, later.2)

end

/-- The caps of one roadmap over the promotions of a run. -/
structure CapsHold {T : PyText} (policy : Policy) (roadmapId : String) (accepted : List (Accepted T)) : Prop where
  count : (accepted.filter fun a => a.roadmapId = roadmapId).length ≤ policy.maxPromotionsPerRoadmap.toNat
  spaced : accepted.Pairwise fun a b => a.roadmapId = roadmapId → b.roadmapId = roadmapId →
    a.time + cooldownMicros policy ≤ b.time
  deeper : accepted.Pairwise fun a b => a.roadmapId = roadmapId → b.roadmapId = roadmapId → a.depth < b.depth
  shallow : ∀ a ∈ accepted, a.roadmapId = roadmapId →
    a.depth ≤ min policy.maxChainDepth a.promotion.transition.maxChainDepth
  once : accepted.Pairwise fun a b => a.event.eventId ≠ b.event.eventId

section

variable {T : PyText} {σ : Type} {registry : Option Registry} {policy : Option Policy} {ledger : PromotionLedger}

/-- A call promotes nothing and only adds to the ledger, or it promotes its event, which the ledger had no
receipt of, by the rules of the gates and the caps. -/
theorem call_accepted (plain : T.Plain) (c : Call σ) :
    (c.accepted T registry policy ledger = [] ∧ ledger <+: (c.run T registry policy ledger).2) ∨
    ∃ p, c.accepted T registry policy ledger = [⟨c.event, p⟩] ∧
      ledger.hasEvent T (safeEvent T c.event.eventId) = false ∧
      judge T registry ledger policy c.event = .ok p ∧
      (c.run T registry policy ledger).2 = ledger.record T (p.receipt T registry c.event) := by
  have refused : (c.run T registry policy ledger).1 = false → c.accepted T registry policy ledger = [] := by
    intro h
    unfold Call.accepted
    rw [h]
    rfl
  have promoted : ∀ p, (c.run T registry policy ledger).1 = true → judge T registry ledger policy c.event = .ok p →
      c.accepted T registry policy ledger = [⟨c.event, p⟩] := by
    intro p h judged
    unfold Call.accepted
    rw [if_pos h, judged]
  cases c with
  | propose ev =>
    have way := proposed T registry ledger policy ev
    by_cases fresh : (proposeRoadmapPromotion T registry ledger policy ev).1.decision = .propose
    · obtain ⟨p, judged, new, eq⟩ := way.promotion fresh
      exact .inr ⟨p, promoted p (by simp [Call.run, fresh]) judged, new, judged, congrArg Prod.snd eq⟩
    · exact .inl ⟨refused (by simp [Call.run, fresh]), way.grows⟩
  | apply ev adapter held board =>
    have way := applied plain registry policy adapter ev ⟨ledger, held, board⟩
    generalize hr : applyRoadmapPromotion T registry policy adapter ev ⟨ledger, held, board⟩ = r at way
    have run : Call.run T registry policy ledger (.apply ev adapter held board) = applyEffect ledger r := by
      rw [← hr]
      rfl
    rw [run] at refused promoted ⊢
    cases way with
    | duplicate r graph proposal keyed known => exact .inl ⟨refused rfl, List.prefix_refl _⟩
    | declined r proposal unpromoted =>
      refine .inl ⟨refused (by simp [applyEffect, ApplyAnswer.promoted]), ?_⟩
      have grows := (proposed T registry ledger policy ev).grows
      rwa [proposal] at grows
    | disabled p new judged unarmed => exact .inr ⟨p, promoted p rfl judged, new, judged, rfl⟩
    | stopped p reason judged other bare =>
      exact .inl ⟨refused (by simp [applyEffect, ApplyAnswer.promoted, other]), List.prefix_refl _⟩
    | raised p e judged bare => exact .inl ⟨refused rfl, List.prefix_refl _⟩
    | failed p g failure later judged missing created => exact .inl ⟨refused rfl, List.prefix_refl _⟩
    | applied p g tasks later new judged armed missing created =>
      exact .inr ⟨p, promoted p rfl judged, new, judged, rfl⟩

/-- What is stored of a promotion, for one whose roadmap is looked up as it is stored. -/
theorem stored_promotions (plain : T.Plain) {a : Accepted T} {l : PromotionLedger}
    (same : safeDurableRef T a.roadmapId = safeJobField T "roadmap_id" a.roadmapId) (mem : a.stored registry ∈ l) :
    a.stored registry ∈ l.promotions T a.roadmapId := by
  have kept : safeJobField T "roadmap_id" (safeJobField T "roadmap_id" a.roadmapId) = safeDurableRef T a.roadmapId := by
    rw [← same]
    exact (safeDurableRef_reference a.roadmapId).jobField plain _
  have found : (a.stored registry).roadmapId = safeDurableRef T a.roadmapId := kept
  unfold PromotionLedger.promotions PromotionLedger.ofRoadmap
  simp only [List.mem_filter, beq_iff_eq, decide_eq_true_eq]
  exact ⟨⟨mem, found⟩, rfl⟩

theorem stored_event (plain : T.Plain) (a : Accepted T) : (a.stored registry).eventId = safeEvent T a.event.eventId := by
  have event := safeEvent_reference (T := T) a.event.eventId
  show safeJobField T "event_id" (safeJobField T "event_id" (safeEvent T a.event.eventId)) = safeEvent T a.event.eventId
  rw [event.jobField plain, event.jobField plain]

theorem hasEvent_false (plain : T.Plain) {l : PromotionLedger} {eventId : String}
    (new : l.hasEvent T (safeEvent T eventId) = false) : ∀ r ∈ l, r.eventId ≠ safeEvent T eventId := by
  unfold PromotionLedger.hasEvent at new
  rw [(safeEvent_reference eventId).durable plain] at new
  intro r hr same
  have absent := List.any_eq_false.mp new r hr
  exact absent (by simpa using same)

/-- Of a roadmap that is looked up as it is stored, the ledger knows every promotion and when and how deep it was. -/
theorem lastPromotionTime_le {l : PromotionLedger} {roadmapId : String} {r : PromotionReceipt}
    (mem : r ∈ l.promotions T roadmapId) : ∃ last, l.lastPromotionTime T roadmapId = some last ∧ r.createdAt ≤ last := by
  have inside : r.createdAt ∈ (l.promotions T roadmapId).map (·.createdAt) := List.mem_map_of_mem mem
  cases hl : l.lastPromotionTime T roadmapId with
  | none => rw [List.max?_eq_none_iff.mp hl] at inside; cases inside
  | some last => exact ⟨last, rfl, (List.max?_eq_some_iff.mp hl).2 _ inside⟩

theorem currentChainDepth_le {l : PromotionLedger} {roadmapId : String} {r : PromotionReceipt}
    (mem : r ∈ l.ofRoadmap T roadmapId) : r.chainDepth ≤ l.currentChainDepth T roadmapId := by
  have inside : r.chainDepth ∈ (l.ofRoadmap T roadmapId).map (·.chainDepth) := List.mem_map_of_mem mem
  unfold PromotionLedger.currentChainDepth
  cases hl : ((l.ofRoadmap T roadmapId).map (·.chainDepth)).max? with
  | none => rw [List.max?_eq_none_iff.mp hl] at inside; cases inside
  | some depth => exact (List.max?_eq_some_iff.mp hl).2 _ inside

end

/-- The promotions so far keep the caps of a roadmap, and the ledger has a receipt of each. -/
structure Kept {T : PyText} (registry : Option Registry) (policy : Policy) (roadmapId : String)
    (accepted : List (Accepted T)) (ledger : PromotionLedger) : Prop where
  caps : CapsHold policy roadmapId accepted
  stored : (accepted.map (Accepted.stored registry)).Sublist ledger

section

variable {T : PyText} {σ : Type} {registry : Option Registry} {policy : Policy} {ledger : PromotionLedger}
  {roadmapId : String} {accepted : List (Accepted T)}

theorem pairwise_concat {α : Type} {R : α → α → Prop} {l : List α} {b : α} (h : l.Pairwise R) (hb : ∀ a ∈ l, R a b) :
    (l ++ [b]).Pairwise R :=
  List.pairwise_append.mpr ⟨h, List.pairwise_singleton R b, fun a ha b' hb' => by
    obtain rfl := List.mem_singleton.mp hb'
    exact hb a ha⟩

/-- The ledger counts at least the promotions of the run. -/
theorem Kept.counted (plain : T.Plain) (h : Kept registry policy roadmapId accepted ledger)
    (same : safeDurableRef T roadmapId = safeJobField T "roadmap_id" roadmapId) :
    (accepted.filter fun a => a.roadmapId = roadmapId).length ≤ ledger.countPromotions T roadmapId := by
  have mine : ((accepted.filter fun a => a.roadmapId = roadmapId).map (Accepted.stored registry)).Sublist ledger :=
    (List.filter_sublist.map _).trans h.stored
  have length : ((accepted.filter fun a => a.roadmapId = roadmapId).map (Accepted.stored registry)).length =
    (accepted.filter fun a => a.roadmapId = roadmapId).length := List.length_map _
  have all : ∀ r ∈ (accepted.filter fun a => a.roadmapId = roadmapId).map (Accepted.stored registry),
      r.roadmapId = safeDurableRef T roadmapId ∧ r.decision = .propose := by
    intro r hr
    obtain ⟨a, ha, rfl⟩ := List.mem_map.mp hr
    obtain rfl : a.roadmapId = roadmapId := by simpa using (List.mem_filter.mp ha).2
    have promoted : a.stored registry ∈ PromotionLedger.promotions T [a.stored registry] a.roadmapId :=
      stored_promotions plain same (List.mem_singleton_self _)
    unfold PromotionLedger.promotions PromotionLedger.ofRoadmap at promoted
    simp only [List.mem_filter, beq_iff_eq, decide_eq_true_eq] at promoted
    exact ⟨promoted.1.2, promoted.2⟩
  generalize (accepted.filter fun a => a.roadmapId = roadmapId).map (Accepted.stored registry) = stored at mine length all
  have found := (mine.filter fun r => r.roadmapId == safeDurableRef T roadmapId).filter fun r => r.decision = .propose
  have ofRoadmap : (stored.filter fun r => r.roadmapId == safeDurableRef T roadmapId) = stored :=
    List.filter_eq_self.mpr fun r hr => by simpa using (all r hr).1
  have proposals : (stored.filter fun r => r.decision = .propose) = stored :=
    List.filter_eq_self.mpr fun r hr => by simpa using (all r hr).2
  rw [ofRoadmap, proposals] at found
  rw [← length]
  exact found.length_le

/-- One more promotion within the caps keeps them. -/
theorem Kept.accept (plain : T.Plain) (h : Kept registry policy roadmapId accepted ledger)
    (same : safeDurableRef T roadmapId = safeJobField T "roadmap_id" roadmapId) {ev : PromotionEvent} {p : Promotion T}
    (new : ledger.hasEvent T (safeEvent T ev.eventId) = false) (caps : WithinCaps policy ledger ev p) :
    Kept registry policy roadmapId (accepted ++ [⟨ev, p⟩]) (ledger.record T (p.receipt T registry ev)) := by
  have member : ∀ a ∈ accepted, a.stored registry ∈ ledger := fun a ha => h.stored.subset (List.mem_map_of_mem ha)
  have promoted : ∀ a ∈ accepted, a.roadmapId = roadmapId → a.stored registry ∈ ledger.promotions T roadmapId := by
    rintro a ha rfl
    exact stored_promotions plain same (member a ha)
  have mine : p.transition.roadmapId = roadmapId →
      ∀ a ∈ accepted, a.roadmapId = roadmapId → a.time + cooldownMicros policy ≤ ev.occurredAt ∧ a.depth < p.depth := by
    rintro rfl a ha ours
    have stored := promoted a ha ours
    obtain ⟨last, hlast, late⟩ := lastPromotionTime_le stored
    have cooled := caps.cooled last hlast
    have deep := currentChainDepth_le (List.mem_of_mem_filter stored)
    have depth := caps.depth
    have time : a.time ≤ last := late
    have above : a.depth ≤ ledger.currentChainDepth T p.transition.roadmapId := deep
    omega
  refine ⟨⟨?_, ?_, ?_, ?_, ?_⟩, ?_⟩
  · have counted := h.counted plain same
    have capped := h.caps.count
    rw [List.filter_append, List.length_append]
    by_cases ours : p.transition.roadmapId = roadmapId
    · have room := caps.room
      rw [ours] at room
      have one : ([⟨ev, p⟩].filter fun a : Accepted T => a.roadmapId = roadmapId).length ≤ 1 := List.length_filter_le _ _
      omega
    · have none : [⟨ev, p⟩].filter (fun a : Accepted T => a.roadmapId = roadmapId) = [] := by
        simp [Accepted.roadmapId, ours]
      rw [none]
      exact capped
  · exact pairwise_concat h.caps.spaced fun a ha ours theirs => (mine theirs a ha ours).1
  · exact pairwise_concat h.caps.deeper fun a ha ours theirs => (mine theirs a ha ours).2
  · intro a ha ours
    rcases List.mem_append.mp ha with before | now
    · exact h.caps.shallow a before ours
    · obtain rfl := List.mem_singleton.mp now
      exact caps.shallow
  · refine pairwise_concat h.caps.once fun a ha again => ?_
    refine hasEvent_false plain new _ (member a ha) ?_
    rw [stored_event plain, again]
  · rw [List.map_append]
    exact h.stored.append (List.Sublist.refl _)

/-- A run keeps the caps of every roadmap that is looked up as it is stored. -/
theorem Kept.run (plain : T.Plain) (same : safeDurableRef T roadmapId = safeJobField T "roadmap_id" roadmapId)
    (calls : List (Call σ)) (h : Kept registry policy roadmapId accepted ledger) :
    Kept registry policy roadmapId (accepted ++ (runCalls T registry (some policy) ledger calls).1)
      (runCalls T registry (some policy) ledger calls).2 := by
  induction calls generalizing accepted ledger with
  | nil =>
    show Kept registry policy roadmapId (accepted ++ []) ledger
    rwa [List.append_nil]
  | cons c rest ih =>
    have step : Kept registry policy roadmapId (accepted ++ c.accepted T registry (some policy) ledger)
        (c.run T registry (some policy) ledger).2 := by
      rcases @call_accepted T σ registry (some policy) ledger plain c with ⟨none, grows⟩ | ⟨p, one, new, judged, after⟩
      · rw [none, List.append_nil]
        exact ⟨h.caps, h.stored.trans grows.sublist⟩
      · obtain ⟨admitted, caps⟩ := judge_ok judged
        rw [coercePolicy_wellFormed (passGates_wellFormed admitted)] at caps
        rw [one, after]
        exact h.accept plain same new caps
    have later := ih step
    rw [List.append_assoc] at later
    exact later

/-- With one ledger and one policy, the promotions of a roadmap that is looked up as it is stored keep its caps. -/
theorem caps_hold (plain : T.Plain) (registry : Registry) (policy : Policy) (ledger : PromotionLedger)
    (calls : List (Call σ)) (roadmapId : String)
    (same : safeDurableRef T roadmapId = safeJobField T "roadmap_id" roadmapId) :
    CapsHold policy roadmapId (runCalls T (some registry) (some policy) ledger calls).1 := by
  have start : Kept (some registry) policy roadmapId ([] : List (Accepted T)) ledger :=
    ⟨⟨Nat.zero_le _, .nil, .nil, nofun, .nil⟩, List.nil_sublist _⟩
  have kept := start.run plain same calls
  rw [List.nil_append] at kept
  exact kept.caps

end

def sliceTransition (roadmapId : String) : Transition :=
  { transitionId := "t1", roadmapId, fromSlice := "a", toSlice := "b", sliceTemplate := ["impl", "review", "fanin"] }

def sliceRegistry (roadmapId : String) : Registry := { transitions := [("t1", sliceTransition roadmapId)] }

/-- Everything is let through, once for a roadmap. -/
def singlePolicy : Policy where
  autoContinue := true
  allowlistedTransitions := ["t1"]
  maxPromotionsPerRoadmap := 1
  requireReviewEdge := false
  requireAckEdge := false
  requireTrustedAssignee := false
  requireOriginMatch := false
  requirePolicyResolution := false

def goEvent (taskId : String) : PromotionEvent where
  summary := "Verdict: GO\nRoadmap-Transition: t1\nNext-Slice: b\nAuto-Continue: true"
  eventId := "done:" ++ taskId
  sourceFinalRef := taskId

def goCalls : List (Call Unit) := [.propose (goEvent "a1"), .propose (goEvent "a2")]

theorem caps_hold_once :
    CapsHold singlePolicy "north-star"
      (runCalls asciiText (some (sliceRegistry "north-star")) (some singlePolicy) [] goCalls).1 :=
  caps_hold asciiText_plain (sliceRegistry "north-star") singlePolicy [] goCalls "north-star" (by decide +kernel)

deriving instance DecidableEq for DecisionPayload, PromotionReceipt

/-- What the first call records of a roadmap with a blank in its id. -/
def blankReceipt : PromotionReceipt where
  eventId := "done:a1"
  idempotencyKey := "ref:sha256:634a67906b33a47b"
  sourceFinalRef := "a1"
  roadmapId := "north star"
  transitionId := "t1"
  chainDepth := 1
  decision := .propose
  reason := "roadmap_promotion_proposed"
  originRef := ""
  returnToRef := ""
  subscriptionStatus := "unverified"
  policyResolutionRef := ""
  registryRef := ""
  registryHash := ""
  createdAt := 0
  payload := ⟨.propose, "roadmap_promotion_proposed", "ref:sha256:634a67906b33a47b", "t1"⟩

theorem goCalls_first :
    ((Call.propose (goEvent "a1") : Call Unit).run asciiText (some (sliceRegistry "north star")) (some singlePolicy) []).2 =
      [blankReceipt] := by decide +kernel

/-- A roadmap with a blank in its id is never found in the ledger, and is promoted again at once. -/
theorem caps_lost :
    (validateTransition asciiText (sliceTransition "north star")).isOk = true ∧
    ¬CapsHold singlePolicy "north star"
      (runCalls asciiText (some (sliceRegistry "north star")) (some singlePolicy) [] goCalls).1 := by
  refine ⟨by decide +kernel, fun caps => ?_⟩
  have count := caps.count
  unfold goCalls runCalls at count
  rw [goCalls_first] at count
  exact absurd count (by decide +kernel)

end AgentflowHermes.Roadmap
