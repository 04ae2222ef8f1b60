import AgentflowHermes.RoadmapApply

namespace AgentflowHermes.Roadmap

section

variable {T : PyText} {policy : Policy} {ledger : PromotionLedger} {registry : Option Registry} {ev : PromotionEvent}

theorem safeEvent_reference (eventId : String) : Reference T (safeEvent T eventId) := by
  unfold safeEvent orText
  split
  · exact missingEventId_reference
  · exact safeDurableRef_reference eventId

theorem promotionKey_reference (t : Transition) (source : String) (depth : Int) :
    Reference T (promotionKey T t source depth) := by
  unfold promotionKey
  exact safeDurableRef_reference _

theorem promotionKey_ne_empty (plain : T.Plain) (t : Transition) (source : String) (depth : Int) :
    promotionKey T t source depth ≠ "" := by
  have head : "roadmap:".toList = 'r' :: "oadmap:".toList := by decide
  have starts : ∀ rest : String, ("roadmap:" ++ rest).toList = 'r' :: ("oadmap:".toList ++ rest.toList) := by
    intro rest
    rw [String.toList_append, head, List.cons_append]
  unfold promotionKey
  simp only [String.append_assoc]
  exact safeDurableRef_ne_empty (plain 'r' (by decide)) (starts _)

/-- What the caps have checked of a promotion, by the ledger before it. -/
structure WithinCaps (policy : Policy) (ledger : PromotionLedger) (ev : PromotionEvent) (p : Promotion T) : Prop where
  depth : p.depth = max ev.chainDepth (ledger.currentChainDepth T p.transition.roadmapId) + 1
  shallow : p.depth ≤ min policy.maxChainDepth p.transition.maxChainDepth
  room : (ledger.countPromotions T p.transition.roadmapId : Int) < policy.maxPromotionsPerRoadmap
  cooled : ∀ last, ledger.lastPromotionTime T p.transition.roadmapId = some last →
    last + cooldownMicros policy ≤ ev.occurredAt
  key : p.key = promotionKey T p.transition (safeSource T ev.sourceFinalRef) p.depth
  fresh : ledger.hasPromotionKey T p.key = false

theorem withinCaps_ok {a : Admitted T} {p : Promotion T} (h : withinCaps T policy ledger ev a = .ok p) :
    p.toAdmitted = a ∧ WithinCaps policy ledger ev p := by
  unfold withinCaps at h
  dsimp only at h
  split at h
  next => cases h
  next shallow =>
    split at h
    next => cases h
    next room =>
      split at h
      next => cases h
      next early =>
        split at h
        next => cases h
        next fresh =>
          cases h
          have late : ∀ last, ledger.lastPromotionTime T a.transition.roadmapId = some last →
              last + cooldownMicros policy ≤ ev.occurredAt := by
            intro last hl
            rw [hl] at early
            have late : ¬ev.occurredAt - last < cooldownMicros policy := by simpa using early
            omega
          exact ⟨rfl, rfl, Int.not_le.mp shallow, Int.not_le.mp room, late, rfl, by simpa using fresh⟩

theorem withinCaps_error {a : Admitted T} {d : Declined} (h : withinCaps T policy ledger ev a = .error d) :
    d.decision ≠ .propose := by
  unfold withinCaps at h
  dsimp only at h
  repeat' split at h
  all_goals
    cases h
    try nofun

theorem requested_error {d : Declined} (h : requested T policy registry ev = .error d) : d.decision ≠ .propose := by
  unfold requested at h
  dsimp only at h
  repeat' split at h
  all_goals
    cases h
    try nofun

theorem passGates_error {malformed : Bool} {d : Declined} (h : passGates T policy malformed registry ev = .error d) :
    d.decision ≠ .propose := by
  unfold passGates at h
  split at h
  next =>
    cases h
    nofun
  next =>
    split at h
    next hr =>
      cases h
      exact requested_error hr
    next =>
      split at h
      · cases h
        nofun
      · cases h

theorem judge_error {policy : Option Policy} {d : Declined} (h : judge T registry ledger policy ev = .error d) :
    d.decision ≠ .propose := by
  unfold judge at h
  dsimp only at h
  split at h
  next hd =>
    cases h
    exact passGates_error hd
  next => exact withinCaps_error h

/-- A promotion passed the gates and the caps. -/
theorem judge_ok {policy : Option Policy} {p : Promotion T} (h : judge T registry ledger policy ev = .ok p) :
    passGates T (coercePolicy policy).1 (coercePolicy policy).2 registry ev = .ok p.toAdmitted ∧
      WithinCaps (coercePolicy policy).1 ledger ev p := by
  unfold judge at h
  dsimp only at h
  split at h
  next => cases h
  next a ha =>
    obtain ⟨rfl, caps⟩ := withinCaps_ok h
    exact ⟨ha, caps⟩

theorem passGates_wellFormed {malformed : Bool} {a : Admitted T} (h : passGates T policy malformed registry ev = .ok a) :
    malformed = false := by
  unfold passGates at h
  split at h
  next => cases h
  next hm => simpa using hm

theorem coercePolicy_wellFormed {p : Policy} (h : (coercePolicy (some p)).2 = false) : (coercePolicy (some p)).1 = p := by
  unfold coercePolicy at h ⊢
  dsimp only at h ⊢
  split at h
  next => cases h
  next fine => rw [if_neg fine]

end

/-- The three ways a proposal goes. -/
inductive Proposed (T : PyText) (registry : Option Registry) (ledger : PromotionLedger) (policy : Option Policy)
    (ev : PromotionEvent) : PromotionAnswer × PromotionLedger → Prop
  | duplicate (known : ledger.hasEvent T (safeEvent T ev.eventId) = true) :
      Proposed T registry ledger policy ev
        (duplicateEvent T ev (ledger.decisionForEvent T (safeEvent T ev.eventId)), ledger)
  | declined (d : Declined) (new : ledger.hasEvent T (safeEvent T ev.eventId) = false)
      (judged : judge T registry ledger policy ev = .error d) :
      Proposed T registry ledger policy ev (d.answer T ev, ledger.record T (d.receipt T ev))
  | accepted (p : Promotion T) (new : ledger.hasEvent T (safeEvent T ev.eventId) = false)
      (judged : judge T registry ledger policy ev = .ok p) :
      Proposed T registry ledger policy ev (p.answer T registry ev, ledger.record T (p.receipt T registry ev))

theorem proposed (T : PyText) (registry : Option Registry) (ledger : PromotionLedger) (policy : Option Policy)
    (ev : PromotionEvent) :
    Proposed T registry ledger policy ev (proposeRoadmapPromotion T registry ledger policy ev) := by
  unfold proposeRoadmapPromotion
  split
  next known => exact .duplicate known
  next new =>
    have new : ledger.hasEvent T (safeEvent T ev.eventId) = false := by simpa using new
    split
    next d judged => exact .declined d new judged
    next p judged => exact .accepted p new judged

section

variable {T : PyText} {registry : Option Registry} {ledger : PromotionLedger} {policy : Option Policy} {ev : PromotionEvent}

/-- Only a judged promotion is answered as a proposal. -/
theorem Proposed.promotion {r : PromotionAnswer × PromotionLedger} (h : Proposed T registry ledger policy ev r)
    (hr : r.1.decision = .propose) : ∃ p, judge T registry ledger policy ev = .ok p ∧
      ledger.hasEvent T (safeEvent T ev.eventId) = false ∧
      r = (p.answer T registry ev, ledger.record T (p.receipt T registry ev)) := by
  cases h with
  | duplicate known => cases hr
  | declined d new judged => exact absurd hr (judge_error judged)
  | accepted p new judged => exact ⟨p, judged, new, rfl⟩

theorem proposeRoadmapPromotion_ok {p : Promotion T} (new : ledger.hasEvent T (safeEvent T ev.eventId) = false)
    (judged : judge T registry ledger policy ev = .ok p) :
    proposeRoadmapPromotion T registry ledger policy ev =
      (p.answer T registry ev, ledger.record T (p.receipt T registry ev)) := by
  unfold proposeRoadmapPromotion
  rw [new, judged]
  rfl

/-- A ledger is only added to. -/
theorem Proposed.grows {r : PromotionAnswer × PromotionLedger} (h : Proposed T registry ledger policy ev r) :
    ledger <+: r.2 := by
  cases h with
  | duplicate known => exact List.prefix_refl _
  | declined d new judged => exact List.prefix_append _ _
  | accepted p new judged => exact List.prefix_append _ _

theorem commitProposal_eq {shadow : PromotionLedger} (h : ledger <+: shadow) : commitProposal ledger shadow = shadow := by
  obtain ⟨added, rfl⟩ := h
  unfold commitProposal
  rw [List.drop_left]

/-- The key of a fresh proposal is the promotion key. -/
theorem applyKey_answer (plain : T.Plain) {p : Promotion T} (caps : WithinCaps (coercePolicy policy).1 ledger ev p) :
    applyKeyFromProposal (p.answer T registry ev) = p.key := by
  have key : Reference T p.key := by
    rw [caps.key]
    exact promotionKey_reference _ _ _
  have kept : safeJobField T "idempotency_key" p.key = p.key := key.jobField plain _
  have filled : p.key ≠ "" := by
    rw [caps.key]
    exact promotionKey_ne_empty plain _ _ _
  show orText (safeJobField T "idempotency_key" p.key) _ = p.key
  rw [kept, orText, if_neg filled]

end

section

variable {σ : Type}

/-- A graph of a promotion that may be applied: what is looked up again and made for it. -/
structure Graph (T : PyText) (registry : Option Registry) (policy : Policy) (adapter : Option (GraphAdapter σ))
    (ev : PromotionEvent) (p : Promotion T) where
  config : Registry
  configured : registry = some config
  transition : Transition
  found : config.get? (p.answer T registry ev).transitionId = some transition
  writer : GraphAdapter σ
  injected : adapter = some writer
  template : ResolvedTemplate T
  resolved : transition.template T = .ok template
  fits : template.steps.length ≤ policy.maxApplyTasksPerGraph

namespace Graph

variable {T : PyText} {registry : Option Registry} {policy : Policy} {adapter : Option (GraphAdapter σ)}
  {ev : PromotionEvent} {p : Promotion T}

def plan (g : Graph T registry policy adapter ev p) : Plan :=
  buildPlan T g.transition g.template p.key p.depth (planSource T ev)

def create (g : Graph T registry policy adapter ev p) (board : σ) : Except CreateFailure (List CreatedTask) × σ :=
  createTasks g.writer (applyTaskProfile T g.transition g.template policy) g.plan.candidates [] [] board

def receipt (g : Graph T registry policy adapter ev p) (created : List CreatedTask) : ApplyReceipt :=
  applyReceipt T g.config ev g.transition p.key p.depth created

def graph (g : Graph T registry policy adapter ev p) (created : List CreatedTask) : AppliedGraph :=
  ⟨p.key, created.map (·.taskId), created, g.receipt created⟩

theorem unique (g g' : Graph T registry policy adapter ev p) : g = g' := by
  obtain ⟨config, configured, transition, found, writer, injected, template, resolved, fits⟩ := g
  obtain ⟨config', configured', transition', found', writer', injected', template', resolved', fits'⟩ := g'
  obtain rfl := Option.some.inj (configured.symm.trans configured')
  obtain rfl := Option.some.inj (found.symm.trans found')
  obtain rfl := Option.some.inj (injected.symm.trans injected')
  obtain rfl := Except.ok.inj (resolved.symm.trans resolved')
  rfl

end Graph

/-- The ways an apply goes. -/
inductive Applied (T : PyText) (registry : Option Registry) (policy : Option Policy) (adapter : Option (GraphAdapter σ))
    (ev : PromotionEvent) (s : ApplyState σ) : Except String (ApplyAnswer × ApplyState σ) → Prop
  | duplicate (r : PromotionAnswer × PromotionLedger) (graph : AppliedGraph)
      (proposal : proposeRoadmapPromotion T registry s.ledger policy ev = r) (keyed : applyKeyFromProposal r.1 ≠ "")
      (known : s.applied.get T (applyKeyFromProposal r.1) = some graph) :
      Applied T registry policy adapter ev s (.ok (.duplicate r.1 (applyKeyFromProposal r.1) graph, s))
  | declined (r : PromotionAnswer × PromotionLedger) (proposal : proposeRoadmapPromotion T registry s.ledger policy ev = r)
      (refused : r.1.decision ≠ .propose) :
      Applied T registry policy adapter ev s
        (.ok (.proposalOnly r.1 (coercePolicy policy).1.applyEnabled "", { s with ledger := r.2 }))
  | disabled (p : Promotion T) (new : s.ledger.hasEvent T (safeEvent T ev.eventId) = false)
      (judged : judge T registry s.ledger policy ev = .ok p) (unarmed : (coercePolicy policy).1.applyEnabled = false) :
      Applied T registry policy adapter ev s (.ok (.proposalOnly (p.answer T registry ev) false "apply_disabled",
        { s with ledger := s.ledger.record T (p.receipt T registry ev) }))
  | stopped (p : Promotion T) (reason : String) (judged : judge T registry s.ledger policy ev = .ok p)
      (other : reason ≠ "apply_disabled") (bare : IsEmpty (Graph T registry (coercePolicy policy).1 adapter ev p)) :
      Applied T registry policy adapter ev s (.ok (.proposalOnly (p.answer T registry ev) true reason, s))
  | raised (p : Promotion T) (e : String) (judged : judge T registry s.ledger policy ev = .ok p)
      (bare : IsEmpty (Graph T registry (coercePolicy policy).1 adapter ev p)) :
      Applied T registry policy adapter ev s (.error e)
  | failed (p : Promotion T) (g : Graph T registry (coercePolicy policy).1 adapter ev p) (failure : CreateFailure)
      (board : σ) (judged : judge T registry s.ledger policy ev = .ok p)
      (missing : s.applied.get T p.key = none) (created : g.create s.board = (.error failure, board)) :
      Applied T registry policy adapter ev s
        (.ok (.failed (p.answer T registry ev) p.key failure g.transition, { s with board := board }))
  | applied (p : Promotion T) (g : Graph T registry (coercePolicy policy).1 adapter ev p) (tasks : List CreatedTask)
      (board : σ) (new : s.ledger.hasEvent T (safeEvent T ev.eventId) = false)
      (judged : judge T registry s.ledger policy ev = .ok p) (armed : (coercePolicy policy).1.applyEnabled = true)
      (missing : s.applied.get T p.key = none) (created : g.create s.board = (.ok tasks, board)) :
      Applied T registry policy adapter ev s (.ok (.applied (p.answer T registry ev) g.transition (g.graph tasks), {
        ledger := s.ledger.record T (p.receipt T registry ev)
        applied := s.applied.record T p.key (g.graph tasks)
        board := g.writer.recordSourceReceipt (g.receipt tasks) board }))

theorem candidates_length {T : PyText} {t : Transition} {template : ResolvedTemplate T} {key : String} {depth : Int}
    {s : PlanSource} (parentKey : String) (steps : List TemplateStep) :
    (candidates T t template key depth s parentKey steps).length = steps.length := by
  have keys := congrArg List.length (@candidates_keys T t template key depth s parentKey steps)
  simpa using keys

theorem applied {T : PyText} (plain : T.Plain) (registry : Option Registry) (policy : Option Policy)
    (adapter : Option (GraphAdapter σ)) (ev : PromotionEvent) (s : ApplyState σ) :
    Applied T registry policy adapter ev s (applyRoadmapPromotion T registry policy adapter ev s) := by
  have way := proposed T registry s.ledger policy ev
  unfold applyRoadmapPromotion
  generalize hr : proposeRoadmapPromotion T registry s.ledger policy ev = r at way
  dsimp only
  rw [commitProposal_eq way.grows]
  split
  next graph known =>
    split at known
    next => cases known
    next keyed => exact .duplicate r graph hr keyed known
  next missing =>
    split
    next refused => exact .declined r hr refused
    next fresh =>
      have fresh : r.1.decision = .propose := by simpa using fresh
      obtain ⟨p, judged, new, rfl⟩ := way.promotion fresh
      have keyed : p.key ≠ "" := by
        rw [(judge_ok judged).2.key]
        exact promotionKey_ne_empty plain _ _ _
      rw [applyKey_answer plain (judge_ok judged).2, if_neg keyed] at missing
      rw [applyKey_answer plain (judge_ok judged).2]
      split
      next unarmed => exact .disabled p new judged (by simpa using unarmed)
      next armed =>
        have armed : (coercePolicy policy).1.applyEnabled = true := by simpa using armed
        split
        next => exact .stopped p _ judged (by decide) ⟨fun g => absurd g.configured nofun⟩
        next config _ =>
          unfold applyGraph
          split
          next unknown =>
            refine .stopped p _ judged (by decide) ⟨fun ⟨_, configured, _, known, _, _, _, _, _⟩ => ?_⟩
            obtain rfl := Option.some.inj configured
            exact absurd (unknown.symm.trans known) nofun
          next transition found =>
            split
            next => exact .stopped p _ judged (by decide) ⟨fun g => absurd g.injected nofun⟩
            next writer =>
              split
              next e broken =>
                refine .raised p e judged ⟨fun ⟨_, configured, _, known, _, _, _, whole, _⟩ => ?_⟩
                obtain rfl := Option.some.inj configured
                obtain rfl := Option.some.inj (found.symm.trans known)
                exact absurd (broken.symm.trans whole) nofun
              next template resolved =>
                dsimp only
                split
                next many =>
                  refine .stopped p _ judged (by decide) ⟨fun ⟨_, configured, _, known, _, _, _, whole, few⟩ => ?_⟩
                  obtain rfl := Option.some.inj configured
                  obtain rfl := Option.some.inj (found.symm.trans known)
                  obtain rfl := Except.ok.inj (resolved.symm.trans whole)
                  simp only [buildPlan, candidates_length] at many
                  omega
                next fits =>
                  have fits : (template.steps.length : Int) ≤ (coercePolicy policy).1.maxApplyTasksPerGraph := by
                    rw [Int.not_lt] at fits
                    simpa [buildPlan, candidates_length] using fits
                  let g : Graph T (some config) (coercePolicy policy).1 (some writer) ev p :=
                    ⟨config, rfl, transition, found, writer, rfl, template, resolved, fits⟩
                  split
                  next failure board created => exact .failed p g failure board judged missing created
                  next tasks board created =>
                    have grown : s.ledger <+: s.ledger.record T (p.receipt T (some config) ev) := List.prefix_append _ _
                    rw [commitProposal_eq grown]
                    exact .applied p g tasks board new judged armed missing created

end

end AgentflowHermes.Roadmap
