import AgentflowHermes.RoadmapCaps
import AgentflowHermes.RoadmapCourses
import Mathlib.Logic.Relation

namespace AgentflowHermes.Roadmap

open Relation

/-- What a call does to the two ledgers of a promotion, whoever makes it and on whatever board. -/
inductive LedgerStep (T : PyText) : PromotionLedger × ApplyLedger → PromotionLedger × ApplyLedger → Prop
  | propose (registry : Option Registry) (policy : Option Policy) (ev : PromotionEvent) (l : PromotionLedger) (a : ApplyLedger) :
      LedgerStep T (l, a) ((proposeRoadmapPromotion T registry l policy ev).2, a)
  | apply {σ : Type} (registry : Option Registry) (policy : Option Policy) (adapter : Option (GraphAdapter σ))
      (ev : PromotionEvent) (s t : ApplyState σ) (answer : ApplyAnswer)
      (h : applyRoadmapPromotion T registry policy adapter ev s = .ok (answer, t)) :
      LedgerStep T (s.ledger, s.applied) (t.ledger, t.applied)

/-- Nothing new in a ledger, or one receipt of an event that it had none of. -/
inductive Grown (T : PyText) (l : PromotionLedger) : PromotionLedger → Prop
  | same : Grown T l l
  | receipt (eventId : String) (stored : PromotionReceipt) (new : l.hasEvent T (safeEvent T eventId) = false)
      (event : stored.eventId = safeEvent T eventId) : Grown T l (l ++ [stored])

/-- Nothing new in an apply ledger, or the graph of a key that it had none of. -/
inductive Enlarged (T : PyText) (a : ApplyLedger) : ApplyLedger → Prop
  | same : Enlarged T a a
  | graph (key : String) (g : AppliedGraph) (new : a.get T key = none) : Enlarged T a (a.record T key g)

section

variable {T : PyText} {registry : Option Registry} {policy : Option Policy} {ev : PromotionEvent} {l : PromotionLedger}

theorem safe_event (plain : T.Plain) {r : PromotionReceipt} {eventId : String}
    (h : r.eventId = safeJobField T "event_id" (safeEvent T eventId)) : (r.safe T).eventId = safeEvent T eventId := by
  have event := safeEvent_reference (T := T) eventId
  show safeJobField T "event_id" r.eventId = safeEvent T eventId
  rw [h, event.jobField plain, event.jobField plain]

theorem Proposed.grown (plain : T.Plain) {r : PromotionAnswer × PromotionLedger} (h : Proposed T registry l policy ev r) :
    Grown T l r.2 := by
  cases h with
  | duplicate known => exact .same
  | declined d new judged => exact .receipt ev.eventId _ new (safe_event plain rfl)
  | accepted p new judged => exact .receipt ev.eventId _ new (safe_event plain rfl)

theorem Applied.grown (plain : T.Plain) {σ : Type} {adapter : Option (GraphAdapter σ)} {s t : ApplyState σ}
    {answer : ApplyAnswer} (h : Applied T registry policy adapter ev s (.ok (answer, t))) :
    Grown T s.ledger t.ledger ∧ Enlarged T s.applied t.applied := by
  cases h with
  | duplicate r graph proposal keyed known => exact ⟨.same, .same⟩
  | declined r proposal refused =>
    have grown := (proposed T registry s.ledger policy ev).grown plain
    rw [proposal] at grown
    exact ⟨grown, .same⟩
  | disabled p new judged unarmed => exact ⟨.receipt ev.eventId _ new (safe_event plain rfl), .same⟩
  | stopped p reason judged other bare => exact ⟨.same, .same⟩
  | failed p g failure board judged missing created => exact ⟨.same, .same⟩
  | applied p g tasks board new judged armed missing created =>
    exact ⟨.receipt ev.eventId _ new (safe_event plain rfl), .graph p.key _ missing⟩

theorem hasEvent_append {eventId : String} {stored : PromotionReceipt} (h : l.hasEvent T eventId = true) :
    PromotionLedger.hasEvent T (l ++ [stored]) eventId = true := by
  unfold PromotionLedger.hasEvent at h ⊢
  rw [List.any_append, h]
  rfl

theorem decisionForEvent_append {eventId : String} {stored : PromotionReceipt}
    (other : stored.eventId ≠ safeDurableRef T eventId) :
    PromotionLedger.decisionForEvent T (l ++ [stored]) eventId = l.decisionForEvent T eventId := by
  have differs : (stored.eventId == safeDurableRef T eventId) = false := beq_eq_false_iff_ne.mpr other
  unfold PromotionLedger.decisionForEvent
  rw [List.reverse_append, List.reverse_singleton, List.singleton_append, List.find?_cons, differs]

theorem decisionForEvent_latest {eventId : String} {stored : PromotionReceipt}
    (same : stored.eventId = safeDurableRef T eventId) :
    PromotionLedger.decisionForEvent T (l ++ [stored]) eventId = some stored.payload := by
  have found : (stored.eventId == safeDurableRef T eventId) = true := beq_iff_eq.mpr same
  unfold PromotionLedger.decisionForEvent
  rw [List.reverse_append, List.reverse_singleton, List.singleton_append, List.find?_cons, found]
  rfl

theorem record_new {a : ApplyLedger} {key : String} {g : AppliedGraph} (new : a.get T key = none) :
    a.record T key g = a ++ [(safeDurableRef T key, g.safe T)] := by
  have absent : a.has T key = false := by
    unfold ApplyLedger.has
    rw [show a.lookup (safeDurableRef T key) = none from new]
    rfl
  unfold ApplyLedger.record
  rw [absent]
  rfl

end

/-- The ledgers have a receipt of the event, with the key that the graph is recorded under. -/
structure Remembers (T : PyText) (eventId key : String) (graph : AppliedGraph) (c : PromotionLedger × ApplyLedger) :
    Prop where
  event : c.1.hasEvent T (safeEvent T eventId) = true
  decision : (c.1.decisionForEvent T (safeEvent T eventId)).map (·.idempotencyKey) = some key
  applied : c.2.get T key = some graph

namespace Remembers

variable {T : PyText} {eventId key : String} {graph : AppliedGraph} {l l' : PromotionLedger} {a a' : ApplyLedger}

theorem grown (plain : T.Plain) (h : Remembers T eventId key graph (l, a)) (hl : Grown T l l') (ha : Enlarged T a a') :
    Remembers T eventId key graph (l', a') := by
  have applied : a'.get T key = some graph := by
    cases ha with
    | same => exact h.applied
    | graph other g new =>
      rw [record_new new]
      have known : a.lookup (safeDurableRef T key) = some graph := h.applied
      unfold ApplyLedger.get
      rw [List.lookup_append, known]
      rfl
  cases hl with
  | same => exact ⟨h.event, h.decision, applied⟩
  | receipt other stored new event =>
    have apart : stored.eventId ≠ safeDurableRef T (safeEvent T eventId) := by
      intro same
      rw [(safeEvent_reference eventId).durable plain, event] at same
      have known : l.hasEvent T (safeEvent T eventId) = true := h.event
      rw [← same, new] at known
      cases known
    refine ⟨hasEvent_append h.event, ?_, applied⟩
    show (PromotionLedger.decisionForEvent T (l ++ [stored]) _).map _ = some key
    rw [decisionForEvent_append apart]
    exact h.decision

theorem step (plain : T.Plain) {c d : PromotionLedger × ApplyLedger} (h : Remembers T eventId key graph c)
    (move : LedgerStep T c d) : Remembers T eventId key graph d := by
  cases move with
  | propose registry policy ev l a => exact h.grown plain ((proposed T registry l policy ev).grown plain) .same
  | apply registry policy adapter ev s t answer result =>
    have way := Roadmap.applied plain registry policy adapter ev s
    rw [result] at way
    exact h.grown plain (way.grown plain).1 (way.grown plain).2

/-- Whatever else was done with the ledgers, they remember. -/
theorem run (plain : T.Plain) {c d : PromotionLedger × ApplyLedger} (h : Remembers T eventId key graph c)
    (moves : ReflTransGen (LedgerStep T) c d) : Remembers T eventId key graph d := by
  induction moves with
  | refl => exact h
  | tail _ move ih => exact ih.step plain move

/-- A remembered event is answered with its graph, and neither a ledger nor the board is touched. -/
theorem duplicate (plain : T.Plain) {σ : Type} (h : Remembers T eventId key graph (l, a)) (keyed : Reference T key)
    (filled : key ≠ "") (registry : Option Registry) (policy : Option Policy) (adapter : Option (GraphAdapter σ))
    (ev : PromotionEvent) (same : ev.eventId = eventId) (board : σ) :
    ∃ answer, applyRoadmapPromotion T registry policy adapter ev ⟨l, a, board⟩ =
      .ok (.duplicate answer key graph, ⟨l, a, board⟩) := by
  obtain ⟨payload, found, hkey⟩ := Option.map_eq_some_iff.mp h.decision
  have known : l.hasEvent T (safeEvent T ev.eventId) = true := by
    rw [same]
    exact h.event
  have answered : proposeRoadmapPromotion T registry l policy ev = (duplicateEvent T ev (some payload), l) := by
    unfold proposeRoadmapPromotion
    rw [if_pos known, same]
    exact congrArg (fun prior => (duplicateEvent T ev prior, l)) found
  have empty : safeJobField T "idempotency_key" "" = "" := empty_reference.jobField plain _
  have lookup : applyKeyFromProposal (duplicateEvent T ev (some payload)) = key := by
    show orText (safeJobField T "idempotency_key" "") (orText "" (safeJobField T "idempotency_key" payload.idempotencyKey)) = key
    rw [empty, hkey, keyed.jobField plain]
    rfl
  have recorded : a.get T key = some graph := h.applied
  refine ⟨duplicateEvent T ev (some payload), ?_⟩
  unfold applyRoadmapPromotion
  dsimp only
  rw [answered]
  dsimp only
  rw [lookup, if_neg filled, recorded]

end Remembers

namespace Graph

variable {T : PyText} {σ : Type} {registry : Option Registry} {policy : Policy} {adapter : Option (GraphAdapter σ)}
  {ev : PromotionEvent} {p : Promotion T}

def answers (g : Graph T registry policy adapter ev p) (board : σ) : List CreateResult :=
  Roadmap.answers g.writer (applyTaskProfile T g.transition g.template policy) g.plan.candidates board

/-- The ids that the adapter returns for the cards of the plan. -/
def taskIds (g : Graph T registry policy adapter ev p) (board : σ) : List String := (g.answers board).map (·.taskId)

def planKeys (g : Graph T registry policy adapter ev p) : List String := g.plan.candidates.map (·.idempotencyKey)

end Graph

/-- What the sanitiser keeps under every key. -/
def Untouched (T : PyText) (id : String) : Prop := ∀ field, safeJobField T field id = id

/-- The graph of a plan as the apply ledger has it: a task for each card, under the one before it. -/
structure Recorded (T : PyText) (key : String) (planKeys ids : List String) (graph : AppliedGraph) : Prop where
  created : graph.createdTaskIds = safeTaskIds T ids
  tasks : graph.tasks.map (·.taskId) = ids.map (safeJobField T "task_id")
  cards : graph.tasks.map (·.idempotencyKey) = planKeys.map (safeJobField T "idempotency_key")
  parents : graph.tasks.map (·.parentTaskId) = ("" :: ids).dropLast.map (safeJobField T "parent_task_id")
  chained : (∀ id ∈ ids, Untouched T id) →
    graph.tasks.map (·.parentTaskId) = ("" :: graph.tasks.map (·.taskId)).dropLast ∧
      graph.createdTaskIds = ids ∧ safeTaskIds T graph.createdTaskIds = ids

section

variable {T : PyText} {σ : Type} {registry : Option Registry} {policy : Option Policy} {adapter : Option (GraphAdapter σ)}
  {ev : PromotionEvent} {s : ApplyState σ} {p : Promotion T}

theorem answers_length {profile : String → TaskProfile} {writer : GraphAdapter σ} (cs : List Candidate) (board : σ) :
    (answers writer profile cs board).length = cs.length := by
  induction cs generalizing board with
  | nil => rfl
  | cons c rest ih =>
    show (answers writer profile rest _).length + 1 = rest.length + 1
    rw [ih]

theorem map_untouched (field : String) {ids : List String} (h : ∀ id ∈ ids, Untouched T id) :
    ids.map (safeJobField T field) = ids := by
  have same : ids.map (safeJobField T field) = ids.map id := List.map_congr_left fun id hid => h id hid field
  rw [same, List.map_id]

theorem graph_recorded (plain : T.Plain) {pol : Policy} (g : Graph T registry pol adapter ev p) {board later : σ}
    {tasks : List CreatedTask} (created : g.create board = (.ok tasks, later)) :
    Recorded T p.key g.planKeys (g.taskIds board) ((g.graph tasks).safe T) := by
  obtain ⟨-, made⟩ := createTasks_ok created
  have length : g.plan.candidates.length = (g.taskIds board).length := by
    unfold Graph.taskIds Graph.answers
    rw [List.length_map, answers_length]
  have steps : g.template.steps.length = (g.taskIds board).length := by
    rw [← length]
    exact (candidates_length "" g.template.steps).symm
  have ids : tasks.map (·.taskId) = g.taskIds board := by
    rw [made]
    exact tasksOf_ids [] length
  have keys : tasks.map (·.idempotencyKey) = g.planKeys := by
    rw [made]
    exact tasksOf_keys [] length
  have parents : tasks.map (·.parentTaskId) = ("" :: g.taskIds board).dropLast := by
    rw [made]
    exact tasksOf_parents [] ("", "") g.template.distinct (.inl ⟨rfl, rfl⟩) steps
  have created : ((g.graph tasks).safe T).createdTaskIds = safeTaskIds T (g.taskIds board) := by
    show safeTaskIds T (tasks.map (·.taskId)) = _
    rw [ids]
  have recorded : ((g.graph tasks).safe T).tasks.map (·.taskId) = (g.taskIds board).map (safeJobField T "task_id") := by
    rw [← ids, List.map_map]
    exact List.map_map
  have cards : ((g.graph tasks).safe T).tasks.map (·.idempotencyKey) =
      g.planKeys.map (safeJobField T "idempotency_key") := by
    rw [← keys, List.map_map]
    exact List.map_map
  have under : ((g.graph tasks).safe T).tasks.map (·.parentTaskId) =
      ("" :: g.taskIds board).dropLast.map (safeJobField T "parent_task_id") := by
    rw [← parents, List.map_map]
    exact List.map_map
  refine ⟨created, recorded, cards, under, fun untouched => ?_⟩
  have started : ∀ id ∈ ("" :: g.taskIds board).dropLast, Untouched T id := by
    intro id hid
    rcases List.mem_cons.mp (List.dropLast_subset _ hid) with rfl | later
    · exact fun field => empty_reference.jobField plain field
    · exact untouched id later
  rw [under, recorded, created, map_untouched _ started, map_untouched _ untouched]
  unfold safeTaskIds
  rw [map_untouched _ untouched, map_untouched _ untouched]
  exact ⟨rfl, rfl, rfl⟩

/-- An apply of a fresh, armed proposal is all or nothing, and once it is done it is not done again. -/
structure ApplyAtomic (T : PyText) (registry : Option Registry) (policy : Option Policy)
    (adapter : Option (GraphAdapter σ)) (ev : PromotionEvent) (s : ApplyState σ) (p : Promotion T) : Prop where
  unchanged : ∀ answer t, applyRoadmapPromotion T registry policy adapter ev s = .ok (answer, t) →
    (∀ proposal transition graph, answer ≠ .applied proposal transition graph) →
    t.ledger = s.ledger ∧ t.applied = s.applied
  refused : ∀ g : Graph T registry (coercePolicy policy).1 adapter ev p, s.applied.get T p.key = none →
    (∃ r ∈ g.answers s.board, ¬r.Usable) → ∃ failure board, applyRoadmapPromotion T registry policy adapter ev s =
      .ok (.failed (p.answer T registry ev) p.key failure g.transition, { s with board := board })
  retried : ∀ time, ev.occurredAt ≤ time →
    let proposal := (proposeRoadmapPromotion T registry s.ledger policy ev).1
    let again := (proposeRoadmapPromotion T registry s.ledger policy { ev with occurredAt := time }).1
    again.decision = .propose ∧ again.idempotencyKey = proposal.idempotencyKey ∧
      again.candidates.map (·.idempotencyKey) = proposal.candidates.map (·.idempotencyKey)
  done : ∀ g : Graph T registry (coercePolicy policy).1 adapter ev p, s.applied.get T p.key = none →
    (∀ r ∈ g.answers s.board, r.Usable) → ∃ graph t, applyRoadmapPromotion T registry policy adapter ev s =
      .ok (.applied (p.answer T registry ev) g.transition graph, t) ∧
      t.applied = s.applied ++ [(p.key, graph.safe T)] ∧
      Recorded T p.key g.planKeys (g.taskIds s.board) (graph.safe T) ∧
      ∀ d, ReflTransGen (LedgerStep T) (t.ledger, t.applied) d →
        ∀ {τ : Type} (registry' : Option Registry) (policy' : Option Policy) (adapter' : Option (GraphAdapter τ))
          (ev' : PromotionEvent) (board : τ), ev'.eventId = ev.eventId →
          ∃ answer, applyRoadmapPromotion T registry' policy' adapter' ev' ⟨d.1, d.2, board⟩ =
            .ok (.duplicate answer p.key (graph.safe T), ⟨d.1, d.2, board⟩)

/-- A later try at the same event asks for the same promotion. -/
theorem judge_later {time : Int} {l : PromotionLedger} (later : ev.occurredAt ≤ time)
    (judged : judge T registry l policy ev = .ok p) : judge T registry l policy { ev with occurredAt := time } = .ok p := by
  obtain ⟨admitted, caps⟩ := judge_ok judged
  unfold judge at judged ⊢
  dsimp only at judged ⊢
  rw [admitted] at judged
  rw [show passGates T _ _ registry { ev with occurredAt := time } = .ok p.toAdmitted from admitted]
  unfold withinCaps at judged ⊢
  dsimp only at judged ⊢
  split at judged
  next => cases judged
  next shallow =>
    rw [if_neg shallow]
    split at judged
    next => cases judged
    next room =>
      rw [if_neg room]
      have cooled : (l.lastPromotionTime T p.transition.roadmapId).filter
          (fun last => time - last < cooldownMicros (coercePolicy policy).1) = none := by
        rw [Option.filter_eq_none_iff]
        intro last hlast
        have cool := caps.cooled last hlast
        simp only [decide_eq_true_eq]
        omega
      rw [cooled]
      split at judged
      next => cases judged
      next => exact judged

theorem answer_keys (registry : Option Registry) (ev : PromotionEvent) :
    (p.answer T registry ev).candidates.map (·.idempotencyKey) =
      ((p.template.steps.map TemplateStep.kind).map (p.key ++ ":" ++ ·)).map
        fun key => safeJobField T "idempotency_key" (safeJobField T "idempotency_key" key) := by
  rw [← @candidates_keys T p.transition p.template p.key p.depth (planSource T ev) "" p.template.steps]
  show ((List.map _ _).map (Candidate.asDict T)).map (·.idempotencyKey) = _
  rw [List.map_map, List.map_map, List.map_map]
  rfl

/-- A graph that may be applied and is not known is created, and nothing else. -/
theorem apply_graph (plain : T.Plain) (armed : (coercePolicy policy).1.applyEnabled = true)
    (judged : judge T registry s.ledger policy ev = .ok p) (new : s.ledger.hasEvent T (safeEvent T ev.eventId) = false)
    (g : Graph T registry (coercePolicy policy).1 adapter ev p) (missing : s.applied.get T p.key = none) :
    (∀ failure board, g.create s.board = (.error failure, board) → applyRoadmapPromotion T registry policy adapter ev s =
      .ok (.failed (p.answer T registry ev) p.key failure g.transition, { s with board := board })) ∧
    ∀ tasks board, g.create s.board = (.ok tasks, board) → applyRoadmapPromotion T registry policy adapter ev s =
      .ok (.applied (p.answer T registry ev) g.transition (g.graph tasks), {
        ledger := s.ledger.record T (p.receipt T registry ev)
        applied := s.applied.record T p.key (g.graph tasks)
        board := g.writer.recordSourceReceipt (g.receipt tasks) board }) := by
  have answered := proposeRoadmapPromotion_ok new judged
  have way := applied plain registry policy adapter ev s
  generalize applyRoadmapPromotion T registry policy adapter ev s = result at way
  have same : ∀ {q}, judge T registry s.ledger policy ev = .ok q → q = p := fun hq => Except.ok.inj (hq.symm.trans judged)
  cases way with
  | duplicate r graph proposal keyed known =>
    rw [← proposal, answered, applyKey_answer plain (judge_ok judged).2, missing] at known
    cases known
  | declined r proposal refused =>
    rw [← proposal, answered] at refused
    exact absurd rfl refused
  | disabled q new judged' unarmed =>
    rw [armed] at unarmed
    cases unarmed
  | stopped q reason judged' other bare =>
    obtain rfl := same judged'
    exact bare.elim g
  | raised q e judged' bare =>
    obtain rfl := same judged'
    exact bare.elim g
  | failed q g' failure board judged' missing' created =>
    obtain rfl := same judged'
    obtain rfl := g'.unique g
    refine ⟨fun failure' board' created' => ?_, fun tasks board' created' => ?_⟩
    · rw [created] at created'
      cases created'
      rfl
    · rw [created] at created'
      cases created'
  | applied q g' tasks board new' judged' armed' missing' created =>
    obtain rfl := same judged'
    obtain rfl := g'.unique g
    refine ⟨fun failure board' created' => ?_, fun tasks' board' created' => ?_⟩
    · rw [created] at created'
      cases created'
    · rw [created] at created'
      cases created'
      rfl

/-- A promotion that is recorded with its graph is remembered. -/
theorem Remembers.recorded (plain : T.Plain) (keyed : Reference T p.key) (l : PromotionLedger) {a : ApplyLedger}
    {graph : AppliedGraph} (missing : a.get T p.key = none) :
    Remembers T ev.eventId p.key (graph.safe T) (l.record T (p.receipt T registry ev), a.record T p.key graph) := by
  have event := safeEvent_reference (T := T) ev.eventId
  have stored : ((p.receipt T registry ev).safe T).eventId = safeEvent T ev.eventId := safe_event plain rfl
  have durable : safeDurableRef T (safeEvent T ev.eventId) = safeEvent T ev.eventId := event.durable plain
  have field : safeJobField T "idempotency_key" p.key = p.key := keyed.jobField plain _
  refine ⟨?_, ?_, ?_⟩
  · show List.any (l ++ [(p.receipt T registry ev).safe T]) _ = true
    rw [List.any_append, Bool.or_eq_true]
    refine .inr ?_
    simp [stored, durable]
  · show (PromotionLedger.decisionForEvent T (l ++ [(p.receipt T registry ev).safe T]) _).map _ = some p.key
    rw [decisionForEvent_latest (stored.trans durable.symm)]
    show some (safeJobField T "idempotency_key" (safeJobField T "idempotency_key" p.key)) = some p.key
    rw [field, field]
  · show (a.record T p.key graph).lookup (safeDurableRef T p.key) = some (graph.safe T)
    have absent : a.lookup (safeDurableRef T p.key) = none := missing
    rw [record_new missing, List.lookup_append, absent]
    simp

/-- Every apply of an armed proposal, by every adapter. -/
theorem apply_atomic (plain : T.Plain) (registry : Option Registry) (policy : Option Policy)
    (adapter : Option (GraphAdapter σ)) (ev : PromotionEvent) (s : ApplyState σ)
    (fresh : (proposeRoadmapPromotion T registry s.ledger policy ev).1.decision = .propose)
    (armed : (coercePolicy policy).1.applyEnabled = true) :
    ∃ p, judge T registry s.ledger policy ev = .ok p ∧ ApplyAtomic T registry policy adapter ev s p := by
  obtain ⟨p, judged, new, answered⟩ := (proposed T registry s.ledger policy ev).promotion fresh
  have keyed : Reference T p.key := by
    rw [(judge_ok judged).2.key]
    exact promotionKey_reference _ _ _
  have filled : p.key ≠ "" := by
    rw [(judge_ok judged).2.key]
    exact promotionKey_ne_empty plain _ _ _
  have way := applied plain registry policy adapter ev s
  refine ⟨p, judged, ⟨?_, ?_, ?_, ?_⟩⟩
  · intro answer t result other
    rw [result] at way
    cases way with
    | duplicate r graph proposal keyed known => exact ⟨rfl, rfl⟩
    | declined r proposal refused =>
      rw [← proposal] at refused
      exact absurd fresh refused
    | disabled q new judged unarmed =>
      rw [armed] at unarmed
      cases unarmed
    | stopped q reason judged other bare => exact ⟨rfl, rfl⟩
    | failed q g failure board judged missing created => exact ⟨rfl, rfl⟩
    | applied q g tasks board new judged armed missing created => exact absurd rfl (other _ _ _)
  · intro g missing refusal
    obtain ⟨failure, board, refused⟩ := createTasks_refused [] [] refusal
    refine ⟨failure, board, ?_⟩
    exact (apply_graph plain armed judged new g missing).1 failure board refused
  · intro time later
    have same : proposeRoadmapPromotion T registry s.ledger policy { ev with occurredAt := time } =
        (p.answer T registry { ev with occurredAt := time },
          s.ledger.record T (p.receipt T registry { ev with occurredAt := time })) :=
      proposeRoadmapPromotion_ok new (judge_later later judged)
    dsimp only
    rw [same, answered]
    refine ⟨rfl, rfl, ?_⟩
    dsimp only
    rw [answer_keys, answer_keys]
  · intro g missing usable
    obtain ⟨board, created⟩ := createTasks_done [] [] usable
    have done := (apply_graph plain armed judged new g missing).2 _ board created
    refine ⟨_, _, done, ?_, graph_recorded plain g created, ?_⟩
    · show s.applied.record T p.key _ = _
      rw [record_new missing, keyed.durable plain]
    · intro d moves τ registry' policy' adapter' ev' board' same
      have remembers := (Remembers.recorded plain keyed s.ledger missing).run plain moves
      exact remembers.duplicate plain keyed filled registry' policy' adapter' ev' same board'

end

section Samples

def armedPolicy : Policy := { singlePolicy with applyEnabled := true }

/-- A board that gives every task the same id. -/
def idBoard (taskId : String) : GraphAdapter Unit where
  createGraph _ _ := ({ success := true, taskId := taskId }, ())
  recordSourceReceipt _ _ := ()

theorem apply_atomic_once : ∃ p, judge asciiText (some (sliceRegistry "north-star")) [] (some armedPolicy) (goEvent "a1") = .ok p ∧
    ApplyAtomic asciiText (some (sliceRegistry "north-star")) (some armedPolicy) (some (idBoard "n1")) (goEvent "a1") ⟨[], [], ()⟩ p := by
  have fresh : (proposeRoadmapPromotion asciiText (some (sliceRegistry "north-star")) [] (some armedPolicy)
    (goEvent "a1")).1.decision = .propose := by decide +kernel
  have armed : (coercePolicy (some armedPolicy)).1.applyEnabled = true := by decide
  exact apply_atomic asciiText_plain (some (sliceRegistry "north-star")) (some armedPolicy) (some (idBoard "n1")) (goEvent "a1")
    ⟨[], [], ()⟩ fresh armed

/-- Ids that look like a local path are not recorded, and the recorded parents are not the tasks before them. -/
theorem apply_ids_redacted : ¬∀ (adapter : GraphAdapter Unit) answer t,
    applyRoadmapPromotion asciiText (some (sliceRegistry "north-star")) (some armedPolicy) (some adapter) (goEvent "a1")
      ⟨[], [], ()⟩ = .ok (answer, t) →
    ∀ f ∈ t.applied, f.2.tasks.map (·.parentTaskId) = ("" :: f.2.tasks.map (·.taskId)).dropLast := by
  intro claim
  have torn : (applyRoadmapPromotion asciiText (some (sliceRegistry "north-star")) (some armedPolicy) (some (idBoard "/tmp/t1"))
      (goEvent "a1") ⟨[], [], ()⟩).toOption.any (fun r => r.2.applied.any fun f =>
        f.2.tasks.map (·.parentTaskId) != ("" :: f.2.tasks.map (·.taskId)).dropLast) = true := by decide +kernel
  have chained := claim (idBoard "/tmp/t1")
  cases result : applyRoadmapPromotion asciiText (some (sliceRegistry "north-star")) (some armedPolicy)
      (some (idBoard "/tmp/t1")) (goEvent "a1") ⟨[], [], ()⟩ with
  | error e =>
    rw [result] at torn
    cases torn
  | ok r =>
    rw [result] at torn
    have some : r.2.applied.any (fun f => f.2.tasks.map (·.parentTaskId) != ("" :: f.2.tasks.map (·.taskId)).dropLast) = true := torn
    obtain ⟨f, hf, differs⟩ := List.any_eq_true.mp some
    exact bne_iff_ne.mp differs (chained r.1 r.2 result f hf)

end Samples

end AgentflowHermes.Roadmap
