import AgentflowHermes.RoadmapJudgement

namespace AgentflowHermes.Roadmap

/-- An answer that a graph can go on with: a success with a task id. -/
def CreateResult.Usable (r : CreateResult) : Prop := r.success = true ∧ r.taskId ≠ ""

section

variable {σ : Type} {adapter : GraphAdapter σ} {profile : String → TaskProfile} {c : Candidate} {cs : List Candidate}
  {keyToTaskId : List (String × String)} {created : List CreatedTask} {board : σ}

/-- What the adapter answers to the candidates, one after the other. -/
def answers (adapter : GraphAdapter σ) (profile : String → TaskProfile) : List Candidate → σ → List CreateResult
  | [], _ => []
  | c :: rest, board =>
    let result := adapter.createGraph (c.enriched (profile c.kind)) board
    result.1 :: answers adapter profile rest result.2

/-- The tasks that the ids of all answers make. -/
def tasksOf (profile : String → TaskProfile) : List (String × String) → List Candidate → List String → List CreatedTask
  | keyToTaskId, c :: cs, id :: ids =>
    let keyToTaskId := (c.idempotencyKey, id) :: keyToTaskId
    createdTask c (profile c.kind) id (parentTaskId keyToTaskId c.parentKey) :: tasksOf profile keyToTaskId cs ids
  | _, _, _ => []

theorem createTasks_usable (h : (adapter.createGraph (c.enriched (profile c.kind)) board).1.Usable) :
    createTasks adapter profile (c :: cs) keyToTaskId created board =
      let result := adapter.createGraph (c.enriched (profile c.kind)) board
      let keyToTaskId := (c.idempotencyKey, result.1.taskId) :: keyToTaskId
      createTasks adapter profile cs keyToTaskId
        (created ++ [createdTask c (profile c.kind) result.1.taskId (parentTaskId keyToTaskId c.parentKey)]) result.2 := by
  obtain ⟨success, named⟩ := h
  show ite _ _ (ite _ _ _) = _
  rw [if_neg (by simp [success]), if_neg named]

theorem createTasks_unusable (h : ¬(adapter.createGraph (c.enriched (profile c.kind)) board).1.Usable) :
    ∃ failure board', createTasks adapter profile (c :: cs) keyToTaskId created board = (.error failure, board') := by
  unfold createTasks
  dsimp only
  split
  next => exact ⟨_, _, rfl⟩
  next success =>
    split
    next => exact ⟨_, _, rfl⟩
    next named => exact absurd ⟨by simpa using success, named⟩ h

/-- One refused step is enough for nothing to be applied. -/
theorem createTasks_refused (keyToTaskId : List (String × String)) (created : List CreatedTask) (h : ∃ r ∈ answers adapter profile cs board, ¬r.Usable) :
    ∃ failure board', createTasks adapter profile cs keyToTaskId created board = (.error failure, board') := by
  induction cs generalizing keyToTaskId created board with
  | nil =>
    obtain ⟨r, hr, -⟩ := h
    cases hr
  | cons c rest ih =>
    by_cases usable : (adapter.createGraph (c.enriched (profile c.kind)) board).1.Usable
    · obtain ⟨r, hr, unusable⟩ := h
      rw [createTasks_usable usable]
      rcases List.mem_cons.mp hr with rfl | later
      · exact absurd usable unusable
      · exact ih _ _ ⟨r, later, unusable⟩
    · exact createTasks_unusable usable

theorem createTasks_done (keyToTaskId : List (String × String)) (created : List CreatedTask) (h : ∀ r ∈ answers adapter profile cs board, r.Usable) :
    ∃ board', createTasks adapter profile cs keyToTaskId created board =
      (.ok (created ++ tasksOf profile keyToTaskId cs ((answers adapter profile cs board).map (·.taskId))), board') := by
  induction cs generalizing keyToTaskId created board with
  | nil =>
    refine ⟨board, ?_⟩
    show (Except.ok created, board) = (.ok (created ++ []), board)
    rw [List.append_nil]
  | cons c rest ih =>
    have usable : (adapter.createGraph (c.enriched (profile c.kind)) board).1.Usable := h _ List.mem_cons_self
    have later := fun r hr => h r (List.mem_cons_of_mem _ hr)
    rw [createTasks_usable usable]
    obtain ⟨board', rest'⟩ := ih _ _ later
    refine ⟨board', rest'.trans ?_⟩
    rw [List.append_assoc]
    rfl

/-- A graph is applied only with every answer usable. -/
theorem createTasks_ok {tasks : List CreatedTask} {board' : σ}
    (h : createTasks adapter profile cs [] [] board = (.ok tasks, board')) :
    (∀ r ∈ answers adapter profile cs board, r.Usable) ∧
      tasks = tasksOf profile [] cs ((answers adapter profile cs board).map (·.taskId)) := by
  have all : ∀ r ∈ answers adapter profile cs board, r.Usable := by
    intro r hr
    by_contra unusable
    obtain ⟨failure, board'', refused⟩ := createTasks_refused [] [] ⟨r, hr, unusable⟩
    rw [refused] at h
    cases h
  obtain ⟨board'', done⟩ := createTasks_done [] [] all
  rw [done] at h
  obtain ⟨tasks, -⟩ := Prod.mk.inj h
  exact ⟨all, (Except.ok.inj tasks).symm⟩

end

section

variable {profile : String → TaskProfile} {cs : List Candidate} {ids : List String}

theorem tasksOf_ids (keyToTaskId : List (String × String)) (same : cs.length = ids.length) : (tasksOf profile keyToTaskId cs ids).map (·.taskId) = ids := by
  induction cs generalizing keyToTaskId ids with
  | nil =>
    obtain rfl := List.length_eq_zero_iff.mp same.symm
    rfl
  | cons c rest ih =>
    cases ids with
    | nil => cases same
    | cons id ids =>
      have later := ih ((c.idempotencyKey, id) :: keyToTaskId) (Nat.succ.inj same)
      simpa [tasksOf, createdTask] using later

theorem tasksOf_keys (keyToTaskId : List (String × String)) (same : cs.length = ids.length) :
    (tasksOf profile keyToTaskId cs ids).map (·.idempotencyKey) = cs.map (·.idempotencyKey) := by
  induction cs generalizing keyToTaskId ids with
  | nil => rfl
  | cons c rest ih =>
    cases ids with
    | nil => cases same
    | cons id ids =>
      have later := ih ((c.idempotencyKey, id) :: keyToTaskId) (Nat.succ.inj same)
      simpa [tasksOf, createdTask] using later

variable {T : PyText} {t : Transition} {template : ResolvedTemplate T} {key : String} {depth : Int} {s : PlanSource}

theorem candidateKey_ne_empty (key kind : String) : key ++ ":" ++ kind ≠ "" := by
  intro empty
  have chars := congrArg (fun s : String => s.toList.length) empty
  simp at chars

/-- Each task hangs under the one before it, since a key is only given once. -/
theorem tasksOf_parents {steps : List TemplateStep} (keyToTaskId : List (String × String)) (previous : String × String)
    (distinct : (steps.map TemplateStep.kind).Pairwise (· ≠ ·))
    (first : previous.1 = "" ∧ previous.2 = "" ∨
      (∃ kind, previous.1 = key ++ ":" ++ kind ∧ ∀ step ∈ steps, step.kind ≠ kind) ∧
        keyToTaskId.lookup previous.1 = some previous.2)
    (same : steps.length = ids.length) :
    (tasksOf profile keyToTaskId (candidates T t template key depth s previous.1 steps) ids).map (·.parentTaskId) =
      (previous.2 :: ids).dropLast := by
  induction steps generalizing keyToTaskId ids previous with
  | nil =>
    obtain rfl := List.length_eq_zero_iff.mp same.symm
    rfl
  | cons step rest ih =>
    cases ids with
    | nil => cases same
    | cons id ids =>
      obtain ⟨others, distinct⟩ := List.pairwise_cons.mp distinct
      have here : parentTaskId ((key ++ ":" ++ step.kind, id) :: keyToTaskId) previous.1 = previous.2 := by
        unfold parentTaskId
        rcases first with ⟨noKey, noId⟩ | ⟨⟨kind, keyed, apart⟩, found⟩
        · rw [if_pos noKey, noId]
        · have other : (previous.1 == key ++ ":" ++ step.kind) = false := by
            rw [beq_eq_false_iff_ne, keyed]
            intro same
            exact apart step List.mem_cons_self ((String.append_right_inj _).mp same).symm
          rw [if_neg (by rw [keyed]; exact candidateKey_ne_empty key kind), List.lookup_cons, other]
          exact congrArg (Option.getD · "") found
      have next : (key ++ ":" ++ step.kind, id).1 = "" ∧ (key ++ ":" ++ step.kind, id).2 = "" ∨
          (∃ kind, (key ++ ":" ++ step.kind, id).1 = key ++ ":" ++ kind ∧ ∀ later ∈ rest, later.kind ≠ kind) ∧
            ((key ++ ":" ++ step.kind, id) :: keyToTaskId).lookup (key ++ ":" ++ step.kind, id).1 = some id := by
        refine .inr ⟨⟨step.kind, rfl, fun later hl same => ?_⟩, List.lookup_cons_self⟩
        exact others later.kind (List.mem_map_of_mem hl) same.symm
      have later := ih ((key ++ ":" ++ step.kind, id) :: keyToTaskId) (key ++ ":" ++ step.kind, id) distinct next
        (Nat.succ.inj same)
      show parentTaskId ((key ++ ":" ++ step.kind, id) :: keyToTaskId) previous.1 :: _ = previous.2 :: (id :: ids).dropLast
      rw [here]
      exact congrArg (previous.2 :: ·) later

end

/-- Whether a promotion answers that its graph was applied by it. -/
def ApplyAnswer.isApplied : ApplyAnswer → Bool
  | applied .. => true
  | _ => false

/-- What a promotion comes to before the adapter is called: an answer, an exception, or a graph to create. -/
inductive Course
  | settled (answer : ApplyAnswer) (quiet : answer.isApplied = false) (ledger : PromotionLedger)
  | raised (e : String)
  | graph (profile : String → TaskProfile) (plan : List Candidate) (some : plan ≠ [])
      (failed : CreateFailure → ApplyAnswer) (quiet : ∀ f, (failed f).isApplied = false)
      (done : List CreatedTask → ApplyAnswer) (receipt : List CreatedTask → ApplyReceipt)
      (record : List CreatedTask → ApplyLedger) (ledger : PromotionLedger)

section

variable {σ : Type} (ledger : PromotionLedger) (applied : ApplyLedger)

/-- What a course comes to with an adapter on a board; a graph that is not finished leaves the ledgers as they are. -/
def Course.run (c : Course) (adapter : GraphAdapter σ) (board : σ) : Except String (ApplyAnswer × ApplyState σ) :=
  match c with
  | settled answer _ ledger' => .ok (answer, ⟨ledger', applied, board⟩)
  | raised e => .error e
  | graph profile plan _ failed _ done receipt record ledger' =>
    match createTasks adapter profile plan [] [] board with
    | (.error failure, board) => .ok (failed failure, ⟨ledger, applied, board⟩)
    | (.ok created, board) =>
      .ok (done created, ⟨ledger', record created, adapter.recordSourceReceipt (receipt created) board⟩)

variable {T : PyText}

theorem buildPlan_candidates {t : Transition} {template : ResolvedTemplate T} {key : String} {depth : Int}
    {s : PlanSource} : (buildPlan T t template key depth s).candidates ≠ [] := by
  have one := template.oneReview
  show candidates T t template key depth s "" template.steps ≠ []
  cases steps : template.steps with
  | nil =>
    rw [steps] at one
    cases one
  | cons step rest =>
    rw [candidates]
    exact List.cons_ne_nil _ _

theorem applyGraph_course (registry : Registry) (policy : Policy) (ev : PromotionEvent) (proposal : PromotionAnswer)
    (key : String) (shadow : PromotionLedger) :
    ∃ c : Course, ∀ {σ : Type} (adapter : GraphAdapter σ) (board : σ),
      applyGraph T registry policy (some adapter) ev proposal key shadow ⟨ledger, applied, board⟩ =
        c.run ledger applied adapter board := by
  let plan (transition : Transition) (template : ResolvedTemplate T) :=
    buildPlan T transition template key proposal.chainDepth (planSource T ev)
  unfold applyGraph
  cases registry.get? proposal.transitionId with
  | none => exact ⟨.settled _ rfl _, fun _ _ => rfl⟩
  | some transition =>
    dsimp only
    cases transition.template T with
    | error e => exact ⟨.raised e, fun _ _ => rfl⟩
    | ok template =>
      dsimp only
      by_cases many : ((plan transition template).candidates.length : Int) > policy.maxApplyTasksPerGraph
      · refine ⟨.settled (.proposalOnly proposal true "max_apply_tasks_per_graph") rfl ledger, fun _ _ => ?_⟩
        rw [if_pos many]
        rfl
      · refine ⟨.graph (applyTaskProfile T transition template policy) (plan transition template).candidates
          buildPlan_candidates
          (fun f => .failed proposal key f transition) (fun _ => rfl)
          (fun created => .applied proposal transition ⟨key, created.map (·.taskId), created,
            applyReceipt T registry ev transition key proposal.chainDepth created⟩)
          (fun created => applyReceipt T registry ev transition key proposal.chainDepth created)
          (fun created => applied.record T key ⟨key, created.map (·.taskId), created,
            applyReceipt T registry ev transition key proposal.chainDepth created⟩)
          (commitProposal ledger shadow), fun adapter board => ?_⟩
        rw [if_neg many]
        unfold Course.run
        dsimp only <;> rcases createTasks adapter (applyTaskProfile T transition template policy) (plan transition template).candidates
          [] [] board with ⟨_ | _, _⟩ <;> rfl

/-- What a promotion comes to does not depend on the adapter until its graph is created. -/
theorem applyRoadmapPromotion_course (T : PyText) (registry : Option Registry) (policy : Option Policy) (ev : PromotionEvent) :
    ∃ c : Course, ∀ {σ : Type} (adapter : GraphAdapter σ) (board : σ),
      applyRoadmapPromotion T registry policy (some adapter) ev ⟨ledger, applied, board⟩ =
        c.run ledger applied adapter board := by
  unfold applyRoadmapPromotion
  dsimp only
  generalize proposeRoadmapPromotion T registry ledger policy ev = proposed
  cases (if applyKeyFromProposal proposed.1 = "" then none else applied.get T (applyKeyFromProposal proposed.1)) with
  | some existing => exact ⟨.settled _ rfl _, fun _ _ => rfl⟩
  | none =>
    dsimp only
    by_cases proposes : proposed.1.decision ≠ .propose
    · refine ⟨.settled (.proposalOnly proposed.1 (coercePolicy policy).1.applyEnabled "") rfl
        (commitProposal ledger proposed.2), fun _ _ => ?_⟩
      rw [if_pos proposes]
      rfl
    by_cases enabled : !(coercePolicy policy).1.applyEnabled
    · refine ⟨.settled (.proposalOnly proposed.1 false "apply_disabled") rfl
        (commitProposal ledger proposed.2), fun _ _ => ?_⟩
      rw [if_neg proposes, if_pos enabled]
      rfl
    cases registry with
    | none =>
      refine ⟨.settled (.proposalOnly proposed.1 true "unknown_transition") rfl ledger, fun _ _ => ?_⟩
      rw [if_neg proposes, if_neg enabled]
      rfl
    | some registry =>
      obtain ⟨c, runs⟩ := @applyGraph_course ledger applied T registry (coercePolicy policy).1 ev proposed.1
        (applyKeyFromProposal proposed.1) proposed.2
      refine ⟨c, fun adapter board => ?_⟩
      rw [if_neg proposes, if_neg enabled]
      exact runs adapter board

end

end AgentflowHermes.Roadmap
