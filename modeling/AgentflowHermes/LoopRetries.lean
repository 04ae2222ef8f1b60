import AgentflowHermes.LoopStorms
import AgentflowHermes.RoadmapCourses
import AgentflowHermes.ShortTexts

namespace AgentflowHermes.Loop

section

variable {σ : Type}

/-- The adapter with a log of its creates: whether each came through. A roadmap task without an id did not. -/
def LoopAdapter.logged (a : LoopAdapter σ) : LoopAdapter (σ × List Bool) where
  createGraph c board :=
    let result := a.createGraph c board.1
    (result.1, (result.2, board.2 ++ [result.1.success && result.1.taskId ≠ ""]))
  recordSourceReceipt receipt board := (a.recordSourceReceipt receipt board.1, board.2)
  createIntent intent board :=
    let result := a.createIntent intent board.1
    (result.1, (result.2, board.2 ++ [result.1.success]))
  listExisting key board := a.listExisting key board.1

/-- What an event is evaluated with, by the graph creator of the module. -/
structure LoopCase where
  event : LoopEvent
  policy : Option LoopPolicy
  registry : Option Roadmap.Registry
  promoter : Option Promoter
  clock : Int

def LoopCase.args (c : LoopCase) (a : LoopAdapter σ) : LoopArgs (σ × List Bool) where
  adapter := some a.logged
  registry := c.registry
  promoter := c.promoter
  clock := c.clock

/-- The state with an empty log. -/
def LoopState.logging (s : LoopState σ) : LoopState (σ × List Bool) := ⟨s.receipts, s.promotions, s.applied, (s.board, [])⟩

/-- The decision of a case with an adapter, and the log of its creates beside the board. -/
def LoopCase.evaluate (T : PyText) (c : LoopCase) (a : LoopAdapter σ) (s : LoopState σ) :
    Except String (LoopDecision × LoopState (σ × List Bool)) :=
  evaluateLoopEvent T c.policy (c.args a) c.event s.logging

/-- The state without the log. -/
def LoopState.unlogged (s : LoopState (σ × List Bool)) : LoopState σ := ⟨s.receipts, s.promotions, s.applied, s.board.1⟩

/-- Whether a decision, or the roadmap answer with it, says that a graph was applied. -/
def LoopDecision.saysApplied (d : LoopDecision) : Bool :=
  d.applied || d.roadmap.any fun
    | .applied answer => answer.isApplied
    | .proposed _ => false

/-- Every create of the adapter comes through, and it lists nothing. -/
structure LoopAdapter.Working (a : LoopAdapter σ) : Prop where
  graph : ∀ c board, (a.createGraph c board).1.success = true ∧ (a.createGraph c board).1.taskId ≠ ""
  intent : ∀ i board, (a.createIntent i board).1.success = true
  fresh : ∀ key board, a.listExisting key board = false

/-- What is claimed of an evaluation that does not raise. -/
structure Retryable (T : PyText) (c : LoopCase) (s : LoopState σ) (d : LoopDecision) (s' : LoopState (σ × List Bool)) : Prop where
  applied : d.saysApplied = true → true ∈ s'.board.2
  retried : false ∈ s'.board.2 → ∀ a : LoopAdapter σ, a.Working →
    ∃ d' s'', c.evaluate T a s'.unlogged = .ok (d', s'') ∧ d'.reason ≠ "duplicate_event" ∧ s''.board.2 ≠ []
  uncounted : false ∈ s'.board.2 → ∀ graph blocker,
    s'.receipts.maxRoundForGraph T graph = s.receipts.maxRoundForGraph T graph ∧
      s'.receipts.countBlocker T graph blocker = s.receipts.countBlocker T graph blocker ∧
      s'.receipts.lastActionTime T graph blocker = s.receipts.lastActionTime T graph blocker

/-- The creates of a graph go into the log, up to the first that does not come through. -/
theorem createTasks_logged (a : LoopAdapter σ) (profile : String → Roadmap.TaskProfile) (plan : List Roadmap.Candidate)
    (keyToTaskId : List (String × String)) (created : List Roadmap.CreatedTask) (board : σ) (log : List Bool) :
    ∃ result board' more,
      Roadmap.createTasks a.logged.toGraphAdapter profile plan keyToTaskId created (board, log) =
        (result, (board', log ++ more)) ∧ (plan ≠ [] → more ≠ []) ∧ (false ∈ more ↔ ∃ f, result = .error f) := by
  induction plan generalizing keyToTaskId created board log with
  | nil => exact ⟨.ok created, board, [], by rw [List.append_nil]; rfl, by simp, by simp⟩
  | cons c rest ih =>
    have call : a.logged.createGraph (c.enriched (profile c.kind)) (board, log) =
        ((a.createGraph (c.enriched (profile c.kind)) board).1, ((a.createGraph (c.enriched (profile c.kind)) board).2,
          log ++ [(a.createGraph (c.enriched (profile c.kind)) board).1.success &&
            (a.createGraph (c.enriched (profile c.kind)) board).1.taskId ≠ ""])) := rfl
    rw [Roadmap.createTasks, call]
    dsimp only
    generalize a.createGraph (c.enriched (profile c.kind)) board = answer
    by_cases success : answer.1.success = true
    · rw [if_neg (by simp [success])]
      by_cases named : answer.1.taskId = ""
      · rw [if_pos named]
        exact ⟨_, _, [answer.1.success && decide (answer.1.taskId ≠ "")], rfl, by simp, by simp [named]⟩
      · rw [if_neg named]
        obtain ⟨result, board', more, run, -, failed⟩ := ih ((c.idempotencyKey, answer.1.taskId) :: keyToTaskId)
          (created ++ [Roadmap.createdTask c (profile c.kind) answer.1.taskId
            (Roadmap.parentTaskId ((c.idempotencyKey, answer.1.taskId) :: keyToTaskId) c.parentKey)]) answer.2
          (log ++ [answer.1.success && decide (answer.1.taskId ≠ "")])
        refine ⟨result, board', (answer.1.success && decide (answer.1.taskId ≠ "")) :: more, run.trans ?_, by simp, ?_⟩
        · rw [List.append_assoc, List.singleton_append]
        · rw [← failed]
          simp [success, named]
    · rw [if_pos (by simpa using success)]
      exact ⟨_, _, [answer.1.success && decide (answer.1.taskId ≠ "")], rfl, by simp, by simp [success]⟩

/-- The attempts of a remediation graph are its creates. -/
structure Logged (g : Progress (σ × List Bool)) : Prop where
  attempts : g.attempts = g.board.2.length

variable {T : PyText} {a : Option (LoopAdapter σ)}

theorem remediationStep_logged (req : RemediationRequest) (blocker base kind : String) {g : Progress (σ × List Bool)}
    (h : Logged g) : Logged (remediationStep T req (a.map LoopAdapter.logged) blocker base g kind) := by
  unfold remediationStep
  dsimp only
  split
  · exact ⟨h.attempts⟩
  split
  · exact ⟨h.attempts⟩
  cases a with
  | none => exact ⟨h.attempts⟩
  | some a =>
    dsimp only [Option.map_some]
    split
    · exact ⟨h.attempts⟩
    split
    · exact ⟨h.attempts⟩
    · refine ⟨?_⟩
      show g.attempts + 1 = (g.board.2 ++ [_]).length
      rw [List.length_append, h.attempts, List.length_singleton]

theorem remediateBlocker_logged (req : RemediationRequest) {g : Progress (σ × List Bool)} (h : Logged g) (blocker : String) :
    Logged (remediateBlocker T req (a.map LoopAdapter.logged) g blocker) := by
  unfold remediateBlocker
  dsimp only
  split
  · exact ⟨h.attempts⟩
  · have start : Logged { g with prevIdem := "" } := ⟨h.attempts⟩
    revert start
    generalize ({ g with prevIdem := "" } : Progress (σ × List Bool)) = start
    generalize candidateSequence blocker = kinds
    intro logged
    induction kinds generalizing start with
    | nil => exact logged
    | cons kind rest ih => exact ih _ (remediationStep_logged req blocker _ kind logged)

theorem proposeRemediationGraph_logged (req : RemediationRequest) (board : σ) :
    (proposeRemediationGraph T req (a.map LoopAdapter.logged) (board, [])).1.adapterAttempts =
      (proposeRemediationGraph T req (a.map LoopAdapter.logged) (board, [])).2.2.length := by
  unfold proposeRemediationGraph
  dsimp only
  split
  · rfl
  split
  · rfl
  · have start : Logged ({ board := (board, []) } : Progress (σ × List Bool)) := ⟨rfl⟩
    have run (blockers : List String) (g : Progress (σ × List Bool)) (h : Logged g) :
        Logged (blockers.foldl (remediateBlocker T req (a.map LoopAdapter.logged)) g) := by
      induction blockers generalizing g with
      | nil => exact h
      | cons blocker rest ih => exact ih _ (remediateBlocker_logged req h blocker)
    exact (run _ _ start).attempts

theorem resolveStaleFinalCandidate_logged (oldFinal review : List (String × Json)) (origin returnTo : String)
    (policy : GraphPolicy) (board : σ) :
    (resolveStaleFinalCandidate T oldFinal review origin returnTo policy (a.map LoopAdapter.logged) (board, [])).1.adapterAttempts =
      (resolveStaleFinalCandidate T oldFinal review origin returnTo policy (a.map LoopAdapter.logged) (board, [])).2.2.length ∧
    ((resolveStaleFinalCandidate T oldFinal review origin returnTo policy (a.map LoopAdapter.logged) (board, [])).1.success = false →
      (resolveStaleFinalCandidate T oldFinal review origin returnTo policy (a.map LoopAdapter.logged) (board, [])).2.2 = []) := by
  unfold resolveStaleFinalCandidate
  dsimp only
  split
  · exact ⟨rfl, fun _ => rfl⟩
  split
  · exact ⟨rfl, fun _ => rfl⟩
  cases a with
  | none => exact ⟨rfl, fun _ => rfl⟩
  | some a =>
    dsimp only [Option.map_some]
    split
    · exact ⟨rfl, fun refused => by cases refused⟩
    · exact ⟨rfl, fun _ => rfl⟩

end

end AgentflowHermes.Loop
