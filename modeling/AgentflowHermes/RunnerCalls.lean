import AgentflowHermes.LoopCommand
import AgentflowHermes.ProposalCaps

namespace AgentflowHermes.Loop

section

variable {T : PyText} {σ : Type} {P : σ → Prop} {a : LoopAdapter σ}

/-- What holds of a board goes on holding whatever the adapter does to it. -/
structure LoopAdapter.Keeps (P : σ → Prop) (a : LoopAdapter σ) : Prop where
  graph : ∀ c s, P s → P (a.createGraph c s).2
  receipt : ∀ r s, P s → P (a.recordSourceReceipt r s)
  intent : ∀ i s, P s → P (a.createIntent i s).2

theorem createTasks_keeps (keeps : a.Keeps P) (profile : String → Roadmap.TaskProfile) (plan : List Roadmap.Candidate)
    (keys : List (String × String)) (created : List Roadmap.CreatedTask) {board : σ} (holds : P board) :
    P (Roadmap.createTasks a.toGraphAdapter profile plan keys created board).2 := by
  induction plan generalizing keys created board with
  | nil => exact holds
  | cons c rest ih =>
    have made := keeps.graph (c.enriched (profile c.kind)) board holds
    unfold Roadmap.createTasks
    dsimp only
    split
    · exact made
    · split
      · exact made
      · exact ih _ _ made

theorem applyGraph_keeps (keeps : a.Keeps P) {registry : Roadmap.Registry} {policy : Roadmap.Policy}
    {ev : Roadmap.PromotionEvent} {proposal : Roadmap.PromotionAnswer} {key : String} {shadow : Roadmap.PromotionLedger}
    {s : Roadmap.ApplyState σ} {answer : Roadmap.ApplyAnswer} {after : Roadmap.ApplyState σ} (holds : P s.board)
    (h : Roadmap.applyGraph T registry policy (some a.toGraphAdapter) ev proposal key shadow s = .ok (answer, after)) :
    P after.board := by
  unfold Roadmap.applyGraph at h
  dsimp only at h
  split at h
  · cases h
    exact holds
  next t _ =>
    split at h
    · cases h
    next template _ =>
      split at h
      · cases h
        exact holds
      · have made := createTasks_keeps keeps (Roadmap.applyTaskProfile T t template policy)
          (Roadmap.buildPlan T t template key proposal.chainDepth (Roadmap.planSource T ev)).candidates [] [] holds
        split at h
        next run =>
          cases h
          rw [run] at made
          exact made
        next run =>
          cases h
          rw [run] at made
          exact keeps.receipt _ _ made

theorem applyRoadmapPromotion_keeps (keeps : a.Keeps P) {registry : Option Roadmap.Registry} {policy : Roadmap.Policy}
    {ev : Roadmap.PromotionEvent} {s : Roadmap.ApplyState σ} {answer : Roadmap.ApplyAnswer} {after : Roadmap.ApplyState σ}
    (h : Roadmap.applyRoadmapPromotion T registry (some policy) (some a.toGraphAdapter) ev s = .ok (answer, after)) :
    ((Roadmap.proposeRoadmapPromotion T registry s.ledger (some policy) ev).1.decision ≠ .propose → after.board = s.board) ∧
      (P s.board → P after.board) := by
  have idle : after.board = s.board → ((Roadmap.proposeRoadmapPromotion T registry s.ledger (some policy) ev).1.decision ≠
      .propose → after.board = s.board) ∧ (P s.board → P after.board) := fun same => ⟨fun _ => same, fun holds => same ▸ holds⟩
  unfold Roadmap.applyRoadmapPromotion at h
  dsimp only at h
  split at h
  · cases h
    exact idle rfl
  · split at h
    · cases h
      exact idle rfl
    next proposed =>
      rw [not_not] at proposed
      refine ⟨fun other => absurd proposed other, fun holds => ?_⟩
      split at h
      · cases h
        exact holds
      · split at h
        · cases h
          exact holds
        · exact applyGraph_keeps keeps holds h

variable {adapter : Option (LoopAdapter σ)}

theorem remediationStep_keeps (keeps : ∀ a ∈ adapter, a.Keeps P) (req : RemediationRequest) (blocker base kind : String)
    {g : Progress σ} (holds : P g.board) : P (remediationStep T req adapter blocker base g kind).board := by
  unfold remediationStep
  dsimp only
  split
  · exact holds
  · split
    · exact holds
    · split
      · exact holds
      next a =>
        split
        · exact holds
        · split
          · exact holds
          · exact (keeps a rfl).intent _ _ holds

theorem steps_keeps (keeps : ∀ a ∈ adapter, a.Keeps P) (req : RemediationRequest) (blocker base : String)
    (kinds : List String) {g : Progress σ} (holds : P g.board) :
    P (kinds.foldl (remediationStep T req adapter blocker base) g).board := by
  induction kinds generalizing g with
  | nil => exact holds
  | cons kind kinds ih => exact ih (remediationStep_keeps keeps req blocker base kind holds)

theorem blockers_keeps (keeps : ∀ a ∈ adapter, a.Keeps P) (req : RemediationRequest) (blockers : List String)
    {g : Progress σ} (holds : P g.board) : P (blockers.foldl (remediateBlocker T req adapter) g).board := by
  induction blockers generalizing g with
  | nil => exact holds
  | cons blocker rest ih =>
    refine ih ?_
    unfold remediateBlocker
    dsimp only
    split
    · exact holds
    · exact steps_keeps keeps req blocker _ _ holds

theorem proposeRemediationGraph_keeps (keeps : ∀ a ∈ adapter, a.Keeps P) (req : RemediationRequest) {board : σ}
    (holds : P board) : P (proposeRemediationGraph T req adapter board).2 := by
  unfold proposeRemediationGraph
  dsimp only
  split
  · exact holds
  · split
    · exact holds
    · exact blockers_keeps keeps req _ holds

theorem resolveStaleFinalCandidate_keeps (keeps : ∀ a ∈ adapter, a.Keeps P) (oldFinal review : List (String × Json))
    (origin returnTo : String) (policy : GraphPolicy) {board : σ} (holds : P board) :
    P (resolveStaleFinalCandidate T oldFinal review origin returnTo policy adapter board).2 := by
  unfold resolveStaleFinalCandidate
  dsimp only
  split
  · exact holds
  · split
    · exact holds
    · split
      next a =>
        split
        · exact (keeps a rfl).intent _ _ holds
        · exact holds
      · exact holds

/-! The steps of a graph of which one blocker may be created. -/

/-- How many steps the blockers of a list have. -/
def stepsOf (blockers : List String) : Nat := blockers.foldr (fun b steps => (candidateSequence b).length + steps) 0

/-- The counters after steps that created nothing: as many for the source as there were steps, up to the cap. -/
structure Passed (T : PyText) (req : RemediationRequest) (start : σ) (steps : Nat) (g : Progress σ) : Prop where
  board : g.board = start
  attempts : g.attempts = 0
  source : isSourced T req = true → g.srcCount = min req.policy.maxProposalsPerSource.toNat steps

variable {req : RemediationRequest} {blocker base : String} {start : σ}

/-- One step for a blocker that nothing is created for. -/
theorem remediationStep_passed (caps : req.policy.maxProposalsPerBlockerClass = req.policy.maxProposalsPerSource)
    (shut : req.policy.applyGated blocker = false) (kind : String) {steps : Nat} {g : Progress σ}
    (passed : Passed T req start steps g) (within : isSourced T req = true → g.count blocker ≤ g.srcCount) :
    let g' := remediationStep T req (some a) blocker base g kind
    Passed T req start (steps + 1) g' ∧ (isSourced T req = true → g'.count blocker ≤ g'.srcCount) ∧
      ∀ other, other ≠ blocker → g'.count other = g.count other := by
  unfold remediationStep
  dsimp only
  split
  next full =>
    refine ⟨⟨passed.board, passed.attempts, fun sourced => ?_⟩, within, fun _ _ => rfl⟩
    have below := within sourced
    have counted := passed.source sourced
    show g.srcCount = _
    rw [caps] at full
    omega
  next free =>
    split
    next full =>
      refine ⟨⟨passed.board, passed.attempts, fun sourced => ?_⟩, within, fun _ _ => rfl⟩
      have counted := passed.source sourced
      have reached := full.2
      show g.srcCount = _
      omega
    next free' =>
      rw [shut]
      refine ⟨⟨passed.board, passed.attempts, fun sourced => ?_⟩, fun sourced => ?_, fun other apart => ?_⟩
      · have counted := passed.source sourced
        have sourced' : safeDurableRef T req.sourceRef ≠ "" := by simpa [isSourced] using sourced
        have room : ¬(g.srcCount : Int) ≥ req.policy.maxProposalsPerSource := fun full => free' ⟨sourced', full⟩
        show (if safeDurableRef T req.sourceRef ≠ "" then g.srcCount + 1 else g.srcCount) = _
        rw [if_pos sourced']
        omega
      · have below := within sourced
        have sourced' : safeDurableRef T req.sourceRef ≠ "" := by simpa [isSourced] using sourced
        show (Progress.count { g with blockerCounts := (blocker, g.count blocker + 1) :: g.blockerCounts } blocker) ≤
          (if safeDurableRef T req.sourceRef ≠ "" then g.srcCount + 1 else g.srcCount)
        rw [count_cons, if_pos rfl, if_pos sourced']
        omega
      · show Progress.count { g with blockerCounts := (blocker, g.count blocker + 1) :: g.blockerCounts } other = _
        rw [count_cons, if_neg apart]

theorem steps_passed (caps : req.policy.maxProposalsPerBlockerClass = req.policy.maxProposalsPerSource)
    (shut : req.policy.applyGated blocker = false) (kinds : List String) {steps : Nat} {g : Progress σ}
    (passed : Passed T req start steps g) (within : isSourced T req = true → g.count blocker ≤ g.srcCount) :
    let g' := kinds.foldl (remediationStep T req (some a) blocker base) g
    Passed T req start (steps + kinds.length) g' ∧ ∀ other, other ≠ blocker → g'.count other = g.count other := by
  dsimp only
  induction kinds generalizing g steps with
  | nil => exact ⟨passed, fun _ _ => rfl⟩
  | cons kind kinds ih =>
    obtain ⟨passed', within', others⟩ := @remediationStep_passed T σ a req blocker base start caps shut kind steps g passed within
    obtain ⟨passed'', others'⟩ := ih passed' within'
    refine ⟨?_, fun other apart => (others' other apart).trans (others other apart)⟩
    rw [List.length_cons, Nat.add_comm kinds.length, ← Nat.add_assoc]
    exact passed''

/-- Blockers that nothing is created for, each for the first time. -/
theorem blockers_passed (absent : ∀ key s, a.listExisting key s = false)
    (caps : req.policy.maxProposalsPerBlockerClass = req.policy.maxProposalsPerSource) (blockers : List String)
    (shut : ∀ b ∈ blockers, req.policy.applyGated b = false) (distinct : blockers.Nodup) {steps : Nat} {g : Progress σ}
    (passed : Passed T req start steps g) (new : ∀ b ∈ blockers, g.count b = 0) :
    let g' := blockers.foldl (remediateBlocker T req (some a)) g
    Passed T req start (steps + stepsOf blockers) g' ∧ ∀ other ∉ blockers, g'.count other = g.count other := by
  dsimp only
  induction blockers generalizing g steps with
  | nil => exact ⟨passed, fun _ _ => rfl⟩
  | cons b rest ih =>
    obtain ⟨apart, distinct⟩ := List.nodup_cons.mp distinct
    have unlisted : remediateBlocker T req (some a) g b = (candidateSequence b).foldl
        (remediationStep T req (some a) b (baseKey T b (orText req.sourceRef req.summary))) { g with prevIdem := "" } := by
      simp [remediateBlocker, absent]
    have fresh : Passed T req start steps { g with prevIdem := "" } := ⟨passed.board, passed.attempts, passed.source⟩
    have zero : ({ g with prevIdem := "" } : Progress σ).count b = 0 := new b List.mem_cons_self
    obtain ⟨passed', others⟩ := @steps_passed T σ a req b (baseKey T b (orText req.sourceRef req.summary)) start caps
      (shut b List.mem_cons_self) (candidateSequence b) steps _ fresh (fun _ => by rw [zero]; exact Nat.zero_le _)
    rw [← unlisted] at passed' others
    obtain ⟨passed'', others'⟩ := ih (fun c mem => shut c (List.mem_cons_of_mem _ mem)) distinct passed' fun c mem => by
      rw [others c fun same => apart (same ▸ mem)]
      exact new c (List.mem_cons_of_mem _ mem)
    refine ⟨?_, fun other out => ?_⟩
    · have total : steps + stepsOf (b :: rest) = steps + (candidateSequence b).length + stepsOf rest := by
        simp [stepsOf, Nat.add_assoc]
      rw [total]
      exact passed''
    · rw [List.mem_cons, not_or] at out
      exact (others' other out.2).trans (others other out.1)

theorem blockers_shut (blockers : List String) (shut : ∀ b ∈ blockers, req.policy.applyGated b = false) (g : Progress σ) :
    (blockers.foldl (remediateBlocker T req (some a)) g).board = g.board := by
  have step : ∀ b, req.policy.applyGated b = false → ∀ base kind (g : Progress σ),
      (remediationStep T req (some a) b base g kind).board = g.board := by
    intro b shut base kind g
    unfold remediationStep
    dsimp only
    rw [shut]
    split
    · rfl
    · split
      · rfl
      · rfl
  have steps : ∀ b, req.policy.applyGated b = false → ∀ base (kinds : List String) (g : Progress σ),
      (kinds.foldl (remediationStep T req (some a) b base) g).board = g.board := by
    intro b shut base kinds
    induction kinds with
    | nil => exact fun _ => rfl
    | cons kind kinds ih => exact fun g => (ih _).trans (step b shut base kind g)
  induction blockers generalizing g with
  | nil => rfl
  | cons b rest ih =>
    rw [List.foldl_cons, ih (fun c mem => shut c (List.mem_cons_of_mem _ mem))]
    unfold remediateBlocker
    dsimp only
    split
    · rfl
    · exact steps b (shut b List.mem_cons_self) _ _ _

/-- Whether there is room for one more intent of a blocker that has none, after so many steps for the source. -/
def Room (T : PyText) (req : RemediationRequest) (steps : Nat) : Prop :=
  0 < req.policy.maxProposalsPerSource ∧ (isSourced T req = true → (steps : Int) < req.policy.maxProposalsPerSource)

/-- Without room no step of a blocker does anything. -/
theorem steps_full (caps : req.policy.maxProposalsPerBlockerClass = req.policy.maxProposalsPerSource) {steps : Nat}
    (full : ¬Room T req steps) (kinds : List String) {g : Progress σ} (passed : Passed T req start steps g) :
    (kinds.foldl (remediationStep T req (some a) blocker base) g).board = start := by
  induction kinds generalizing g with
  | nil => exact passed.board
  | cons kind kinds ih =>
    have refused : ∃ reason, remediationStep T req (some a) blocker base g kind =
        { g with candidates := g.candidates ++ [.noop (base ++ ":" ++ kind) blocker reason] } := by
      unfold remediationStep
      dsimp only
      split
      · exact ⟨_, rfl⟩
      next free =>
        split
        · exact ⟨_, rfl⟩
        next free' =>
          refine absurd ⟨?_, fun sourced => ?_⟩ full
          · rw [caps] at free
            omega
          · have counted := passed.source sourced
            have sourced' : safeDurableRef T req.sourceRef ≠ "" := by simpa [isSourced] using sourced
            have left : ¬(g.srcCount : Int) ≥ req.policy.maxProposalsPerSource := fun reached => free' ⟨sourced', reached⟩
            omega
    obtain ⟨reason, same⟩ := refused
    rw [List.foldl_cons, same]
    exact ih ⟨passed.board, passed.attempts, passed.source⟩

/-- With room the first step of a blocker creates an intent. -/
theorem remediationStep_creates (caps : req.policy.maxProposalsPerBlockerClass = req.policy.maxProposalsPerSource)
    (gated : req.policy.applyGated blocker = true) {steps : Nat} (room : Room T req steps) (kind : String) {g : Progress σ}
    (passed : Passed T req start steps g) (new : g.count blocker = 0) :
    ∃ i, (remediationStep T req (some a) blocker base g kind).board = (a.createIntent i start).2 := by
  have budget : 0 < req.policy.maxAutoCreatesPerRun := by
    simp only [GraphPolicy.applyGated, Bool.and_eq_true, decide_eq_true_eq] at gated
    exact gated.2
  unfold remediationStep
  dsimp only
  rw [if_neg (by rw [new, caps]; exact Int.not_le.mpr room.1)]
  split
  next full =>
    have counted := passed.source (by simpa [isSourced] using full.1)
    have left := room.2 (by simpa [isSourced] using full.1)
    have reached := full.2
    omega
  next =>
    rw [gated, passed.attempts, if_neg (by simp), if_neg (by simpa using budget), passed.board]
    exact ⟨_, rfl⟩

/-- The one blocker that is let through creates something exactly where it is named and has room. -/
theorem proposeRemediationGraph_creates (keeps : a.Keeps P) (made : ∀ i s, P (a.createIntent i s).2)
    (absent : ∀ key s, a.listExisting key s = false)
    (caps : req.policy.maxProposalsPerBlockerClass = req.policy.maxProposalsPerSource)
    (only : ∀ other, other ≠ blocker → req.policy.applyGated other = false) (untouched : ¬P start) :
    P (proposeRemediationGraph T req (some a) start).2 ↔
      req.policy.applyGated blocker = true ∧ blocker ∈ (parseVerdictSummary T req.summary).blockers ∧
        Room T req (stepsOf ((parseVerdictSummary T req.summary).blockers.takeWhile (· ≠ blocker))) := by
  have found : (parseVerdictSummary T req.summary).blockers = detectBlockers T req.summary ∨
      (parseVerdictSummary T req.summary).blockers = [] := ite_eq_or_eq _ _ _
  unfold proposeRemediationGraph
  dsimp only
  split
  next other =>
    have none' : (parseVerdictSummary T req.summary).blockers = [] := by
      unfold parseVerdictSummary
      dsimp only
      exact if_neg (by rw [not_or]; exact other)
    rw [none']
    exact ⟨fun touched => absurd touched untouched, fun h => absurd h.2.1 List.not_mem_nil⟩
  next =>
    split
    next none' =>
      rw [none']
      exact ⟨fun touched => absurd touched untouched, fun h => absurd h.2.1 List.not_mem_nil⟩
    next some' =>
      have distinct : (parseVerdictSummary T req.summary).blockers.Nodup := by
        rcases found with found | found
        · rw [found]
          exact detectBlockers_nodup _
        · exact absurd found some'
      generalize (parseVerdictSummary T req.summary).blockers = blockers at distinct
      by_cases named : blocker ∈ blockers
      · obtain ⟨before, after, rfl⟩ := List.append_of_mem named
        obtain ⟨distinct', _, apart⟩ := List.nodup_append.mp distinct
        have earlier : ∀ b ∈ before, b ≠ blocker := fun b mem => apart b mem blocker List.mem_cons_self
        have later : ∀ b ∈ after, b ≠ blocker := fun b mem same => by
          have inner := (List.nodup_append.mp distinct).2.1
          exact (List.nodup_cons.mp inner).1 (same ▸ mem)
        have front : (before ++ blocker :: after).takeWhile (· ≠ blocker) = before := by
          rw [List.takeWhile_append_of_pos (by simpa using earlier), List.takeWhile_cons_of_neg (by simp), List.append_nil]
        have fresh : Passed T req start 0 { board := start } := ⟨rfl, rfl, fun _ => (Nat.min_zero _).symm⟩
        obtain ⟨passed, others⟩ := blockers_passed absent caps before (fun b mem => only b (earlier b mem)) distinct' fresh
          fun _ _ => rfl
        have new : ((before.foldl (remediateBlocker T req (some a)) { board := start }) : Progress σ).count blocker = 0 :=
          others blocker fun mem => earlier blocker mem rfl
        have unlisted (g : Progress σ) : remediateBlocker T req (some a) g blocker = (candidateSequence blocker).foldl
            (remediationStep T req (some a) blocker (baseKey T blocker (orText req.sourceRef req.summary)))
              { g with prevIdem := "" } := by
          simp [remediateBlocker, absent]
        rw [List.foldl_append, List.foldl_cons, blockers_shut after fun b mem => only b (later b mem), front, unlisted]
        rw [Nat.zero_add] at passed
        have passed : Passed T req start (stepsOf before)
            { before.foldl (remediateBlocker T req (some a)) { board := start } with prevIdem := "" } :=
          ⟨passed.board, passed.attempts, passed.source⟩
        constructor
        · intro touched
          by_cases gated : req.policy.applyGated blocker = true
          · refine ⟨gated, named, ?_⟩
            by_contra full
            rw [steps_full caps full _ passed] at touched
            exact untouched touched
          · rw [Bool.not_eq_true] at gated
            have shut := @steps_passed T σ a req blocker (baseKey T blocker (orText req.sourceRef req.summary)) start caps gated
              (candidateSequence blocker) _ _ passed (fun _ => (Nat.le_of_eq new).trans (Nat.zero_le _))
            rw [shut.1.board] at touched
            exact absurd touched untouched
        · rintro ⟨gated, _, room⟩
          have first : ∃ kinds, candidateSequence blocker = "fix" :: kinds := by
            unfold candidateSequence
            split
            · exact ⟨_, rfl⟩
            · exact ⟨_, rfl⟩
          obtain ⟨kinds, sequence⟩ := first
          rw [sequence, List.foldl_cons]
          refine steps_keeps (fun _ same => Option.some.inj same ▸ keeps) req blocker _ kinds ?_
          obtain ⟨i, created⟩ := @remediationStep_creates T σ a req blocker (baseKey T blocker (orText req.sourceRef req.summary))
            start caps gated _ room "fix" _ passed new
          rw [created]
          exact made i start
      · have shut : ∀ b ∈ blockers, req.policy.applyGated b = false := fun b mem => only b fun same => named (same ▸ mem)
        rw [blockers_shut blockers shut]
        exact ⟨fun touched => absurd touched untouched, fun h => absurd h.2.1 named⟩

end

/-! The two adapters. -/

/-- The tool was run. -/
def CommandState.ran {ι : Type} (s : CommandState ι) : Prop := s.commands ≠ []

section

variable {T : PyText} {ι : Type} {env : CommandEnv ι}

theorem realCreateGraph_ran (task : GraphTask) (s : CommandState ι) : (realCreateGraph T env task s).2.ran := by
  have subscribed (task : GraphTask) (taskId : String) (s : CommandState ι) (ran : s.ran) :
      (subscribeIfNeeded T env task taskId s).2.ran := by
    unfold subscribeIfNeeded
    split
    · exact ran
    · split
      · exact ran
      · dsimp only [runTool]
        split
        · exact List.append_ne_nil_of_right_ne_nil _ (List.cons_ne_nil _ _)
        · split
          · exact List.append_ne_nil_of_right_ne_nil _ (List.cons_ne_nil _ _)
          · exact List.append_ne_nil_of_right_ne_nil _ (List.cons_ne_nil _ _)
  have ran : ∀ argv, (runTool env argv s).2.ran := fun _ => List.append_ne_nil_of_right_ne_nil _ (List.cons_ne_nil _ _)
  unfold realCreateGraph
  dsimp only
  generalize (if task.parentKey = "" then "" else (s.taskIds.lookup task.parentKey).getD "") = parent
  split
  · exact ran _
  · split
    · exact ran _
    · split
      · split
        · exact ran _
        · split
          · exact subscribed _ _ _ (ran _)
          · exact subscribed _ _ _ (ran _)
      · exact ran _

theorem real_keeps : (realKanbanGraphAdapter T env).Keeps CommandState.ran where
  graph c s _ := realCreateGraph_ran (candidateTask c) s
  receipt _ _ ran := ran
  intent i s _ := realCreateGraph_ran i.task s

theorem fake_keeps : (fakeKanbanGraphAdapter (ι := ι)).Keeps fun s => ¬s.ran where
  graph _ _ idle := idle
  receipt _ _ idle := idle
  intent _ _ idle := idle

/-! The paths of an evaluation. -/

/-- An event that comes past the first checks. -/
structure Enters (T : PyText) (p : LoopPolicy) (ev : LoopEvent) (ledger : LoopLedger) : Prop where
  new : ledger.hasEvent T ev.eventId = false
  sound : p.malformed = false
  alive : p.killSwitch = false
  active : p.activeMode ≠ "disabled"
  origin : originOk ev p = true

/-- The cards that a supersession looks at. -/
def oldFinalOf (ev : LoopEvent) : List (String × Json) :=
  if ev.oldFinalCard = [] then [("id", .str ev.sourceFinalId), ("status", .str "blocked")] else ev.oldFinalCard

def reviewOf (ev : LoopEvent) : List (String × Json) :=
  if ev.remediationReviewCard = [] then
    [("id", .str ev.remediationReviewId), ("body", .str (orText ev.summary "Verdict: GO"))] else ev.remediationReviewCard

/-- A final is superseded through the adapter. -/
structure SupersedesOnBoard (T : PyText) (p : LoopPolicy) (ev : LoopEvent) (ledger : LoopLedger) : Prop where
  asked : supersedes ev = true
  passed : supersessionRefusal T ev p = none
  new : ledger.hasIdempotencyKey T (finalSupersessionKey T ev) = false
  stale : Cards.Superseding T (oldFinalOf ev) (reviewOf ev)
  budget : 0 < p.maxAutoCreatesPerRun

/-- The request that a BLOCK makes of the graph creator. -/
def remediationOf (T : PyText) (p : LoopPolicy) (ev : LoopEvent) : RemediationRequest where
  summary := orText ev.summary ("Verdict: BLOCK — " ++ blockerOf T ev)
  sourceRef := orText ev.sourceTaskId ev.sourceGraphId
  origin := ev.origin
  returnTo := ev.returnTo
  policy := graphPolicy p (blockerOf T ev)

/-- A BLOCK is remediated through the adapter: its blocker is one that its summary names, and the steps of the blockers
that are named before leave room for one more. -/
structure RemediatesOnBoard (T : PyText) (p : LoopPolicy) (ev : LoopEvent) (ledger : LoopLedger) (now : Int) : Prop where
  plain : supersedes ev = false
  block : verdictOf T ev = "BLOCK"
  bounded : ∃ rounds, boundedRound T ev p now (blockerOf T ev) ledger = .ok rounds
  budget : 0 < p.maxAutoCreatesPerRun
  named : blockerOf T ev ∈ (parseVerdictSummary T (remediationOf T p ev).summary).blockers
  room : Room T (remediationOf T p ev) (stepsOf
    ((parseVerdictSummary T (remediationOf T p ev).summary).blockers.takeWhile (· ≠ blockerOf T ev)))

section

variable {T : PyText} {σ : Type} {p : LoopPolicy} {ev : LoopEvent} {args : LoopArgs σ} {s : LoopState σ}

theorem coercePolicy_sound (sound : p.malformed = false) : coercePolicy (some p) = (p, false) := if_neg (by simp [sound])

theorem evaluateLoopEvent_barred (barred : ¬Enters T p ev s.receipts) :
    ∃ d s', evaluateLoopEvent T (some p) args ev s = .ok (d, s') ∧ s'.board = s.board := by
  unfold evaluateLoopEvent
  dsimp only
  by_cases new : s.receipts.hasEvent T ev.eventId = true
  · rw [if_pos new]
    exact ⟨_, _, rfl, rfl⟩
  rw [if_neg new]
  by_cases malformed : p.malformed = true
  · have coerced : coercePolicy (some p) = ({ killSwitch := true }, true) := if_pos malformed
    rw [coerced, if_pos rfl]
    exact ⟨_, _, rfl, rfl⟩
  rw [Bool.not_eq_true] at malformed new
  rw [coercePolicy_sound malformed, if_neg (by simp)]
  by_cases dead : p.killSwitch = true
  · rw [if_pos dead]
    exact ⟨_, _, rfl, rfl⟩
  rw [if_neg dead]
  by_cases disabled : p.activeMode = "disabled"
  · rw [if_pos disabled]
    exact ⟨_, _, rfl, rfl⟩
  rw [if_neg disabled]
  by_cases foreign : originOk ev p = true
  · exact absurd ⟨new, malformed, by simpa using dead, disabled, foreign⟩ barred
  · rw [if_pos (by simpa using foreign)]
    exact ⟨_, _, rfl, rfl⟩

theorem record_board (b : Bool) (s : LoopState σ) (d d' : LoopDecision) :
    (if b = true then record s d else record s d').2.board = s.board := by
  cases b with
  | true => rfl
  | false => rfl

theorem evaluateSupersession_keeps {P : σ → Prop} {adapter : Option (LoopAdapter σ)} (keeps : ∀ a ∈ adapter, a.Keeps P)
    (now : Int) (holds : P s.board) : P (evaluateSupersession T ev p now adapter s).2.board := by
  unfold evaluateSupersession
  dsimp only
  split
  · exact holds
  · split
    · exact holds
    · rw [record_board]
      exact resolveStaleFinalCandidate_keeps keeps _ _ _ _ _ holds

theorem evaluateBlock_keeps {P : σ → Prop} {adapter : Option (LoopAdapter σ)} (keeps : ∀ a ∈ adapter, a.Keeps P)
    (creator : args.graphCreator = none) (now : Int) (blocker : String) (holds : P s.board) :
    P (evaluateBlock T ev p now blocker args adapter s).2.board := by
  unfold evaluateBlock
  rw [creator]
  split
  · exact holds
  · exact proposeRemediationGraph_keeps keeps _ holds

theorem attachRoadmapAutopromote_keeps {P : σ → Prop} {adapter : Option (LoopAdapter σ)} (keeps : ∀ a ∈ adapter, a.Keeps P)
    {d d' : LoopDecision} {s' : LoopState σ} {now : Int} (silent : d.saysApplied = false) (holds : P s.board)
    (h : attachRoadmapAutopromote T d ev p now args adapter s = .ok (d', s')) : P s'.board := by
  by_cases armed : Armed p
  · cases adapter with
    | none =>
      unfold attachRoadmapAutopromote at h
      rw [if_neg (by simp [armed.auto])] at h
      dsimp only at h
      rw [if_pos armed.applies] at h
      cases h
      exact holds
    | some a =>
      rw [attachRoadmapAutopromote_armed armed] at h
      obtain ⟨⟨answer, after⟩, applied, h⟩ := bind_ok' h
      cases h
      exact (applyRoadmapPromotion_keeps (keeps a rfl) applied).2 holds
  · rw [(attachRoadmapAutopromote_unarmed silent armed h).1]
    exact holds

/-- What an evaluation comes to past the first checks. -/
theorem evaluateLoopEvent_entered (enters : Enters T p ev s.receipts) : evaluateLoopEvent T (some p) args ev s =
    if supersedes ev then .ok (evaluateSupersession T ev p (timeOf ev args.clock) (p.allowed args.adapter) s)
    else if verdictOf T ev = "GO" then
      (attachRoadmapAutopromote T (goDecision T (some p) ev args.clock) ev p (timeOf ev args.clock) args
        (p.allowed args.adapter) s).bind fun result => .ok (record result.2 result.1)
    else if verdictOf T ev = "NEED_MORE" then
      .ok (record s (decision T ev .escalate "needs_input" p (timeOf ev args.clock) { verdict := verdictOf T ev }))
    else if verdictOf T ev ≠ "BLOCK" then
      .ok (record s (decision T ev .escalate "unknown_verdict" p (timeOf ev args.clock) { verdict := verdictOf T ev }))
    else .ok (evaluateBlock T ev p (timeOf ev args.clock) (blockerOf T ev) args (p.allowed args.adapter) s) := by
  unfold evaluateLoopEvent goDecision
  rw [coercePolicy_sound enters.sound]
  dsimp only
  rw [if_neg (by simp [enters.new]), if_neg (by simp), if_neg (by simp [enters.alive]), if_neg enters.active,
    if_neg (by simp [enters.origin])]
  rfl

end

section

variable {T : PyText} {σ : Type} {p : LoopPolicy} {ev : LoopEvent} {args : LoopArgs σ} {s : LoopState σ}

/-- What an adapter keeps goes through an evaluation. -/
theorem evaluateLoopEvent_keeps {P : σ → Prop} (keeps : ∀ a ∈ p.allowed args.adapter, a.Keeps P) {d : LoopDecision}
    {s' : LoopState σ} (creator : args.graphCreator = none) (holds : P s.board)
    (h : evaluateLoopEvent T (some p) args ev s = .ok (d, s')) : P s'.board := by
  by_cases enters : Enters T p ev s.receipts
  · rw [evaluateLoopEvent_entered enters] at h
    split at h
    · have after : s' = _ := (congrArg Prod.snd (Except.ok.inj h)).symm
      rw [after]
      exact evaluateSupersession_keeps keeps _ holds
    · split at h
      · obtain ⟨⟨d', after⟩, attached, h⟩ := bind_ok' h
        have kept : P after.board := attachRoadmapAutopromote_keeps keeps goDecision_silent holds attached
        cases h
        exact kept
      · split at h
        · cases h
          exact holds
        · split at h
          · cases h
            exact holds
          · have after : s' = _ := (congrArg Prod.snd (Except.ok.inj h)).symm
            rw [after]
            exact evaluateBlock_keeps keeps creator _ _ holds
  · obtain ⟨_, _, result, same⟩ := @evaluateLoopEvent_barred T _ p ev args s enters
    rw [h] at result
    cases result
    rw [same]
    exact holds

end

section

variable {T : PyText} {ι : Type} {env : CommandEnv ι} {p : LoopPolicy} {ev : LoopEvent} {s : LoopState (CommandState ι)}
  {args : LoopArgs (CommandState ι)}

/-- A supersession runs the tool exactly where it is made on the board. -/
theorem evaluateSupersession_ran (enters : Enters T p ev s.receipts) (effective : p.applyEffectivelyEnabled = true)
    (asked : supersedes ev = true) (idle : ¬s.board.ran) (now : Int) :
    (evaluateSupersession T ev p now (some (realKanbanGraphAdapter T env)) s).2.board.ran ↔
      SupersedesOnBoard T p ev s.receipts := by
  have mode : p.activeMode = "apply" := by
    simp only [LoopPolicy.applyEffectivelyEnabled, Bool.and_eq_true, decide_eq_true_eq] at effective
    exact effective.1
  unfold evaluateSupersession
  dsimp only
  split
  next reason refused =>
    refine ⟨fun ran => absurd ran idle, fun made => ?_⟩
    rw [made.passed] at refused
    cases refused
  next passed =>
    split
    next known =>
      refine ⟨fun ran => absurd ran idle, fun made => ?_⟩
      rw [made.new] at known
      cases known
    next fresh =>
      have listed : p.allowlistedBlockers.contains "stale_final_fanin" = true := by
        unfold supersessionRefusal at passed
        split at passed
        · cases passed
        next listed => simpa using listed
      have gated : (graphPolicy p "stale_final_fanin").applyGated "stale_final_fanin" =
          decide (0 < p.maxAutoCreatesPerRun) := by
        unfold GraphPolicy.applyGated graphPolicy
        dsimp only
        rw [effective, mode, enters.alive, if_pos listed]
        simp
      have board : (resolveStaleFinalCandidate T (oldFinalOf ev) (reviewOf ev) ev.origin ev.returnTo
          (graphPolicy p "stale_final_fanin") (some (realKanbanGraphAdapter T env)) s.board).2.ran ↔
            Cards.Superseding T (oldFinalOf ev) (reviewOf ev) ∧ 0 < p.maxAutoCreatesPerRun := by
        unfold resolveStaleFinalCandidate
        dsimp only
        split
        next early =>
          refine ⟨fun ran => absurd ran idle, fun made => ?_⟩
          rw [made.1.finished] at early
          cases early
        next finished =>
          split
          next absent =>
            refine ⟨fun ran => absurd ran idle, fun made => ?_⟩
            have go := made.1.go
            rw [Bool.not_eq_true', ← Bool.not_eq_true] at absent
            exact absurd go absent
          next go =>
            rw [Bool.not_eq_true', Bool.not_eq_false] at finished go
            rw [gated]
            split
            next budget => exact ⟨fun _ => ⟨⟨finished, go⟩, by simpa using budget⟩, fun _ => realCreateGraph_ran _ _⟩
            next spent => exact ⟨fun ran => absurd ran idle, fun made => absurd (by simpa using made.2) spent⟩
      have same : (SupersedesOnBoard T p ev s.receipts) ↔
          Cards.Superseding T (oldFinalOf ev) (reviewOf ev) ∧ 0 < p.maxAutoCreatesPerRun :=
        ⟨fun made => ⟨made.stale, made.budget⟩, fun h => ⟨asked, passed, by simpa using fresh, h.1, h.2⟩⟩
      rw [same, ← board]
      exact iff_of_eq (congrArg CommandState.ran (record_board _ _ _ _))

end

theorem boundedRound_listed {now : Int} {blocker : String} {ledger : LoopLedger} {rounds : Int × Int}
    (h : boundedRound T ev p now blocker ledger = .ok rounds) :
    blocker ≠ "" ∧ p.allowlistedBlockers.contains blocker = true := by
  unfold boundedRound at h
  dsimp only at h
  split at h
  · cases h
  next named =>
    split at h
    · cases h
    next listed => exact ⟨named, by simpa using listed⟩

/-- A BLOCK runs the tool exactly where it is remediated on the board. -/
theorem evaluateBlock_ran (enters : Enters T p ev s.receipts) (effective : p.applyEffectivelyEnabled = true)
    (plain : supersedes ev = false) (block : verdictOf T ev = "BLOCK") (creator : args.graphCreator = none)
    (idle : ¬s.board.ran) (now : Int) :
    (evaluateBlock T ev p now (blockerOf T ev) args (some (realKanbanGraphAdapter T env)) s).2.board.ran ↔
      RemediatesOnBoard T p ev s.receipts now := by
  have mode : p.activeMode = "apply" := by
    simp only [LoopPolicy.applyEffectivelyEnabled, Bool.and_eq_true, decide_eq_true_eq] at effective
    exact effective.1
  unfold evaluateBlock
  rw [creator]
  split
  next refused =>
    refine ⟨fun ran => absurd ran idle, fun made => ?_⟩
    obtain ⟨rounds, bounded⟩ := made.bounded
    rw [bounded] at refused
    cases refused
  next ledgerMaxRound effectiveRound bounded =>
    obtain ⟨named, listed⟩ := boundedRound_listed bounded
    have gated (b : String) : (remediationOf T p ev).policy.applyGated b =
        (decide (b = blockerOf T ev) && decide (0 < p.maxAutoCreatesPerRun)) := by
      unfold GraphPolicy.applyGated remediationOf graphPolicy
      dsimp only
      rw [effective, mode, enters.alive, if_pos listed]
      by_cases same : b = blockerOf T ev
      · simp [same, named]
      · simp [same]
    have created := @proposeRemediationGraph_creates T _ CommandState.ran (realKanbanGraphAdapter T env) (remediationOf T p ev)
      (blockerOf T ev) s.board real_keeps (fun i s => realCreateGraph_ran i.task s) (fun _ _ => rfl) rfl
      (fun other apart => by rw [gated, decide_eq_false apart, Bool.false_and]) idle
    rw [gated, decide_eq_true rfl, Bool.true_and, decide_eq_true_eq] at created
    refine Iff.trans created ⟨?_, ?_⟩
    · rintro ⟨budget, mem, room⟩
      exact ⟨plain, block, ⟨_, bounded⟩, budget, mem, room⟩
    · exact fun made => ⟨made.budget, made.named, made.room⟩

/-- A GO runs the tool only where its promotion is eligible and applied. -/
theorem attachRoadmapAutopromote_ran {d d' : LoopDecision} {s' : LoopState (CommandState ι)} {now : Int}
    (silent : d.saysApplied = false) (idle : ¬s.board.ran)
    (h : attachRoadmapAutopromote T d ev p now args (some (realKanbanGraphAdapter T env)) s = .ok (d', s'))
    (ran : s'.board.ran) : Armed p ∧
      (Roadmap.proposeRoadmapPromotion T args.registry (s.promotions.getD []) (some (roadmapPolicy p))
        (promotionEvent ev now)).1.decision = .propose ∧
      ∃ answer after, Roadmap.applyRoadmapPromotion T args.registry (some (roadmapPolicy p))
        (some (realKanbanGraphAdapter T env).toGraphAdapter) (promotionEvent ev now)
        ⟨s.promotions.getD [], s.applied.getD [], s.board⟩ = .ok (answer, after) ∧ after.board = s'.board := by
  by_cases armed : Armed p
  · rw [attachRoadmapAutopromote_armed armed] at h
    obtain ⟨⟨answer, after⟩, applied, h⟩ := bind_ok' h
    cases h
    refine ⟨armed, ?_, answer, after, applied, rfl⟩
    by_contra other
    have same := (applyRoadmapPromotion_keeps real_keeps applied).1 other
    have kept : after.board.ran := ran
    rw [same] at kept
    exact idle kept
  · have same := (attachRoadmapAutopromote_unarmed silent armed h).1
    rw [same] at ran
    exact absurd ran idle

end

/-- The settings with which the adapter of a command runs the tool. -/
def RealSelected {ι : Type} (env : CommandEnv ι) (p : LoopPolicy) : Prop :=
  p.activeMode = "apply" ∧ p.applyEnabled = true ∧ p.roadmapBoardAdapterMode = "real" ∧ p.roadmapApplyEnabled = true ∧
    env.hermes = true

/-- The tool is run for something else than a roadmap step. -/
structure Diverted {ι : Type} (T : PyText) (env : CommandEnv ι) (c : LoopCommand) : Prop where
  selected : RealSelected env c.policy
  enters : Enters T c.policy c.event c.receipts
  path : SupersedesOnBoard T c.policy c.event c.receipts ∨
    RemediatesOnBoard T c.policy c.event c.receipts (timeOf c.event env.clock)

/-- The board is what an eligible promotion of a GO, with all five settings, makes of it. -/
structure Promotes {ι : Type} (T : PyText) (env : CommandEnv ι) (c : LoopCommand) (world : ι) (board : CommandState ι) :
    Prop where
  plain : supersedes c.event = false
  go : verdictOf T c.event = "GO"
  mode : c.policy.activeMode = "apply"
  applyEnabled : c.policy.applyEnabled = true
  autoContinue : c.policy.roadmapAutoContinue = true
  roadmapApplyEnabled : c.policy.roadmapApplyEnabled = true
  real : c.policy.roadmapBoardAdapterMode = "real"
  eligible : (Roadmap.proposeRoadmapPromotion T c.registry [] (some (roadmapPolicy c.policy))
    (promotionEvent c.event (timeOf c.event env.clock))).1.decision = .propose
  applied : ∃ answer after, Roadmap.applyRoadmapPromotion T c.registry (some (roadmapPolicy c.policy))
    (some (realKanbanGraphAdapter T env).toGraphAdapter) (promotionEvent c.event (timeOf c.event env.clock))
    ⟨[], [], { world }⟩ = .ok (answer, after) ∧ after.board = board

section

variable {T : PyText} {ι : Type} {env : CommandEnv ι}

theorem selectLoopAdapter_cases (p : LoopPolicy) :
    (RealSelected env p ∧ p.allowed (selectLoopAdapter T env p) = some (realKanbanGraphAdapter T env)) ∨
      (¬RealSelected env p ∧ ∀ a ∈ p.allowed (selectLoopAdapter T env p), a.Keeps fun s => ¬s.ran) := by
  unfold LoopPolicy.allowed selectLoopAdapter
  by_cases effective : p.applyEffectivelyEnabled = true
  · rw [if_pos effective, if_neg (by simpa using effective)]
    have gate : p.activeMode = "apply" ∧ p.applyEnabled = true := by
      simpa [LoopPolicy.applyEffectivelyEnabled] using effective
    by_cases requested : p.roadmapBoardAdapterMode = "real" ∧ p.roadmapApplyEnabled = true
    · rw [if_pos (by simp [requested])]
      by_cases hermes : env.hermes = true
      · exact .inl ⟨⟨gate.1, gate.2, requested.1, requested.2, hermes⟩, if_pos hermes⟩
      · refine .inr ⟨fun selected => hermes selected.2.2.2.2, ?_⟩
        rw [if_neg hermes]
        exact fun _ none' => nomatch none'
    · refine .inr ⟨fun selected => requested ⟨selected.2.2.1, selected.2.2.2.1⟩, ?_⟩
      rw [if_neg (by simpa using requested)]
      exact fun _ same => Option.some.inj same ▸ fake_keeps
  · refine .inr ⟨fun selected => effective ?_, ?_⟩
    · simp [LoopPolicy.applyEffectivelyEnabled, selected.1, selected.2.1]
    · rw [if_neg effective]
      exact fun _ none' => nomatch none'

theorem evaluate_board {c : LoopCommand} {world : ι} {P : CommandState ι → Prop} (begun : P (c.start world).board)
    (done : ∀ d s', evaluateLoopEvent T (some c.policy) (c.args T env) c.event (c.start world) = .ok (d, s') → P s'.board) :
    P (c.evaluate T env world).2 := by
  unfold LoopCommand.evaluate
  split
  next d s' h => exact done d s' h
  · exact begun

/-- An evaluation runs the tool for promotions only, unless it is diverted. -/
theorem evaluate_promotes_iff (c : LoopCommand) (world : ι) :
    ((c.evaluate T env world).2.ran → Promotes T env c world (c.evaluate T env world).2) ↔ ¬Diverted T env c := by
  have idle : ¬(c.start world).board.ran := fun ran => ran rfl
  have quiet : ¬(c.evaluate T env world).2.ran → ¬Diverted T env c →
      (((c.evaluate T env world).2.ran → Promotes T env c world (c.evaluate T env world).2) ↔ ¬Diverted T env c) :=
    fun unran straight => iff_of_true (fun ran => absurd ran unran) straight
  have unran := @evaluate_board T ι env c world (fun board => ¬board.ran) idle
  by_cases enters : Enters T c.policy c.event (c.start world).receipts
  · rcases @selectLoopAdapter_cases T ι env c.policy with ⟨selected, real⟩ | ⟨other, keeps⟩
    · have effective : c.policy.applyEffectivelyEnabled = true := by
        simp [LoopPolicy.applyEffectivelyEnabled, selected.1, selected.2.1]
      have entered := @evaluateLoopEvent_entered T _ c.policy c.event (c.args T env) (c.start world) enters
      rw [show c.policy.allowed (c.args T env).adapter = some (realKanbanGraphAdapter T env) from real] at entered
      by_cases asked : supersedes c.event = true
      · rw [if_pos asked] at entered
        have result : (c.evaluate T env world).2 = (evaluateSupersession T c.event c.policy (timeOf c.event env.clock)
            (some (realKanbanGraphAdapter T env)) (c.start world)).2.board := by
          unfold LoopCommand.evaluate
          rw [entered]
          rfl
        have ran : (c.evaluate T env world).2.ran ↔ SupersedesOnBoard T c.policy c.event (c.start world).receipts := by
          rw [result]
          exact evaluateSupersession_ran enters effective asked idle _
        constructor
        · intro only diverted
          rcases diverted.path with made | made
          · exact absurd asked (by rw [(only (ran.mpr made)).plain]; decide)
          · exact absurd asked (by rw [made.plain]; decide)
        · exact fun straight done => absurd ⟨selected, enters, .inl (ran.mp done)⟩ straight
      · rw [if_neg asked] at entered
        have plain : supersedes c.event = false := by simpa using asked
        by_cases go : verdictOf T c.event = "GO"
        · rw [if_pos go] at entered
          refine iff_of_true ?_ fun diverted => ?_
          · refine @evaluate_board T ι env c world (fun board => board.ran → Promotes T env c world board)
              (fun ran => absurd ran idle) fun d s' h ran => ?_
            rw [entered] at h
            obtain ⟨⟨d', after⟩, attached, h⟩ := bind_ok' h
            have same : s'.board = after.board := by
              cases h
              rfl
            rw [same] at ran ⊢
            obtain ⟨armed, eligible, answer, after', applied, board⟩ :=
              attachRoadmapAutopromote_ran goDecision_silent idle attached ran
            exact ⟨plain, go, selected.1, selected.2.1, armed.auto, selected.2.2.2.1, selected.2.2.1, eligible, answer, after',
              applied, board⟩
          · rcases diverted.path with made | made
            · exact asked made.asked
            · rw [made.block] at go
              exact absurd go (by decide)
        · rw [if_neg go] at entered
          by_cases block : verdictOf T c.event = "BLOCK"
          · rw [if_neg (by rw [block]; decide), if_neg (by rw [block]; decide)] at entered
            have result : (c.evaluate T env world).2 = (evaluateBlock T c.event c.policy (timeOf c.event env.clock)
                (blockerOf T c.event) (c.args T env) (some (realKanbanGraphAdapter T env)) (c.start world)).2.board := by
              unfold LoopCommand.evaluate
              rw [entered]
              rfl
            have ran : (c.evaluate T env world).2.ran ↔
                RemediatesOnBoard T c.policy c.event (c.start world).receipts (timeOf c.event env.clock) := by
              rw [result]
              exact evaluateBlock_ran enters effective plain block rfl idle _
            constructor
            · intro only diverted
              rcases diverted.path with made | made
              · exact asked made.asked
              · exact go (only (ran.mpr made)).go
            · exact fun straight done => absurd ⟨selected, enters, .inr (ran.mp done)⟩ straight
          · refine quiet (unran fun d s' h => ?_) fun diverted => ?_
            · rw [entered] at h
              split at h
              · cases h
                exact idle
              · cases h
                exact idle
            · rcases diverted.path with made | made
              · exact asked made.asked
              · exact block made.block
    · exact quiet (unran fun d s' h => evaluateLoopEvent_keeps keeps rfl idle h)
        fun diverted => other diverted.selected
  · refine quiet (unran fun d s' h => ?_) fun diverted => enters diverted.enters
    obtain ⟨_, _, result, same⟩ :=
      @evaluateLoopEvent_barred T _ c.policy c.event (c.args T env) (c.start world) enters
    rw [h] at result
    cases result
    rw [same]
    exact idle

end

/-- The tool is run only while a promotion is applied. -/
def OnlyPromotions {ι : Type} (T : PyText) (env : CommandEnv ι) (line : CommandLine) (input : Except CommandFailure Fixture)
    (world : ι) : Prop :=
  (runLoopEvaluate T env line input world).2.ran → ∃ c, line.read T env input = .ok c ∧
    Promotes T env c world (runLoopEvaluate T env line input world).2

theorem real_runner_iff {ι : Type} (T : PyText) (env : CommandEnv ι) (line : CommandLine)
    (input : Except CommandFailure Fixture) (world : ι) :
    OnlyPromotions T env line input world ↔ ∀ c, line.read T env input = .ok c → ¬Diverted T env c := by
  unfold OnlyPromotions runLoopEvaluate
  cases read : line.read T env input with
  | error e => exact ⟨fun _ c same => (by cases same), fun _ ran => absurd rfl ran⟩
  | ok c =>
    have each := @evaluate_promotes_iff T ι env c world
    constructor
    · intro only c' same
      cases same
      refine each.mp fun ran => ?_
      obtain ⟨c', same, promotes⟩ := only ran
      cases same
      exact promotes
    · intro kept ran
      exact ⟨c, rfl, each.mpr (kept c rfl) ran⟩

/-- A tool that is installed and creates `t_1`. -/
def installedTool : CommandEnv Unit where
  hermes := true
  runner _ _ := (some (0, "created"), ())
  loads _ := some (.obj [("task_id", .str "t_1")])
  int
    | .int n => some n
    | _ => none
  ensureActiveWakeAck _ _ _ := (true, ())

/-- A fixture with a BLOCK, and the real adapter asked for. -/
def blockFixture : Fixture where
  event := [("event_id", .str "e1"), ("source_graph_id", .str "g1"), ("verdict", .str "BLOCK"),
    ("summary", .str "Verdict: BLOCK stale final"), ("blocker_class", .str "stale_final_fanin"),
    ("subscription_status", .str "verified"), ("policy_resolution_ref", .str "p1")]
  policy := [("active_mode", .str "apply"), ("apply_enabled", .bool true), ("roadmap_apply_enabled", .bool true),
    ("roadmap_board_adapter_mode", .str "real"), ("allowlisted_blockers", .arr [.str "stale_final_fanin"])]

theorem real_runner_remediates : ¬∀ (line : CommandLine) (input : Except CommandFailure Fixture),
    OnlyPromotions asciiText installedTool line input () := by
  intro only
  have ran : (runLoopEvaluate asciiText installedTool {} (.ok blockFixture) ()).2.ran := by
    have some' : (runLoopEvaluate asciiText installedTool {} (.ok blockFixture) ()).2.commands.isEmpty = false := by
      decide +kernel
    intro none'
    rw [none'] at some'
    cases some'
  obtain ⟨c, read, promotes⟩ := only {} (.ok blockFixture) ran
  have block : ∀ c ∈ (CommandLine.read asciiText installedTool {} (.ok blockFixture)).toOption,
      verdictOf asciiText c.event = "BLOCK" := by
    intro c mem
    have same : ((CommandLine.read asciiText installedTool {} (.ok blockFixture)).toOption.map
        fun c => verdictOf asciiText c.event) = some "BLOCK" := by decide +kernel
    rw [mem, Option.map_some, Option.some.injEq] at same
    exact same
  have now := block c (by rw [read]; rfl)
  rw [promotes.go] at now
  exact absurd now (by decide)

end AgentflowHermes.Loop
