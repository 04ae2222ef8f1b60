import AgentflowHermes.LoopRemediation

namespace AgentflowHermes.Loop

open BacktrackRegex

/-- A proposal that was made before. -/
abbrev PriorProposal := List (String × Json)

namespace PriorProposal

variable (p : PriorProposal)

/-- The blocker that a prior proposal counts for. -/
def blocker : Option String := match p.lookup "blocker" with
  | some (.str b) => if b = "" then none else some b
  | _ => none

/-- `(p.get("metadata") or {}).get("source_ref_safe")`. -/
def source : Option String := match p.lookup "metadata" with
  | some (.obj metadata) => match metadata.lookup "source_ref_safe" with
    | some (.str s) => some s
    | _ => none
  | _ => none

/-- The storm guard can count a prior proposal: its blocker can be a key, and where sources count, its metadata is a dict. -/
def countable (sourced : Bool) : Bool :=
  let blocker := match p.lookup "blocker" with
    | some (.arr items) => items.isEmpty
    | some (.obj fields) => fields.isEmpty
    | _ => true
  let metadata := match p.lookup "metadata" with
    | some (.obj _) => true
    | some value => !value.truthy
    | none => true
  blocker && (!sourced || metadata)

/-- A prior proposal is of a base key. -/
def covers (T : PyText) (base : String) : Bool :=
  (match p.lookup "idempotency_key" with
    | some (.str key) => key = base
    | _ => false) ||
  (base ++ ":").toList.isPrefixOf (T.strOr (p.lookup "idempotency_key") "").toList

end PriorProposal

/-- A policy that `_coerce_policy` leaves as it is. -/
def GraphPolicy.wellFormed (p : GraphPolicy) : Bool :=
  ["request_only", "observe_only", "apply"].contains p.activeMode && 0 ≤ p.maxProposalsPerSource &&
    0 ≤ p.maxProposalsPerBlockerClass && 0 ≤ p.maxAutoCreatesPerRun

/-- `_coerce_policy`. -/
def coerceGraphPolicy : Option GraphPolicy → GraphPolicy
  | none => {}
  | some p => if p.wellFormed then p else { killSwitch := true }

section

variable (T : PyText) {σ : Type}

def isSourced (req : RemediationRequest) : Bool := safeDurableRef T req.sourceRef ≠ ""

/-- A prior proposal is counted. -/
def countPrior (req : RemediationRequest) (g : Progress σ) (p : PriorProposal) : Progress σ :=
  { g with
    blockerCounts := match p.blocker with
      | some b => (b, g.count b + 1) :: g.blockerCounts
      | none => g.blockerCounts
    srcCount := if isSourced T req ∧ p.source = some (safeDurableRef T req.sourceRef) then g.srcCount + 1 else g.srcCount }

/-- The proposals for one blocker, unless there is something of it already. -/
def proposeForBlocker (req : RemediationRequest) (prior : List PriorProposal) (adapter : Option (LoopAdapter σ))
    (g : Progress σ) (blocker : String) : Progress σ :=
  let base := baseKey T blocker (orText req.sourceRef req.summary)
  if adapter.any (fun a => a.listExisting base g.board) || prior.any (·.covers T base) then
    { g with candidates := g.candidates ++ [.noop base blocker "existing_proposal"] }
  else (candidateSequence blocker).foldl (remediationStep T req adapter blocker base) { g with prevIdem := "" }

/-- `propose_remediation_graph`; `none` where it raises. -/
def proposeGraph (req : RemediationRequest) (policy : Option GraphPolicy) (prior : List PriorProposal)
    (adapter : Option (LoopAdapter σ)) (board : σ) : Option (CreatorResult × σ) :=
  let req := { req with policy := coerceGraphPolicy policy }
  let parsed := parseVerdictSummary T req.summary
  if parsed.verdict ≠ "BLOCK" ∧ parsed.verdict ≠ "NEED_MORE" then
    some ({ success := false, error := "no_blocking_verdict" }, board)
  else if parsed.blockers = [] then some ({ success := false, error := "block_has_no_named_blocker" }, board)
  else if !prior.all (·.countable (isSourced T req)) then none
  else
    let g := parsed.blockers.foldl (proposeForBlocker T req prior adapter) (prior.foldl (countPrior T req) { board })
    some ({ success := true, candidates := g.candidates, adapterAttempts := g.attempts }, g.board)

/-- Without prior proposals it is the creator that the supervisor calls. -/
theorem proposeGraph_nil (req : RemediationRequest) (wellFormed : req.policy.wellFormed = true)
    (adapter : Option (LoopAdapter σ)) (board : σ) :
    proposeGraph T req (some req.policy) [] adapter board = some (proposeRemediationGraph T req adapter board) := by
  have same : coerceGraphPolicy (some req.policy) = req.policy := if_pos wellFormed
  have each : proposeForBlocker T req [] adapter = remediateBlocker T req adapter := by
    funext g blocker
    simp [proposeForBlocker, remediateBlocker]
  unfold proposeGraph proposeRemediationGraph
  dsimp only
  rw [same]
  split
  · rfl
  · split
    · rfl
    · simp [each]

end

/-- The adapter with a record of its calls of `create_graph`. -/
def recording {σ : Type} (a : LoopAdapter σ) : LoopAdapter (σ × List Intent) where
  createGraph c s := ((a.createGraph c s.1).1, (a.createGraph c s.1).2, s.2)
  recordSourceReceipt r s := (a.recordSourceReceipt r s.1, s.2)
  createIntent i s := ((a.createIntent i s.1).1, (a.createIntent i s.1).2, s.2 ++ [i])
  listExisting key s := a.listExisting key s.1

/-- The board after some calls. -/
def boardAfter {σ : Type} (adapter : Option (LoopAdapter σ)) (board : σ) (calls : List Intent) : σ :=
  calls.foldl (fun b i => adapter.elim b fun a => (a.createIntent i b).2) board

/-- The intents among some candidates. -/
def intentsOf (candidates : List Candidate) : List Intent :=
  candidates.filterMap fun c => match c with
    | .intent i => some i
    | .noop _ _ _ => none

/-- The intents of a sequence, each with the one before it as its parent. -/
def chain (T : PyText) (req : RemediationRequest) (blocker base : String) : String → List String → List Intent
  | _, [] => []
  | prev, kind :: kinds =>
    intentOf T req blocker kind base prev :: chain T req blocker base (base ++ ":" ++ kind) kinds

/-- How many prior proposals count for a blocker. -/
def priorCount (prior : List PriorProposal) (blocker : String) : Nat := (prior.filter fun p => p.blocker = some blocker).length

/-- How many prior proposals count for the source. -/
def priorOfSource (T : PyText) (req : RemediationRequest) (prior : List PriorProposal) : Nat :=
  (prior.filter fun p => p.source = some (safeDurableRef T req.sourceRef)).length

/-- An emitted intent is created on the board. -/
def created {σ : Type} (req : RemediationRequest) (adapter : Option (LoopAdapter σ)) (i : Intent) : Bool :=
  adapter.isSome && req.policy.applyGated i.blocker

section

variable {T : PyText} {σ : Type} {req : RemediationRequest} {prior : List PriorProposal} {adapter : Option (LoopAdapter σ)}
  {start : σ}

/-- What holds of an intent when it is emitted after others. -/
structure Admitted (T : PyText) (req : RemediationRequest) (prior : List PriorProposal) (adapter : Option (LoopAdapter σ))
    (start : σ) (before : List Intent) (i : Intent) : Prop where
  blockers : ((priorCount prior i.blocker + (before.filter (·.blocker = i.blocker)).length : Nat) : Int) <
    req.policy.maxProposalsPerBlockerClass
  sources : isSourced T req = true →
    ((priorOfSource T req prior + before.length : Nat) : Int) < req.policy.maxProposalsPerSource
  unseen : prior.any (·.covers T (baseKey T i.blocker (orText req.sourceRef req.summary))) = false
  absent : adapter.any (fun a => a.listExisting (baseKey T i.blocker (orText req.sourceRef req.summary))
    (boardAfter adapter start ((before.filter (·.blocker ≠ i.blocker)).filter (created req adapter)))) = false

/-- Each intent of a list was admitted when it was emitted. -/
def EachAdmitted (T : PyText) (req : RemediationRequest) (prior : List PriorProposal) (adapter : Option (LoopAdapter σ))
    (start : σ) (emitted : List Intent) : Prop :=
  ∀ before i after, emitted = before ++ i :: after → Admitted T req prior adapter start before i

theorem EachAdmitted.snoc {emitted : List Intent} {i : Intent} (each : EachAdmitted T req prior adapter start emitted)
    (last : Admitted T req prior adapter start emitted i) : EachAdmitted T req prior adapter start (emitted ++ [i]) := by
  intro before j after split
  rcases List.append_eq_append_iff.mp split with ⟨rest, earlier, later⟩ | ⟨rest, earlier, later⟩
  · cases rest with
    | nil =>
      simp only [List.nil_append, List.cons.injEq] at later
      rw [earlier, List.append_nil, ← later.1]
      exact last
    | cons x rest => simp at later
  · cases rest with
    | nil =>
      simp only [List.nil_append, List.cons.injEq] at later
      rw [List.append_nil] at earlier
      rw [← earlier, later.1]
      exact last
    | cons x rest =>
      simp only [List.cons_append, List.cons.injEq] at later
      obtain ⟨rfl, _⟩ := later
      exact each before j rest earlier

/-- What the counters of a run stand for. -/
structure Counted (T : PyText) (req : RemediationRequest) (prior : List PriorProposal) (adapter : Option (LoopAdapter σ))
    (start : σ) (g : Progress (σ × List Intent)) : Prop where
  blockers : ∀ b, g.count b = priorCount prior b + ((intentsOf g.candidates).filter (·.blocker = b)).length
  sources : isSourced T req = true → g.srcCount = priorOfSource T req prior + (intentsOf g.candidates).length
  calls : g.board.2 = (intentsOf g.candidates).filter (created req adapter)
  board : g.board.1 = boardAfter adapter start g.board.2
  attempts : g.attempts = g.board.2.length
  budget : (g.attempts : Int) ≤ req.policy.maxAutoCreatesPerRun
  each : EachAdmitted T req prior adapter start (intentsOf g.candidates)

/-- No further intent is emitted for a blocker. -/
def exhausted (T : PyText) (req : RemediationRequest) (adapter : Option (LoopAdapter σ)) (blocker : String)
    (g : Progress (σ × List Intent)) : Bool :=
  req.policy.maxProposalsPerBlockerClass ≤ g.count blocker ||
    (isSourced T req && req.policy.maxProposalsPerSource ≤ g.srcCount) ||
    (adapter.isSome && req.policy.applyGated blocker && req.policy.maxAutoCreatesPerRun ≤ g.attempts)

/-- A run with one more intent. -/
def emit (T : PyText) (req : RemediationRequest) (adapter : Option (LoopAdapter σ)) (blocker base : String)
    (g : Progress (σ × List Intent)) (kind : String) : Progress (σ × List Intent) :=
  let intent := intentOf T req blocker kind base g.prevIdem
  let g' : Progress (σ × List Intent) := { g with
    candidates := g.candidates ++ [.intent intent]
    blockerCounts := (blocker, g.count blocker + 1) :: g.blockerCounts
    srcCount := if isSourced T req then g.srcCount + 1 else g.srcCount
    prevIdem := base ++ ":" ++ kind }
  if created req adapter intent then
    { g' with attempts := g.attempts + 1, board := (boardAfter adapter g.board.1 [intent], g.board.2 ++ [intent]) }
  else g'

/-- A step refuses where the run is exhausted, and emits an intent elsewhere. -/
theorem remediationStep_eq (blocker base kind : String) (g : Progress (σ × List Intent)) :
    (exhausted T req adapter blocker g = true ∧ ∃ reason, remediationStep T req (adapter.map recording) blocker base g kind =
      { g with candidates := g.candidates ++ [.noop (base ++ ":" ++ kind) blocker reason] }) ∨
    (exhausted T req adapter blocker g = false ∧
      remediationStep T req (adapter.map recording) blocker base g kind = emit T req adapter blocker base g kind) := by
  unfold remediationStep
  dsimp only
  split
  next full =>
    exact .inl ⟨by simp [exhausted, full], _, rfl⟩
  next free =>
    split
    next full =>
      exact .inl ⟨by simp [exhausted, isSourced, full.1, full.2], _, rfl⟩
    next free' =>
      have open' : (decide (req.policy.maxProposalsPerBlockerClass ≤ (g.count blocker : Int)) ||
          (isSourced T req && decide (req.policy.maxProposalsPerSource ≤ (g.srcCount : Int)))) = false := by
        simp only [ge_iff_le, Int.not_le] at free
        simpa [isSourced, free] using free'
      cases adapter with
      | none =>
        refine .inr ⟨?_, ?_⟩
        · rw [exhausted, open']
          rfl
        · simp [emit, created, isSourced]
      | some adapter =>
        dsimp only [Option.map_some]
        split
        next shut =>
          have shut : req.policy.applyGated blocker = false := by simpa using shut
          refine .inr ⟨?_, ?_⟩
          · rw [exhausted, open', shut]
            rfl
          · simp [emit, created, intentOf, shut, isSourced]
        next gated =>
          have gated : req.policy.applyGated blocker = true := by simpa using gated
          split
          next spent =>
            exact .inl ⟨by simp [exhausted, gated, spent], _, rfl⟩
          next left =>
            refine .inr ⟨?_, ?_⟩
            · rw [exhausted, open']
              simpa [gated] using left
            · simp [emit, created, intentOf, gated, isSourced, recording, boardAfter]

theorem intentsOf_noop (candidates : List Candidate) (key blocker reason : String) :
    intentsOf (candidates ++ [.noop key blocker reason]) = intentsOf candidates := by
  simp [intentsOf]

theorem intentsOf_intent (candidates : List Candidate) (i : Intent) :
    intentsOf (candidates ++ [.intent i]) = intentsOf candidates ++ [i] := by
  simp [intentsOf]

theorem Counted.noop {g : Progress (σ × List Intent)} (counted : Counted T req prior adapter start g)
    (key blocker reason : String) :
    Counted T req prior adapter start { g with candidates := g.candidates ++ [.noop key blocker reason] } := by
  refine ⟨fun b => ?_, fun sourced => ?_, ?_, counted.board, counted.attempts, counted.budget, ?_⟩
  · rw [intentsOf_noop]
    exact counted.blockers b
  · rw [intentsOf_noop]
    exact counted.sources sourced
  · rw [intentsOf_noop]
    exact counted.calls
  · rw [intentsOf_noop]
    exact counted.each

theorem count_cons {blocker other : String} {n : Nat} {g : Progress σ} :
    ({ g with blockerCounts := (blocker, n) :: g.blockerCounts } : Progress σ).count other =
      if other = blocker then n else g.count other := by
  unfold Progress.count
  by_cases same : other = blocker
  · simp [same]
  · have apart : ¬blocker = other := fun h => same h.symm
    simp [same, apart]

theorem boardAfter_append (board : σ) (calls more : List Intent) :
    boardAfter adapter board (calls ++ more) = boardAfter adapter (boardAfter adapter board calls) more :=
  List.foldl_append

/-- The emitted intents after an emission. -/
theorem intentsOf_emit (blocker base kind : String) (g : Progress (σ × List Intent)) :
    intentsOf (emit T req adapter blocker base g kind).candidates =
      intentsOf g.candidates ++ [intentOf T req blocker kind base g.prevIdem] := by
  unfold emit
  dsimp only
  split <;> exact intentsOf_intent _ _

/-- An emission within the caps keeps what the counters stand for. -/
theorem Counted.emit {g : Progress (σ × List Intent)} (counted : Counted T req prior adapter start g) {blocker kind : String}
    (free : exhausted T req adapter blocker g = false)
    (unseen : prior.any (·.covers T (baseKey T blocker (orText req.sourceRef req.summary))) = false)
    (absent : adapter.any (fun a => a.listExisting (baseKey T blocker (orText req.sourceRef req.summary))
      (boardAfter adapter start (((intentsOf g.candidates).filter (·.blocker ≠ blocker)).filter (created req adapter)))) =
        false) :
    Counted T req prior adapter start
      (Loop.emit T req adapter blocker (baseKey T blocker (orText req.sourceRef req.summary)) g kind) := by
  simp only [exhausted, Bool.or_eq_false_iff, decide_eq_false_iff_not, Int.not_le] at free
  obtain ⟨⟨blockers, sources⟩, budget⟩ := free
  have admitted : Admitted T req prior adapter start (intentsOf g.candidates)
      (intentOf T req blocker kind (baseKey T blocker (orText req.sourceRef req.summary)) g.prevIdem) := by
    refine ⟨?_, fun sourced => ?_, unseen, absent⟩
    · have count := counted.blockers blocker
      show ((priorCount prior blocker + ((intentsOf g.candidates).filter (·.blocker = blocker)).length : Nat) : Int) < _
      rw [← count]
      exact blockers
    · rw [← counted.sources sourced]
      simpa [sourced] using sources
  have each := counted.each.snoc admitted
  rw [← intentsOf_emit] at each
  have counts : ∀ b, (Loop.emit T req adapter blocker (baseKey T blocker (orText req.sourceRef req.summary)) g kind).count b =
      if b = blocker then g.count blocker + 1 else g.count b := by
    intro b
    unfold Loop.emit
    dsimp only
    split <;> exact count_cons
  refine ⟨fun b => ?_, fun sourced => ?_, ?_, ?_, ?_, ?_, each⟩
  · rw [counts, intentsOf_emit, List.filter_append, List.length_append]
    by_cases same : b = blocker
    · subst same
      rw [if_pos rfl, counted.blockers]
      simp [intentOf]
      omega
    · have apart : ¬blocker = b := fun h => same h.symm
      rw [if_neg same, counted.blockers]
      simp [intentOf, apart]
  · have old := counted.sources sourced
    rw [intentsOf_emit, List.length_append]
    unfold Loop.emit
    dsimp only
    split <;> simp only [old, List.length_singleton] <;> omega
  · rw [intentsOf_emit, List.filter_append, ← counted.calls]
    unfold Loop.emit
    dsimp only
    split
    next made => simp [made]
    next kept => simp [kept]
  · unfold Loop.emit
    dsimp only
    split
    next made =>
      dsimp only
      rw [boardAfter_append, ← counted.board]
    next => exact counted.board
  · have old := counted.attempts
    unfold Loop.emit
    dsimp only
    split
    next made => simp [old]
    next => exact old
  · have old := counted.budget
    unfold Loop.emit
    dsimp only
    split
    next made =>
      have gated : adapter.isSome = true ∧ req.policy.applyGated blocker = true := by
        simpa [created, intentOf] using made
      have left : (g.attempts : Int) < req.policy.maxAutoCreatesPerRun := by simpa [gated] using budget
      push_cast
      omega
    next => exact old

theorem steps_exhausted {blocker base : String} (kinds : List String) {g : Progress (σ × List Intent)}
    (counted : Counted T req prior adapter start g) (full : exhausted T req adapter blocker g = true) :
    let g' := kinds.foldl (remediationStep T req (adapter.map recording) blocker base) g
    Counted T req prior adapter start g' ∧ intentsOf g'.candidates = intentsOf g.candidates := by
  dsimp only
  induction kinds generalizing g with
  | nil => exact ⟨counted, rfl⟩
  | cons kind kinds ih =>
    rw [List.foldl_cons]
    rcases @remediationStep_eq T σ req adapter blocker base kind g with ⟨_, reason, step⟩ | ⟨free, _⟩
    · rw [step]
      obtain ⟨counted', same⟩ := ih (counted.noop _ blocker reason) full
      exact ⟨counted', same.trans (intentsOf_noop _ _ _ _)⟩
    · rw [full] at free
      cases free

/-- The steps for a blocker emit the beginning of its sequence. -/
theorem steps_chain {blocker : String} (kinds : List String) {g : Progress (σ × List Intent)}
    (counted : Counted T req prior adapter start g)
    (unseen : prior.any (·.covers T (baseKey T blocker (orText req.sourceRef req.summary))) = false)
    (absent : adapter.any (fun a => a.listExisting (baseKey T blocker (orText req.sourceRef req.summary))
      (boardAfter adapter start (((intentsOf g.candidates).filter (·.blocker ≠ blocker)).filter (created req adapter)))) =
        false) :
    let base := baseKey T blocker (orText req.sourceRef req.summary)
    let g' := kinds.foldl (remediationStep T req (adapter.map recording) blocker base) g
    Counted T req prior adapter start g' ∧
      ∃ n, intentsOf g'.candidates = intentsOf g.candidates ++ (chain T req blocker base g.prevIdem kinds).take n := by
  dsimp only
  induction kinds generalizing g with
  | nil => exact ⟨counted, 0, by simp⟩
  | cons kind kinds ih =>
    rw [List.foldl_cons]
    rcases @remediationStep_eq T σ req adapter blocker (baseKey T blocker (orText req.sourceRef req.summary)) kind g with
      ⟨full, reason, step⟩ | ⟨free, step⟩
    · rw [step]
      obtain ⟨counted', same⟩ := steps_exhausted kinds (counted.noop _ blocker reason) full
      refine ⟨counted', 0, ?_⟩
      rw [same, intentsOf_noop, List.take_zero, List.append_nil]
    · rw [step]
      have apart : (intentsOf (Loop.emit T req adapter blocker (baseKey T blocker (orText req.sourceRef req.summary)) g
          kind).candidates).filter (·.blocker ≠ blocker) = (intentsOf g.candidates).filter (·.blocker ≠ blocker) := by
        rw [intentsOf_emit, List.filter_append]
        simp [intentOf]
      obtain ⟨counted', n, emitted⟩ := ih (counted.emit free unseen absent) (by rw [apart]; exact absent)
      refine ⟨counted', n + 1, ?_⟩
      have prev : (Loop.emit T req adapter blocker (baseKey T blocker (orText req.sourceRef req.summary)) g kind).prevIdem =
          baseKey T blocker (orText req.sourceRef req.summary) ++ ":" ++ kind := by
        unfold Loop.emit
        dsimp only
        split <;> rfl
      rw [emitted, intentsOf_emit, prev, List.append_assoc]
      rfl

theorem chain_blocker {blocker base : String} {prev : String} {kinds : List String} :
    ∀ i ∈ chain T req blocker base prev kinds, i.blocker = blocker := by
  induction kinds generalizing prev with
  | nil => simp [chain]
  | cons kind kinds ih =>
    intro i mem
    rcases List.mem_cons.mp mem with rfl | mem
    · rfl
    · exact ih i mem

/-- The whole sequence of a blocker. -/
def sequenceOf (T : PyText) (req : RemediationRequest) (blocker : String) : List Intent :=
  chain T req blocker (baseKey T blocker (orText req.sourceRef req.summary)) "" (candidateSequence blocker)

/-- A run that has gone through some blockers. -/
structure Through (T : PyText) (req : RemediationRequest) (prior : List PriorProposal) (adapter : Option (LoopAdapter σ))
    (start : σ) (done : List String) (g : Progress (σ × List Intent)) : Prop where
  counted : Counted T req prior adapter start g
  inside : ∀ i ∈ intentsOf g.candidates, i.blocker ∈ done
  sequence : ∀ b, ∃ n, (intentsOf g.candidates).filter (·.blocker = b) = (sequenceOf T req b).take n

theorem Through.blocker {done : List String} {g : Progress (σ × List Intent)} (through : Through T req prior adapter start done g)
    {blocker : String} (new : blocker ∉ done) : Through T req prior adapter start (blocker :: done)
      (proposeForBlocker T req prior (adapter.map recording) g blocker) := by
  have others : (intentsOf g.candidates).filter (·.blocker ≠ blocker) = intentsOf g.candidates := by
    refine List.filter_eq_self.mpr fun i mem => ?_
    have apart : i.blocker ≠ blocker := fun same => new (same ▸ through.inside i mem)
    simpa using apart
  have none' : (intentsOf g.candidates).filter (·.blocker = blocker) = [] := by
    refine List.filter_eq_nil_iff.mpr fun i mem => ?_
    have apart : i.blocker ≠ blocker := fun same => new (same ▸ through.inside i mem)
    simpa using apart
  unfold proposeForBlocker
  dsimp only
  split
  next known =>
    refine ⟨through.counted.noop _ _ _, fun i mem => ?_, fun b => ?_⟩
    · rw [intentsOf_noop] at mem
      exact List.mem_cons_of_mem _ (through.inside i mem)
    · rw [intentsOf_noop]
      exact through.sequence b
  next unknown =>
    rw [Bool.not_eq_true, Bool.or_eq_false_iff] at unknown
    obtain ⟨absent, unseen⟩ := unknown
    have fresh : Counted T req prior adapter start { g with prevIdem := "" } :=
      ⟨through.counted.blockers, through.counted.sources, through.counted.calls, through.counted.board,
        through.counted.attempts, through.counted.budget, through.counted.each⟩
    have absent' : adapter.any (fun a => a.listExisting (baseKey T blocker (orText req.sourceRef req.summary))
        (boardAfter adapter start (((intentsOf g.candidates).filter (·.blocker ≠ blocker)).filter (created req adapter)))) =
          false := by
      rw [others, ← through.counted.calls, ← through.counted.board]
      cases adapter with
      | none => rfl
      | some a => exact absent
    obtain ⟨counted, n, emitted⟩ := steps_chain (candidateSequence blocker) fresh unseen absent'
    have added : ∀ i ∈ (sequenceOf T req blocker).take n, i.blocker = blocker :=
      fun i mem => chain_blocker i (List.mem_of_mem_take mem)
    refine ⟨counted, fun i mem => ?_, fun b => ?_⟩
    · rw [emitted] at mem
      rcases List.mem_append.mp mem with mem | mem
      · exact List.mem_cons_of_mem _ (through.inside i mem)
      · rw [added i mem]
        exact List.mem_cons_self
    · rw [emitted, List.filter_append]
      by_cases same : b = blocker
      · subst same
        refine ⟨n, ?_⟩
        rw [none', List.nil_append]
        exact List.filter_eq_self.mpr fun i mem => by simpa using added i mem
      · obtain ⟨m, old⟩ := through.sequence b
        refine ⟨m, ?_⟩
        have nothing : ((sequenceOf T req blocker).take n).filter (·.blocker = b) = [] := by
          refine List.filter_eq_nil_iff.mpr fun i mem => ?_
          rw [added i mem]
          simpa using fun h => same h.symm
        rw [← old]
        exact (congrArg _ nothing).trans (List.append_nil _)

theorem Through.blockers {blockers done : List String} {g : Progress (σ × List Intent)}
    (through : Through T req prior adapter start done g) (distinct : blockers.Nodup) (new : ∀ b ∈ blockers, b ∉ done) :
    ∃ done', Through T req prior adapter start done' (blockers.foldl (proposeForBlocker T req prior (adapter.map recording)) g) := by
  induction blockers generalizing done g with
  | nil => exact ⟨done, through⟩
  | cons blocker rest ih =>
    obtain ⟨apart, distinct⟩ := List.nodup_cons.mp distinct
    refine ih (through.blocker (new blocker List.mem_cons_self)) distinct fun b mem => ?_
    rw [List.mem_cons, not_or]
    exact ⟨fun same => apart (same ▸ mem), new b (List.mem_cons_of_mem _ mem)⟩

theorem detectBlockers_nodup (text : String) : (detectBlockers T text).Nodup := by
  have names : ((blockerPatterns T).map (·.1)).Nodup := by
    have named : (blockerPatterns T).map (·.1) =
      ["stale_inline_route", "stale_trust_grant_wording", "missing_subscription", "stale_final_fanin"] := rfl
    rw [named]
    decide
  exact (List.filter_sublist.map _).nodup names

/-- What the counters are seeded with. -/
theorem countPrior_fold (prior : List PriorProposal) (g : Progress (σ × List Intent)) :
    let g' := prior.foldl (countPrior T req) g
    g'.candidates = g.candidates ∧ g'.board = g.board ∧ g'.attempts = g.attempts ∧
      (∀ b, g'.count b = g.count b + priorCount prior b) ∧
      (isSourced T req = true → g'.srcCount = g.srcCount + priorOfSource T req prior) := by
  dsimp only
  induction prior generalizing g with
  | nil => simp [priorCount, priorOfSource]
  | cons p prior ih =>
    obtain ⟨candidates, board, attempts, counts, sources⟩ := ih (countPrior T req g p)
    refine ⟨candidates, board, attempts, fun b => ?_, fun sourced => ?_⟩
    · rw [List.foldl_cons, counts]
      unfold priorCount countPrior
      rw [List.filter_cons]
      cases named : p.blocker with
      | none =>
        simp only [reduceCtorEq, decide_false, Bool.false_eq_true, if_false]
        rfl
      | some c =>
        dsimp only
        have count := @count_cons _ c b (g.count c + 1) g
        unfold Progress.count at count ⊢
        dsimp only at count ⊢
        rw [count]
        by_cases same : b = c
        · subst same
          simp
          omega
        · have apart : ¬c = b := fun h => same h.symm
          simp [same, apart]
    · rw [List.foldl_cons, sources sourced]
      unfold priorOfSource countPrior
      rw [List.filter_cons]
      by_cases here : p.source = some (safeDurableRef T req.sourceRef)
      · simp [sourced, here]
        omega
      · simp [here]

end

/-- The caps of a proposal run with the intents it emitted and the calls it made. -/
structure CapsKept {σ : Type} (T : PyText) (req : RemediationRequest) (prior : List PriorProposal)
    (adapter : Option (LoopAdapter σ)) (start : σ) (emitted calls : List Intent) : Prop where
  each : EachAdmitted T req prior adapter start emitted
  made : calls = emitted.filter (created req adapter)
  budget : (calls.length : Int) ≤ req.policy.maxAutoCreatesPerRun
  gated : ∀ i ∈ calls, req.policy.applyGated i.blocker = true
  sequence : ∀ b, ∃ n, emitted.filter (·.blocker = b) = (sequenceOf T req b).take n

/-- A proposal run keeps its caps, counted with the prior proposals. -/
theorem proposal_caps {σ : Type} {T : PyText} {req : RemediationRequest} {policy : GraphPolicy}
    {prior : List PriorProposal} {adapter : Option (LoopAdapter σ)} {start : σ} {result : CreatorResult}
    {after : σ × List Intent} (wellFormed : policy.wellFormed = true)
    (ran : proposeGraph T req (some policy) prior (adapter.map recording) (start, []) = some (result, after)) :
    CapsKept T { req with policy } prior adapter start (intentsOf result.candidates) after.2 := by
  have positive : 0 ≤ policy.maxAutoCreatesPerRun := by
    simp only [GraphPolicy.wellFormed, Bool.and_eq_true, decide_eq_true_eq] at wellFormed
    exact wellFormed.2
  have nothing : CapsKept T { req with policy } prior adapter start [] [] :=
    ⟨fun before i after split => by simp at split, rfl, positive, by simp, fun b => ⟨0, by simp⟩⟩
  have kept : coerceGraphPolicy (some policy) = policy := if_pos wellFormed
  unfold proposeGraph at ran
  rw [kept] at ran
  dsimp only at ran
  split at ran
  next =>
    cases ran
    exact nothing
  next =>
    split at ran
    next =>
      cases ran
      exact nothing
    next some' =>
      split at ran
      next => cases ran
      next =>
        cases ran
        obtain ⟨candidates, board, attempts, counts, sources⟩ :=
          @countPrior_fold T σ { req with policy } prior { board := (start, []) }
        have seeded : Through T { req with policy } prior adapter start []
            (prior.foldl (countPrior T { req with policy }) { board := (start, []) }) := by
          refine ⟨⟨fun b => ?_, fun sourced => ?_, ?_, ?_, ?_, ?_, ?_⟩, ?_, fun b => ⟨0, ?_⟩⟩
          · rw [counts, candidates]
            simp [Progress.count, intentsOf]
          · rw [sources sourced, candidates]
            simp [intentsOf]
          · rw [board, candidates]
            rfl
          · rw [board]
            rfl
          · rw [attempts, board]
            rfl
          · rw [attempts]
            exact positive
          · rw [candidates]
            intro before i after split
            simp [intentsOf] at split
          · rw [candidates]
            simp [intentsOf]
          · rw [candidates]
            simp [intentsOf]
        have found : (parseVerdictSummary T req.summary).blockers = detectBlockers T req.summary ∨
            (parseVerdictSummary T req.summary).blockers = [] := ite_eq_or_eq _ _ _
        have distinct : (parseVerdictSummary T req.summary).blockers.Nodup := by
          rcases found with found | found
          · rw [found]
            exact detectBlockers_nodup _
          · rw [found]
            exact List.nodup_nil
        obtain ⟨done, through⟩ := seeded.blockers distinct fun b _ => List.not_mem_nil
        refine ⟨through.counted.each, through.counted.calls, ?_, fun i mem => ?_, through.sequence⟩
        · rw [← through.counted.attempts]
          exact through.counted.budget
        · rw [through.counted.calls] at mem
          have made := (List.mem_filter.mp mem).2
          simp only [created, Bool.and_eq_true] at made
          exact made.2

/-- A board writer that remembers nothing. -/
def silentWriter : LoopAdapter Unit where
  createGraph _ _ := ({ success := true, taskId := "t_1" }, ())
  recordSourceReceipt _ _ := ()
  createIntent _ _ := ({ success := true, taskId := "t_1" }, ())
  listExisting _ _ := false

def faninRequest : RemediationRequest where
  summary := "Verdict: BLOCK stale final"
  sourceRef := "t_0a1b2c3d"
  origin := ""
  returnTo := ""
  policy := {}

def faninPolicy : GraphPolicy where
  applyEnabled := true
  activeMode := "apply"
  allowlistedBlockers := ["stale_final_fanin"]

theorem proposal_caps_fanin : ∃ result after,
    proposeGraph asciiText faninRequest (some faninPolicy) [[("blocker", .str "stale_final_fanin")]]
      (some (recording silentWriter)) ((), []) = some (result, after) ∧
    CapsKept asciiText { faninRequest with policy := faninPolicy } [[("blocker", .str "stale_final_fanin")]]
      (some silentWriter) () (intentsOf result.candidates) after.2 := by
  obtain ⟨⟨result, after⟩, ran⟩ := Option.isSome_iff_exists.mp (show (proposeGraph asciiText faninRequest (some faninPolicy)
    [[("blocker", .str "stale_final_fanin")]] (some (recording silentWriter)) ((), [])).isSome = true by decide +kernel)
  exact ⟨result, after, ran, proposal_caps (by decide) ran⟩

end AgentflowHermes.Loop
