import AgentflowHermes.LoopStorms

namespace AgentflowHermes.Loop

namespace LoopLedger

variable {T : PyText} {ledger : LoopLedger} {graph blocker : String}

/-- The receipts of a graph that count for a blocker under the name it is stored by. -/
def ofStored (T : PyText) (ledger : LoopLedger) (graph stored : String) : List LoopReceipt :=
  (ledger.ofGraph T graph).filter fun r => r.blockerClass = stored && r.decision.counted

theorem le_maxRound {r : LoopReceipt} (h : r ∈ ledger.ofGraph T graph) : r.roundNo ≤ ledger.maxRoundForGraph T graph := by
  have mem : r.roundNo ∈ (ledger.ofGraph T graph).map LoopReceipt.roundNo := List.mem_map_of_mem h
  unfold maxRoundForGraph
  cases found : ((ledger.ofGraph T graph).map LoopReceipt.roundNo).max? with
  | none =>
    rw [List.max?_eq_none_iff.mp found] at mem
    cases mem
  | some top => exact (List.max?_eq_some_iff.mp found).2 _ mem

theorem maxRound_le {k : Int} (low : 0 ≤ k) (h : ∀ r ∈ ledger.ofGraph T graph, r.roundNo ≤ k) :
    ledger.maxRoundForGraph T graph ≤ k := by
  unfold maxRoundForGraph
  cases found : ((ledger.ofGraph T graph).map LoopReceipt.roundNo).max? with
  | none => exact low
  | some top =>
    obtain ⟨r, mem, round⟩ := List.mem_map.mp (List.max?_eq_some_iff.mp found).1
    have := h r mem
    rw [Option.getD_some]
    omega

theorem maxRound_nonneg (rounds : ∀ r ∈ ledger, 0 ≤ r.roundNo) : 0 ≤ ledger.maxRoundForGraph T graph := by
  unfold maxRoundForGraph
  cases found : ((ledger.ofGraph T graph).map LoopReceipt.roundNo).max? with
  | none => exact Int.le_refl 0
  | some top =>
    obtain ⟨r, mem, round⟩ := List.mem_map.mp (List.max?_eq_some_iff.mp found).1
    have := rounds r (List.mem_of_mem_filter mem)
    rw [Option.getD_some]
    omega

theorem ofGraph_append {r : LoopReceipt} : ofGraph T (ledger ++ [r]) graph =
    ledger.ofGraph T graph ++ [r].filter fun r => r.sourceGraphId = safeDurableRef T graph :=
  List.filter_append ..

theorem maxRound_append (rounds : ∀ r ∈ ledger, 0 ≤ r.roundNo) {r : LoopReceipt} (round : 0 ≤ r.roundNo) :
    ledger.maxRoundForGraph T graph ≤ maxRoundForGraph T (ledger ++ [r]) graph := by
  have more : ∀ x ∈ ledger ++ [r], 0 ≤ x.roundNo := by
    intro x mem
    rcases List.mem_append.mp mem with old | new
    · exact rounds x old
    · rw [List.mem_singleton.mp new]
      exact round
  apply maxRound_le (maxRound_nonneg more)
  intro x mem
  apply le_maxRound
  rw [ofGraph_append]
  exact List.mem_append_left _ mem

theorem ofStored_append {r : LoopReceipt} {stored : String} : ofStored T (ledger ++ [r]) graph stored =
    ofStored T ledger graph stored ++ ofStored T [r] graph stored := by
  unfold ofStored
  rw [ofGraph_append, List.filter_append]
  rfl

theorem le_lastAction {r : LoopReceipt} (h : r ∈ ofStored T ledger graph (shortText T blocker)) :
    ∃ last, ledger.lastActionTime T graph blocker = some last ∧ r.createdAt ≤ last := by
  have mem : r.createdAt ∈ (ledger.ofBlocker T graph blocker).map LoopReceipt.createdAt := List.mem_map_of_mem h
  cases found : ledger.lastActionTime T graph blocker with
  | none =>
    rw [List.max?_eq_none_iff.mp found] at mem
    cases mem
  | some last => exact ⟨last, rfl, (List.max?_eq_some_iff.mp found).2 _ mem⟩

theorem hasEvent_append {r : LoopReceipt} {id : String} (h : ledger.hasEvent T id = true) :
    hasEvent T (ledger ++ [r]) id = true := by
  unfold hasEvent at h ⊢
  rw [List.any_append, h]
  rfl

end LoopLedger

section

variable {T : PyText} {policy : LoopPolicy} {ledger : LoopLedger} {past : List Evaluated} {ev : LoopEvent} {now : Int}

/-- What the ledger keeps of the decisions so far. -/
structure Tracked (T : PyText) (ledger : LoopLedger) (past : List Evaluated) : Prop where
  rounds : ∀ r ∈ ledger, 0 ≤ r.roundNo
  known : ∀ x ∈ past, x.decided = true → ledger.hasEvent T x.event.eventId = true
  graph : ∀ g, ((remediationsOf past g).length : Int) ≤ ledger.maxRoundForGraph T g
  blocker : ∀ g b, (remediationsFor past g b).length ≤ (LoopLedger.ofStored T ledger g b).length
  time : ∀ g b, ∀ x ∈ remediationsFor past g b, ∃ r ∈ LoopLedger.ofStored T ledger g b, r.createdAt = x.now

/-- A round is given where the caps and the cooldown leave room for it. -/
theorem boundedRound_ok {blocker : String} {rounds : Int × Int}
    (h : boundedRound T ev policy now blocker ledger = .ok rounds) :
    policy.allowlistedBlockers.contains blocker = true ∧ ledger.maxRoundForGraph T ev.sourceGraphId ≤ rounds.2 ∧
      rounds.2 < policy.maxRounds ∧ (ledger.countBlocker T ev.sourceGraphId blocker : Int) < policy.maxSameBlocker ∧
      ∀ last, ledger.lastActionTime T ev.sourceGraphId blocker = some last →
        policy.cooldownSeconds * 1000000 ≤ now - last := by
  unfold boundedRound at h
  dsimp only at h
  split at h
  · cases h
  split at h
  · cases h
  next listed =>
  split at h
  · cases h
  split at h
  · cases h
  split at h
  · cases h
  next round =>
  split at h
  · cases h
  next same =>
  split at h
  · cases h
  next cooled =>
  have rounds' : rounds = (ledger.maxRoundForGraph T ev.sourceGraphId,
      max ev.roundNo (ledger.maxRoundForGraph T ev.sourceGraphId)) := by
    split at h
    · cases h
    split at h
    · cases h
    · exact (Except.ok.inj h).symm
  subst rounds'
  refine ⟨by simpa using listed, by omega, by omega, by omega, ?_⟩
  intro last found
  rw [found, Option.filter_some] at cooled
  by_cases soon : now - last < policy.cooldownSeconds * 1000000
  · rw [decide_eq_true soon] at cooled
    cases cooled
  · omega

variable {x : Evaluated} {g b : String}

theorem remediationsOf_append : remediationsOf (past ++ [x]) g = remediationsOf past g ++ remediationsOf [x] g :=
  List.filter_append ..

theorem remediationsFor_append : remediationsFor (past ++ [x]) g b = remediationsFor past g b ++ remediationsFor [x] g b := by
  unfold remediationsFor
  rw [remediationsOf_append, List.filter_append]

theorem decisionsOn_append {id : String} : decisionsOn (past ++ [x]) id = decisionsOn past id ++ decisionsOn [x] id :=
  List.filter_append ..

theorem remediationsOf_other (other : x.remediates = false) : remediationsOf [x] g = [] := by
  unfold remediationsOf
  simp [other]

theorem remediationsFor_other (other : x.remediates = false) : remediationsFor [x] g b = [] := by
  unfold remediationsFor
  rw [remediationsOf_other other]
  rfl

theorem remediationsOf_cases : remediationsOf [x] g = [] ∨ remediationsOf [x] g = [x] ∧ x.event.sourceGraphId = g := by
  unfold remediationsOf
  by_cases holds : x.remediates = true ∧ x.event.sourceGraphId = g
  · exact .inr ⟨by simp [holds], holds.2⟩
  · exact .inl (by simpa using holds)

theorem remediationsFor_cases : remediationsFor [x] g b = [] ∨
    remediationsFor [x] g b = [x] ∧ x.event.sourceGraphId = g ∧ x.decision.blockerClass = b := by
  unfold remediationsFor
  rcases @remediationsOf_cases x g with none | ⟨one, graph⟩
  · exact .inl (by rw [none]; rfl)
  · by_cases same : x.decision.blockerClass = b
    · exact .inr ⟨by simp [one, same], graph, same⟩
    · exact .inl (by simp [one, same])

/-- An event id that has no receipt yet has no decision of its own yet. -/
theorem Tracked.once (tracked : Tracked T ledger past) (bounds : StormBounds policy past)
    (new : x.decided = true → ledger.hasEvent T x.event.eventId = false) (id : String) :
    (decisionsOn (past ++ [x]) id).length ≤ 1 := by
  rw [decisionsOn_append, List.length_append]
  have before := bounds.once id
  by_cases about : x.decided = true ∧ x.event.eventId = id
  · have none : decisionsOn past id = [] := by
      apply List.filter_eq_nil_iff.mpr
      intro y mem holds
      simp only [Bool.and_eq_true, decide_eq_true_eq] at holds
      have known := tracked.known y mem holds.1
      rw [holds.2, ← about.2, new about.1] at known
      cases known
    have one : (decisionsOn [x] id).length ≤ 1 := List.length_filter_le ..
    rw [none]
    simpa using one
  · have none : decisionsOn [x] id = [] := by
      unfold decisionsOn
      simpa using about
    rw [none]
    simpa using before

/-- The bounds stand after a decision that is no remediation. -/
theorem StormBounds.other (bounds : StormBounds policy past) (tracked : Tracked T ledger past)
    (new : x.decided = true → ledger.hasEvent T x.event.eventId = false) (other : x.remediates = false) :
    StormBounds policy (past ++ [x]) where
  rounds g := by
    rw [remediationsOf_append, remediationsOf_other other, List.append_nil]
    exact bounds.rounds g
  blockers g b := by
    rw [remediationsFor_append, remediationsFor_other other, List.append_nil]
    exact bounds.blockers g b
  cooled g b := by
    rw [remediationsFor_append, remediationsFor_other other, List.append_nil]
    exact bounds.cooled g b
  once := tracked.once bounds new

theorem Tracked.other (tracked : Tracked T ledger past) {ledger' : LoopLedger} (other : x.remediates = false)
    (grown : ∀ g, ledger.maxRoundForGraph T g ≤ ledger'.maxRoundForGraph T g)
    (kept : ∀ g b, (LoopLedger.ofStored T ledger g b).Sublist (LoopLedger.ofStored T ledger' g b))
    (rounds : ∀ r ∈ ledger', 0 ≤ r.roundNo)
    (known : ∀ id, ledger.hasEvent T id = true → ledger'.hasEvent T id = true)
    (filed : x.decided = true → ledger'.hasEvent T x.event.eventId = true) :
    Tracked T ledger' (past ++ [x]) where
  rounds := rounds
  known y mem decided := by
    rcases List.mem_append.mp mem with old | new
    · exact known _ (tracked.known y old decided)
    · obtain rfl := List.mem_singleton.mp new
      exact filed decided
  graph g := by
    rw [remediationsOf_append, remediationsOf_other other, List.append_nil]
    have := tracked.graph g
    have := grown g
    omega
  blocker g b := by
    rw [remediationsFor_append, remediationsFor_other other, List.append_nil]
    exact Nat.le_trans (tracked.blocker g b) (kept g b).length_le
  time g b y mem := by
    rw [remediationsFor_append, remediationsFor_other other, List.append_nil] at mem
    obtain ⟨r, stored, time⟩ := tracked.time g b y mem
    exact ⟨r, (kept g b).subset stored, time⟩

theorem Filed.known (recorded : Recorded T policy ev) {r : LoopReceipt} (filed : Filed T ev r) :
    LoopLedger.hasEvent T (ledger ++ [r]) ev.eventId = true := by
  have name : r.eventId = safeDurableRef T ev.eventId := by
    rw [filed.event]
    exact if_neg recorded.event
  unfold LoopLedger.hasEvent
  rw [List.any_append]
  simp [name]

theorem Filed.ofGraph (recorded : Recorded T policy ev) {r : LoopReceipt} (filed : Filed T ev r) :
    LoopLedger.ofGraph T [r] ev.sourceGraphId = [r] := by
  have name : r.sourceGraphId = safeDurableRef T ev.sourceGraphId := by
    rw [filed.graph]
    exact if_neg recorded.graph
  unfold LoopLedger.ofGraph
  simp [name]

/-- What a remediation records in the room that the ledger leaves it. -/
structure Granted (T : PyText) (policy : LoopPolicy) (ledger : LoopLedger) (x : Evaluated) (r : LoopReceipt) : Prop where
  new : ledger.hasEvent T x.event.eventId = false
  known : LoopLedger.hasEvent T (ledger ++ [r]) x.event.eventId = true
  round : ledger.maxRoundForGraph T x.event.sourceGraphId < r.roundNo
  cap : r.roundNo ≤ policy.maxRounds
  graph : LoopLedger.ofGraph T [r] x.event.sourceGraphId = [r]
  place : LoopLedger.ofStored T [r] x.event.sourceGraphId x.decision.blockerClass = [r]
  same : ((LoopLedger.ofStored T ledger x.event.sourceGraphId x.decision.blockerClass).length : Int) < policy.maxSameBlocker
  cooled : ∀ r' ∈ LoopLedger.ofStored T ledger x.event.sourceGraphId x.decision.blockerClass,
    policy.cooldownSeconds * 1000000 ≤ x.now - r'.createdAt
  time : r.createdAt = x.now

theorem granted_of_recorded {d : LoopDecision} {r : LoopReceipt} {rounds : Int × Int} (recorded : Recorded T policy ev)
    (new : ledger.hasEvent T ev.eventId = false) (filed : Filed T ev r)
    (blocker : d.blockerClass = shortText T (blockerOf T ev))
    (stored : r.blockerClass = safeJobField T "blocker_class" d.blockerClass) (counted : r.decision.counted = true)
    (time : r.createdAt = now) (bounded : boundedRound T ev policy now (blockerOf T ev) ledger = .ok rounds)
    (round : r.roundNo = rounds.2 + 1) : Granted T policy ledger ⟨ev, now, d⟩ r := by
  obtain ⟨listed, low, high, same, cooled⟩ := boundedRound_ok bounded
  have name : r.blockerClass = d.blockerClass := by
    rw [stored, blocker]
    exact recorded.blocker listed
  have counts : LoopLedger.ofStored T ledger ev.sourceGraphId d.blockerClass =
      ledger.ofBlocker T ev.sourceGraphId (blockerOf T ev) := by
    rw [blocker]
    rfl
  refine ⟨new, filed.known recorded, ?_, by omega, filed.ofGraph recorded, ?_, ?_, ?_, time⟩
  · show LoopLedger.maxRoundForGraph T ledger ev.sourceGraphId < _
    omega
  · show LoopLedger.ofStored T [r] ev.sourceGraphId d.blockerClass = [r]
    unfold LoopLedger.ofStored
    rw [filed.ofGraph recorded]
    simp [name, counted]
  · show ((LoopLedger.ofStored T ledger ev.sourceGraphId d.blockerClass).length : Int) < _
    rw [counts]
    exact same
  · intro r' mem
    change r' ∈ LoopLedger.ofStored T ledger ev.sourceGraphId d.blockerClass at mem
    rw [blocker] at mem
    obtain ⟨last, found, before⟩ := LoopLedger.le_lastAction mem
    have := cooled last found
    show _ ≤ now - r'.createdAt
    omega

/-- A remediation takes up one round of its graph and one place of its blocker. -/
theorem Tracked.remediated (tracked : Tracked T ledger past) {r : LoopReceipt} (granted : Granted T policy ledger x r) :
    Tracked T (ledger ++ [r]) (past ++ [x]) := by
  have low := @LoopLedger.maxRound_nonneg T ledger x.event.sourceGraphId tracked.rounds
  have nonneg : 0 ≤ r.roundNo := by
    have := granted.round
    omega
  refine ⟨?_, ?_, ?_, ?_, ?_⟩
  · intro y mem
    rcases List.mem_append.mp mem with old | added
    · exact tracked.rounds y old
    · rw [List.mem_singleton.mp added]
      exact nonneg
  · intro y mem decided
    rcases List.mem_append.mp mem with old | added
    · exact LoopLedger.hasEvent_append (tracked.known y old decided)
    · rw [List.mem_singleton.mp added]
      exact granted.known
  · intro g
    rw [remediationsOf_append, List.length_append]
    have before := tracked.graph g
    rcases @remediationsOf_cases x g with none | ⟨one, rfl⟩
    · have grown := @LoopLedger.maxRound_append T ledger g tracked.rounds r nonneg
      rw [none, List.length_nil]
      omega
    · have top : r.roundNo ≤ LoopLedger.maxRoundForGraph T (ledger ++ [r]) x.event.sourceGraphId := by
        apply LoopLedger.le_maxRound
        rw [LoopLedger.ofGraph_append]
        exact List.mem_append_right _ (by rw [show List.filter _ [r] = [r] from granted.graph]; exact List.mem_cons_self)
      have := granted.round
      rw [one, List.length_singleton]
      omega
  · intro g b
    rw [remediationsFor_append, LoopLedger.ofStored_append, List.length_append, List.length_append]
    have before := tracked.blocker g b
    rcases @remediationsFor_cases x g b with none | ⟨one, rfl, rfl⟩
    · rw [none, List.length_nil]
      omega
    · rw [one, granted.place, List.length_singleton, List.length_singleton]
      omega
  · intro g b y mem
    rw [remediationsFor_append] at mem
    rw [LoopLedger.ofStored_append]
    rcases List.mem_append.mp mem with old | added
    · obtain ⟨r', stored, time⟩ := tracked.time g b y old
      exact ⟨r', List.mem_append_left _ stored, time⟩
    · rcases @remediationsFor_cases x g b with none | ⟨one, rfl, rfl⟩
      · rw [none] at added
        cases added
      · rw [one] at added
        rw [List.mem_singleton.mp added, granted.place]
        exact ⟨r, List.mem_append_right _ List.mem_cons_self, granted.time⟩

/-- The bounds stand after a remediation within the room that the ledger leaves. -/
theorem StormBounds.remediated (bounds : StormBounds policy past) (tracked : Tracked T ledger past) {r : LoopReceipt}
    (granted : Granted T policy ledger x r) : StormBounds policy (past ++ [x]) := by
  refine ⟨?_, ?_, ?_, tracked.once bounds fun _ => granted.new⟩
  · intro g
    rw [remediationsOf_append, List.length_append]
    rcases @remediationsOf_cases x g with none | ⟨one, rfl⟩
    · rw [none]
      exact bounds.rounds g
    · have before := tracked.graph x.event.sourceGraphId
      have := granted.round
      have := granted.cap
      rw [one, List.length_singleton]
      omega
  · intro g b
    rw [remediationsFor_append, List.length_append]
    rcases @remediationsFor_cases x g b with none | ⟨one, rfl, rfl⟩
    · rw [none]
      exact bounds.blockers g b
    · have before := tracked.blocker x.event.sourceGraphId x.decision.blockerClass
      have := granted.same
      rw [one, List.length_singleton]
      omega
  · intro g b
    rw [remediationsFor_append, List.pairwise_append]
    rcases @remediationsFor_cases x g b with none | ⟨one, rfl, rfl⟩
    · rw [none]
      exact ⟨bounds.cooled g b, .nil, by simp⟩
    · rw [one]
      refine ⟨bounds.cooled _ _, List.pairwise_singleton .., ?_⟩
      intro y old z added
      rw [List.mem_singleton.mp added]
      obtain ⟨r', stored, time⟩ := tracked.time _ _ y old
      rw [← time]
      exact granted.cooled r' stored

end

section

variable {T : PyText} {σ : Type} {policy : LoopPolicy}

/-- What an evaluation keeps: the ledger tracks the decisions, which stay within the bounds. -/
theorem LoopStep.keeps {ledger ledger' : LoopLedger} {past : List Evaluated} {ev : LoopEvent} {now : Int}
    {d : LoopDecision} (step : LoopStep T policy ev now ledger d ledger')
    (recorded : ledger.hasEvent T ev.eventId = true ∨ Recorded T policy ev)
    (tracked : Tracked T ledger past) (bounds : StormBounds policy past) :
    Tracked T ledger' (past ++ [⟨ev, now, d⟩]) ∧ StormBounds policy (past ++ [⟨ev, now, d⟩]) := by
  cases step with
  | duplicate known same reason =>
    have repeated : Evaluated.decided ⟨ev, now, d⟩ = false := decide_eq_false (not_not_intro reason)
    have other : Evaluated.remediates ⟨ev, now, d⟩ = false := by
      show decide (d.reason = _) = false
      rw [reason]
      rfl
    subst same
    refine ⟨?_, bounds.other tracked (by simp [repeated]) other⟩
    exact tracked.other other (fun _ => Int.le_refl _) (fun _ _ => List.Sublist.refl _) tracked.rounds (fun _ h => h)
      (by simp [repeated])
  | decided new r added filed round reason =>
    rcases recorded with known | recorded
    · rw [new] at known
      cases known
    have other : Evaluated.remediates ⟨ev, now, d⟩ = false := decide_eq_false reason
    have nonneg : 0 ≤ r.roundNo := by
      rw [round]
      exact recorded.round
    subst added
    refine ⟨tracked.other other ?_ ?_ ?_ (fun _ => LoopLedger.hasEvent_append) fun _ => filed.known recorded,
      bounds.other tracked (fun _ => new) other⟩
    · exact fun g => LoopLedger.maxRound_append tracked.rounds nonneg
    · intro g b
      rw [LoopLedger.ofStored_append]
      exact List.sublist_append_left ..
    · intro y mem
      rcases List.mem_append.mp mem with old | added
      · exact tracked.rounds y old
      · rw [List.mem_singleton.mp added]
        exact nonneg
  | remediated new r added filed reason blocker stored counted time rounds bounded round =>
    rcases recorded with known | recorded
    · rw [new] at known
      cases known
    have granted := @granted_of_recorded T policy ledger ev now d r rounds recorded new filed blocker stored counted time
      bounded round
    subst added
    exact ⟨tracked.remediated granted, bounds.remediated tracked granted⟩

/-- What a run keeps, from a ledger that tracks the decisions before it. -/
theorem evaluations_bounded (plain : T.Plain) (wellFormed : policy.malformed = false) (calls : List (LoopCall σ)) :
    ∀ (s : LoopState σ) (past : List Evaluated), Tracked T s.receipts past → StormBounds policy past →
      (∀ before c after, calls = before ++ c :: after →
        (stateAfter T policy s before).receipts.hasEvent T c.event.eventId = true ∨ Recorded T policy c.event) →
      StormBounds policy (past ++ evaluations T policy s calls) := by
  induction calls with
  | nil =>
    intro s past tracked bounds recorded
    rw [evaluations, List.append_nil]
    exact bounds
  | cons c rest ih =>
    intro s past tracked bounds recorded
    have now := recorded [] c rest rfl
    have later : ∀ before c' after, rest = before ++ c' :: after →
        (stateAfter T policy (c.run T policy s).2 before).receipts.hasEvent T c'.event.eventId = true ∨
          Recorded T policy c'.event :=
      fun before c' after same => recorded (c :: before) c' after (by rw [same]; rfl)
    rw [evaluations]
    cases found : evaluateLoopEvent T (some policy) c.args c.event s with
    | error e =>
      have same : c.run T policy s = (none, s) := by
        unfold LoopCall.run
        rw [found]
      rw [same] at later ⊢
      exact ih s past tracked bounds later
    | ok result =>
      obtain ⟨d, s'⟩ := result
      have same : c.run T policy s = (some ⟨c.event, timeOf c.event c.args.clock, d⟩, s') := by
        unfold LoopCall.run
        rw [found]
      rw [same] at later ⊢
      obtain ⟨tracked', bounds'⟩ := (evaluateLoopEvent_step plain wellFormed found).keeps now tracked bounds
      have := ih s' _ tracked' bounds' later
      rw [List.append_assoc] at this
      exact this

/-- What a policy's numbers are when it is not malformed. -/
theorem caps_nonneg (wellFormed : policy.malformed = false) : 0 ≤ policy.maxRounds ∧ 0 ≤ policy.maxSameBlocker := by
  unfold LoopPolicy.malformed at wellFormed
  simp only [Bool.or_eq_false_iff, List.any_cons, decide_eq_false_iff_not] at wellFormed
  omega

/-- In a run whose events are recorded under the names they are looked up by, remediation is bounded. -/
theorem storms_bounded (T : PyText) (plain : T.Plain) (policy : LoopPolicy) (wellFormed : policy.malformed = false)
    (s : LoopState σ) (rounds : ∀ r ∈ s.receipts, 0 ≤ r.roundNo) (calls : List (LoopCall σ))
    (recorded : ∀ before c after, calls = before ++ c :: after →
      (stateAfter T policy s before).receipts.hasEvent T c.event.eventId = true ∨ Recorded T policy c.event) :
    StormBounds policy (evaluations T policy s calls) := by
  obtain ⟨maxRounds, maxSame⟩ := caps_nonneg wellFormed
  have tracked : Tracked T s.receipts [] := {
    rounds := rounds
    known := by simp
    graph := fun g => LoopLedger.maxRound_nonneg rounds
    blocker := fun g b => Nat.zero_le _
    time := fun g b x mem => by cases mem }
  have bounds : StormBounds policy [] := {
    rounds := fun g => maxRounds
    blockers := fun g b => maxSame
    cooled := fun g b => .nil
    once := fun id => Nat.zero_le _ }
  exact evaluations_bounded plain wellFormed calls s [] tracked bounds recorded

end

section

variable (blocker : String)

def blockPolicy : LoopPolicy := { allowlistedBlockers := [blocker] }

/-- A BLOCK of a graph by one review. -/
def blockEvent (eventId : String) : LoopEvent where
  eventId := eventId
  sourceGraphId := "graph-1"
  verdict := "BLOCK"
  blockerClass := blocker
  subscriptionStatus := "verified"
  policyResolutionRef := "policy-1"
  occurredAt := 5

def twoBlocks : List (LoopCall Unit) := [{ event := blockEvent blocker "event-1" }, { event := blockEvent blocker "event-2" }]

end

theorem storms_bounded_named :
    StormBounds (blockPolicy "stale_inline_route") (evaluations asciiText (blockPolicy "stale_inline_route") { board := () }
      (twoBlocks "stale_inline_route")) := by
  apply storms_bounded asciiText asciiText_plain _ (by decide) _ (by simp)
  intro before c after same
  have mem : c ∈ twoBlocks "stale_inline_route" := by
    rw [same]
    exact List.mem_append_right _ List.mem_cons_self
  right
  rcases List.mem_cons.mp mem with first | second
  · rw [first]
    exact ⟨by decide +kernel, by decide +kernel, by decide, by decide +kernel⟩
  · rw [List.mem_singleton.mp second]
    exact ⟨by decide +kernel, by decide +kernel, by decide, by decide +kernel⟩

/-- A blocker that the sanitiser redacts is not counted: the second BLOCK of one time is remediated again. -/
theorem storms_unbounded : (blockPolicy "stale-token").malformed = false ∧
    ¬StormBounds (blockPolicy "stale-token")
      (evaluations asciiText (blockPolicy "stale-token") { board := () } (twoBlocks "stale-token")) := by
  refine ⟨by decide, fun bounds => ?_⟩
  have twice : (remediationsFor (evaluations asciiText (blockPolicy "stale-token") { board := () }
      (twoBlocks "stale-token")) "graph-1" "stale-token").length = 2 := by
    decide +kernel
  have cap := bounds.blockers "graph-1" "stale-token"
  rw [twice] at cap
  exact absurd cap (by decide)

end AgentflowHermes.Loop
