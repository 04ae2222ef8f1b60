import AgentflowHermes.OwnerGate

namespace AgentflowHermes

open CrashProgram RowTable

section

variable {log : CallLog} {x : Nat} {s t : Store} {ok : ∀ q, Response q → Prop}

theorem SameRecords.gate (h : SameRecords s t) : t.gate x = s.gate x := by
  unfold Store.gate Store.getInstance Store.listSteps Store.receiptsOf
  rw [h.instances, h.steps, h.receipts]

theorem gate_markStep (id : Nat) (state : Option StepState) (taskId : String) :
    (s.markStep id state taskId).2.gate x = s.gate x := by
  let marked (p : Step) : Step := { p with state := state.getD p.state, boardTaskId := Store.coalesce taskId p.boardTaskId }
  have listed : (s.markStep id state taskId).2.listSteps x =
      (s.listSteps x).map fun p => if Keyed.rowId p = id then marked p else p :=
    @filter_modify _ _ s.steps _ marked id (fun _ => rfl) fun _ _ => rfl
  have steps : ((s.markStep id state taskId).2.listSteps x).map (fun p => (p.stepKind, p.idempotencyKey)) =
      (s.listSteps x).map fun p => (p.stepKind, p.idempotencyKey) := by
    rw [listed, List.map_map]
    refine List.map_congr_left fun p _ => ?_
    simp only [Function.comp_apply]
    split <;> rfl
  exact congrArg (Gate.mk (s.getInstance x) · (s.receiptsOf x)) steps

theorem gate_transition (id : Nat) (new : ContinuationState) (reason : String) :
    (s.transition id new reason).2.gate x =
      if x = id then { s.gate x with instance? := (s.gate x).instance?.map (Store.movedTo new) } else s.gate x := by
  have moved := s.getInstance_transition id new reason x
  have same : (s.transition id new reason).2.gate x =
      { s.gate x with instance? := (s.transition id new reason).2.getInstance x } := rfl
  rw [same, moved]
  split
  next hx =>
    subst hx
    rfl
  next => rfl

/-- A creation is seen by the continuation that was not there yet. -/
theorem gate_createInstance (n : NewInstance) : (s.createInstance n).2.gate x = s.gate x ∨
    (s.gate x).instance? = none ∧ ∃ i, (s.createInstance n).2.gate x = { s.gate x with instance? := some i } := by
  rcases s.createInstance_cases n with ⟨i, _, he⟩ | ⟨_, he⟩
  · rw [he]
    exact .inl rfl
  · rw [he]
    have seen : ∀ i?, (s.instances.insert fun id => ({ n with id := id, state := .detected } : Instance)).get? x = i? →
        ({ s with
          instances := s.instances.insert fun id => { n with id := id, state := .detected }
          events := Store.recordEvent s.events s.instances.next (.created .detected) } : Store).gate x =
          { s.gate x with instance? := i? } := by
      rintro _ rfl
      rfl
    by_cases hx : x = s.instances.next
    · have absent : s.getInstance x = none := by
        cases hg : s.getInstance x with
        | none => rfl
        | some i =>
          have below := find?_lt_next hg
          rw [(get?_eq_some.mp hg).2, hx] at below
          exact absurd below (Nat.lt_irrefl _)
      exact .inr ⟨absent, _, seen _ (get?_insert.trans (if_pos hx))⟩
    · exact .inl (seen _ (get?_insert.trans (if_neg hx)))

theorem gate_addStep (id : Nat) (kind : StepKind) (key : String) : (s.addStep id kind key "" none).2.gate x = s.gate x ∨
    x = id ∧ key ∉ (s.gate x).steps.map Prod.snd ∧
      (s.addStep id kind key "" none).2.gate x = { s.gate x with steps := (s.gate x).steps ++ [(kind, key)] } := by
  rcases s.addStep_cases id kind key "" none with ⟨p, _, he⟩ | ⟨absent, he⟩
  · rw [he]
    exact .inl rfl
  · rw [he]
    have seen : ∀ more, (s.steps.insert fun n => (⟨n, id, kind, .pending, "", none, key⟩ : Step)).filter
        (fun p => p.continuationId == x) = s.listSteps x ++ more →
        ({ s with steps := s.steps.insert fun n => ⟨n, id, kind, .pending, "", none, key⟩ } : Store).gate x =
          { s.gate x with steps := (s.gate x).steps ++ more.map fun p => (p.stepKind, p.idempotencyKey) } := by
      intro more h
      unfold Store.gate
      show Gate.mk _ (((s.steps.insert _ _).filter _).map _) _ = _
      rw [h, List.map_append]
      rfl
    by_cases hx : id = x
    · refine .inr ⟨hx.symm, fun mem => ?_, ?_⟩
      · obtain ⟨p, hp, hkey⟩ := List.mem_map.mp mem
        obtain ⟨q, hq, rfl⟩ := List.mem_map.mp hp
        obtain ⟨hmem, hown⟩ := List.mem_filter.mp hq
        have differs := find?_none absent q hmem
        simp only [hx, hown, Bool.true_and] at differs
        exact absurd hkey (by simpa using differs)
      · refine (seen [⟨s.steps.next, id, kind, .pending, "", none, key⟩] ?_).trans rfl
        rw [filter_insert]
        simp [hx, Store.listSteps]
    · refine .inl ((seen [] ?_).trans ?_)
      · rw [filter_insert]
        simp [hx, Store.listSteps]
      · simp

theorem gate_addOwnerReceipt (id : Nat) (owner : String) (fields : List (String × Json)) (source : String) :
    (s.addOwnerReceipt id owner fields source none).2.gate x =
      if x = id then { s.gate x with
        receipts := (s.gate x).receipts ++ [(s.addOwnerReceipt id owner fields source none).1] } else s.gate x := by
  have seen : ∀ more, (s.addOwnerReceipt id owner fields source none).2.receiptsOf x = s.receiptsOf x ++ more →
      (s.addOwnerReceipt id owner fields source none).2.gate x =
        { s.gate x with receipts := (s.gate x).receipts ++ more } := fun more h =>
    congrArg (Gate.mk (s.getInstance x) (s.gate x).steps ·) h
  by_cases hx : x = id
  · rw [if_pos hx]
    refine seen _ ?_
    unfold Store.addOwnerReceipt Store.receiptsOf
    simp [filter_insert, hx]
  · rw [if_neg hx]
    refine (seen [] ?_).trans (by simp)
    unfold Store.addOwnerReceipt Store.receiptsOf
    simp [filter_insert, Ne.symm hx]

def gateTerms (ok : ∀ q, Response q → Prop) (log : CallLog) (x : Nat) : Terms where
  ok := ok
  inv s := WellGated log x (s.gate x)
  may _ _ := True
  guar s t := Onward (s.gate x) (t.gate x)

/-- A write that the continuation does not see. -/
theorem WellGated.frame (h : WellGated log x (s.gate x)) (same : t.gate x = s.gate x) :
    Onward (s.gate x) (t.gate x) ∧ WellGated log x (t.gate x) := by
  rw [same]
  exact ⟨.refl _, h⟩

theorem WellGated.transition (h : WellGated log x (s.gate x)) (id : Nat) (new : ContinuationState) (reason : String) :
    Onward (s.gate x) ((s.transition id new reason).2.gate x) ∧ WellGated log x ((s.transition id new reason).2.gate x) := by
  rw [gate_transition]
  split
  next =>
    refine ⟨⟨fun i hi => ⟨Store.movedTo new i, ?_, ?_⟩, fun _ hr => hr⟩, h.moved new⟩
    · exact Option.map_eq_some_iff.mpr ⟨i, hi, rfl⟩
    · unfold Store.movedTo
      split <;> rfl
  next => exact ⟨.refl _, h⟩

theorem WellGated.createInstance (h : WellGated log x (s.gate x)) (n : NewInstance) :
    Onward (s.gate x) ((s.createInstance n).2.gate x) ∧ WellGated log x ((s.createInstance n).2.gate x) := by
  rcases gate_createInstance (s := s) (x := x) n with same | ⟨absent, i, born⟩
  · exact h.frame same
  · rw [born]
    refine ⟨⟨fun j hj => ?_, fun _ hr => hr⟩, h.born absent i⟩
    rw [absent] at hj
    cases hj

theorem ownerTerms_gate : OwnerTerms (gateTerms ok log x) where
  outbox := {
    may := fun _ _ _ _ _ => trivial
    enqueue := fun _ _ _ _ _ hs => hs.frame rfl
    mark := fun _ _ _ _ _ _ hs => hs.frame rfl
    reinterpret := fun _ _ _ _ hs => hs.frame rfl }
  move id new reason _ hs := hs.transition id new reason
  markStep id taskId _ hs := hs.frame (gate_markStep id (some .applied) taskId)
  other _ _ hs same _ := hs.frame same.gate

/-- If the continuation is the one the handler holds, it is there with its columns, and the step is earned. -/
def ReadyFor (log : CallLog) (x : Nat) (i : Instance) (kind : StepKind) (s : Store) : Prop :=
  x = i.id → (∃ j, s.getInstance x = some j ∧ j.toNewInstance = i.toNewInstance) ∧ Earned log x (s.receiptsOf x) kind

theorem stable_ready (i : Instance) (kind : StepKind) : Stable (gateTerms ok log x) (ReadyFor log x i kind) := by
  refine ⟨fun s t _ onward _ ready hx => ?_⟩
  obtain ⟨⟨j, hj, columns⟩, earned⟩ := ready hx
  obtain ⟨k, hk, columns'⟩ := onward.columns j hj
  exact ⟨⟨k, hk, columns'.trans columns⟩, earned.more (fun _ hc => hc) onward.receipts⟩

/-- A step the continuation is ready for may be added. -/
theorem gate_ready {i : Instance} {kind : StepKind} (hs : WellGated log x (s.gate x)) (ready : ReadyFor log x i kind s) :
    (gateTerms ok log x).guar s (s.addStep i.id kind (ownerStepKey (stableDigest i) kind) "" none).2 ∧
      (gateTerms ok log x).inv (s.addStep i.id kind (ownerStepKey (stableDigest i) kind) "" none).2 := by
  rcases gate_addStep (s := s) (x := x) i.id kind (ownerStepKey (stableDigest i) kind) with same | ⟨hx, fresh, added⟩
  · exact hs.frame same
  · obtain ⟨⟨j, hj, columns⟩, earned⟩ := ready hx
    have digest : stableDigest i = stableDigest j := (stableDigest_eq rfl).trans (stableDigest_eq columns).symm
    have stepped := hs.step (i := j) hj earned (digest ▸ fresh)
    unfold gateTerms
    dsimp only
    rw [added, digest]
    exact ⟨⟨fun k hk => ⟨k, hk, rfl⟩, fun _ hr => hr⟩, stepped⟩

theorem safe_plan (e : OutcomeEnvelope) (adapter : Option Adapter) (contract : InputContract) (inbox : Option Nat)
    (unresolved : List Requirement) (ownerRef projectScope : String) :
    Safe (gateTerms ok log x) (fun _ => True)
      (OwnerInputHandler.plan e adapter contract inbox unresolved ownerRef projectScope) := by
  have terms := @ownerTerms_gate log x ok
  refine ⟨fun s hs _ => ?_⟩
  have detect := (terms.moves.safe_detect (n := e.toInstance) (fun _ ht => WellGated.createInstance ht _) "needs_input_detected").wp s hs
    trivial
  refine wp_bind.mpr (wp_mono (wp_also detect (wp_detect_eq e.toInstance _)) fun d u hu post => ?_)
  have ready : ReadyFor log x d.2 .ownerAnchor u := fun hx => ⟨⟨d.2, hx ▸ post.2.get, rfl⟩, trivial⟩
  have stable := @stable_ready log x ok d.2 .ownerAnchor
  have asked := terms.safe_interactionFor stable d.2 inbox unresolved ownerRef projectScope (fun _ => trivial)
    (fun _ => trivial) fun caseId t ht _ => WellGated.frame ht rfl
  refine Safe.wp (P := ReadyFor log x d.2 .ownerAnchor) ?_ u hu ready
  refine safe_bind stable asked fun interaction => safe_bind stable ?_ fun _ => ?_
  · exact terms.moves.safe_planAnchor stable d.2 adapter _ fun _ ht ready => gate_ready ht ready
  · exact safe_bind stable ((terms.moves.safe_readState d.2.id).weaken fun _ _ => trivial) fun _ => safe_pure _

theorem safe_notGo (i : Instance) (reason : String) : Safe (gateTerms ok log x) (fun _ => True) (OwnerInputHandler.notGo i reason) := by
  have terms := @ownerTerms_gate log x ok
  exact safe_bind stable_true (terms.moves.safe_moveTo ..) fun _ => safe_bind stable_true (terms.moves.safe_readState _) fun _ => safe_pure _

/-- A verdict on the materialization adds the review only where the log has the call. -/
theorem safe_materialized (i : Instance) (verdict : String) (adapter : Option Adapter)
    (logged : verdict = "GO" → i.state = .materializing → x = i.id → MaterializedGo log x) :
    Safe (gateTerms ok log x) (fun s => s.getInstance i.id = some i)
      (OwnerInputHandler.advanceAfterMaterialization i verdict adapter) := by
  have terms := @ownerTerms_gate log x ok
  unfold OwnerInputHandler.advanceAfterMaterialization
  split
  next => exact safe_pure _
  next waits =>
    split
    next => exact (safe_notGo i _).weaken fun _ _ => trivial
    next go =>
      have stable := @stable_ready log x ok i .review
      refine Safe.weaken (P := ReadyFor log x i .review) ?_ fun s present hx =>
        ⟨⟨i, hx ▸ present, rfl⟩, logged (not_not.mp go) (not_not.mp waits) hx⟩
      refine safe_bind stable (terms.moves.safe_moveTo ..) fun _ => ?_
      refine safe_withStep stable (fun _ ht ready => gate_ready ht ready) fun step => ?_
      refine safe_bind stable_true (terms.moves.safe_createOnce ..) fun taskId => ?_
      exact safe_bind stable_true (terms.moves.safe_readState i.id) fun _ => safe_pure _

theorem safe_reviewed (i : Instance) (verdict : String) (adapter : Option Adapter)
    (logged : verdict = "GO" → i.state = .waitingReview → x = i.id → ReviewedGo log x) :
    Safe (gateTerms ok log x) (fun s => s.getInstance i.id = some i)
      (OwnerInputHandler.advanceAfterReview i verdict adapter) := by
  have terms := @ownerTerms_gate log x ok
  unfold OwnerInputHandler.advanceAfterReview
  split
  next => exact safe_pure _
  next waits =>
    split
    next => exact (safe_notGo i _).weaken fun _ _ => trivial
    next go =>
      have stable := @stable_ready log x ok i .packetRerun
      refine Safe.weaken (P := ReadyFor log x i .packetRerun) ?_ fun s present hx =>
        ⟨⟨i, hx ▸ present, rfl⟩, logged (not_not.mp go) (not_not.mp waits) hx⟩
      refine safe_bind stable (terms.moves.safe_moveTo ..) fun _ => ?_
      refine safe_withStep stable (fun _ ht ready => gate_ready ht ready) fun step => ?_
      refine safe_bind stable_true (terms.moves.safe_createOnce ..) fun taskId => ?_
      refine safe_bind stable_true (terms.moves.safe_moveTo ..) fun _ => ?_
      exact safe_bind stable_true (terms.moves.safe_readState i.id) fun _ => safe_pure _

/-- From the move on, an accepted receipt is there. -/
theorem safe_afterReceipt (i : Instance) (adapter : Option Adapter) (contract : InputContract) (receipt : OwnerReceipt) :
    Safe (gateTerms ok log x) (ReadyFor log x i .materialization)
      (OwnerInputHandler.completeAnchor i adapter receipt >>= fun _ => do
        let key := materializeKey (stableDigest i)
        let step ← OwnerInputHandler.addStep i.id .materialization key
        let taskId ← OwnerInputHandler.createOnce i.id adapter step (materializationIntent i contract receipt key) key
        moveTo i.id .materializing "materialization_task_created"
        return { success := true, state := .materializing, createdStepIds := [step.2.id],
                 metadata := [("materialization_task_id", .str (taskId.getD "")), ("receipt_id", .int receipt.id)] :
                 StepResult }) :=
  ownerTerms_gate.moves.safe_materialize (stable_ready i .materialization) i adapter contract receipt
    fun _ ht ready => gate_ready ht ready

/-- A call goes on with the instance as it stands, or raises. -/
theorem exec_fresh {α : Type} {id : Nat} {g : Instance → Run α} {tr : List (Act Request Store)} {o : Except String α}
    (e : Exec ok (readInstance id >>= g) s tr (some o) t) :
    t = s ∨ ∃ i, s.getInstance id = some i ∧ Exec ok (g i) s tr (some o) t := by
  unfold readInstance at e
  rw [Prog.read_bind] at e
  cases e with
  | read e =>
    dsimp only at e
    cases hi : s.getInstance id with
    | none =>
      rw [hi] at e
      cases e
      exact .inl rfl
    | some i =>
      rw [hi] at e
      exact .inr ⟨i, rfl, e⟩

/-- The receipt and the move that follows it, seen together. -/
theorem gate_receipt (id : Nat) (owner : String) (fields : List (String × Json)) (source reason : String) :
    ((s.addOwnerReceipt id owner fields source none).2.transition id .inputAccepted reason).2.gate x =
      if x = id then { s.gate x with
        instance? := (s.gate x).instance?.map (Store.movedTo .inputAccepted)
        receipts := (s.gate x).receipts ++ [(s.addOwnerReceipt id owner fields source none).1] } else s.gate x := by
  rw [gate_transition, gate_addOwnerReceipt]
  split <;> rfl

/-- A submission that is refused changes nothing; an accepted one leaves the wait with its receipt. -/
theorem WellGated.receipt (h : WellGated log x (s.gate x)) {id : Nat} {submission : Submission} {adapter : Option Adapter}
    {contract : InputContract} (logged : (.receipt id submission adapter contract, s) ∈ log)
    {tr : List (Act Request Store)} {o : Except String Unit}
    (e : Exec ok (OwnerCall.receipt id submission adapter contract).program s tr (some o) t) : WellGated log x (t.gate x) := by
  rcases exec_fresh e with rfl | ⟨i, hi, exec⟩
  · exact h
  have own : i.id = id := (get?_eq_some.mp hi).2
  subst own
  by_cases accepts : Accepts contract submission.fields i
  · unfold OwnerInputHandler.onReceipt at exec
    dsimp only at exec
    rw [if_neg (not_not_intro accepts.1), if_neg (not_not_intro accepts.2)] at exec
    have gate := gate_receipt (s := s) (x := x) i.id submission.ownerRef
      (contract.validateOwnerSubmission submission.fields).1 submission.sourceRef "owner_receipt_accepted"
    have rest := safe_bind (stable_ready i .materialization) (@safe_afterReceipt log x ok i adapter contract
      (s.addOwnerReceipt i.id submission.ownerRef (contract.validateOwnerSubmission submission.fields).1
        submission.sourceRef none).1) fun _ => safe_pure ()
    cases exec with
    | write exec =>
      cases exec with
      | write exec =>
        refine (rest.exec ?_ ?_ exec).2
        · show WellGated log x (Store.gate _ x)
          rw [gate]
          split
          next hx =>
            subst hx
            exact h.answered hi accepts.1 _
          next => exact h
        · intro hx
          subst hx
          rw [if_pos rfl] at gate
          refine ⟨⟨Store.movedTo .inputAccepted i, ?_, ?_⟩, ?_⟩
          · refine (congrArg Gate.instance? gate).trans ?_
            show (s.getInstance i.id).map _ = _
            rw [hi]
            rfl
          · unfold Store.movedTo
            split <;> rfl
          · rw [show Store.receiptsOf _ i.id = _ from congrArg Gate.receipts gate]
            refine ⟨_, List.mem_append_right _ (List.mem_singleton_self _), ?_⟩
            exact ⟨submission, adapter, contract, s, i, logged, hi, accepts, rfl, rfl⟩
  · obtain ⟨r, hr⟩ := onReceipt_refused accepts adapter
    rw [hr] at exec
    cases exec
    exact h

theorem WellGated.call (h : WellGated log x (s.gate x)) (c : OwnerCall) {tr : List (Act Request Store)}
    {o : Except String Unit} (e : Exec ok c.program s tr (some o) t) : WellGated (log ++ [(c, s)]) x (t.gate x) := by
  have more : WellGated (log ++ [(c, s)]) x (s.gate x) := h.more fun _ hc => List.mem_append_left _ hc
  have logged : (c, s) ∈ log ++ [(c, s)] := List.mem_append_right _ (List.mem_singleton_self _)
  generalize log ++ [(c, s)] = calls at more logged ⊢
  cases c with
  | plan event adapter contract inbox unresolved ownerRef projectScope =>
    have planned := safe_bind stable_true (@safe_plan calls x ok event adapter contract inbox unresolved ownerRef projectScope)
      fun _ => safe_pure ()
    exact (planned.exec more trivial e).2
  | receipt id submission adapter contract => exact more.receipt logged e
  | materialized id verdict adapter =>
    rcases exec_fresh e with rfl | ⟨i, hi, exec⟩
    · exact more
    have own : i.id = id := (get?_eq_some.mp hi).2
    subst own
    have advanced := @safe_materialized calls x ok i verdict adapter fun go state hx =>
      ⟨adapter, s, i, by rw [hx, ← go]; exact logged, by rw [hx]; exact hi, state⟩
    refine (wp_sound (K := gateTerms ok _ x) (Q := fun _ _ => True) (wp_bind.mpr ?_) exec).2.1
    exact wp_mono (advanced.wp s more hi) fun _ _ ht _ => ⟨ht, trivial⟩
  | reviewed id verdict adapter =>
    rcases exec_fresh e with rfl | ⟨i, hi, exec⟩
    · exact more
    have own : i.id = id := (get?_eq_some.mp hi).2
    subst own
    have advanced := @safe_reviewed calls x ok i verdict adapter fun go state hx =>
      ⟨adapter, s, i, by rw [hx, ← go]; exact logged, by rw [hx]; exact hi, state⟩
    refine (wp_sound (K := gateTerms ok _ x) (Q := fun _ _ => True) (wp_bind.mpr ?_) exec).2.1
    exact wp_mono (advanced.wp s more hi) fun _ _ ht _ => ⟨ht, trivial⟩

/-- Calls one after the other, and anything else that leaves the continuation alone. -/
inductive OwnerRun (ok : ∀ q, Response q → Prop) (x : Nat) (s : Store) : CallLog → Store → Prop
  | start : OwnerRun ok x s [] s
  | call {log : CallLog} {t u : Store} (run : OwnerRun ok x s log t) (c : OwnerCall) {tr : List (Act Request Store)}
      {o : Except String Unit} (exec : Exec ok c.program t tr (some o) u) : OwnerRun ok x s (log ++ [(c, t)]) u
  | other {log : CallLog} {t u : Store} (run : OwnerRun ok x s log t) (alone : u.gate x = t.gate x) : OwnerRun ok x s log u

/-- Nothing is known of the continuation yet. -/
def Unborn (x : Nat) (s : Store) : Prop := s.getInstance x = none ∧ s.listSteps x = [] ∧ s.receiptsOf x = []

theorem wellGated_unborn (h : Unborn x s) : WellGated [] x (s.gate x) := by
  obtain ⟨absent, steps, receipts⟩ := h
  have empty : s.gate x = ⟨none, [], []⟩ := by
    unfold Store.gate
    rw [absent, steps, receipts]
    rfl
  rw [empty]
  refine ⟨fun _ => ⟨rfl, rfl⟩, nofun, .nil, nofun, Nat.zero_le 1, fun some => absurd rfl some⟩

theorem OwnerRun.wellGated (h : Unborn x s) (run : OwnerRun ok x s log t) : WellGated log x (t.gate x) := by
  induction run with
  | start => exact wellGated_unborn h
  | call _ c exec ih => exact ih.call c exec
  | other _ alone ih => exact alone ▸ ih

/-- Whatever is called in whatever order, with whatever answers of the board: no step twice, none before it is earned,
and no second receipt. -/
theorem owner_input_gated (h : Unborn x s) (run : OwnerRun ok x s log t) :
    (∀ kind, ((t.listSteps x).filter fun p => p.stepKind == kind).length ≤ 1) ∧
    (∀ p ∈ t.listSteps x, Earned log x (t.receiptsOf x) p.stepKind) ∧ (t.receiptsOf x).length ≤ 1 := by
  have gated := run.wellGated h
  exact ⟨gated.once, fun p hp => gated.earned (p.stepKind, p.idempotencyKey) (List.mem_map_of_mem hp), gated.single⟩

end

section Samples

def ownerEvent : OutcomeEnvelope where
  eventId := "e4"
  board := "ops"
  sourceTaskId := "t4"
  sourceGraphId := "g4"
  originRef := "hermes:session:4"
  returnToRef := ""
  workspaceRef := ""
  verdict := .needMore
  continuationKind := .needsInput
  contractRef := "access.v1"
  confidence := .textExplicit
  complete := by decide
  coherent := by decide

def accessContract : InputContract := ⟨"access.v1", "owner", [{ name := "scope", authority := .owner }], []⟩

/-- From the question to the rerun. -/
def wholeLife : List OwnerCall := [
  .plan ownerEvent (some { board := "ops" }) accessContract none [] "" "",
  .receipt 1 ⟨"alice", [("scope", .str "read")], ""⟩ (some { board := "ops" }) accessContract,
  .materialized 1 "GO" (some { board := "ops" }),
  .reviewed 1 "GO" (some { board := "ops" })]

def called (c : OwnerCall) (s : Store) : Store :=
  (run (steadyEnv 0 { success := true, taskId := "t9" } true) c.program () s).2.2

def callAll : List OwnerCall → CallLog × Store → CallLog × Store
  | [], r => r
  | c :: cs, r => callAll cs (r.1 ++ [(c, r.2)], called c r.2)

theorem ownerRun_callAll {x : Nat} {s : Store} (calls : List OwnerCall) {r : CallLog × Store}
    (h : OwnerRun (fun _ _ => True) x s r.1 r.2) :
    OwnerRun (fun _ _ => True) x s (callAll calls r).1 (callAll calls r).2 := by
  induction calls generalizing r with
  | nil => exact h
  | cons c cs ih =>
    obtain ⟨tr, e⟩ := @run_exec _ _ _ _ _ (steadyEnv 0 { success := true, taskId := "t9" } true) (fun _ _ => True)
      (fun _ _ => trivial) c.program () r.2
    exact ih (.call h c e)

theorem owner_input_gated_whole :
    (∀ kind, (((callAll wholeLife ([], .empty)).2.listSteps 1).filter fun p => p.stepKind == kind).length ≤ 1) ∧
    (∀ p ∈ (callAll wholeLife ([], .empty)).2.listSteps 1, Earned (callAll wholeLife ([], .empty)).1 1
      ((callAll wholeLife ([], .empty)).2.receiptsOf 1) p.stepKind) ∧
    ((callAll wholeLife ([], .empty)).2.receiptsOf 1).length ≤ 1 :=
  owner_input_gated ⟨rfl, rfl, rfl⟩ (ownerRun_callAll wholeLife .start)

example : ((callAll wholeLife ([], .empty)).2.listSteps 1).map Step.stepKind =
    [.ownerAnchor, .materialization, .review, .packetRerun] := by decide +kernel

end Samples

end AgentflowHermes
