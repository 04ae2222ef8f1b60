import AgentflowHermes.CodeFixProgress
import AgentflowHermes.OwnerPosts
import AgentflowHermes.OwnerRules

namespace AgentflowHermes

open CrashProgram RowTable

/-- One call of the handler that plans an event or advances a continuation. -/
inductive OwnerCall
  | plan (e : OutcomeEnvelope) (adapter : Option Adapter) (contract : InputContract) (inbox : Option Nat)
      (unresolved : List Requirement) (ownerRef projectScope : String)
  | receipt (id : Nat) (submission : Submission) (adapter : Option Adapter) (contract : InputContract)
  | materialized (id : Nat) (verdict : String) (adapter : Option Adapter)
  | reviewed (id : Nat) (verdict : String) (adapter : Option Adapter)

/-- The call with a fresh read of the instance. -/
def OwnerCall.program : OwnerCall → Run Unit
  | plan e adapter contract inbox unresolved ownerRef projectScope => do
    let _ ← OwnerInputHandler.plan e adapter contract inbox unresolved ownerRef projectScope
  | receipt id submission adapter contract => do
    let i ← readInstance id
    let _ ← OwnerInputHandler.onReceipt i submission adapter contract
  | materialized id verdict adapter => do
    let i ← readInstance id
    let _ ← OwnerInputHandler.advanceAfterMaterialization i verdict adapter
  | reviewed id verdict adapter => do
    let i ← readInstance id
    let _ ← OwnerInputHandler.advanceAfterReview i verdict adapter

/-- What the store holds of one continuation: its instance, the kind and the key of each step, its receipts. -/
structure Gate where
  instance? : Option Instance
  steps : List (StepKind × String)
  receipts : List OwnerReceipt

def Store.gate (s : Store) (x : Nat) : Gate where
  instance? := s.getInstance x
  steps := (s.listSteps x).map fun p => (p.stepKind, p.idempotencyKey)
  receipts := s.receiptsOf x

/-- The key under which the handler adds a step. -/
def ownerStepKey (digest : String) : StepKind → String
  | .ownerAnchor => anchorKey digest
  | .materialization => materializeKey digest
  | .review => ownerReviewKey digest
  | .packetRerun => rerunKey digest
  | .codeFix => fixKey digest

/-- The calls made so far, each with the store it was made in. -/
abbrev CallLog := List (OwnerCall × Store)

/-- The receipt was submitted while the instance waited for the owner, and the contract accepted it. -/
def AnsweredInWait (log : CallLog) (x : Nat) (r : OwnerReceipt) : Prop :=
  ∃ submission adapter contract u i, (.receipt x submission adapter contract, u) ∈ log ∧ u.getInstance x = some i ∧
    Accepts contract submission.fields i ∧ r.fields = (contract.validateOwnerSubmission submission.fields).1 ∧
    r.ownerRef = submission.ownerRef

def MaterializedGo (log : CallLog) (x : Nat) : Prop :=
  ∃ adapter u i, (.materialized x "GO" adapter, u) ∈ log ∧ u.getInstance x = some i ∧ i.state = .materializing

def ReviewedGo (log : CallLog) (x : Nat) : Prop :=
  ∃ adapter u i, (.reviewed x "GO" adapter, u) ∈ log ∧ u.getInstance x = some i ∧ i.state = .waitingReview

/-- What has to be there before a step of the kind. -/
def Earned (log : CallLog) (x : Nat) (receipts : List OwnerReceipt) : StepKind → Prop
  | .ownerAnchor => True
  | .materialization => ∃ r ∈ receipts, AnsweredInWait log x r
  | .review => MaterializedGo log x
  | .packetRerun => ReviewedGo log x
  | .codeFix => False

structure WellGated (log : CallLog) (x : Nat) (g : Gate) : Prop where
  unborn : g.instance? = none → g.steps = [] ∧ g.receipts = []
  keyed : ∀ i, g.instance? = some i → ∀ p ∈ g.steps, p.2 = ownerStepKey (stableDigest i) p.1
  distinct : (g.steps.map Prod.snd).Nodup
  earned : ∀ p ∈ g.steps, Earned log x g.receipts p.1
  single : g.receipts.length ≤ 1
  left : g.receipts ≠ [] → ∀ i, g.instance? = some i → i.state ≠ .detected ∧ i.state ≠ .waitingOwner

/-- A continuation keeps its columns and its receipts. -/
structure Onward (g g' : Gate) : Prop where
  columns : ∀ i, g.instance? = some i → ∃ j, g'.instance? = some j ∧ j.toNewInstance = i.toNewInstance
  receipts : ∀ r ∈ g.receipts, r ∈ g'.receipts

theorem Onward.refl (g : Gate) : Onward g g := ⟨fun i hi => ⟨i, hi, rfl⟩, fun _ hr => hr⟩

section

variable {log log' : CallLog} {x : Nat} {g : Gate} {s t : Store}

theorem Earned.more {receipts receipts' : List OwnerReceipt} {kind : StepKind} (h : Earned log x receipts kind)
    (calls : ∀ c ∈ log, c ∈ log') (kept : ∀ r ∈ receipts, r ∈ receipts') : Earned log' x receipts' kind := by
  cases kind with
  | ownerAnchor => exact trivial
  | materialization =>
    obtain ⟨r, hr, submission, adapter, contract, u, i, mem, rest⟩ := h
    exact ⟨r, kept r hr, submission, adapter, contract, u, i, calls _ mem, rest⟩
  | review =>
    obtain ⟨adapter, u, i, mem, rest⟩ := h
    exact ⟨adapter, u, i, calls _ mem, rest⟩
  | packetRerun =>
    obtain ⟨adapter, u, i, mem, rest⟩ := h
    exact ⟨adapter, u, i, calls _ mem, rest⟩
  | codeFix => exact h

theorem WellGated.more (h : WellGated log x g) (calls : ∀ c ∈ log, c ∈ log') : WellGated log' x g :=
  { h with earned := fun p hp => (h.earned p hp).more calls fun _ hr => hr }

/-- A continuation that is born now. -/
theorem WellGated.born (h : WellGated log x g) (absent : g.instance? = none) (i : Instance) :
    WellGated log x { g with instance? := some i } := by
  obtain ⟨steps, receipts⟩ := h.unborn absent
  refine { h with unborn := ?_, keyed := ?_, left := ?_ }
  · intro none
    cases none
  · intro j _ p hp
    rw [show g.steps = [] from steps] at hp
    cases hp
  · intro some
    exact absurd receipts some

theorem legal_not_back {current new : ContinuationState} (h : legal current new)
    (left : current ≠ .detected ∧ current ≠ .waitingOwner) : new ≠ .detected ∧ new ≠ .waitingOwner := by
  revert h left
  cases current <;> cases new <;> decide

/-- No move takes a continuation back to the wait. -/
theorem WellGated.moved (h : WellGated log x g) (new : ContinuationState) :
    WellGated log x { g with instance? := g.instance?.map (Store.movedTo new) } := by
  refine { h with unborn := ?_, keyed := ?_, left := ?_ }
  · intro none
    exact h.unborn (Option.map_eq_none_iff.mp none)
  · intro i hi p hp
    obtain ⟨j, hj, rfl⟩ := Option.map_eq_some_iff.mp hi
    have same : (Store.movedTo new j).toNewInstance = j.toNewInstance := by
      unfold Store.movedTo
      split <;> rfl
    rw [h.keyed j hj p hp, stableDigest_eq same, stableDigest_eq rfl]
  · intro received i hi
    obtain ⟨j, hj, rfl⟩ := Option.map_eq_some_iff.mp hi
    have left := h.left received j hj
    unfold Store.movedTo
    split
    next hl => exact legal_not_back hl left
    next => exact left

/-- A step is added under its own key and only when it is earned. -/
theorem WellGated.step (h : WellGated log x g) {i : Instance} (present : g.instance? = some i) {kind : StepKind}
    (earned : Earned log x g.receipts kind) (fresh : ownerStepKey (stableDigest i) kind ∉ g.steps.map Prod.snd) :
    WellGated log x { g with steps := g.steps ++ [(kind, ownerStepKey (stableDigest i) kind)] } := by
  refine { h with unborn := ?_, keyed := ?_, distinct := ?_, earned := ?_ }
  · intro none
    rw [present] at none
    cases none
  · intro j hj p hp
    rcases List.mem_append.mp hp with hp | hp
    · exact h.keyed j hj p hp
    · have same : i = j := Option.some.inj (present.symm.trans hj)
      rw [List.mem_singleton.mp hp, same]
  · rw [List.map_append]
    refine List.nodup_append.mpr ⟨h.distinct, by simp, fun a ha b hb => ?_⟩
    have hb' : b = ownerStepKey (stableDigest i) kind := List.mem_singleton.mp hb
    rw [hb']
    exact fun heq => fresh (heq ▸ ha)
  · intro p hp
    rcases List.mem_append.mp hp with hp | hp
    · exact h.earned p hp
    · rw [List.mem_singleton.mp hp]
      exact earned

/-- A receipt is recorded together with the move out of the wait. -/
theorem WellGated.answered (h : WellGated log x g) {i : Instance} (present : g.instance? = some i)
    (waits : i.state = .waitingOwner) (r : OwnerReceipt) :
    WellGated log x { g with
      instance? := g.instance?.map (Store.movedTo .inputAccepted), receipts := g.receipts ++ [r] } := by
  have none : g.receipts = [] := by
    by_cases none : g.receipts = []
    · exact none
    · exact absurd waits (h.left none i present).2
  have moved := h.moved .inputAccepted
  refine { moved with unborn := ?_, earned := ?_, single := ?_, left := ?_ }
  · intro absent
    rw [present] at absent
    cases absent
  · exact fun p hp => (h.earned p hp).more (fun _ hc => hc) fun _ hr => List.mem_append_left _ hr
  · simp [none]
  · intro _ j hj
    rw [present] at hj
    have legalMove : legal i.state .inputAccepted := by
      rw [waits]
      decide
    have hj' : j = { i with state := .inputAccepted } := by
      simpa [Store.movedTo, legalMove] using hj.symm
    rw [hj']
    show ContinuationState.inputAccepted ≠ .detected ∧ ContinuationState.inputAccepted ≠ .waitingOwner
    decide

/-- Two steps of one kind have the same key. -/
theorem WellGated.once (h : WellGated log x (s.gate x)) (kind : StepKind) :
    ((s.listSteps x).filter fun p => p.stepKind == kind).length ≤ 1 := by
  cases hi : s.getInstance x with
  | none =>
    have empty : s.listSteps x = [] := List.map_eq_nil_iff.mp (h.unborn hi).1
    rw [empty]
    exact Nat.zero_le _
  | some i =>
    have keys : ((s.listSteps x).map Step.idempotencyKey).Nodup := by
      have distinct := h.distinct
      rwa [show (s.gate x).steps = (s.listSteps x).map fun p => (p.stepKind, p.idempotencyKey) from rfl, List.map_map] at distinct
    have sub := keys.sublist ((List.filter_sublist (p := fun p => p.stepKind == kind)).map Step.idempotencyKey)
    have same : ∀ p ∈ (s.listSteps x).filter (fun p => p.stepKind == kind),
        p.idempotencyKey = ownerStepKey (stableDigest i) kind := by
      intro p hp
      obtain ⟨hmem, hkind⟩ := List.mem_filter.mp hp
      have keyed := h.keyed i hi (p.stepKind, p.idempotencyKey) (List.mem_map_of_mem hmem)
      rw [← beq_iff_eq.mp hkind]
      exact keyed
    rw [List.map_congr_left same, List.map_const'] at sub
    exact List.nodup_replicate.mp sub

end

end AgentflowHermes
