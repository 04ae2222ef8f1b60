import AgentflowHermes.GateRuns
import AgentflowHermes.ReplyReading

namespace AgentflowHermes

open CrashProgram RowTable

section

variable {T : ReplyText} {args : ReplyArgs} {ok : ∀ q, Response q → Prop} {s t : Store}

/-- The continuation waits for its owner. -/
def Waits (x : Nat) (s : Store) : Prop := ∃ i, s.getInstance x = some i ∧ i.state = .waitingOwner

/-- The continuations, the recorded values and the cases are what they were. -/
structure SideKept (s t : Store) : Prop where
  gate : ∀ x, t.gate x = s.gate x
  satisfactions : t.satisfactions = s.satisfactions
  cases : t.cases = s.cases
  members : t.members = s.members

/-- What the submission for one member leaves. -/
structure Submitted (r : MemberReply) (s t : Store) : Prop where
  others : ∀ y, y ≠ r.continuationId → t.gate y = s.gate y
  satisfactions : t.satisfactions = s.satisfactions
  cases : t.cases = s.cases
  members : t.members = s.members
  refused : ¬Waits r.continuationId s → t.gate r.continuationId = s.gate r.continuationId
  accepted : Waits r.continuationId s → ¬Waits r.continuationId t ∧ (∃ i, t.getInstance r.continuationId = some i) ∧
    ∃ ρ, t.receiptsOf r.continuationId = s.receiptsOf r.continuationId ++ [ρ] ∧ ρ.fields = r.fields

/-- A contract for programs that raise nothing. -/
def quietTerms (ok : ∀ q, Response q → Prop) (R : Store → Store → Prop) : Terms where
  ok := ok
  inv _ := True
  may _ _ := True
  guar := R
  raises _ := False

theorem SideKept.refl (s : Store) : SideKept s s := ⟨fun _ => rfl, rfl, rfl, rfl⟩

theorem SideKept.trans {s t u : Store} (h : SideKept s t) (h' : SideKept t u) : SideKept s u :=
  ⟨fun x => (h'.gate x).trans (h.gate x), h'.satisfactions.trans h.satisfactions, h'.cases.trans h.cases,
    h'.members.trans h.members⟩

theorem wp_createOnce_kept (id : Nat) (adapter : Option Adapter) (step : Bool × Step) (intent : Payload) (key : String) :
    wp (quietTerms ok fun _ _ => True) (OwnerInputHandler.createOnce id adapter step intent key)
      (fun _ t => SideKept s t) s := by
  have outbox : OutboxTerms (quietTerms ok SideKept) (fun _ _ => True) fun _ => True := {
    may := fun _ _ _ _ _ => trivial
    enqueue := fun _ _ _ _ _ _ => ⟨⟨fun _ => rfl, rfl, rfl, rfl⟩, trivial⟩
    mark := fun _ _ _ _ _ _ _ => ⟨⟨fun _ => rfl, rfl, rfl, rfl⟩, trivial⟩
    reinterpret := fun _ _ _ _ _ => ⟨⟨fun _ => rfl, rfl, rfl, rfl⟩, trivial⟩ }
  have marked : ∀ taskId t, SideKept t (t.markStep step.2.id (some .applied) taskId).2 := fun taskId t =>
    ⟨fun _ => gate_markStep .., rfl, rfl, rfl⟩
  have created : Safe (quietTerms ok SideKept) (fun _ => True)
      (OwnerInputHandler.createOnce id adapter step intent key) := by
    refine safe_ite (safe_bind stable_true (outbox.safe_applyBoardOperation id _ adapter trivial) fun r => ?_) (safe_pure _)
    cases r with
    | failed error state => exact safe_pure _
    | ok taskId =>
      have write : Safe (quietTerms ok SideKept) (fun _ => True) (markStepApplied step.2.id taskId) :=
        safe_write stable_true (fun t _ _ => ⟨marked taskId t, trivial⟩) fun _ => safe_pure _
      exact safe_bind stable_true write fun _ => safe_pure _
  exact wp_mono (wp_related (created.wp s trivial trivial) SideKept.refl (fun _ _ _ => SideKept.trans) fun _ _ h => h)
    fun _ _ _ post => post.2

/-- Without an adapter the anchor is left alone. -/
theorem wp_completeAnchor_none (i : Instance) (receipt : OwnerReceipt) :
    wp (quietTerms ok fun _ _ => True) (OwnerInputHandler.completeAnchor i none receipt) (fun _ t => t = s) s := by
  unfold OwnerInputHandler.completeAnchor
  refine wp_get_bind.mpr ?_
  split
  next => exact ⟨trivial, rfl⟩
  next p _ =>
    rw [if_neg fun both => Bool.false_ne_true both.2]
    exact ⟨trivial, rfl⟩

/-- What a continuation has gone through once its materialization is planned. -/
structure Resumes (x : Nat) (s t : Store) : Prop where
  others : ∀ y, y ≠ x → t.gate y = s.gate y
  moved : t.getInstance x = (s.getInstance x).map (Store.movedTo .materializing)
  receipts : t.receiptsOf x = s.receiptsOf x
  satisfactions : t.satisfactions = s.satisfactions
  cases : t.cases = s.cases
  members : t.members = s.members

theorem wp_resumes (i : Instance) (contract : InputContract) (receipt : OwnerReceipt) :
    wp (quietTerms ok fun _ _ => True) (OwnerInputHandler.completeAnchor i none receipt >>= fun _ => do
      let key := materializeKey (stableDigest i)
      let step ← OwnerInputHandler.addStep i.id .materialization key
      let taskId ← OwnerInputHandler.createOnce i.id none step (materializationIntent i contract receipt key) key
      moveTo i.id .materializing "materialization_task_created"
      return { success := true, state := .materializing, createdStepIds := [step.2.id],
               metadata := [("materialization_task_id", .str (taskId.getD "")), ("receipt_id", .int receipt.id)] :
               StepResult }) (fun result t => result.success ∧ Resumes i.id s t) s := by
  refine wp_bind.mpr (wp_mono (wp_completeAnchor_none i receipt) fun _ u _ same => ?_)
  rw [same]
  refine wp_txn_bind.mpr ⟨trivial, trivial, wp_bind.mpr (wp_mono (wp_createOnce_kept ..) fun _ w _ kept => ?_)⟩
  refine wp_bind.mpr ⟨trivial, trivial, trivial, trivial, rfl, ?_⟩
  have gates : ∀ y, y ≠ i.id → w.gate y = s.gate y := by
    intro y hne
    refine (kept.gate y).trans ?_
    rcases gate_addStep (s := s) (x := y) i.id .materialization (materializeKey (stableDigest i)) with same | ⟨hy, _⟩
    · exact same
    · exact absurd hy hne
  have instance? : w.getInstance i.id = s.getInstance i.id := congrArg Gate.instance? (kept.gate i.id)
  refine ⟨fun y hne => ?_, ?_, congrArg Gate.receipts (kept.gate i.id), kept.satisfactions, kept.cases, kept.members⟩
  · rw [gate_transition, if_neg hne]
    exact gates y hne
  · rw [Store.getInstance_transition, if_pos rfl, instance?]

/-- The receipt of a member that waits, and the move that follows. -/
theorem wp_acceptMember (args : ReplyArgs) (r : MemberReply) (accepted : r.contract.Accepted r.fields) {i : Instance}
    (own : s.getInstance r.continuationId = some i) (waits : i.state = .waitingOwner) :
    wp (quietTerms ok fun _ _ => True)
      (OwnerInputHandler.onReceipt i ⟨args.ownerRef, r.fields, args.sourceRef⟩ none r.contract)
      (fun result t => result.success ∧ Submitted r s t) s := by
  have hid : i.id = r.continuationId := (get?_eq_some.mp own).2
  have clean : (r.contract.validateOwnerSubmission r.fields).2 = [] := accepted
  unfold OwnerInputHandler.onReceipt
  dsimp only
  rw [if_neg (not_not_intro waits), if_neg (not_not_intro clean), accepted.fields]
  refine wp_txn_bind.mpr ⟨trivial, trivial, wp_bind.mpr ⟨trivial, trivial, trivial, ?_⟩⟩
  refine wp_mono (wp_resumes i r.contract _) fun result t _ post => ⟨post.1, ?_⟩
  obtain ⟨_, later⟩ := post
  have seen : ∀ x, _ := fun x => gate_receipt (s := s) (x := x) i.id args.ownerRef r.fields args.sourceRef
    "owner_receipt_accepted"
  have started : legal .waitingOwner .inputAccepted := by decide
  refine ⟨fun y hne => ?_, later.satisfactions, later.cases, later.members, fun refused => ?_, fun _ => ?_⟩
  · have hne' : y ≠ i.id := fun h => hne (h.trans hid)
    rw [later.others y hne', seen, if_neg hne']
  · exact absurd ⟨i, own, waits⟩ refused
  · have gate := seen i.id
    rw [if_pos rfl] at gate
    have moved : t.getInstance i.id = some { i with state := .materializing } := by
      rw [later.moved]
      refine (congrArg (Option.map _) (congrArg Gate.instance? gate)).trans ?_
      show ((s.getInstance i.id).map _).map _ = _
      rw [hid, own]
      have created : legal .inputAccepted .materializing := by decide
      simp [Store.movedTo, waits, started, created, hid]
    rw [← hid]
    refine ⟨?_, ⟨_, moved⟩, _, (later.receipts.trans (congrArg Gate.receipts gate)), rfl⟩
    rintro ⟨j, hj, waits'⟩
    rw [moved] at hj
    cases hj
    cases waits'

theorem wp_submitMember (args : ReplyArgs) (r : MemberReply) (accepted : r.contract.Accepted r.fields) :
    wp (quietTerms ok fun _ _ => True) (submitMember args r) (fun _ t => Submitted r s t) s := by
  unfold submitMember
  refine wp_get_bind.mpr ?_
  have alone : ¬Waits r.continuationId s → Submitted r s s := fun idle =>
    ⟨fun _ _ => rfl, rfl, rfl, rfl, fun _ => rfl, fun waits => absurd waits idle⟩
  cases own : s.getInstance r.continuationId with
  | none =>
    refine ⟨trivial, alone ?_⟩
    rintro ⟨i, hi, _⟩
    rw [own] at hi
    cases hi
  | some i =>
    dsimp only
    by_cases waits : i.state = .waitingOwner
    · refine wp_bind.mpr (wp_mono (wp_acceptMember args r accepted own waits) fun result t _ post => ?_)
      exact ⟨trivial, post.2⟩
    · have idle : ¬Waits r.continuationId s := by
        rintro ⟨j, hj, waits'⟩
        rw [own] at hj
        cases hj
        exact waits waits'
      have refused : ¬Accepts r.contract r.fields i := fun accepts => waits accepts.1
      obtain ⟨result, hresult⟩ := @onReceipt_refused r.contract ⟨args.ownerRef, r.fields, args.sourceRef⟩ i refused none
      rw [hresult]
      exact ⟨trivial, alone idle⟩

/-- What a complete reply leaves for one of its members. -/
structure MemberAnswered (r : MemberReply) (s t : Store) : Prop where
  refused : ¬Waits r.continuationId s → t.gate r.continuationId = s.gate r.continuationId
  accepted : Waits r.continuationId s → ¬Waits r.continuationId t ∧ (∃ i, t.getInstance r.continuationId = some i) ∧
    ∃ ρ, t.receiptsOf r.continuationId = s.receiptsOf r.continuationId ++ [ρ] ∧ ρ.fields = r.fields

theorem Submitted.answered {r : MemberReply} (h : Submitted r s t) : MemberAnswered r s t := ⟨h.refused, h.accepted⟩

theorem waits_of_gate {x : Nat} (same : t.gate x = s.gate x) : Waits x t ↔ Waits x s := by
  have instance? : t.getInstance x = s.getInstance x := congrArg Gate.instance? same
  unfold Waits
  rw [instance?]

/-- A member is answered as well when the store differs elsewhere only. -/
theorem MemberAnswered.congr {u v : Store} {r : MemberReply} (h : MemberAnswered r s t)
    (before : s.gate r.continuationId = u.gate r.continuationId) (after : v.gate r.continuationId = t.gate r.continuationId) :
    MemberAnswered r u v := by
  refine ⟨fun idle => ?_, fun waits => ?_⟩
  · rw [after, h.refused fun w => idle ((waits_of_gate before).mp w), before]
  · obtain ⟨left, there, ρ, receipts, fields⟩ := h.accepted ((waits_of_gate before).mpr waits)
    have recorded : v.receiptsOf r.continuationId = u.receiptsOf r.continuationId ++ [ρ] :=
      (congrArg Gate.receipts after).trans (receipts.trans (congrArg (· ++ [ρ]) (congrArg Gate.receipts before)))
    have present : v.getInstance r.continuationId = t.getInstance r.continuationId := congrArg Gate.instance? after
    exact ⟨fun w => left ((waits_of_gate after).mp w), present ▸ there, ρ, recorded, fields⟩

/-- What the submissions leave, all in all. -/
structure AllSubmitted (replies : List MemberReply) (s t : Store) : Prop where
  members : ∀ r ∈ replies, MemberAnswered r s t
  others : ∀ y, y ∉ replies.map MemberReply.continuationId → t.gate y = s.gate y
  satisfactions : t.satisfactions = s.satisfactions
  cases : t.cases = s.cases

theorem wp_submitMembers (args : ReplyArgs) {replies : List MemberReply}
    (distinct : (replies.map MemberReply.continuationId).Nodup) (accepted : ∀ r ∈ replies, r.contract.Accepted r.fields) :
    wp (quietTerms ok fun _ _ => True) (Prog.forEach (submitMember args) replies) (fun _ t => AllSubmitted replies s t) s := by
  induction replies generalizing s with
  | nil => exact ⟨trivial, fun _ hr => absurd hr List.not_mem_nil, fun _ _ => rfl, rfl, rfl⟩
  | cons r rest ih =>
    obtain ⟨fresh, distinct⟩ := List.nodup_cons.mp distinct
    refine wp_bind.mpr (wp_mono (wp_submitMember args r (accepted r (by simp))) fun _ u _ first => ?_)
    refine wp_bind.mpr (wp_mono (ih distinct fun x hx => accepted x (List.mem_cons_of_mem _ hx)) fun _ t _ later => ?_)
    refine ⟨trivial, fun x hx => ?_, fun y hy => ?_, later.satisfactions.trans first.satisfactions,
      later.cases.trans first.cases⟩
    · rcases List.mem_cons.mp hx with rfl | hx
      · exact first.answered.congr rfl (later.others _ fresh)
      · have hne : x.continuationId ≠ r.continuationId := fun h => fresh (h ▸ List.mem_map_of_mem hx)
        exact (later.members x hx).congr (first.others _ hne) rfl
    · rw [List.map_cons, List.mem_cons, not_or] at hy
      exact (later.others y hy.2).trans (first.others y hy.1)

end

end AgentflowHermes
