import AgentflowHermes.ContractTranslation
import AgentflowHermes.OwnerPosts
import AgentflowHermes.OwnerRules
import AgentflowHermes.ReplyTool

namespace AgentflowHermes

open CrashProgram RowTable InputContract

/-- What an event was asked under: the contract its answers are checked against, and the fields that the
resolver had answered. -/
structure Asking where
  source : String × String × String
  contractRef : String
  contract : InputContract
  resolved : List String

/-- The contract an instance refers to, or the generic one. -/
def registeredRef (n : NewInstance) : String := orText n.contractRef genericOwnerInputContract

def Asking.about (a : Asking) (n : NewInstance) : Prop := a.source = n.source ∧ a.contractRef = registeredRef n

def AskedOf (log : List Asking) (n : NewInstance) (name : String) : Prop :=
  ∃ a ∈ log, a.about n ∧ a.contract.Owns name

def ResolvedOf (log : List Asking) (n : NewInstance) (name : String) : Prop := ∃ a ∈ log, a.about n ∧ name ∈ a.resolved

/-- An answer to the instance respects the contract that is registered for it. -/
def AnswerRespects (contracts : String → Option InputContract) (log : List Asking) (n : NewInstance)
    (fields : List (String × Json)) : Prop :=
  ∀ c, contracts (registeredRef n) = some c → c.Respects (AskedOf log n) (ResolvedOf log n) fields

/-- An asking about the instance whose contract carries the registered one. -/
def Carried (contracts : String → Option InputContract) (log : List Asking) (n : NewInstance) (k : InputContract) : Prop :=
  ∃ a ∈ log, a.about n ∧ a.contract = k ∧ ∀ c, contracts (registeredRef n) = some c → Carries c k a.resolved

/-- Every receipt respects its contract, and every open question is one that can be answered so only. -/
structure WellAnswered (T : ReplyText) (contracts : String → Option InputContract) (log : List Asking) (s : Store) : Prop where
  receipts : ∀ r ∈ s.receipts.rows, ∃ i ∈ s.instances.rows, i.id = r.continuationId ∧
    AnswerRespects contracts log i.toNewInstance r.fields
  members : ∀ m ∈ s.members.rows, ∃ i ∈ s.instances.rows, i.id = m.continuationId ∧
    ∀ k, replyContract T m.requirements = .ok k → Carried contracts log i.toNewInstance k

def answerTerms (T : ReplyText) (ok : ∀ q, Response q → Prop) (contracts : String → Option InputContract)
    (log : List Asking) : Terms where
  ok := ok
  inv := WellAnswered T contracts log
  may _ _ := True
  guar := Kept

section

variable {T : ReplyText} {ok : ∀ q, Response q → Prop} {contracts : String → Option InputContract} {log : List Asking}
  {s t : Store} {n : NewInstance} {P : Store → Prop}

theorem Carried.respects {k : InputContract} (h : Carried contracts log n k) {fields : List (String × Json)}
    (accepted : k.Accepted fields) : AnswerRespects contracts log n fields := by
  obtain ⟨a, ha, about, rfl, carries⟩ := h
  intro c hc
  exact ((carries c hc).respects accepted).mono (fun _ own => ⟨a, ha, about, own⟩) fun _ known => ⟨a, ha, about, known⟩

theorem Carried.more {log' : List Asking} {k : InputContract} (h : Carried contracts log n k)
    (grows : ∀ a ∈ log, a ∈ log') : Carried contracts log' n k := by
  obtain ⟨a, ha, rest⟩ := h
  exact ⟨a, grows a ha, rest⟩

theorem AnswerRespects.more {log' : List Asking} {fields : List (String × Json)} (h : AnswerRespects contracts log n fields)
    (grows : ∀ a ∈ log, a ∈ log') : AnswerRespects contracts log' n fields := fun c hc =>
  (h c hc).mono (fun _ ⟨a, ha, rest⟩ => ⟨a, grows a ha, rest⟩) fun _ ⟨a, ha, rest⟩ => ⟨a, grows a ha, rest⟩

theorem WellAnswered.more {log' : List Asking} (h : WellAnswered T contracts log s) (grows : ∀ a ∈ log, a ∈ log') :
    WellAnswered T contracts log' s where
  receipts r hr := by
    obtain ⟨i, hi, owns, respects⟩ := h.receipts r hr
    exact ⟨i, hi, owns, respects.more grows⟩
  members m hm := by
    obtain ⟨i, hi, owns, carried⟩ := h.members m hm
    exact ⟨i, hi, owns, fun k hk => (carried k hk).more grows⟩

/-- The writes that leave receipts and members alone. -/
theorem WellAnswered.frame (h : WellAnswered T contracts log s) (kept : Kept s t) (receipts : t.receipts = s.receipts)
    (members : t.members = s.members) : Kept s t ∧ WellAnswered T contracts log t := by
  refine ⟨kept, ⟨fun r hr => ?_, fun m hm => ?_⟩⟩
  · obtain ⟨i, hi, owns, respects⟩ := h.receipts r (receipts ▸ hr)
    obtain ⟨j, hj, same, columns⟩ := kept i hi
    exact ⟨j, hj, same.trans owns, columns ▸ respects⟩
  · obtain ⟨i, hi, owns, carried⟩ := h.members m (members ▸ hm)
    obtain ⟨j, hj, same, columns⟩ := kept i hi
    exact ⟨j, hj, same.trans owns, columns ▸ carried⟩

/-- The instance is there, in whatever state. -/
def StillThere (i : Instance) (s : Store) : Prop := ∃ j ∈ s.instances.rows, j.id = i.id ∧ j.toNewInstance = i.toNewInstance

theorem stable_stillThere (i : Instance) : Stable (answerTerms T ok contracts log) (StillThere i) := by
  refine ⟨fun s t _ kept _ ⟨j, hj, same, columns⟩ => ?_⟩
  obtain ⟨k, hk, same', columns'⟩ := kept j hj
  exact ⟨k, hk, same'.trans same, columns'.trans columns⟩

theorem outboxTerms_answer : OutboxTerms (answerTerms T ok contracts log) (fun _ _ => True) fun _ => True where
  may _ _ _ _ _ := trivial
  enqueue _ _ _ _ _ hs := hs.frame (kept_of_eq rfl) rfl rfl
  mark _ _ _ _ _ _ hs := hs.frame (kept_of_eq rfl) rfl rfl
  reinterpret _ _ _ _ hs := hs.frame (kept_of_eq rfl) rfl rfl

theorem ownerTerms_answer : OwnerTerms (answerTerms T ok contracts log) where
  outbox := outboxTerms_answer
  move id new reason s hs := hs.frame (kept_transition s id new reason) rfl rfl
  markStep _ _ _ hs := hs.frame (kept_of_eq rfl) rfl rfl
  other _ _ hs same members := hs.frame (kept_of_eq same.instances) same.receipts members

theorem answer_addStep (id : Nat) (kind : StepKind) (key : String) (hs : WellAnswered T contracts log s) :
    Kept s (s.addStep id kind key "" none).2 ∧ WellAnswered T contracts log (s.addStep id kind key "" none).2 :=
  hs.frame (kept_of_eq rfl) rfl rfl

/-- What a carried contract accepts may be recorded. -/
theorem safe_onReceipt (i : Instance) (submission : Submission) (adapter : Option Adapter) (contract : InputContract)
    (carried : Carried contracts log i.toNewInstance contract) :
    Safe (answerTerms T ok contracts log) (StillThere i) (OwnerInputHandler.onReceipt i submission adapter contract) := by
  refine ⟨fun s hs present => ?_⟩
  by_cases accepts : Accepts contract submission.fields i
  · have accepted : contract.Accepted submission.fields := accepts.2
    unfold OwnerInputHandler.onReceipt
    dsimp only
    rw [if_neg (not_not_intro accepts.1), if_neg (not_not_intro accepts.2)]
    have recorded : WellAnswered T contracts log (s.addOwnerReceipt i.id submission.ownerRef
        (contract.validateOwnerSubmission submission.fields).1 submission.sourceRef none).2 := by
      refine ⟨fun r hr => ?_, hs.members⟩
      rcases mem_insert hr with hr | rfl
      · exact hs.receipts r hr
      · obtain ⟨j, hj, same, columns⟩ := present
        refine ⟨j, hj, same, ?_⟩
        rw [columns]
        dsimp only
        rw [accepted.fields]
        exact carried.respects accepted
    have accepted := ownerTerms_answer.moves.safe_acceptReceipt (K := answerTerms T ok contracts log) stable_true i adapter contract
      (s.addOwnerReceipt i.id submission.ownerRef (contract.validateOwnerSubmission submission.fields).1
        submission.sourceRef none).1 fun s hs _ => answer_addStep _ _ _ hs
    exact wp_txn_bind.mpr ⟨hs, kept_of_eq rfl, accepted.wp _ recorded trivial⟩
  · obtain ⟨r, hr⟩ := onReceipt_refused accepts adapter
    rw [hr]
    exact ⟨hs, trivial⟩

theorem Detected.columns {d : Bool × Instance} (h : Detected s n d t) : d.2.toNewInstance.tuple = n.tuple := by
  cases h with
  | @found i hi =>
    have same : (i.tuple == n.tuple) = true := pred_of_find? (t := s.instances) hi
    exact beq_iff_eq.mp same
  | created => rfl

/-- The detected instance is there, with the columns it was asked by. -/
theorem wp_detect_present (n : NewInstance) (reason : String) (hs : WellAnswered T contracts log s) :
    wp (answerTerms T ok contracts log) (OwnerInputHandler.detect n reason)
      (fun d t => StillThere d.2 t ∧ d.2.toNewInstance.tuple = n.tuple) s := by
  have detect := ownerTerms_answer.moves.safe_detect (K := answerTerms T ok contracts log)
    (fun s hs => WellAnswered.frame hs (kept_createInstance s n) rfl rfl) reason
  refine wp_mono (wp_also (detect.wp s hs trivial) (wp_detect_eq n reason)) fun d t _ post => ?_
  exact ⟨⟨d.2, (get?_eq_some.mp post.2.get).1, rfl, rfl⟩, post.2.columns⟩

/-- A carried question may be stored. -/
theorem answer_addMember (i : Instance) (caseId : String) (stored : List Json) (hs : WellAnswered T contracts log s)
    (present : StillThere i s) (carried : ∀ k, replyContract T stored = .ok k → Carried contracts log i.toNewInstance k) :
    Kept s (addInteractionMember caseId i.id stored s) ∧ WellAnswered T contracts log (addInteractionMember caseId i.id stored s) := by
  refine ⟨kept_of_eq rfl, ⟨hs.receipts, fun m hm => ?_⟩⟩
  obtain ⟨j, hj, same, columns⟩ := present
  unfold addInteractionMember at hm
  dsimp only at hm
  split at hm
  next old hold =>
    rcases mem_modify hm with ⟨hm, _⟩ | ⟨m', hm', hid, rfl⟩
    · exact hs.members m hm
    · obtain rfl : m' = old := rowId_inj hm' (mem_of_find? hold) hid
      have found := pred_of_find? hold
      simp only [Bool.and_eq_true, beq_iff_eq] at found
      exact ⟨j, hj, same.trans found.2.symm, fun k hk => columns ▸ carried k hk⟩
  next =>
    rcases mem_insert hm with hm | rfl
    · exact hs.members m hm
    · exact ⟨j, hj, same, fun k hk => columns ▸ carried k hk⟩

theorem safe_interactionFor (i : Instance) (inbox : Option Nat) (unresolved : List Requirement) (owner scope : String)
    (carried : ∀ k, replyContract T (unresolved.map requirementToDict) = .ok k → Carried contracts log i.toNewInstance k) :
    Safe (answerTerms T ok contracts log) (StillThere i) (OwnerInputHandler.interactionFor i inbox unresolved owner scope) :=
  ownerTerms_answer.safe_interactionFor (stable_stillThere i) i inbox unresolved owner scope (fun _ => trivial)
    (fun _ => trivial) fun caseId _ hs present => answer_addMember i caseId _ hs present carried

end

end AgentflowHermes
