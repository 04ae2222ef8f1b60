import AgentflowHermes.ReplyMembers

namespace AgentflowHermes

open CrashProgram RowTable Relation OwnerInputHandler

/-- An owner submission that is under way: a call of the reply tool, or an automatic resolution. -/
structure Submitter where
  submission : Submission
  adapter : Option Adapter
  contract : InputContract

namespace Submitter

/-- The caller reads the instance and hands its copy to `on_receipt`. -/
def program (x : Nat) (j : Submitter) : Run StepResult :=
  readInstance x >>= fun i => onReceipt i j.submission j.adapter j.contract

def Valid (j : Submitter) : Prop := (j.contract.validateOwnerSubmission j.submission.fields).2 = []

/-- The receipt holds what was submitted. -/
def Gives (j : Submitter) (ρ : OwnerReceipt) : Prop :=
  ρ.ownerRef = j.submission.ownerRef ∧ ρ.fields = (j.contract.validateOwnerSubmission j.submission.fields).1

end Submitter

/-- What is left to do of each submission, and the store they share. -/
abbrev Race (κ : Type) := (κ → Run StepResult) × Store

/-- One read, one transaction or one board call of some submission. -/
inductive RaceStep {κ : Type} [DecidableEq κ] (ok : ∀ q, Response q → Prop) (may : κ → Race κ → Prop) : Race κ → Race κ → Prop
  | turn {c : Race κ} {k : κ} {p : Run StepResult} {t : Store} (small : Small ok (c.1 k) c.2 p t) (allowed : may k c) :
      RaceStep ok may c (Function.update c.1 k p, t)

/-- No valid submission reads the continuation as waiting while another one has read it and is not done. -/
def HeldApart {κ : Type} (x : Nat) (jobs : κ → Submitter) (k : κ) (c : Race κ) : Prop :=
  c.1 k = (jobs k).program x → (jobs k).Valid → Waits x c.2 →
    ∀ j, j ≠ k → (jobs j).Valid → c.1 j = (jobs j).program x ∨ ∃ r, c.1 j = .pure r

/-- The continuation waits, with these receipts, and has no materialization card. -/
structure OpenWait (x : Nat) (i : Instance) (receipts : List OwnerReceipt) (s : Store) : Prop where
  present : s.getInstance x = some i
  waits : i.state = .waitingOwner
  receipts : s.receiptsOf x = receipts
  cards : ∀ row ∈ s.outbox.rows, row.idempotencyKey ≠ materializeKey (stableDigest i)

/-- The payload of the materialization card. -/
def cardOf (i : Instance) (contract : InputContract) (ρ : OwnerReceipt) : Payload :=
  materializationIntent i contract ρ (materializeKey (stableDigest i))

/-- One answer was accepted, its card names it, and everybody else is told that nothing is waiting. -/
structure OneAnswer {κ : Type} (x : Nat) (i : Instance) (jobs : κ → Submitter) (c : Race κ) : Prop where
  receipts : (c.2.receiptsOf x).length ≤ 1
  accepted : ∀ j k r r', c.1 j = .pure r → c.1 k = .pure r' → r.success → r'.success → j = k
  recorded : ∀ k r, c.1 k = .pure r → r.success → ∃ ρ, c.2.receiptsOf x = [ρ] ∧ (jobs k).Gives ρ
  cards : ∀ row ∈ c.2.outbox.rows, row.operation = .createTask →
    row.idempotencyKey = materializeKey (stableDigest i) →
    ∃ ρ k, c.2.receiptsOf x = [ρ] ∧ row.payload = cardOf i (jobs k).contract ρ
  told : ∀ k r, c.1 k = .pure r → (jobs k).Valid → ¬r.success →
    r.reason = "not_waiting_owner" ∧ (c.2.receiptsOf x).length = 1
  quiet : ∀ k e, c.1 k ≠ .raise e

section AnsweredBy

variable {ok : ∀ q, Response q → Prop} {i : Instance} {contract : InputContract} {ρ : OwnerReceipt} {s t : Store}

/-- The continuation has been answered by `ρ`. -/
structure AnsweredBy (i : Instance) (contract : InputContract) (ρ : OwnerReceipt) (s : Store) : Prop where
  present : ∃ j, s.getInstance i.id = some j
  gone : ¬Waits i.id s
  receipts : s.receiptsOf i.id = [ρ]
  cards : ∀ row ∈ s.outbox.rows, row.operation = .createTask →
    row.idempotencyKey = materializeKey (stableDigest i) → row.payload = cardOf i contract ρ

def answeredTerms (ok : ∀ q, Response q → Prop) (i : Instance) (contract : InputContract) (ρ : OwnerReceipt) : Terms where
  ok := ok
  inv := AnsweredBy i contract ρ
  may _ _ := True
  raises _ := False

theorem AnsweredBy.frame (h : AnsweredBy i contract ρ s) (same : t.gate i.id = s.gate i.id) (outbox : t.outbox = s.outbox) :
    AnsweredBy i contract ρ t := by
  have instance? : t.getInstance i.id = s.getInstance i.id := congrArg Gate.instance? same
  have gone : ¬Waits i.id t := by
    rw [waits_of_gate same]
    exact h.gone
  refine ⟨?_, gone, (congrArg Gate.receipts same).trans h.receipts, ?_⟩
  · rw [instance?]
    exact h.present
  · rw [outbox]
    exact h.cards

theorem AnsweredBy.addStep (h : AnsweredBy i contract ρ s) (id : Nat) (kind : StepKind) (key : String) :
    AnsweredBy i contract ρ (s.addStep id kind key "" none).2 := by
  refine ⟨h.present, ?_, h.receipts, h.cards⟩
  rintro ⟨j, hj, waits⟩
  exact h.gone ⟨j, hj, waits⟩

theorem AnsweredBy.transition (h : AnsweredBy i contract ρ s) (id : Nat) (new : ContinuationState) (reason : String)
    (forward : new ≠ .waitingOwner) : AnsweredBy i contract ρ (s.transition id new reason).2 := by
  obtain ⟨j, hj⟩ := h.present
  have seen := s.getInstance_transition id new reason i.id
  by_cases same : i.id = id
  · subst same
    rw [if_pos rfl, hj] at seen
    refine ⟨⟨_, seen⟩, ?_, h.receipts, h.cards⟩
    rintro ⟨k, hk, waits⟩
    obtain rfl : Store.movedTo new j = k := Option.some.inj (seen.symm.trans hk)
    unfold Store.movedTo at waits
    split at waits
    · exact forward waits
    · exact h.gone ⟨j, hj, waits⟩
  · rw [if_neg same] at seen
    refine ⟨⟨j, seen.trans hj⟩, ?_, h.receipts, h.cards⟩
    rintro ⟨k, hk, waits⟩
    exact h.gone ⟨k, seen.symm.trans hk, waits⟩

/-- The move that accepts the receipt. -/
theorem OpenWait.settled (h : OpenWait i.id i [ρ] s) (contract : InputContract) (reason : String) :
    AnsweredBy i contract ρ (s.transition i.id .inputAccepted reason).2 := by
  have seen := s.getInstance_transition i.id .inputAccepted reason i.id
  have started : legal .waitingOwner .inputAccepted := by decide
  rw [if_pos rfl, h.present] at seen
  refine ⟨⟨_, seen⟩, ?_, h.receipts, fun row hrow _ hkey => absurd hkey (h.cards row hrow)⟩
  rintro ⟨k, hk, waits⟩
  obtain rfl : Store.movedTo .inputAccepted i = k := Option.some.inj (seen.symm.trans hk)
  unfold Store.movedTo at waits
  rw [h.waits, if_pos started] at waits
  cases waits

/-- The receipt of a caller that has seen the continuation wait. -/
theorem OpenWait.receipt (h : OpenWait i.id i [] s) (owner : String) (fields : List (String × Json)) (source : String) :
    OpenWait i.id i [(s.addOwnerReceipt i.id owner fields source none).1]
      (s.addOwnerReceipt i.id owner fields source none).2 := by
  refine ⟨h.present, h.waits, ?_, h.cards⟩
  have gate := gate_addOwnerReceipt (s := s) (x := i.id) i.id owner fields source
  rw [if_pos rfl] at gate
  have receipts := congrArg Gate.receipts gate
  exact receipts.trans (congrArg (· ++ _) h.receipts)

/-- The card of this continuation is only enqueued with this payload. -/
def Bears (i : Instance) (contract : InputContract) (ρ : OwnerReceipt) (n : Store.NewOutbox) : Prop :=
  n.operation = .createTask → n.idempotencyKey = materializeKey (stableDigest i) → n.payload = cardOf i contract ρ

theorem AnsweredBy.outboxEnqueue (h : AnsweredBy i contract ρ s) (id : Nat) {n : Store.NewOutbox} (bears : Bears i contract ρ n) :
    AnsweredBy i contract ρ (s.outboxEnqueue id n).2 := by
  refine ⟨h.present, h.gone, h.receipts, fun row hrow create hkey => ?_⟩
  unfold Store.outboxEnqueue Store.enqueueRow at hrow
  dsimp only at hrow
  split at hrow
  next => exact h.cards row hrow create hkey
  next =>
    rcases mem_insert hrow with old | rfl
    · exact h.cards row old create hkey
    · exact bears create hkey

theorem outboxTerms_settled : OutboxTerms (answeredTerms ok i contract ρ) (fun _ _ => True) (Bears i contract ρ) where
  may _ _ _ _ _ := trivial
  enqueue id _ _ bears _ hs := ⟨trivial, hs.outboxEnqueue id bears⟩
  mark id state taskId next error s hs := by
    refine ⟨trivial, hs.present, hs.gone, hs.receipts, fun row hrow create hkey => ?_⟩
    rcases mem_modify hrow with ⟨old, _⟩ | ⟨before, old, _, rfl⟩
    · exact hs.cards row old create hkey
    · exact hs.cards before old create hkey
  reinterpret id pre key s hs := by
    refine ⟨trivial, hs.present, hs.gone, hs.receipts, fun row hrow create hkey => ?_⟩
    rcases s.outboxReinterpretPending_cases id .subscribe pre .scheduleOriginWake key with same | ⟨o, _, _, _, _, changed⟩
    · rw [same] at hrow
      exact hs.cards row hrow create hkey
    · rw [changed] at hrow
      rcases mem_modify hrow with ⟨old, _⟩ | ⟨before, _, _, rfl⟩
      · exact hs.cards row old create hkey
      · cases create

theorem wp_settled (adapter : Option Adapter) (hs : AnsweredBy i contract ρ s) :
    wp (answeredTerms ok i contract ρ) (completeAnchor i adapter ρ >>= fun _ => do
      let key := materializeKey (stableDigest i)
      let step ← addStep i.id .materialization key
      let taskId ← createOnce i.id adapter step (materializationIntent i contract ρ key) key
      moveTo i.id .materializing "materialization_task_created"
      return { success := true, state := .materializing, createdStepIds := [step.2.id],
               metadata := [("materialization_task_id", .str (taskId.getD "")), ("receipt_id", .int ρ.id)] :
               StepResult }) (fun r _ => r.success) s := by
  have outbox := @outboxTerms_settled ok i contract ρ
  have anchor := outbox.safe_completeAnchor i adapter ρ fun _ _ _ create => by cases create
  refine wp_bind.mpr (wp_mono (anchor.wp s hs trivial) fun _ u hu _ => ?_)
  refine wp_txn_bind.mpr ⟨hu, trivial, ?_⟩
  have stepped := hu.addStep i.id .materialization (materializeKey (stableDigest i))
  have bears : ∀ step, Bears i contract ρ ⟨step, .createTask, cardOf i contract ρ, materializeKey (stableDigest i)⟩ :=
    fun _ _ _ => rfl
  have card := outbox.safe_createOnce (fun _ _ _ h => ⟨trivial, h.frame (gate_markStep ..) rfl⟩) i.id adapter
    (u.addStep i.id .materialization (materializeKey (stableDigest i)) "" none).1 (bears _)
  refine wp_bind.mpr (wp_mono (card.wp _ stepped trivial) fun taskId v hv _ => ?_)
  have moved := hv.transition i.id .materializing "materialization_task_created" (by decide)
  exact wp_bind.mpr ⟨hv, trivial, moved, moved, rfl⟩

end AnsweredBy

section Race

variable {κ : Type} {ok : ∀ q, Response q → Prop} {i : Instance} {jobs : κ → Submitter} {c d : Race κ} {k : κ}

theorem onReceipt_accepted {submission : Submission} {contract : InputContract} (waits : i.state = .waitingOwner)
    (valid : (contract.validateOwnerSubmission submission.fields).2 = []) (adapter : Option Adapter) :
    onReceipt i submission adapter contract =
      .write (fun s => (s.addOwnerReceipt i.id submission.ownerRef (contract.validateOwnerSubmission submission.fields).1
          submission.sourceRef none).2)
        fun s => acceptReceipt i adapter contract (s.addOwnerReceipt i.id submission.ownerRef
          (contract.validateOwnerSubmission submission.fields).1 submission.sourceRef none).1 := by
  unfold onReceipt
  dsimp only
  rw [if_neg (not_not_intro waits), if_neg (not_not_intro valid)]
  rfl

/-- The submission has not started, or was refused. -/
def Resting (x : Nat) (jobs : κ → Submitter) (k : κ) (c : Race κ) : Prop :=
  c.1 k = (jobs k).program x ∨ ∃ r, c.1 k = .pure r ∧ r.success = false ∧
    ((jobs k).Valid → r.reason = "not_waiting_owner" ∧ ¬Waits x c.2)

theorem Resting.mono {x : Nat} (h : Resting x jobs k c) (same : d.1 k = c.1 k) (gone : ¬Waits x c.2 → ¬Waits x d.2) :
    Resting x jobs k d := by
  unfold Resting
  rw [same]
  rcases h with idle | ⟨r, hr, refused, told⟩
  · exact .inl idle
  · exact .inr ⟨r, hr, refused, fun valid => ⟨(told valid).1, gone (told valid).2⟩⟩

/-- How far the submissions have come. -/
inductive Phase (ok : ∀ q, Response q → Prop) (i : Instance) (jobs : κ → Submitter) (c : Race κ) : Prop
  | waiting (fresh : OpenWait i.id i [] c.2) (rest : ∀ k, Resting i.id jobs k c)
  | reading (j : κ) (valid : (jobs j).Valid) (fresh : OpenWait i.id i [] c.2)
      (here : c.1 j = onReceipt i (jobs j).submission (jobs j).adapter (jobs j).contract)
      (rest : ∀ k, k ≠ j → Resting i.id jobs k c)
  | recorded (j : κ) (ρ : OwnerReceipt) (valid : (jobs j).Valid) (gives : (jobs j).Gives ρ) (noted : OpenWait i.id i [ρ] c.2)
      (here : c.1 j = acceptReceipt i (jobs j).adapter (jobs j).contract ρ) (rest : ∀ k, k ≠ j → Resting i.id jobs k c)
  | settled (j : κ) (ρ : OwnerReceipt) (gives : (jobs j).Gives ρ)
      (here : wp (answeredTerms ok i (jobs j).contract ρ) (c.1 j) (fun r _ => r.success) c.2)
      (rest : ∀ k, k ≠ j → Resting i.id jobs k c)

variable {p : Run StepResult} {t : Store}

theorem small_program {x : Nat} {j : Submitter} {s : Store} (present : s.getInstance x = some i)
    (small : Small ok (j.program x) s p t) : t = s ∧ p = onReceipt i j.submission j.adapter j.contract := by
  unfold Submitter.program readInstance at small
  rw [Prog.read_bind] at small
  cases small with
  | read =>
    refine ⟨rfl, ?_⟩
    dsimp only
    rw [present]
    rfl

/-- A caller that is not accepted stops at once. -/
theorem onReceipt_stops {j : Submitter} (refused : ¬Accepts j.contract j.submission.fields i) :
    ∃ r, onReceipt i j.submission j.adapter j.contract = .pure r ∧ r.success = false ∧
      (j.Valid → r.reason = "not_waiting_owner" ∧ i.state ≠ .waitingOwner) := by
  unfold onReceipt
  dsimp only
  by_cases waits : i.state = .waitingOwner
  · have invalid : (j.contract.validateOwnerSubmission j.submission.fields).2 ≠ [] := fun valid => refused ⟨waits, valid⟩
    rw [if_neg (not_not_intro waits), if_pos invalid]
    exact ⟨_, rfl, rfl, fun valid => absurd valid invalid⟩
  · rw [if_pos waits]
    exact ⟨_, rfl, rfl, fun _ => ⟨rfl, waits⟩⟩

theorem not_waits {x : Nat} {s : Store} (present : s.getInstance x = some i) (gone : i.state ≠ .waitingOwner) :
    ¬Waits x s := by
  rintro ⟨j, hj, waits⟩
  rw [present] at hj
  cases hj
  exact gone waits

/-- A resting submission can only read. -/
theorem Resting.turn {x : Nat} (rest : Resting x jobs k c) (present : c.2.getInstance x = some i) (small : Small ok (c.1 k) c.2 p t) :
    c.1 k = (jobs k).program x ∧ t = c.2 ∧
      p = onReceipt i (jobs k).submission (jobs k).adapter (jobs k).contract := by
  rcases rest with idle | ⟨r, hr, _⟩
  · rw [idle] at small
    exact ⟨idle, small_program present small⟩
  · rw [hr] at small
    cases small

/-- While one submission is being recorded the others may not see the continuation wait. -/
theorem HeldApart.refused {x : Nat} {j : κ} {f : Store → Store} {rest : Store → Run StepResult}
    (allowed : HeldApart x jobs k c) (busy : c.1 j = .write f rest) (valid : (jobs j).Valid) (apart : k ≠ j)
    (present : c.2.getInstance x = some i) (idle : c.1 k = (jobs k).program x) :
    ¬Accepts (jobs k).contract (jobs k).submission.fields i := by
  intro accepts
  rcases allowed idle accepts.2 ⟨i, present, accepts.1⟩ j (Ne.symm apart) valid with unread | ⟨r, hr⟩
  · rw [busy] at unread
    cases unread
  · rw [busy] at hr
    cases hr

section Turn

variable [DecidableEq κ] {x : Nat}

theorem Resting.other {m : κ} (rest : Resting x jobs m c) (apart : m ≠ k) (gone : ¬Waits x c.2 → ¬Waits x t) :
    Resting x jobs m (Function.update c.1 k p, t) := rest.mono (Function.update_of_ne apart ..) gone

/-- A read that is refused leaves everybody where they were. -/
theorem Resting.refused (present : c.2.getInstance x = some i)
    (refused : ¬Accepts (jobs k).contract (jobs k).submission.fields i) :
    Resting x jobs k
      (Function.update c.1 k (onReceipt i (jobs k).submission (jobs k).adapter (jobs k).contract), c.2) := by
  obtain ⟨r, hr, failed, told⟩ := onReceipt_stops refused
  refine .inr ⟨r, (Function.update_self ..).trans hr, failed, fun valid => ⟨(told valid).1, ?_⟩⟩
  exact not_waits present (told valid).2

/-- A turn of another submission that is refused. -/
theorem Resting.intruder {j : κ} (rest : ∀ m, m ≠ j → Resting x jobs m c) (present : c.2.getInstance x = some i)
    (apart : k ≠ j) (refused : c.1 k = (jobs k).program x → ¬Accepts (jobs k).contract (jobs k).submission.fields i)
    (small : Small ok (c.1 k) c.2 p t) :
    t = c.2 ∧ Function.update c.1 k p j = c.1 j ∧ ∀ m, m ≠ j → Resting x jobs m (Function.update c.1 k p, t) := by
  obtain ⟨idle, rfl, rfl⟩ := (rest k apart).turn present small
  refine ⟨rfl, Function.update_of_ne (Ne.symm apart) .., fun m hm => ?_⟩
  by_cases own : m = k
  · subst own
    exact .refused present (refused idle)
  · exact (rest m hm).other own id

theorem Phase.step (h : Phase ok i jobs c) (step : RaceStep ok (HeldApart i.id jobs) c d) : Phase ok i jobs d := by
  obtain @⟨k, p, t, small, allowed⟩ := step
  cases h with
  | waiting fresh rest =>
    obtain ⟨idle, rfl, rfl⟩ := (rest k).turn fresh.present small
    by_cases accepts : Accepts (jobs k).contract (jobs k).submission.fields i
    · exact .reading k accepts.2 fresh (Function.update_self ..) fun m hm => (rest m).other hm id
    · refine .waiting fresh fun m => ?_
      by_cases hm : m = k
      · subst hm
        exact .refused fresh.present accepts
      · exact (rest m).other hm id
  | reading j valid fresh here rest =>
    have busy := here.trans (onReceipt_accepted fresh.waits valid (jobs j).adapter)
    by_cases own : k = j
    · subst own
      rw [busy] at small
      cases small with
      | write =>
        have waits : Waits i.id c.2 := ⟨i, fresh.present, fresh.waits⟩
        refine .recorded k _ valid ⟨rfl, rfl⟩ (fresh.receipt ..) (Function.update_self ..) fun m hm => ?_
        exact (rest m hm).other hm fun gone => absurd waits gone
    · obtain ⟨rfl, same, rest'⟩ := Resting.intruder rest fresh.present own
        (allowed.refused busy valid own fresh.present) small
      exact .reading j valid fresh (same.trans here) rest'
  | recorded j ρ valid gives noted here rest =>
    have busy : c.1 j = .write _ _ := here
    by_cases own : k = j
    · subst own
      rw [busy] at small
      cases small with
      | write =>
        have waits : Waits i.id c.2 := ⟨i, noted.present, noted.waits⟩
        have next := noted.settled (jobs k).contract "owner_receipt_accepted"
        have begun := @wp_settled ok i (jobs k).contract ρ _ (jobs k).adapter next
        refine .settled k ρ gives ?_ fun m hm => (rest m hm).other hm fun gone => absurd waits gone
        dsimp only
        rw [Function.update_self]
        exact begun
    · obtain ⟨rfl, same, rest'⟩ := Resting.intruder rest noted.present own
        (allowed.refused busy valid own noted.present) small
      exact .recorded j ρ valid gives noted (same.trans here) rest'
  | settled j ρ gives here rest =>
    have settled : AnsweredBy i (jobs j).contract ρ c.2 := wp_inv here
    by_cases own : k = j
    · subst own
      have later := wp_small here small
      have settled' : AnsweredBy i (jobs k).contract ρ t := wp_inv later
      refine .settled k ρ gives ?_ fun m hm => (rest m hm).other hm fun _ => settled'.gone
      dsimp only
      rw [Function.update_self]
      exact later
    · obtain ⟨i', present⟩ := settled.present
      have refused : ¬Accepts (jobs k).contract (jobs k).submission.fields i' := fun accepts =>
        settled.gone ⟨i', present, accepts.1⟩
      obtain ⟨rfl, same, rest'⟩ := Resting.intruder rest present own (fun _ => refused) small
      refine .settled j ρ gives ?_ rest'
      dsimp only
      rw [same]
      exact here

theorem Phase.run (h : Phase ok i jobs c) (run : ReflTransGen (RaceStep ok (HeldApart i.id jobs)) c d) :
    Phase ok i jobs d := by
  induction run with
  | refl => exact h
  | tail _ step ih => exact ih.step step

end Turn

/-- A submission that rests has not been accepted. -/
theorem Resting.not_success {x : Nat} (rest : Resting x jobs k c) {r : StepResult} (done : c.1 k = .pure r) :
    r.success = false ∧ ((jobs k).Valid → r.reason = "not_waiting_owner" ∧ ¬Waits x c.2) := by
  rcases rest with idle | ⟨r', hr, told⟩
  · rw [done] at idle
    cases idle
  · rw [done] at hr
    cases hr
    exact told

theorem Resting.quiet {x : Nat} (rest : Resting x jobs k c) (e : String) : c.1 k ≠ .raise e := by
  intro raised
  rcases rest with idle | ⟨r, hr, _⟩
  · rw [raised] at idle
    cases idle
  · rw [raised] at hr
    cases hr

/-- Every submission rests, is being recorded, or has been. -/
theorem Phase.stage (h : Phase ok i jobs c) (k : κ) : Resting i.id jobs k c ∨ (∃ f rest, c.1 k = .write f rest) ∨
    ∃ ρ, (jobs k).Gives ρ ∧ wp (answeredTerms ok i (jobs k).contract ρ) (c.1 k) (fun r _ => r.success) c.2 ∧
      ∀ m, m ≠ k → Resting i.id jobs m c := by
  cases h with
  | waiting _ rest => exact .inl (rest k)
  | reading j valid fresh here rest =>
    by_cases own : k = j
    · subst own
      exact .inr (.inl ⟨_, _, here.trans (onReceipt_accepted fresh.waits valid (jobs k).adapter)⟩)
    · exact .inl (rest k own)
  | recorded j ρ _ _ _ here rest =>
    by_cases own : k = j
    · subst own
      exact .inr (.inl ⟨_, _, here⟩)
    · exact .inl (rest k own)
  | settled j ρ gives here rest =>
    by_cases own : k = j
    · subst own
      exact .inr (.inr ⟨ρ, gives, here, rest⟩)
    · exact .inl (rest k own)

/-- A caller that was told of success is the one whose receipt is recorded. -/
theorem Phase.winner (h : Phase ok i jobs c) {r : StepResult} (done : c.1 k = .pure r) (success : r.success) :
    ∃ ρ, (jobs k).Gives ρ ∧ AnsweredBy i (jobs k).contract ρ c.2 ∧ ∀ m, m ≠ k → Resting i.id jobs m c := by
  rcases h.stage k with rest | ⟨f, left, busy⟩ | ⟨ρ, gives, here, rest⟩
  · have failed := (rest.not_success done).1
    rw [success] at failed
    cases failed
  · rw [done] at busy
    cases busy
  · exact ⟨ρ, gives, wp_inv here, rest⟩

/-- A valid caller that was refused came after the accepted one. -/
theorem Phase.loser (h : Phase ok i jobs c) {r : StepResult} (done : c.1 k = .pure r) (valid : (jobs k).Valid)
    (failed : ¬r.success) : r.reason = "not_waiting_owner" ∧ ¬Waits i.id c.2 := by
  rcases h.stage k with rest | ⟨f, left, busy⟩ | ⟨ρ, _, here, _⟩
  · exact (rest.not_success done).2 valid
  · rw [done] at busy
    cases busy
  · rw [done] at here
    exact absurd here.2 failed

theorem Phase.quiet (h : Phase ok i jobs c) (k : κ) (e : String) : c.1 k ≠ .raise e := by
  intro raised
  rcases h.stage k with rest | ⟨f, left, busy⟩ | ⟨ρ, _, here, _⟩
  · exact rest.quiet e raised
  · rw [raised] at busy
    cases busy
  · rw [raised] at here
    exact here.2

/-- The receipts are those of the phase. -/
theorem Phase.receipts (h : Phase ok i jobs c) : Waits i.id c.2 ∧ (c.2.receiptsOf i.id).length ≤ 1 ∧
    (∀ row ∈ c.2.outbox.rows, row.idempotencyKey ≠ materializeKey (stableDigest i)) ∨
    ∃ j ρ, AnsweredBy i (jobs j).contract ρ c.2 := by
  cases h with
  | waiting fresh => exact .inl ⟨⟨i, fresh.present, fresh.waits⟩, by simp [fresh.receipts], fresh.cards⟩
  | reading j _ fresh => exact .inl ⟨⟨i, fresh.present, fresh.waits⟩, by simp [fresh.receipts], fresh.cards⟩
  | recorded j ρ _ _ noted => exact .inl ⟨⟨i, noted.present, noted.waits⟩, by simp [noted.receipts], noted.cards⟩
  | settled j ρ _ here => exact .inr ⟨j, ρ, wp_inv here⟩

theorem Phase.oneAnswer (h : Phase ok i jobs c) : OneAnswer i.id i jobs c where
  receipts := by
    rcases h.receipts with ⟨_, short, _⟩ | ⟨j, ρ, settled⟩
    · exact short
    · simp [settled.receipts]
  accepted j k r r' done done' success success' := by
    by_contra apart
    obtain ⟨ρ, _, _, rest⟩ := h.winner done success
    have failed := ((rest k (Ne.symm apart)).not_success done').1
    rw [success'] at failed
    cases failed
  recorded k r done success := by
    obtain ⟨ρ, gives, settled, _⟩ := h.winner done success
    exact ⟨ρ, settled.receipts, gives⟩
  cards row hrow create hkey := by
    rcases h.receipts with ⟨_, _, none'⟩ | ⟨j, ρ, settled⟩
    · exact absurd hkey (none' row hrow)
    · exact ⟨ρ, j, settled.receipts, settled.cards row hrow create hkey⟩
  told k r done valid failed := by
    obtain ⟨reason, gone⟩ := h.loser done valid failed
    rcases h.receipts with ⟨waits, _⟩ | ⟨j, ρ, settled⟩
    · exact absurd waits gone
    · exact ⟨reason, by simp [settled.receipts]⟩
  quiet := h.quiet

/-- However the submissions for a waiting continuation interleave, one is accepted as long as none reads the
continuation as waiting while another one has. -/
theorem one_answer_per_wait [DecidableEq κ] {x : Nat} {s : Store} (start : OpenWait x i [] s)
    (run : ReflTransGen (RaceStep ok (HeldApart x jobs)) (fun k => (jobs k).program x, s) c) : OneAnswer x i jobs c := by
  obtain rfl : i.id = x := (get?_eq_some.mp start.present).2
  have first : Phase ok i jobs (fun k => (jobs k).program i.id, s) := .waiting start fun _ => .inl rfl
  exact (first.run run).oneAnswer

end Race

section Samples

def scopeSubmitter (scope : String) : Submitter where
  submission := ⟨"alice", [("scope", .str scope)], ""⟩
  adapter := some { board := "ops" }
  contract := accessContract

/-- Two answers to one question. -/
def rivals (k : Bool) : Submitter := scopeSubmitter (if k then "write" else "read")

/-- The owner has been asked. -/
def asked : Store := called (.plan ownerEvent (some { board := "ops" }) accessContract none [] "" "") .empty

/-- One turn of a submission, with a board that answers. -/
def advance (k : Bool) (c : Race Bool) : Race Bool :=
  match c.1 k with
  | .read f => (Function.update c.1 k (f c.2), c.2)
  | .write f g => (Function.update c.1 k (g c.2), f c.2)
  | .call q g => (Function.update c.1 k (g (steadyEnv 0 { success := true, taskId := "t9" } true q ()).1), c.2)
  | _ => c

def played : List Bool → Race Bool → Race Bool
  | [], c => c
  | k :: ks, c => played ks (advance k c)

def raceStart : Race Bool := (fun k => (rivals k).program 1, asked)

def finished : Run StepResult → Bool
  | .pure _ => true
  | _ => false

theorem asked_awaits : ∃ i, OpenWait 1 i [] asked := by
  obtain ⟨i, present⟩ : ∃ i, asked.getInstance 1 = some i := Option.isSome_iff_exists.mp (by decide +kernel)
  have fresh : (asked.getInstance 1).all (fun i => i.state == .waitingOwner &&
      asked.outbox.rows.all fun row => row.idempotencyKey != materializeKey (stableDigest i)) = true := by decide +kernel
  rw [present] at fresh
  simp only [Option.all_some, Bool.and_eq_true, beq_iff_eq, List.all_eq_true, bne_iff_ne] at fresh
  exact ⟨i, present, fresh.1, by decide +kernel, fresh.2⟩

theorem advance_step {may : Bool → Race Bool → Prop} {k : Bool} {c : Race Bool} (allowed : may k c) :
    ReflTransGen (RaceStep (fun _ _ => True) may) c (advance k c) := by
  unfold advance
  split
  next f hp => exact .single (.turn (hp ▸ .read) allowed)
  next f g hp => exact .single (.turn (hp ▸ .write) allowed)
  next q g hp => exact .single (.turn (hp ▸ .call trivial) allowed)
  next => exact .refl

/-- One submission from its first to its last step, while the other has not begun. -/
theorem alone_run (n : Nat) {c : Race Bool} (idle : c.1 true = (rivals true).program 1) :
    ReflTransGen (RaceStep (fun _ _ => True) (HeldApart 1 rivals)) c (played (List.replicate n false) c) ∧
      (played (List.replicate n false) c).1 true = (rivals true).program 1 := by
  induction n generalizing c with
  | zero => exact ⟨.refl, idle⟩
  | succ n ih =>
    have apart : HeldApart 1 rivals false c := by
      intro _ _ _ j hj _
      obtain rfl : j = true := by simpa using hj
      exact .inl idle
    have idle' : (advance false c).1 true = (rivals true).program 1 := by
      unfold advance
      split <;> simpa using idle
    obtain ⟨later, unread⟩ := ih idle'
    exact ⟨(advance_step apart).trans later, unread⟩

theorem one_answer_per_wait_second :
    ∃ i, OneAnswer 1 i rivals (advance true (played (List.replicate 20 false) raceStart)) := by
  obtain ⟨i, start⟩ := asked_awaits
  obtain ⟨run, _⟩ := alone_run 20 (c := raceStart) rfl
  have finish : finished ((played (List.replicate 20 false) raceStart).1 false) = true := by decide +kernel
  have apart : HeldApart 1 rivals true (played (List.replicate 20 false) raceStart) := by
    intro _ _ _ j hj _
    obtain rfl : j = false := by simpa using hj
    unfold finished at finish
    split at finish
    next r hr => exact .inr ⟨r, hr⟩
    next => cases finish
  exact ⟨i, one_answer_per_wait start (run.trans (advance_step apart))⟩

theorem played_run (ks : List Bool) (c : Race Bool) :
    ReflTransGen (RaceStep (fun _ _ => True) fun _ _ => True) c (played ks c) := by
  induction ks generalizing c with
  | nil => exact .refl
  | cons k ks ih => exact (advance_step trivial).trans (ih _)

/-- Both callers read the instance before either of them has written. -/
theorem two_answers_recorded : ¬∀ (jobs : Bool → Submitter) (x : Nat) (i : Instance) (s : Store) (c : Race Bool),
    OpenWait x i [] s → ReflTransGen (RaceStep (fun _ _ => True) fun _ _ => True) (fun k => (jobs k).program x, s) c →
    OneAnswer x i jobs c := by
  intro claimed
  obtain ⟨i, start⟩ := asked_awaits
  have short := (claimed rivals 1 i asked _ start (played_run [false, true, false, true] raceStart)).receipts
  exact absurd short (by decide +kernel)

end Samples

end AgentflowHermes
