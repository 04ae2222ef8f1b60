import AgentflowHermes.OutboxRules

namespace AgentflowHermes

open CrashProgram RowTable

/-- Texts that start with different literals differ. -/
theorem append_ne {a b : String} (x y : String) (h : (a.toList.zip b.toList).any fun p => p.1 != p.2) :
    a ++ x ≠ b ++ y := by
  intro he
  have hl : a.toList ++ x.toList = b.toList ++ y.toList := by
    rw [← String.toList_append, ← String.toList_append, he]
  generalize a.toList = cs at h hl
  generalize b.toList = ds at h hl
  induction cs generalizing ds with
  | nil => simp at h
  | cons c cs ih =>
    cases ds with
    | nil => simp at h
    | cons d ds =>
      simp only [List.cons_append, List.cons.injEq] at hl
      obtain ⟨rfl, hl⟩ := hl
      exact ih ds (by simpa using h) hl

/-- `_stable_digest` of every instance made from these columns. -/
def digestOf (n : NewInstance) : String :=
  String.ofList ((Sha256.hexdigest n.idempotencyKey.toUTF8.toList).toList.take 16)

theorem idempotencyKey_ne (n : NewInstance) : n.idempotencyKey ≠ "" := by
  intro he
  unfold NewInstance.idempotencyKey at he
  simp only [String.append_eq_empty_iff] at he
  exact absurd he.1.1.1.1.1.1.1 (by decide)

theorem stableDigest_eq {i : Instance} {n : NewInstance} (h : i.toNewInstance = n) : stableDigest i = digestOf n := by
  subst h
  unfold stableDigest digestOf
  simp only [idempotencyKey_ne, if_false]

/-- One CODE_FIX envelope, the ids the board gives its tasks, and the instance id and the first step id
it gets. -/
structure CodeFixJob where
  envelope : OutcomeEnvelope
  blockers : List String
  taskFor : String → String
  created : ∀ key, taskFor key ≠ ""
  instanceId : Nat
  firstStep : Nat

namespace CodeFixJob

variable (J : CodeFixJob)

def digest : String := digestOf J.envelope.toInstance

def fix : String := fixKey J.digest

def review : String := reviewKey J.digest

def endpoint : String := endpointOf J.envelope

def subscribe : String := subscribeKey J.digest J.endpoint

def ack : String := consumerAckKey J.digest J.endpoint

def keys : List String := [J.fix, J.review, J.subscribe, J.ack]

theorem fix_ne_review : J.fix ≠ J.review := append_ne _ _ (by decide)

theorem fix_ne_subscribe : J.fix ≠ J.subscribe := by
  unfold subscribe subscribeKey
  rw [String.append_assoc, String.append_assoc]
  exact append_ne _ _ (by decide)

theorem fix_ne_ack : J.fix ≠ J.ack := by
  unfold ack consumerAckKey
  rw [String.append_assoc, String.append_assoc]
  exact append_ne _ _ (by decide)

theorem review_ne_subscribe : J.review ≠ J.subscribe := by
  unfold subscribe subscribeKey
  rw [String.append_assoc, String.append_assoc]
  exact append_ne _ _ (by decide)

theorem review_ne_ack : J.review ≠ J.ack := by
  unfold ack consumerAckKey
  rw [String.append_assoc, String.append_assoc]
  exact append_ne _ _ (by decide)

theorem subscribe_ne_ack : J.subscribe ≠ J.ack := by
  unfold subscribe subscribeKey ack consumerAckKey
  simp only [String.append_assoc]
  exact append_ne _ _ (by decide)

/-- The step of the instance with a key. -/
def StepAt (steps : Table Step) (key : String) (p : Step) : Prop :=
  p ∈ steps.rows ∧ p.continuationId = J.instanceId ∧ p.idempotencyKey = key

end CodeFixJob

def RowApplied (outbox : Table OutboxRow) (key : String) : Prop :=
  ∃ o ∈ outbox.rows, o.idempotencyKey = key ∧ o.state = .applied

/-- A step waits for its board task, or carries the id of a task that was created. -/
def StepSettles (p : Step) (taskId : String) (created : Prop) : Prop :=
  (p.state = .pending ∧ p.boardTaskId = "") ∨ (p.state = .applied ∧ p.boardTaskId = taskId ∧ created)

theorem StepSettles.mono {p : Step} {taskId : String} {created created' : Prop} (h : StepSettles p taskId created)
    (hc : created → created') : StepSettles p taskId created' :=
  h.imp id fun ⟨hs, ht, h⟩ => ⟨hs, ht, hc h⟩

def RowSettles (o : OutboxRow) (taskId : String) : Prop :=
  (o.state = .pending ∧ o.boardTaskId = "") ∨ (o.state = .applied ∧ o.boardTaskId = taskId)

namespace CodeFixJob

variable (J : CodeFixJob)

/-- What an outbox row may be while the job is under way, by its key. -/
structure RowOk (steps : Table Step) (o : OutboxRow) : Prop where
  fix : o.idempotencyKey = J.fix → o.continuationId = J.instanceId ∧ o.operation = .createTask ∧
    o.payload = fixPayload J.envelope J.blockers J.digest ∧ (∃ p, J.StepAt steps J.fix p ∧ o.stepId = some p.id) ∧
    RowSettles o (J.taskFor J.fix)
  review : o.idempotencyKey = J.review → o.continuationId = J.instanceId ∧ o.operation = .createTask ∧
    o.payload = reviewPayload J.envelope (J.taskFor J.fix) J.digest ∧
    (∃ p, J.StepAt steps J.review p ∧ o.stepId = some p.id) ∧ RowSettles o (J.taskFor J.review)
  subscribe : o.idempotencyKey = J.subscribe → o.continuationId = J.instanceId ∧ J.endpoint ≠ "" ∧
    o.operation = .subscribe ∧
    o.payload = [("task_id", .str (J.taskFor J.review)), ("endpoint", .str J.endpoint)] ∧ o.stepId = some 0 ∧
    o.state ≠ .callbackDeadletter
  ack : o.idempotencyKey = J.ack → o.continuationId = J.instanceId ∧ o.operation = .recordConsumerAck ∧
    o.stepId = some 0
  other : o.idempotencyKey ∉ J.keys → o.continuationId ≠ J.instanceId ∧ ∀ k, o.stepId = some k → k < J.firstStep

/-- The graph is complete: both steps carry their tasks and the review task is subscribed. -/
structure Done (steps : Table Step) (outbox : Table OutboxRow) : Prop where
  fix : ∃ p, J.StepAt steps J.fix p ∧ p.state = .applied
  review : ∃ p, J.StepAt steps J.review p ∧ p.state = .applied
  subscribe : J.endpoint ≠ "" → RowApplied outbox J.subscribe

/-- The states the handler itself moves the instance through; the last one only over a complete graph. -/
def Live (s : Store) (state : ContinuationState) : Prop :=
  state = .detected ∨ state = .materializing ∨ state = .failedRetryable ∨
    state = .waitingReview ∧ J.Done s.steps s.outbox

/-- The invariant of every run of replays and reconcile passes, whatever they were cut off at. -/
structure Progress (s : Store) : Prop where
  rowKeys : UniqueBy s.outbox OutboxRow.idempotencyKey
  stepKeys : UniqueBy s.steps fun p => (p.continuationId, p.idempotencyKey)
  tuples : ∀ i ∈ s.instances.rows, i.tuple = J.envelope.toInstance.tuple → i.id = J.instanceId
  stage : s.instances.next = J.instanceId ∨
    ∃ i ∈ s.instances.rows, i.id = J.instanceId ∧ i.toNewInstance = J.envelope.toInstance ∧ J.Live s i.state
  fix : ∀ p, J.StepAt s.steps J.fix p → p.stepKind = .codeFix ∧ p.parentStepId = none ∧
    StepSettles p (J.taskFor J.fix) (RowApplied s.outbox J.fix)
  review : ∀ p, J.StepAt s.steps J.review p → p.stepKind = .review ∧
    (∃ f, J.StepAt s.steps J.fix f ∧ f.state = .applied ∧ p.parentStepId = some f.id) ∧
    StepSettles p (J.taskFor J.review) (RowApplied s.outbox J.review)
  steps : ∀ p ∈ s.steps.rows, p.continuationId = J.instanceId →
    J.firstStep ≤ p.id ∧ (p.idempotencyKey = J.fix ∨ p.idempotencyKey = J.review)
  first : 0 < J.firstStep ∧ J.firstStep ≤ s.steps.next
  rows : ∀ o ∈ s.outbox.rows, J.RowOk s.steps o

/-- The store before the event is handled for the first time. -/
structure Fresh (s : Store) : Prop where
  rowKeys : UniqueBy s.outbox OutboxRow.idempotencyKey
  stepKeys : UniqueBy s.steps fun p => (p.continuationId, p.idempotencyKey)
  instanceId : s.instances.next = J.instanceId
  firstStep : s.steps.next = J.firstStep
  tuples : ∀ i ∈ s.instances.rows, i.tuple ≠ J.envelope.toInstance.tuple
  steps : ∀ p ∈ s.steps.rows, p.continuationId < J.instanceId
  rows : ∀ o ∈ s.outbox.rows, o.idempotencyKey ∉ J.keys ∧ o.continuationId < J.instanceId ∧
    ∀ k, o.stepId = some k → k < J.firstStep

variable {J} {s : Store}

theorem Fresh.progress (h : J.Fresh s) : J.Progress s where
  rowKeys := h.rowKeys
  stepKeys := h.stepKeys
  tuples i hi ht := absurd ht (h.tuples i hi)
  stage := .inl h.instanceId
  fix p hp := absurd hp.2.1 (Nat.ne_of_lt (h.steps p hp.1))
  review p hp := absurd hp.2.1 (Nat.ne_of_lt (h.steps p hp.1))
  steps p hp hc := absurd hc (Nat.ne_of_lt (h.steps p hp))
  first := ⟨h.firstStep ▸ s.steps.positive.1, Nat.le_of_eq h.firstStep.symm⟩
  rows o ho := by
    obtain ⟨hk, hc, hs⟩ := h.rows o ho
    have hne : ∀ key ∈ J.keys, o.idempotencyKey = key → False := fun key hm he => hk (he ▸ hm)
    exact {
      fix := fun he => (hne _ (by simp [keys]) he).elim
      review := fun he => (hne _ (by simp [keys]) he).elim
      subscribe := fun he => (hne _ (by simp [keys]) he).elim
      ack := fun he => (hne _ (by simp [keys]) he).elim
      other := fun _ => ⟨Nat.ne_of_lt hc, hs⟩ }

end CodeFixJob

end AgentflowHermes
