import AgentflowHermes.CodeFixHandler
import AgentflowHermes.CrashRules

namespace AgentflowHermes

open CrashProgram RowTable

/-- The clock, and the calls an adapter gets for one outbox row. -/
def Request.about (a : Adapter) (id : Nat) : Request → Prop
  | .now => True
  | .mutate b row _ => b = a ∧ row = id
  | .probe b row _ => b = a ∧ row = id
  | _ => False

abbrev Terms := Contract Store Response

/-- A transaction to `t` that keeps to the contract and goes on as `Q`. -/
def Commits (K : Terms) (s t : Store) (Q : Store → Prop) : Prop := K.guar s t ∧ K.inv t ∧ Q t

theorem Commits.intro {K : Terms} {s t : Store} {Q : Prop} (h : K.guar s t ∧ K.inv t) (hq : Q) : Commits K s t fun _ => Q := ⟨h.1, h.2, hq⟩

theorem Commits.mono {K : Terms} {s t : Store} {Q R : Store → Prop} (h : Commits K s t Q)
    (hq : ∀ u, K.inv u → Q u → R u) : Commits K s t R := ⟨h.1, h.2.1, hq t h.2.1 h.2.2⟩

variable {K : Terms} {s : Store} {row : OutboxRow}

def markedApplied (s : Store) (row : OutboxRow) (taskId : String) : Store :=
  (s.outboxMark row.id .applied taskId none none).2

def markedPending (s : Store) (row : OutboxRow) (next : Nat) (error : String) : Store :=
  (s.outboxMark row.id .pending "" (some next) (some error)).2

def markedDead (s : Store) (row : OutboxRow) (error : String) : Store :=
  (s.outboxMark row.id .callbackDeadletter "" (some 0) (some error)).2

/-- The two ways a failed attempt is recorded, by the retry cap. -/
def FailureCommits (K : Terms) (s : Store) (row : OutboxRow) (Q : Store → Prop) : Prop :=
  (∀ error, callbackOnly row.operation → callbackRetryCap ≤ row.attempts + 1 → Commits K s (markedDead s row error) Q) ∧
    ∀ next error, (callbackOnly row.operation → row.attempts + 1 < callbackRetryCap) →
      Commits K s (markedPending s row next error) Q

theorem FailureCommits.mono {Q R : Store → Prop} (h : FailureCommits K s row Q) (hq : ∀ u, K.inv u → Q u → R u) :
    FailureCommits K s row R :=
  ⟨fun error hop hcap => (h.1 error hop hcap).mono hq, fun next error hlt => (h.2 next error hlt).mono hq⟩

theorem wp_mark {id : Nat} {state : OutboxState} {taskId : String} {next : Option Nat} {error : Option String}
    {Q : Unit → Store → Prop} (inv : K.inv s)
    (h : Commits K s (s.outboxMark id state taskId next error).2 (Q ())) : wp K (mark id state taskId next error) Q s :=
  ⟨inv, h.1, h.2.1, h.2.2⟩

theorem wp_currentTime {Q : Nat → Store → Prop} (inv : K.inv s) (now : K.may .now s)
    (h : ∀ t, K.ok .now t → Q t s) : wp K currentTime Q s := ⟨inv, now, fun t ht => ⟨inv, h t ht⟩⟩

theorem wp_markOutboxPending {error : String} {Q : OutboxState → Store → Prop} (inv : K.inv s) (now : K.may .now s)
    (h : FailureCommits K s row fun t => ∀ state, Q state t) : wp K (markOutboxPending row error) Q s := by
  unfold markOutboxPending
  split
  next hc =>
    have dead := h.1 error hc.1 hc.2
    exact wp_bind.mpr (wp_mark inv (dead.mono fun u hu hq => ⟨hu, hq _⟩))
  next hc =>
    have below : callbackOnly row.operation → row.attempts + 1 < callbackRetryCap := fun hop => by
      by_contra hge
      exact hc ⟨hop, by omega⟩
    refine wp_bind.mpr (wp_currentTime inv now fun t _ => wp_bind.mpr ?_)
    have pending := h.2 (t + retryDelay (row.attempts + 1)) error below
    exact wp_mark inv (pending.mono fun u hu hq => ⟨hu, hq _⟩)

theorem wp_retryNotDue {Q : Bool → Store → Prop} (inv : K.inv s) (now : K.may .now s) (due : Q false s)
    (notDue : ∀ t, K.ok .now t → row.state = .pending → t < row.nextAttemptAt → Q true s) :
    wp K (retryNotDue row) Q s := by
  unfold retryNotDue
  split
  next hp =>
    refine wp_bind.mpr (wp_currentTime inv now fun t ht => ⟨inv, ?_⟩)
    by_cases hlt : t < row.nextAttemptAt
    · simpa [hlt] using notDue t ht hp hlt
    · simpa [hlt] using due
  next => exact ⟨inv, due⟩

theorem wp_originWakeSatisfied {a : Adapter} {taskId endpoint : String} {Q : Bool → Store → Prop} (inv : K.inv s)
    (may : ∀ q, q.about a row.id → K.may q s) (h : ∀ b, Q b s) :
    wp K (originWakeSatisfied a row.id taskId endpoint) Q s := by
  unfold originWakeSatisfied
  split
  · exact ⟨inv, may _ ⟨rfl, rfl⟩, fun b _ => ⟨inv, h b⟩⟩
  · exact ⟨inv, h false⟩

theorem wp_consumerAckSatisfied {a : Adapter} {taskId endpoint status : String} {Q : Bool → Store → Prop}
    (inv : K.inv s) (may : ∀ q, q.about a row.id → K.may q s) (h : ∀ b, Q b s) :
    wp K (consumerAckSatisfied a row.id taskId endpoint status) Q s :=
  ⟨inv, may _ ⟨rfl, rfl⟩, fun b _ => ⟨inv, h b⟩⟩

theorem wp_mutate {a : Adapter} {m : Mutation} {Q : AdapterResult → Store → Prop} (inv : K.inv s)
    (may : K.may (.mutate a row.id m) s) (h : ∀ r, K.ok (.mutate a row.id m) r → Q r s) :
    wp K (mutate a row.id m) Q s := ⟨inv, may, fun r hr => ⟨inv, h r hr⟩⟩

theorem wp_readInstance {id : Nat} {i : Instance} {Q : Instance → Store → Prop} (inv : K.inv s)
    (h : s.getInstance id = some i) (hq : Q i s) : wp K (readInstance id) Q s := by
  unfold readInstance
  simp only [wp_read, h]
  exact ⟨inv, hq⟩

theorem wp_readState {id : Nat} {i : Instance} {Q : ContinuationState → Store → Prop} (inv : K.inv s)
    (h : s.getInstance id = some i) (hq : Q i.state s) : wp K (readState id) Q s :=
  wp_bind.mpr (wp_readInstance inv h ⟨inv, hq⟩)

theorem wp_moveTo {id : Nat} {new : ContinuationState} {reason : String} {Q : Unit → Store → Prop} (inv : K.inv s)
    (h : Commits K s (s.transition id new reason).2 (Q ())) : wp K (moveTo id new reason) Q s :=
  ⟨inv, h.1, h.2.1, h.2.2⟩

/-- What a callback executor needs: nothing is asked or written for a dead-lettered row, and else one
attempt is recorded at most. -/
structure CallbackTerms (K : Terms) (s : Store) (row : OutboxRow) (adapter : Option Adapter) (Q : Store → Prop) :
    Prop where
  inv : K.inv s
  quiet : Q s
  now : row.state ≠ .callbackDeadletter → K.may .now s
  may : row.state ≠ .callbackDeadletter → ∀ a, adapter = some a → ∀ q, q.about a row.id → K.may q s
  delivered : row.state = .pending → ∀ taskId, Commits K s (markedApplied s row taskId) Q
  failed : row.state ≠ .callbackDeadletter → FailureCommits K s row Q

theorem CallbackTerms.failing {adapter : Option Adapter} {Q : Store → Prop} (h : CallbackTerms K s row adapter Q) (hs : row.state ≠ .callbackDeadletter)
    {α : Type} (error : String) (result : OutboxState → α) :
    wp K (markOutboxPending row error >>= fun state => pure (result state)) (fun _ => Q) s := by
  refine wp_bind.mpr (wp_markOutboxPending h.inv (h.now hs) ?_)
  exact (h.failed hs).mono fun u hu hq _ => ⟨hu, hq⟩

theorem CallbackTerms.delivering {adapter : Option Adapter} {Q : Store → Prop} (h : CallbackTerms K s row adapter Q) (hs : row.state = .pending)
    {α : Type} (taskId : String) (result : α) :
    wp K (mark row.id .applied taskId none none >>= fun _ => pure result) (fun _ => Q) s := by
  exact wp_bind.mpr (wp_mark h.inv ((h.delivered hs taskId).mono fun u hu hq => ⟨hu, hq⟩))

theorem OutboxState.pending_of_ne {state : OutboxState} (hd : state ≠ .callbackDeadletter) (ha : state ≠ .applied) :
    state = .pending := by
  cases state with
  | pending => rfl
  | applied => exact absurd rfl ha
  | callbackDeadletter => exact absurd rfl hd

theorem wp_applyScheduleOriginWake {payload : Payload} {adapter : Option Adapter} {Q : Store → Prop}
    (h : CallbackTerms K s row adapter Q) : wp K (applyScheduleOriginWake row payload adapter) (fun _ => Q) s := by
  unfold applyScheduleOriginWake
  dsimp only
  split
  next => exact ⟨h.inv, h.quiet⟩
  next hd =>
    have stop : ∀ r : OpResult, wp K (pure r) (fun _ => Q) s := fun r => ⟨h.inv, h.quiet⟩
    split
    next =>
      have check : ∀ R : Bool → Store → Prop, (∀ b, R b s) →
          wp K (originWakeSatisfied? adapter row.id (payload.text "task_id") (payload.text "endpoint")) R s := by
        intro R hR
        cases adapter with
        | none => exact ⟨h.inv, hR false⟩
        | some a => exact wp_originWakeSatisfied h.inv (h.may hd a rfl) hR
      refine wp_bind.mpr (check _ fun b => ?_)
      split
      · exact stop _
      · exact h.failing hd _ _
    next ha =>
      have hp := OutboxState.pending_of_ne hd ha
      refine wp_bind.mpr (wp_retryNotDue h.inv (h.now hd) ?_ fun _ _ _ _ => stop _)
      cases adapter with
      | none => exact stop _
      | some a =>
        refine wp_bind.mpr (wp_originWakeSatisfied h.inv (h.may hd a rfl) fun b => ?_)
        split
        · exact h.delivering hp _ _
        · split
          · exact h.failing hd _ _
          · split
            · exact stop _
            · refine wp_bind.mpr (wp_mutate h.inv (h.may hd a rfl _ ⟨rfl, rfl⟩) fun r _ => ?_)
              split
              · refine wp_bind.mpr (wp_originWakeSatisfied h.inv (h.may hd a rfl) fun b => ?_)
                split
                · exact h.delivering hp _ _
                · exact h.failing hd _ _
              · exact h.failing hd _ _

theorem wp_applyRecordConsumerAck {payload : Payload} {adapter : Option Adapter} {Q : Store → Prop}
    (h : CallbackTerms K s row adapter Q) : wp K (applyRecordConsumerAck row payload adapter) (fun _ => Q) s := by
  unfold applyRecordConsumerAck
  dsimp only
  split
  next => exact ⟨h.inv, h.quiet⟩
  next hd =>
    have stop : ∀ r : OpResult, wp K (pure r) (fun _ => Q) s := fun r => ⟨h.inv, h.quiet⟩
    cases adapter with
    | none => exact stop _
    | some a =>
      dsimp only
      split
      next =>
        split
        · refine wp_bind.mpr (wp_consumerAckSatisfied h.inv (h.may hd a rfl) fun b => ?_)
          split
          · exact stop _
          · exact h.failing hd _ _
        · exact h.failing hd _ _
      next ha =>
        have hp := OutboxState.pending_of_ne hd ha
        refine wp_bind.mpr (wp_retryNotDue h.inv (h.now hd) ?_ fun _ _ _ _ => stop _)
        split
        · exact stop _
        · split
          · exact stop _
          · refine wp_bind.mpr (wp_mutate h.inv (h.may hd a rfl _ ⟨rfl, rfl⟩) fun r _ => ?_)
            split
            · have settle : ∀ b : Bool, wp K (do
                  if b then
                    mark row.id .applied "" none none
                    return OpResult.ok row.boardTaskId
                  let state ← markOutboxPending row "consumer_ack_not_verified"
                  return OpResult.failed "consumer_ack_not_verified" (some state)) (fun _ => Q) s := by
                intro b
                split
                · exact h.delivering hp _ _
                · exact h.failing hd _ _
              split
              · exact wp_bind.mpr (wp_consumerAckSatisfied h.inv (h.may hd a rfl) settle)
              · exact wp_bind.mpr ⟨h.inv, settle true⟩
            · exact h.failing hd _ _

end AgentflowHermes
