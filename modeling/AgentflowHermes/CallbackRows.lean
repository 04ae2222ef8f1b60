import AgentflowHermes.CodeFixProgress
import AgentflowHermes.HandlerRules

namespace AgentflowHermes

open CrashProgram RowTable

def callbackPrefixes : List String :=
  ["code_fix_consumer_ack:", "semantic_refusal_wake:", "semantic_refusal_consumer_ack:"]

/-- The keys callback rows are enqueued under. -/
def CallbackKey (key : String) : Prop := ∃ pre ∈ callbackPrefixes, ∃ rest, key = pre ++ rest

theorem not_callbackKey {pre : String}
    (h : ∀ p ∈ callbackPrefixes, (pre.toList.zip p.toList).any fun c => c.1 != c.2) (rest : String) :
    ¬CallbackKey (pre ++ rest) := by
  rintro ⟨p, hp, x, he⟩
  exact append_ne rest x (h p hp) he

/-- The outbox as the handlers fill it: one row per key, and callback operations under callback keys. -/
structure Filed (s : Store) : Prop where
  keys : UniqueBy s.outbox OutboxRow.idempotencyKey
  ops : ∀ o ∈ s.outbox.rows, callbackOnly o.operation ↔ CallbackKey o.idempotencyKey

def CallbackAllowed (n : Store.NewOutbox) : Prop := callbackOnly n.operation ↔ CallbackKey n.idempotencyKey

/-- The row is a callback that was given up. -/
def Dead (id : Nat) (s : Store) : Prop :=
  ∃ o ∈ s.outbox.rows, o.id = id ∧ callbackOnly o.operation ∧ o.state = .callbackDeadletter

def Applied (id : Nat) (s : Store) : Prop := ∃ o ∈ s.outbox.rows, o.id = id ∧ o.state = .applied

/-- The attempts a callback row that was never delivered has on record. -/
def WithinCap (o : OutboxRow) : Prop :=
  (o.state = .pending → o.attempts < callbackRetryCap) ∧ (o.state = .callbackDeadletter → o.attempts ≤ callbackRetryCap)

def Bounded (id : Nat) (s : Store) : Prop :=
  ∀ o ∈ s.outbox.rows, o.id = id → callbackOnly o.operation → WithinCap o

/-- The adapter calls made for an outbox row. -/
def Request.concerns (id : Nat) : Request → Prop
  | .mutate _ row _ => row = id
  | .probe _ row _ => row = id
  | _ => False

/-- What is checked of one row: no call for it once it is dead, it stays dead, and unless it was
delivered its attempts stay within the cap. -/
def rowTerms (ok : ∀ q, Response q → Prop) (delivered : Prop) (id : Nat) : Terms where
  ok := ok
  inv := Filed
  may q s := q.concerns id → ¬Dead id s
  guar s t := (Dead id s → Dead id t) ∧ (¬delivered → ¬Applied id s → Bounded id s → Bounded id t)

section

variable {ok : ∀ q, Response q → Prop} {delivered : Prop} {id : Nat} {s t : Store} {row : OutboxRow}

theorem rowTerms_frame (h : Filed s) (ho : t.outbox = s.outbox) :
    (rowTerms ok delivered id).guar s t ∧ (rowTerms ok delivered id).inv t := by
  have filed : Filed t := ⟨by rw [ho]; exact h.keys, by rw [ho]; exact h.ops⟩
  refine ⟨⟨fun hd => ?_, fun _ _ hb => ?_⟩, filed⟩
  · unfold Dead at hd ⊢
    rwa [ho]
  · unfold Bounded at hb ⊢
    rwa [ho]

theorem dead_of_row (hrow : row ∈ s.outbox.rows) (h : Dead row.id s) :
    callbackOnly row.operation ∧ row.state = .callbackDeadletter := by
  obtain ⟨o, ho, hid, hop, hd⟩ := h
  obtain rfl : o = row := rowId_inj ho hrow hid
  exact ⟨hop, hd⟩

/-- An attempt on a row that is not a dead callback. -/
theorem commits_mark (h : Filed s) (hrow : row ∈ s.outbox.rows) (state : OutboxState) (taskId : String)
    (next : Option Nat) (error : Option String)
    (alive : row.id = id → callbackOnly row.operation → row.state ≠ .callbackDeadletter)
    (within : row.id = id → ¬delivered → callbackOnly row.operation → row.state = .pending →
      row.attempts < callbackRetryCap → WithinCap (Store.markRow state taskId next error row)) :
    Commits (rowTerms ok delivered id) s (s.outboxMark row.id state taskId next error).2 fun _ => True := by
  refine ⟨⟨?_, ?_⟩, ⟨?_, ?_⟩, trivial⟩
  · rintro ⟨o, ho, hid, hop, hd⟩
    have hne : o.id ≠ row.id := by
      intro he
      obtain rfl : o = row := rowId_inj ho hrow he
      exact alive hid hop hd
    have mem := modified_mem (t := s.outbox) (i := row.id) (f := Store.markRow state taskId next error) ho
    rw [if_neg (show ¬Keyed.rowId o = row.id from hne)] at mem
    exact ⟨o, mem, hid, hop, hd⟩
  · intro undelivered waiting bounded o ho hid hop
    rcases mem_modify ho with ⟨ho, _⟩ | ⟨r, hr, hrid, rfl⟩
    · exact bounded o ho hid hop
    · obtain rfl : r = row := rowId_inj hr hrow hrid
      have hp : r.state = .pending := by
        refine OutboxState.pending_of_ne (alive hid hop) fun ha => waiting ?_
        exact ⟨r, hr, hid, ha⟩
      exact within hid undelivered hop hp ((bounded r hr hid hop).1 hp)
  · refine h.keys.modify ?_
    exact fun _ _ => rfl
  · intro o ho
    rcases mem_modify ho with ⟨ho, _⟩ | ⟨r, hr, _, rfl⟩
    · exact h.ops o ho
    · exact h.ops r hr

theorem commits_enqueue (h : Filed s) (owner : Nat) (n : Store.NewOutbox) (hn : CallbackAllowed n) :
    Commits (rowTerms ok delivered id) s (s.outboxEnqueue owner n).2 fun t =>
      (s.outboxEnqueue owner n).1.2 ∈ t.outbox.rows ∧ (s.outboxEnqueue owner n).1.2.idempotencyKey = n.idempotencyKey := by
  rcases s.outboxEnqueue_cases owner n with ⟨o, ho, he⟩ | ⟨hnone, he⟩
  · rw [he]
    exact ⟨⟨fun hd => hd, fun _ _ hb => hb⟩, h, mem_of_find? ho, by simpa using pred_of_find? ho⟩
  · rw [he]
    refine ⟨⟨?_, ?_⟩, ⟨?_, ?_⟩, List.mem_append_right _ (List.mem_singleton_self _), rfl⟩
    · rintro ⟨o, ho, hd⟩
      exact ⟨o, List.mem_append_left _ ho, hd⟩
    · intro _ _ bounded o ho hid hop
      rcases mem_insert ho with ho | rfl
      · exact bounded o ho hid hop
      · exact ⟨fun _ => Nat.succ_pos _, fun _ => Nat.zero_le _⟩
    · refine h.keys.insert fun r hr => ?_
      have fresh := find?_none hnone r hr
      simpa [Store.NewOutbox.row] using fresh
    · intro o ho
      rcases mem_insert ho with ho | rfl
      · exact h.ops o ho
      · exact hn

theorem may_of_alive {a : Adapter} (hrow : row ∈ s.outbox.rows)
    (alive : row.id = id → callbackOnly row.operation → row.state ≠ .callbackDeadletter) (q : Request)
    (hq : q.about a row.id) :
    (rowTerms ok delivered id).may q s := by
  intro hc
  have hid : row.id = id := by
    cases q with
    | mutate a x m => exact hq.2.symm.trans hc
    | probe a x p => exact hq.2.symm.trans hc
    | now => exact hc.elim
    | newCaseId => exact hc.elim
    | checkWait w => exact hc.elim
    | routeRoadmap e => exact hc.elim
    | routeCodeFix e => exact hc.elim
  intro hd
  rw [← hid] at hd
  obtain ⟨hop, hdead⟩ := dead_of_row hrow hd
  exact alive hid hop hdead

/-- A failed attempt that looks at the cap. -/
theorem failure_commits (h : Filed s) (hrow : row ∈ s.outbox.rows)
    (alive : callbackOnly row.operation → row.state ≠ .callbackDeadletter) :
    FailureCommits (rowTerms ok delivered id) s row fun _ => True := by
  refine ⟨fun error _ _ => ?_, fun next error below => ?_⟩
  · refine commits_mark h hrow _ _ _ _ (fun _ => alive) fun _ _ _ _ hlt => ⟨fun hp => (nomatch hp), fun _ => ?_⟩
    exact Nat.succ_le_of_lt hlt
  · refine commits_mark h hrow _ _ _ _ (fun _ => alive) fun _ _ hop _ _ => ⟨fun _ => ?_, fun hd => by cases hd⟩
    exact below hop

theorem applied_commits (h : Filed s) (hrow : row ∈ s.outbox.rows) (taskId : String)
    (alive : callbackOnly row.operation → row.state ≠ .callbackDeadletter) :
    Commits (rowTerms ok delivered id) s (markedApplied s row taskId) fun _ => True :=
  commits_mark h hrow _ _ _ _ (fun _ => alive) fun _ _ _ _ _ => ⟨fun hp => (nomatch hp), fun hd => nomatch hd⟩

theorem callbackTerms_row (h : Filed s) (hrow : row ∈ s.outbox.rows) (adapter : Option Adapter) :
    CallbackTerms (rowTerms ok delivered id) s row adapter fun _ => True where
  inv := h
  quiet := trivial
  now _ hc := hc.elim
  may alive _ _ := may_of_alive hrow fun _ _ => alive
  delivered pending _ := applied_commits h hrow _ fun _ => by rw [pending]; simp
  failed alive := failure_commits h hrow fun _ => alive

theorem mutationTerms_row (h : Filed s) (hrow : row ∈ s.outbox.rows) (plain : ¬callbackOnly row.operation)
    (op : Operation) (payload : Payload) (adapter : Option Adapter) :
    MutationTerms (rowTerms ok delivered id) s row op payload adapter fun _ _ => True where
  inv := h
  now hc := hc.elim
  applied _ := trivial
  early _ _ _ _ _ := trivial
  absent _ _ _ := trivial
  may _ _ _ := may_of_alive hrow fun _ hop => absurd hop plain
  done _ _ _ r _ _ _ := applied_commits h hrow r.taskId fun hop => absurd hop plain
  failed _ _ _ _ _ _ next error := (failure_commits h hrow fun hop => absurd hop plain).2 next error fun hop => absurd hop plain

theorem safe_applyBoardOperation (owner : Nat) (n : Store.NewOutbox) (adapter : Option Adapter) (hn : CallbackAllowed n) :
    Safe (rowTerms ok delivered id) (fun _ => True) (applyBoardOperation owner n adapter) := by
  refine ⟨fun s hs _ => wp_applyBoardOperation hs ?_⟩
  obtain ⟨guar, filed, hrow, hk⟩ := @commits_enqueue ok delivered id s hs owner n hn
  have filed : Filed _ := filed
  have same : callbackOnly (s.outboxEnqueue owner n).1.2.operation ↔ callbackOnly n.operation := by
    rw [filed.ops _ hrow, hk]
    exact hn.symm
  refine ⟨guar, filed, ?_⟩
  unfold applyEnqueued
  split
  next => exact wp_mono (wp_applyScheduleOriginWake (callbackTerms_row filed hrow _)) fun _ _ _ h => h
  next => exact wp_mono (wp_applyRecordConsumerAck (callbackTerms_row filed hrow _)) fun _ _ _ h => h
  next op hwake hack =>
    have plain : ¬callbackOnly (s.outboxEnqueue owner n).1.2.operation := by
      rw [same]
      cases hop : n.operation with
      | scheduleOriginWake => exact absurd hop hwake
      | recordConsumerAck => exact absurd hop hack
      | createTask => simp [callbackOnly]
      | subscribe => simp [callbackOnly]
      | completeOwnerAnchor => simp [callbackOnly]
      | other name => simp [callbackOnly]
    exact wp_applyMutation (mutationTerms_row filed hrow plain _ _ _)

theorem handlerTerms_row : HandlerTerms (rowTerms ok delivered id) (.outbox CallbackAllowed) :=
  handlerTerms_outbox (fun _ _ h ho => rowTerms_frame h ho) (fun _ => trivial) (fun _ h => h.ops)
    (fun _ hc => hc.elim) (fun _ hc => hc.elim)
    safe_applyBoardOperation

/-- A due row under `reconcile_outbox`. -/
theorem reconcileTerms_row (h : Filed s) (a : Adapter) (hrow : row ∈ s.outbox.rows) (pending : row.state = .pending) :
    ReconcileTerms (rowTerms ok delivered id) s a row Filed := by
  have alive : callbackOnly row.operation → row.state ≠ .callbackDeadletter := fun _ => by rw [pending]; simp
  exact {
    inv := h
    may := may_of_alive hrow fun _ => alive
    raises := trivial
    done := fun r _ _ => by
      refine (applied_commits h hrow r.taskId alive).mono fun u hu _ => ⟨fun _ => hu, fun step _ => ?_⟩
      have kept := @rowTerms_frame ok delivered id u (u.markStep step (some .applied) r.taskId).2 hu rfl
      exact ⟨kept.1, kept.2, kept.2⟩
    failed := (failure_commits h hrow alive).mono fun _ hu _ => hu }

end

/-- An operation that is no callback, under a key no callback row has. -/
theorem plain_allowed {op : Operation} (hop : callbackOnly op = false) {pre : String}
    (h : ∀ p ∈ callbackPrefixes, (pre.toList.zip p.toList).any fun c => c.1 != c.2) (step : Option Nat)
    (payload : Payload) (rest : String) : CallbackAllowed ⟨step, op, payload, pre ++ rest⟩ := by
  constructor
  · intro hc
    rw [hop] at hc
    cases hc
  · intro hk
    exact absurd hk (not_callbackKey h rest)

theorem callback_allowed {op : Operation} (hop : callbackOnly op) {pre : String} (h : pre ∈ callbackPrefixes)
    (step : Option Nat) (payload : Payload) (rest : String) : CallbackAllowed ⟨step, op, payload, pre ++ rest⟩ :=
  ⟨fun _ => ⟨pre, h, rest, rfl⟩, fun _ => hop⟩

theorem codeFix_allowed (e : OutcomeEnvelope) : Uses.CodeFixAllowed (.outbox CallbackAllowed) e where
  moves := trivial
  marks := trivial
  fixStep := trivial
  reviewStep := trivial
  fix i step payload _ := plain_allowed rfl (by decide) step payload (stableDigest i)
  review i step payload _ := plain_allowed rfl (by decide) step payload (stableDigest i)
  subscribe i taskId _ := by
    unfold subscribeOp subscribeKey
    rw [String.append_assoc, String.append_assoc]
    exact plain_allowed rfl (by decide) _ _ _
  ack i _ := by
    unfold consumerAckOp consumerAckKey
    rw [String.append_assoc, String.append_assoc]
    exact callback_allowed rfl (by simp [callbackPrefixes]) _ _ _

theorem ask_allowed : Uses.AskAllowed (.outbox CallbackAllowed) where
  moves := trivial
  marks := trivial
  anchorStep := trivial
  anchor i step payload _ := plain_allowed rfl (by decide) step payload (stableDigest i)
  subscribe i step payload origin _ := by
    unfold anchorSubscribeKey
    rw [String.append_assoc, String.append_assoc]
    exact plain_allowed rfl (by decide) _ _ _

theorem receipt_allowed : Uses.ReceiptAllowed (.outbox CallbackAllowed) where
  moves := trivial
  marks := trivial
  receipts := trivial
  materializationStep := trivial
  complete step payload taskId receipt _ := by
    unfold completeKey
    rw [String.append_assoc, String.append_assoc]
    exact plain_allowed rfl (by decide) _ _ _
  materialize i step payload _ := plain_allowed rfl (by decide) step payload (stableDigest i)

theorem followUp_allowed : Uses.FollowUpAllowed (.outbox CallbackAllowed) where
  moves := trivial
  marks := trivial
  reviewStep := trivial
  rerunStep := trivial
  review i step payload _ := plain_allowed rfl (by decide) step payload (stableDigest i)
  rerun i step payload _ := plain_allowed rfl (by decide) step payload (stableDigest i)

theorem wake_allowed (taskId endpoint digest : String) :
    CallbackAllowed (SemanticRefusalHandler.wakeOp taskId endpoint digest) := by
  unfold SemanticRefusalHandler.wakeOp wakeKey
  rw [String.append_assoc, String.append_assoc]
  exact callback_allowed rfl (by simp [callbackPrefixes]) _ _ _

theorem refusalAck_allowed (taskId endpoint digest : String) :
    CallbackAllowed (SemanticRefusalHandler.refusalAckOp taskId endpoint digest) := by
  unfold SemanticRefusalHandler.refusalAckOp refusalAckKey
  rw [String.append_assoc, String.append_assoc]
  exact callback_allowed rfl (by simp [callbackPrefixes]) _ _ _

end AgentflowHermes
