import AgentflowHermes.CallbackRows
import AgentflowHermes.LegacyMigration
import AgentflowHermes.ReconcileCoupling
import AgentflowHermes.RunCoupling

namespace AgentflowHermes

open CrashProgram RowTable SemanticRefusalHandler

/-- How often the wake of each row was scheduled with success, and how often a task was asked for. -/
structure Tally where
  wakes : Nat → Nat
  creates : Nat

namespace Tally

def empty : Tally := ⟨fun _ => 0, 0⟩

def record (n : Tally) : (q : Request) → Response q → Tally
  | .mutate _ row (.scheduleOriginWake ..), r =>
    if r.success then { n with wakes := fun id => if id = row then n.wakes id + 1 else n.wakes id } else n
  | .mutate _ _ (.createTask _), _ => { n with creates := n.creates + 1 }
  | _, _ => n

end Tally

/-- The environment, with a tally of what it is asked. -/
def tallied {ι : Type} (E : Env Response ι) : Env Response (ι × Tally) := fun q i =>
  ((E q i.1).1, (E q i.1).2, i.2.record q (E q i.1).1)

/-- The outbox as the handlers fill it: wakes under wake keys, and never under those of the refusal ACK. -/
structure WakesFiled (s : Store) : Prop where
  keys : UniqueBy s.outbox OutboxRow.idempotencyKey
  wakes : ∀ o ∈ s.outbox.rows, (∃ d e, o.idempotencyKey = wakeKey d e) → o.operation = .scheduleOriginWake
  acks : ∀ o ∈ s.outbox.rows, (∃ d e, o.idempotencyKey = refusalAckKey d e) → o.operation ≠ .scheduleOriginWake

def WakeRow (id : Nat) (s : Store) : Prop := ∃ o ∈ s.outbox.rows, o.id = id ∧ o.operation = .scheduleOriginWake

/-- The row remembers that its wake was scheduled. -/
def Settled (id : Nat) (s : Store) : Prop :=
  ∃ o ∈ s.outbox.rows, o.id = id ∧ o.operation = .scheduleOriginWake ∧ (o.state = .applied ∨ o.waked)

def ScheduledOnce (n id : Nat) (s : Store) : Prop := n = 0 ∨ n = 1 ∧ Settled id s

/-- No wake was scheduled twice, and every one that was is remembered. -/
structure OnceEach (n : Tally) (s : Store) : Prop where
  filed : WakesFiled s
  once : ∀ id, ScheduledOnce (n.wakes id) id s

/-- The same after the call for one row, before its outcome is written. -/
structure OnceCalled (id : Nat) (n : Tally) (s : Store) : Prop where
  filed : WakesFiled s
  others : ∀ other, other ≠ id → ScheduledOnce (n.wakes other) other s
  mine : n.wakes id ≤ 1
  row : WakeRow id s

section

variable {n : Tally} {s t : Store} {id other : Nat} {row : OutboxRow}

theorem wakeKey_ne_ackKey (d e d' e' : String) : wakeKey d e ≠ refusalAckKey d' e' := by
  unfold wakeKey refusalAckKey
  rw [String.append_assoc, String.append_assoc, String.append_assoc, String.append_assoc]
  exact append_ne _ _ (by decide)

theorem OnceEach.called (h : OnceEach n s) (wake : WakeRow id s) : OnceCalled id n s := by
  refine ⟨h.filed, fun other _ => h.once other, ?_, wake⟩
  rcases h.once id with zero | ⟨one, _⟩
  · omega
  · omega

/-- A row that is in neither state has not been scheduled. -/
theorem OnceEach.unscheduled (h : OnceEach n s) (hrow : row ∈ s.outbox.rows)
    (unsettled : row.operation ≠ .scheduleOriginWake ∨ row.state ≠ .applied ∧ ¬row.waked) : n.wakes row.id = 0 := by
  rcases h.once row.id with zero | ⟨_, o, ho, hid, wake, settled⟩
  · exact zero
  · obtain rfl : o = row := rowId_inj ho hrow hid
    rcases unsettled with other | ⟨open', unmarked⟩
    · exact absurd wake other
    · exact (settled.elim open' unmarked).elim

theorem WakesFiled.mark (h : WakesFiled s) (id : Nat) (state : OutboxState) (taskId : String) (next : Option Nat)
    (error : Option String) : WakesFiled (s.outboxMark id state taskId next error).2 := by
  refine ⟨?_, fun o ho => ?_, fun o ho => ?_⟩
  · refine h.keys.modify ?_
    exact fun _ _ => rfl
  · rcases mem_modify ho with ⟨ho, _⟩ | ⟨r, hr, _, rfl⟩
    · exact h.wakes o ho
    · exact h.wakes r hr
  · rcases mem_modify ho with ⟨ho, _⟩ | ⟨r, hr, _, rfl⟩
    · exact h.acks o ho
    · exact h.acks r hr

/-- What is written to one row leaves what the others remember. -/
theorem ScheduledOnce.mark {k : Nat} (h : ScheduledOnce k other s) (apart : other ≠ id) (state : OutboxState)
    (taskId : String) (next : Option Nat) (error : Option String) :
    ScheduledOnce k other (s.outboxMark id state taskId next error).2 := by
  rcases h with zero | ⟨one, o, ho, rfl, settled⟩
  · exact .inl zero
  · have mem := modified_mem (t := s.outbox) (i := id) (f := Store.markRow state taskId next error) ho
    rw [if_neg (show ¬Keyed.rowId o = id from apart)] at mem
    exact .inr ⟨one, o, mem, rfl, settled⟩

theorem WakeRow.mark (h : WakeRow id s) (state : OutboxState) (taskId : String) (next : Option Nat)
    (error : Option String) : ∃ o ∈ s.outbox.rows, o.operation = .scheduleOriginWake ∧
      Store.markRow state taskId next error o ∈ (s.outboxMark id state taskId next error).2.outbox.rows ∧ o.id = id := by
  obtain ⟨o, ho, rfl, wake⟩ := h
  have mem := modified_mem (t := s.outbox) (i := o.id) (f := Store.markRow state taskId next error) ho
  rw [if_pos (show Keyed.rowId o = o.id from rfl)] at mem
  exact ⟨o, ho, wake, mem, rfl⟩

/-- The outcomes that remember the call. -/
theorem OnceCalled.settle (h : OnceCalled id n s) {state : OutboxState} (taskId : String) (next : Option Nat)
    {error : Option String} (settles : state = .applied ∨ error = some "origin_wake_not_yet_accepted") :
    OnceEach n (s.outboxMark id state taskId next error).2 := by
  refine ⟨h.filed.mark .., fun other => ?_⟩
  by_cases here : other = id
  · subst here
    obtain ⟨o, _, wake, mem, same⟩ := h.row.mark state taskId next error
    have mine := h.mine
    by_cases zero : n.wakes other = 0
    · exact .inl zero
    · refine .inr ⟨by omega, _, mem, same, wake, ?_⟩
      by_cases applied : state = .applied
      · exact .inl applied
      · obtain rfl := settles.resolve_left applied
        refine .inr ?_
        unfold OutboxRow.waked Store.markRow
        simp only [if_neg applied, Option.getD_some]
  · exact (h.others other here).mark here ..

/-- Any outcome may be written for a row whose wake was not scheduled. -/
theorem OnceEach.mark (h : OnceEach n s) (zero : n.wakes id = 0) (state : OutboxState) (taskId : String)
    (next : Option Nat) (error : Option String) : OnceEach n (s.outboxMark id state taskId next error).2 := by
  refine ⟨h.filed.mark .., fun other => ?_⟩
  by_cases here : other = id
  · exact .inl (here ▸ zero)
  · exact (h.once other).mark here ..

/-- Only the outbox is looked at. -/
theorem OnceEach.frame (h : OnceEach n s) (same : t.outbox = s.outbox) : OnceEach n t := by
  refine ⟨⟨by rw [same]; exact h.filed.keys, by rw [same]; exact h.filed.wakes, by rw [same]; exact h.filed.acks⟩, ?_⟩
  unfold ScheduledOnce Settled
  rw [same]
  exact h.once

theorem OnceEach.enqueue (h : OnceEach n s) (owner : Nat) (o : Store.NewOutbox)
    (wakes : (∃ d e, o.idempotencyKey = wakeKey d e) → o.operation = .scheduleOriginWake)
    (acks : (∃ d e, o.idempotencyKey = refusalAckKey d e) → o.operation ≠ .scheduleOriginWake) :
    OnceEach n (s.outboxEnqueue owner o).2 := by
  rcases s.outboxEnqueue_cases owner o with ⟨_, _, he⟩ | ⟨absent, he⟩
  · rw [he]
    exact h
  · rw [he]
    refine ⟨⟨?_, fun r hr => ?_, fun r hr => ?_⟩, fun id => ?_⟩
    · refine h.filed.keys.insert fun r hr => ?_
      have differs := find?_none absent r hr
      simpa [Store.NewOutbox.row] using differs
    · rcases mem_insert hr with hr | rfl
      · exact h.filed.wakes r hr
      · exact wakes
    · rcases mem_insert hr with hr | rfl
      · exact h.filed.acks r hr
      · exact acks
    · rcases h.once id with zero | ⟨one, r, hr, settled⟩
      · exact .inl zero
      · exact .inr ⟨one, r, List.mem_append_left _ hr, settled⟩

theorem OnceEach.reinterpret (h : OnceEach n s) (owner : Nat) (pre digest endpoint : String) :
    OnceEach n (s.outboxReinterpretPending owner .subscribe pre .scheduleOriginWake (wakeKey digest endpoint)).2 := by
  rcases s.outboxReinterpretPending_cases owner .subscribe pre .scheduleOriginWake (wakeKey digest endpoint) with
    he | ⟨o, ho, _, subscribe, absent, he⟩
  · rw [he]
    exact h
  · rw [he]
    refine ⟨⟨?_, fun r hr => ?_, fun r hr => ?_⟩, fun id => ?_⟩
    · refine UniqueBy.rekey h.filed.keys o.id ?_ (fun r hr => by simpa using find?_none absent r hr) fun _ => by rfl
      exact fun _ _ => rfl
    · rcases mem_modify hr with ⟨hr, _⟩ | ⟨r', _, _, rfl⟩
      · exact h.filed.wakes r hr
      · exact fun _ => rfl
    · rcases mem_modify hr with ⟨hr, _⟩ | ⟨r', _, _, rfl⟩
      · exact h.filed.acks r hr
      · rintro ⟨d, e, same⟩
        exact absurd same (wakeKey_ne_ackKey digest endpoint d e)
    · rcases h.once id with zero | ⟨one, r, hr, hid, wake, settled⟩
      · exact .inl zero
      · have apart : r.id ≠ o.id := by
          intro same
          rw [rowId_inj hr ho same, subscribe] at wake
          cases wake
        have mem := modified_mem (t := s.outbox) (i := o.id) (f := fun o : OutboxRow =>
          { o with operation := .scheduleOriginWake, idempotencyKey := wakeKey digest endpoint }) hr
        rw [if_neg (show ¬Keyed.rowId r = o.id from apart)] at mem
        exact .inr ⟨one, r, mem, hid, wake, settled⟩

end

end AgentflowHermes
