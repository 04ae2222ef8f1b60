import AgentflowHermes.RefusalRuns

namespace AgentflowHermes

open CrashProgram RowTable SemanticRefusalHandler

/-- A call of the refusal handler, with whatever adapter it is given, or a pass of the reconciler. -/
inductive RefusalCall
  | replay (e : OutcomeEnvelope) (adapter : Option Adapter) (blockers categories : List String)
  | reconcile (boards : String → Option Adapter)

def RefusalCall.program : RefusalCall → Run Unit
  | .replay e adapter blockers categories => do let _ ← materialize e adapter blockers categories
  | .reconcile boards => do let _ ← reconcileOutbox boards

/-- The calls one after the other; an exception ends its own call only. -/
def runCalls {ι : Type} (E : Env Response ι) : List RefusalCall → ι → Store → ι × Store
  | [], i, s => (i, s)
  | call :: calls, i, s =>
    let r := run E call.program i s
    runCalls E calls r.2.1 r.2.2

/-- The refusal of `e` with its instance in `state`: one satisfaction row, and for its endpoint one wake row,
whose wake was scheduled at most once. -/
structure QuarantinedOnce (e : OutcomeEnvelope) (state : ContinuationState) (n : Tally) (s : Store) (i : Instance) :
    Prop where
  found : s.instanceOf e.toInstance = some i
  state : i.state = state
  satisfaction : ∃ r, s.satisfactions.filter (fun r => satisfactionKey r == (i.id, "semantic_refusal")) = [r]
  wake : endpointOf e ≠ "" →
    ∃ o, s.outbox.filter (fun o => o.idempotencyKey == wakeKey (stableDigest i) (endpointOf e)) = [o] ∧
      o.operation = .scheduleOriginWake ∧ n.wakes o.id ≤ 1

/-- What every call keeps of a store `v` before it. -/
def Going (v : Store) : Tally → Store → Prop := Once fun _ t => Stays v t ∧ UniqueBy t.satisfactions satisfactionKey

section

variable {ι : Type} {E : Env Response ι} {s t v : Store} {n : Tally} {e : OutcomeEnvelope}

theorem quarantineState_terminal (i : Option Instance) : (quarantineState i).terminal := by
  unfold quarantineState
  split
  · split
    next ended => exact ended
    next => rfl
  · rfl

theorem Going.createInstance (h : Going v n t) (m : NewInstance) : Going v n (t.createInstance m).2 :=
  ⟨h.1.frame rfl, h.2.1.trans (stays_createInstance t m), h.2.2⟩

theorem triple_replay_going (e : OutcomeEnvelope) (adapter : Option Adapter) (blockers categories : List String) :
    Triple (tallied E) (On (Going v)) (materialize e adapter blockers categories) (fun _ => On (Going v)) (On (Going v)) := by
  cases adapter with
  | none =>
    refine triple_txn (R := fun _ => On (Going v)) (fun _ _ h => ?_) fun _ => triple_pure fun _ _ h => h
    exact Going.createInstance h _
  | some a =>
    refine ⟨fun i t h => ?_⟩
    have replayed := (triple_materialize (E := E) e a blockers categories t i.2.creates).ends i t ⟨⟨h.1, rfl⟩, rfl⟩
    revert replayed
    obtain ⟨_ | result, j, u⟩ := run (tallied E) (materialize e (some a) blockers categories) i t
    · exact fun impossible => impossible.elim
    · exact fun refused => ⟨refused.1, h.2.1.trans refused.2.2.stays, refused.2.2.unique h.2.2⟩

theorem triple_reconcile_going (boards : String → Option Adapter) :
    Triple (tallied E) (On (Going v)) (reconcileOutbox boards) (fun _ => On (Going v)) (On (Going v)) := by
  refine triple_reconcileOutbox boards (fun h id state taskId next error => ⟨h.1.trans (stays_outbox rfl rfl ?_), h.2⟩)
    fun h step taskId => ⟨h.1.trans (stays_outbox rfl rfl ?_), h.2⟩
  · exact fun _ at' => wakeAt_mark id state taskId next error at'
  · exact fun _ at' => at'

theorem triple_call_going (call : RefusalCall) :
    Triple (tallied E) (On (Going v)) call.program (fun _ => On (Going v)) (On (Going v)) := by
  cases call with
  | replay e adapter blockers categories =>
    exact triple_bind (triple_replay_going e adapter blockers categories) fun _ => triple_return ()
  | reconcile boards => exact triple_bind (triple_reconcile_going boards) fun _ => triple_return ()

/-- And so does every sequence of calls. -/
theorem runCalls_going (calls : List RefusalCall) (i : ι × Tally) (s : Store) (h : Going v i.2 s) :
    Going v (runCalls (tallied E) calls i s).1.2 (runCalls (tallied E) calls i s).2 := by
  induction calls generalizing i s with
  | nil => exact h
  | cons call calls ih =>
    refine ih _ _ ?_
    have kept := (triple_call_going (E := E) (v := v) call).ends i s h
    revert kept
    obtain ⟨_ | result, j, u⟩ := run (tallied E) call.program i s
    · exact fun going => going
    · exact fun going => going

/-- Exactly one row of a table whose key is `k`. -/
theorem filter_one {α β : Type} [Keyed α] [BEq β] [LawfulBEq β] {t : Table α} {g : α → β} (unique : UniqueBy t g) {r : α}
    (hr : r ∈ t.rows) : t.filter (fun x => g x == g r) = [r] := by
  obtain ⟨l, l', split⟩ := List.append_of_mem hr
  unfold UniqueBy at unique
  rw [split, List.map_append, List.map_cons, List.nodup_append] at unique
  obtain ⟨_, tail, apart⟩ := unique
  have left : l.filter (fun x => g x == g r) = [] := by
    refine List.filter_eq_nil_iff.mpr fun x hx same => ?_
    exact apart _ (List.mem_map_of_mem hx) _ List.mem_cons_self (by simpa using same)
  have right : l'.filter (fun x => g x == g r) = [] := by
    refine List.filter_eq_nil_iff.mpr fun x hx same => ?_
    have same : g x = g r := by simpa using same
    exact (List.nodup_cons.mp tail).1 (same ▸ List.mem_map_of_mem hx)
  unfold Table.filter
  rw [split, List.filter_append, left, List.filter_cons_of_pos (by simp), right, List.nil_append]

/-- What is settled and goes on being kept is there exactly once. -/
theorem Quarantined.once {e : OutcomeEnvelope} (refused : Quarantined e s v) (going : Going v n t) :
    ∃ i, QuarantinedOnce e (quarantineState (s.instanceOf e.toInstance)) n t i := by
  obtain ⟨once, stays, unique⟩ := going
  obtain ⟨i, found, state, satisfied, waking⟩ := refused.row
  have ended : i.state.terminal := by
    rw [state]
    exact quarantineState_terminal _
  obtain ⟨r, hr, key⟩ := stays.satisfied _ satisfied
  refine ⟨i, stays.ended _ _ found ended, state, ⟨r, ?_⟩, fun some' => ?_⟩
  · rw [← key]
    exact filter_one unique hr
  · obtain ⟨o, ho, same, wake⟩ := stays.wakes _ (waking some')
    refine ⟨o, ?_, wake, ?_⟩
    · rw [← same]
      exact filter_one once.filed.keys ho
    · rcases once.once o.id with zero | ⟨one, _⟩
      · omega
      · omega

/-- A refusal quarantines its instance and wakes its origin once, whatever calls come before and after. -/
theorem refusal_quarantines_once (E : Env Response ι) (e : OutcomeEnvelope) (a : Adapter) (blockers categories : List String)
    (before after : List RefusalCall) (i : ι) (filed : WakesFiled s) (unique : UniqueBy s.satisfactions satisfactionKey) :
    let prior := runCalls (tallied E) before (i, Tally.empty) s
    let replay := run (tallied E) (materialize e (some a) blockers categories) prior.1 prior.2
    let final := runCalls (tallied E) after replay.2.1 replay.2.2
    (∃ result, replay.1 = .ok result) ∧ replay.2.1.2.creates = prior.1.2.creates ∧
      (quarantineState (prior.2.instanceOf e.toInstance)).terminal ∧
      ∃ row, QuarantinedOnce e (quarantineState (prior.2.instanceOf e.toInstance)) final.1.2 final.2 row := by
  intro prior replay final
  have start : Going s Tally.empty s := ⟨⟨filed, fun _ => .inl rfl⟩, Stays.refl s, unique⟩
  have going : Going s prior.1.2 prior.2 := runCalls_going before (i, Tally.empty) s start
  have replayed := (triple_materialize (E := E) e a blockers categories prior.2 prior.1.2.creates).ends prior.1 prior.2
    ⟨⟨going.1, rfl⟩, rfl⟩
  have ends : ∃ result, replay.1 = .ok result ∧ OnceEach replay.2.1.2 replay.2.2 ∧
      replay.2.1.2.creates = prior.1.2.creates ∧ Quarantined e prior.2 replay.2.2 := by
    revert replayed
    show Ends _ _ replay → _
    obtain ⟨_ | result, j, u⟩ := replay
    · exact fun impossible => impossible.elim
    · exact fun kept => ⟨result, rfl, kept⟩
  obtain ⟨result, answered, once, creates, refused⟩ := ends
  have settled : Going replay.2.2 replay.2.1.2 replay.2.2 := ⟨once, Stays.refl _, refused.unique going.2.2⟩
  exact ⟨⟨result, answered⟩, creates, quarantineState_terminal _, refused.once (runCalls_going after replay.2.1 replay.2.2 settled)⟩

end

section Samples

def refusedBlock : OutcomeEnvelope where
  eventId := "91"
  board := "main"
  sourceTaskId := "t7"
  sourceGraphId := "g1"
  originRef := "chat:1"
  returnToRef := ""
  workspaceRef := ""
  verdict := .block
  continuationKind := .semanticRefusal
  confidence := .deterministicGrammar
  complete := by decide
  coherent := by decide

/-- The wake is accepted by the call and never confirmed by the probe. -/
def deafBoard : Env Response (Unit × Tally) := tallied (steadyEnv 0 { success := true } false)

def deafReplay : Except String StepResult × (Unit × Tally) × Store :=
  run deafBoard (materialize refusedBlock (some { board := "main" }) ["rm -rf"] ["unsafe"]) ((), .empty) Store.empty

def laterCalls : List RefusalCall :=
  [.reconcile fun board => some { board := board }, .replay refusedBlock (some { board := "main" }) [] []]

theorem wakesFiled_empty : WakesFiled Store.empty where
  keys := List.nodup_nil
  wakes _ h := absurd h List.not_mem_nil
  acks _ h := absurd h List.not_mem_nil

theorem refusal_quarantines_once_deaf : ∃ row, QuarantinedOnce refusedBlock .blockedInvalid
    (runCalls deafBoard laterCalls deafReplay.2.1 deafReplay.2.2).1.2
    (runCalls deafBoard laterCalls deafReplay.2.1 deafReplay.2.2).2 row :=
  (refusal_quarantines_once (steadyEnv 0 { success := true } false) refusedBlock { board := "main" } ["rm -rf"] ["unsafe"]
    [] laterCalls () wakesFiled_empty List.nodup_nil).2.2.2

/-- One wake and no task is what the board is asked for. -/
example : (runCalls deafBoard laterCalls deafReplay.2.1 deafReplay.2.2).1.2.wakes 1 = 1 ∧
    (runCalls deafBoard laterCalls deafReplay.2.1 deafReplay.2.2).1.2.creates = 0 := by decide +kernel

end Samples

end AgentflowHermes
