import AgentflowHermes.OperatorResolution
import AgentflowHermes.StoreInvariant

namespace AgentflowHermes

open CrashProgram RowTable

/-- The two ways of accounting for an event that something else has resolved. -/
inductive ResolutionEntry
  | linked (board : String) (source : BoardEventSource) (eventId : String) (eventSeq : Option Int)
      (adapter : Option Adapter) (existing : List String) (given : existing.filter (· != "") ≠ []) (apply : Bool)
  | receipt (board : String) (source : BoardEventSource) (eventId : EventRef) (eventSeq : Option Int)
      (operatorReceiptRef resolution : String)

namespace ResolutionEntry

def perform (T : PyText) : ResolutionEntry → Run ResolutionResult
  | linked board source eventId eventSeq adapter existing _ apply =>
    backfillCodeFixEvent T board source eventId eventSeq adapter existing apply
  | receipt board source eventId eventSeq ref resolution =>
    recordOperatorResolutionReceipt T board source eventId eventSeq ref resolution

/-- The instance the resolution is recorded for; `none` where the entry does not get that far. -/
def target (T : PyText) : ResolutionEntry → Option NewInstance
  | linked board source eventId eventSeq _ _ _ _ =>
    match (source.fetchEventsSince 0).find? (namesEvent eventId eventSeq) with
    | none => none
    | some ev =>
      match compileHistorical T board ev with
      | .error _ => none
      | .ok o => if o.envelope.continuationKind ≠ .codeFix then none else some o.envelope.toInstance
  | receipt board source eventId eventSeq _ _ =>
    if source.board ≠ "" ∧ source.board ≠ board then none
    else match resolveBoardEvent T source eventId eventSeq with
      | .error _ => none
      | .ok ev =>
        match compileHistorical T board ev with
        | .error _ => none
        | .ok o => some o.envelope.toInstance

end ResolutionEntry

/-- The instance is one of the event that `n` is for, under whatever contract it was filed. -/
def OfEvent (n : NewInstance) (i : Instance) : Prop :=
  i.board = n.board ∧ i.sourceTaskId = n.sourceTaskId ∧ i.sourceEventId = n.sourceEventId

/-- The event has instances, all of them are terminal, and none has a row that reconciliation would execute. -/
structure EventSettled (n : NewInstance) (s : Store) : Prop where
  found : ∃ i ∈ s.instances.rows, OfEvent n i
  terminal : ∀ i ∈ s.instances.rows, OfEvent n i → i.state.terminal
  quiet : ∀ i ∈ s.instances.rows, OfEvent n i → s.pendingOf i.id = []

/-- The id the event's instance has, or will get. -/
def Store.addressed (s : Store) (n : NewInstance) : Nat := (s.createInstance n).1.2.id

/-- The instance is absent, detected or terminal, no other one of the event is open, and no row is pending. -/
structure Settleable (n : NewInstance) (s : Store) : Prop where
  addressed : ∀ i, s.instanceOf n = some i → i.state = .detected ∨ i.state.terminal
  quiet : s.pendingOf (s.addressed n) = []
  others : ∀ i ∈ s.instances.rows, OfEvent n i → i.id ≠ s.addressed n → i.state.terminal ∧ s.pendingOf i.id = []

/-- Whenever the entry reports success, the event is settled. -/
def SettlesIncident (T : PyText) (entry : ResolutionEntry) (s : Store) : Prop :=
  ∀ {ι : Type} (E : Env Response ι) (i : ι) r j t, run E (entry.perform T) i s = (.ok r, j, t) → r.success →
    ∃ n, entry.target T = some n ∧ EventSettled n t

section

variable {T : PyText} {s : Store} {n : NewInstance} {ι : Type} {E : Env Response ι} {i : ι}

/-- The state a detected instance is walked to; any other is left. -/
def walked (state : ContinuationState) : ContinuationState := if state = .detected then .resumed else state

theorem walked_terminal (state : ContinuationState) : (walked state).terminal ↔ state = .detected ∨ state.terminal := by
  cases state <;> decide

/-- What a resolution leaves of the ledger: the outbox, and every instance but the addressed one. -/
structure Accounted (n : NewInstance) (s t : Store) : Prop where
  outbox : t.outbox = s.outbox
  instances : ∀ id, t.getInstance id = if id = s.addressed n then
    some { (s.createInstance n).1.2 with state := walked (s.createInstance n).1.2.state } else s.getInstance id

theorem getInstance_walk (s : Store) {id : Nat} {i : Instance} (h : s.getInstance id = some i) (hd : i.state = .detected)
    (r1 r2 r3 : String) (j : Nat) :
    ((((s.transition id .materializing r1).2.transition id .resumable r2).2.transition id .resumed r3).2).getInstance j =
      if j = id then some { i with state := .resumed } else s.getInstance j := by
  simp only [Store.getInstance_transition]
  by_cases hj : j = id
  · have first : Store.movedTo .materializing i = { i with state := .materializing } := if_pos (by rw [hd]; rfl)
    have second : Store.movedTo .resumable { i with state := .materializing } = { i with state := .resumable } := rfl
    have third : Store.movedTo .resumed { i with state := .resumable } = { i with state := .resumed } := rfl
    simp [hj, h, first, second, third]
  · simp [hj]

theorem readInstance_run {id : Nat} {row : Instance} (h : s.getInstance id = some row) :
    run E (readInstance id) i s = (.ok row, i, s) := by
  unfold readInstance
  rw [run_read, h]
  rfl

theorem walkDetected_run {row : Instance} (h : s.getInstance row.id = some row) (r1 r2 r3 : String) :
    ∃ t, run E (walkDetected row r1 r2 r3) i s = (.ok (), i, t) ∧ t.outbox = s.outbox ∧
      ∀ id, t.getInstance id = if id = row.id then some { row with state := walked row.state } else s.getInstance id := by
  unfold walkDetected walked
  by_cases hd : row.state = .detected
  · simp only [if_pos hd]
    exact ⟨_, rfl, rfl, getInstance_walk s h hd r1 r2 r3⟩
  · simp only [if_neg hd]
    refine ⟨s, rfl, rfl, fun id => ?_⟩
    split
    next hid =>
      subst hid
      exact h
    next => rfl

theorem createInstance_others (s : Store) (n : NewInstance) {id : Nat} (h : id ≠ s.addressed n) :
    (s.createInstance n).2.getInstance id = s.getInstance id := by
  unfold Store.addressed at h
  rcases s.createInstance_cases n with ⟨_, _, he⟩ | ⟨_, he⟩
  · rw [he]
  · rw [he] at h ⊢
    show (s.instances.insert _ _).get? id = s.instances.get? id
    rw [get?_insert, if_neg h]

theorem accountFor_run (fieldName : String) (value : Json) (kind ref r1 r2 r3 action : String) :
    ∃ r t, run E (accountFor n fieldName value kind ref r1 r2 r3 action) i s = (.ok r, i, t) ∧ r.success ∧
      Accounted n s t := by
  let row := (s.createInstance n).1.2
  let u := (s.createInstance n).2.recordSatisfaction row.id fieldName value kind ref ""
  have created : u.getInstance row.id = some row := Store.createInstance_get s n
  obtain ⟨t, walks, outbox, instances⟩ := @walkDetected_run u ι E i row created r1 r2 r3
  have ends : t.getInstance row.id = some { row with state := walked row.state } := (instances _).trans (if_pos rfl)
  refine ⟨⟨true, "", action, some row.id, (s.createInstance n).1.1, some (walked row.state)⟩, t, ?_, rfl, ⟨outbox, ?_⟩⟩
  · have start : run E (accountFor n fieldName value kind ref r1 r2 r3 action) i s =
        run E (walkDetected row r1 r2 r3 >>= fun _ => readInstance row.id >>= fun after =>
          pure ⟨true, "", action, some row.id, (s.createInstance n).1.1, some after.state⟩) i u := rfl
    rw [start, run_bind_ok walks, run_bind_ok (readInstance_run ends)]
    rfl
  · intro id
    rw [instances id]
    split
    next hid => exact (if_pos (show id = s.addressed n from hid)).symm
    next hid =>
      have apart : id ≠ s.addressed n := hid
      exact (createInstance_others s n apart).trans (if_neg apart).symm

/-- The addressed row is the one found, or a new detected one. -/
theorem createInstance_row (s : Store) (n : NewInstance) :
    OfEvent n (s.createInstance n).1.2 ∧
    (s.instanceOf n = some (s.createInstance n).1.2 ∨
      s.instanceOf n = none ∧ (s.createInstance n).1.2.state = .detected) := by
  rcases s.createInstance_cases n with ⟨i, hi, he⟩ | ⟨hnone, he⟩
  · rw [he]
    have same : i.tuple = n.tuple := by simpa using pred_of_find? hi
    have columns := Prod.ext_iff.mp same
    have rest := Prod.ext_iff.mp columns.2
    exact ⟨⟨columns.1, rest.1, (Prod.ext_iff.mp rest.2).1⟩, .inl hi⟩
  · rw [he]
    exact ⟨⟨rfl, rfl, rfl⟩, .inr ⟨hnone, rfl⟩⟩

theorem Accounted.settled_iff {t : Store} (h : Accounted n s t) : EventSettled n t ↔ Settleable n s := by
  obtain ⟨ofEvent, origin⟩ := createInstance_row s n
  have pending : ∀ id, t.pendingOf id = s.pendingOf id := fun id => by
    unfold Store.pendingOf
    rw [h.outbox]
  have addressed := (h.instances (s.addressed n)).trans (if_pos rfl)
  obtain ⟨mem, _⟩ := get?_eq_some.mp addressed
  constructor
  · intro settled
    refine ⟨fun i hi => ?_, ?_, fun i hi event other => ?_⟩
    · have same : (s.createInstance n).1.2 = i := by
        rcases origin with found | ⟨none, _⟩
        · exact Option.some.inj (found.symm.trans hi)
        · rw [none] at hi
          cases hi
      rw [← same]
      exact (walked_terminal _).mp (settled.terminal _ mem ofEvent)
    · have quiet := settled.quiet _ mem ofEvent
      exact (pending _).symm.trans quiet
    · have kept : t.getInstance i.id = some i :=
        ((h.instances i.id).trans (if_neg other)).trans (get?_eq_some.mpr ⟨hi, rfl⟩)
      have here := (get?_eq_some.mp kept).1
      exact ⟨settled.terminal i here event, (pending i.id).symm.trans (settled.quiet i here event)⟩
  · intro open_
    have each : ∀ i ∈ t.instances.rows, OfEvent n i → i.state.terminal ∧ s.pendingOf i.id = [] := by
      intro i hi event
      have row : t.getInstance i.id = some i := get?_eq_some.mpr ⟨hi, rfl⟩
      rw [h.instances i.id] at row
      split at row
      next hid =>
        cases row
        refine ⟨(walked_terminal _).mpr ?_, open_.quiet⟩
        rcases origin with found | ⟨_, detected⟩
        · exact open_.addressed _ found
        · exact .inl detected
      next other => exact open_.others i (get?_eq_some.mp row).1 event other
    exact ⟨⟨_, mem, ofEvent⟩, fun i hi event => (each i hi event).1,
      fun i hi event => (pending i.id).trans (each i hi event).2⟩

/-- An entry that has something to account for does it and succeeds; any other one does not succeed. -/
def Performs (T : PyText) (E : Env Response ι) (i : ι) (s : Store) (entry : ResolutionEntry) : Prop :=
  (∃ n r t, entry.target T = some n ∧ run E (entry.perform T) i s = (.ok r, i, t) ∧ r.success ∧ Accounted n s t) ∨
  entry.target T = none ∧ ∀ r j t, run E (entry.perform T) i s = (.ok r, j, t) → r.success = false

theorem fails_of_pure {result : ResolutionResult} (h : result.success = false) :
    ∀ r j t, run E (pure result : Run ResolutionResult) i s = (.ok r, j, t) → r.success = false := by
  rintro r j t ⟨⟩
  exact h

theorem fails_of_raise {e : String} :
    ∀ r j t, run E (Prog.raise e : Run ResolutionResult) i s = (.ok r, j, t) → r.success = false := by
  rintro r j t ⟨⟩

theorem linked_performs {board : String} {source : BoardEventSource} {eventId : String} {eventSeq : Option Int}
    {adapter : Option Adapter} {existing : List String} (given : existing.filter (· != "") ≠ []) {apply : Bool} :
    Performs T E i s (.linked board source eventId eventSeq adapter existing given apply) := by
  unfold Performs ResolutionEntry.target ResolutionEntry.perform backfillCodeFixEvent
  dsimp only
  generalize (source.fetchEventsSince 0).find? (namesEvent eventId eventSeq) = found
  cases found with
  | none => exact .inr ⟨rfl, fails_of_pure rfl⟩
  | some ev =>
    dsimp only
    generalize compileHistorical T board ev = compiled
    cases compiled with
    | error => exact .inr ⟨rfl, fails_of_raise⟩
    | ok o =>
      dsimp only
      by_cases other : o.envelope.continuationKind ≠ .codeFix
      · simp only [if_pos other]
        exact .inr ⟨trivial, fails_of_pure rfl⟩
      · simp only [if_neg other, if_pos given]
        obtain ⟨r, t, hr, success, accounted⟩ := accountFor_run ..
        exact .inl ⟨_, r, t, rfl, hr, success, accounted⟩

theorem receipt_performs {board : String} {source : BoardEventSource} {eventId : EventRef} {eventSeq : Option Int}
    {ref resolution : String} : Performs T E i s (.receipt board source eventId eventSeq ref resolution) := by
  unfold Performs ResolutionEntry.target ResolutionEntry.perform recordOperatorResolutionReceipt
  dsimp only
  by_cases mismatch : source.board ≠ "" ∧ source.board ≠ board
  · simp only [if_pos mismatch]
    exact .inr ⟨trivial, fails_of_pure rfl⟩
  · simp only [if_neg mismatch]
    generalize resolveBoardEvent T source eventId eventSeq = resolved
    cases resolved with
    | error => exact .inr ⟨rfl, fails_of_pure rfl⟩
    | ok ev =>
      dsimp only
      generalize compileHistorical T board ev = compiled
      cases compiled with
      | error => exact .inr ⟨rfl, fails_of_raise⟩
      | ok o =>
        obtain ⟨r, t, hr, success, accounted⟩ := accountFor_run ..
        exact .inl ⟨_, r, t, rfl, hr, success, accounted⟩

theorem performs (entry : ResolutionEntry) (T : PyText) (E : Env Response ι) (i : ι) (s : Store) : Performs T E i s entry := by
  cases entry with
  | linked => exact linked_performs _
  | receipt => exact receipt_performs

/-- A reported resolution settles the event exactly when its own instance is absent, detected or terminal with
nothing pending, and every other instance of the event is settled already. -/
theorem settlesIncident_iff (T : PyText) (entry : ResolutionEntry) (s : Store) :
    SettlesIncident T entry s ↔ ∀ n, entry.target T = some n → Settleable n s := by
  constructor
  · intro settles n hn
    rcases performs entry T (steadyEnv 0 { success := true } true) () s with ⟨m, r, t, hm, hr, success, accounted⟩ | ⟨none, _⟩
    · obtain ⟨n', hn', settled⟩ := settles _ _ r () t hr success
      obtain rfl : m = n' := Option.some.inj (hm.symm.trans hn')
      obtain rfl : m = n := Option.some.inj (hm.symm.trans hn)
      exact accounted.settled_iff.mp settled
    · rw [none] at hn
      cases hn
  · intro ready ι E i r j t hr success
    rcases performs entry T E i s with ⟨n, r', t', hn, hr', _, accounted⟩ | ⟨_, fails⟩
    · rw [hr'] at hr
      cases hr
      exact ⟨n, hn, accounted.settled_iff.mpr (ready n hn)⟩
    · rw [fails r j t hr] at success
      cases success

end

section Samples

/-- A finished run that blocks for a code fix. -/
def blockedRun : BoardEvent :=
  ⟨"kanban-event-7", 7, "t1", "g", "", .obj [("agentflow_outcome", .obj [("schema_version", .int 1),
    ("verdict", .str "BLOCK"), ("continuation_kind", .str "code_fix")])], "", "", "", "", "", ""⟩

def blockedSource : BoardEventSource where
  fetchEventsSince _ := [blockedRun]
  fetchEventById _ := none
  fetchEventsBySeq seq := if seq = 7 then [blockedRun] else []

def receiptForSeven : ResolutionEntry := .receipt "b" blockedSource (.text "kanban-event-7") none "operator:7" "superseded"

/-- The event's graph has been made and waits for its review. -/
def reviewedStore : Store :=
  StoreOp.runAll [.createInstance { board := "b", sourceTaskId := "t1", sourceEventId := "kanban-event-7" },
    .transition 1 .materializing "codefix", .transition 1 .waitingReview "codefix"] .empty

/-- The receipt succeeds and leaves the instance waiting. -/
theorem receipt_leaves_waiting : ¬SettlesIncident asciiText receiptForSeven reviewedStore := by
  intro settles
  obtain ⟨n, hn, settled⟩ := settles (steadyEnv 0 { success := true } true) () _ _ _ rfl rfl
  have row := settled.terminal _ (List.mem_singleton.mpr rfl)
  cases hn
  exact absurd (row ⟨rfl, rfl, rfl⟩) (by decide)

end Samples

end AgentflowHermes
