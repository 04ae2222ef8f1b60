import AgentflowHermes.StoreInvariant
import Mathlib.Logic.Function.Basic
import Mathlib.Logic.Relation

namespace AgentflowHermes

open RowTable Relation

/-- A call of which the read has been made and the transaction has not. -/
inductive PendingCall
  | transition (id : Nat) (current new : ContinuationState) (reason : String)
  | ownerReceipt (id version : Nat) (ownerRef : String) (fields : List (String × Json)) (sourceRef : String)
      (supersedes : Option Nat)

namespace Store

/-- The transaction of `transition`, for a call that has read `current`: it updates whatever row is there now. -/
def commitTransition (id : Nat) (current new : ContinuationState) (reason : String) (s : Store) : Store :=
  { s with
    instances := setState s.instances id new
    events := recordEvent s.events id (.stateTransition current new reason) }

def nextVersion (s : Store) (id : Nat) : Nat := maxOf ((s.receiptsOf id).map OwnerReceipt.version) + 1

/-- The transaction of `add_owner_receipt`, which is rolled back when the version has been taken. -/
def commitReceipt (id version : Nat) (ownerRef : String) (fields : List (String × Json)) (sourceRef : String)
    (supersedes : Option Nat) (s : Store) : Store :=
  if (s.receiptsOf id).any fun r => r.version == version then s
  else { s with
    receipts := s.receipts.insert fun n => ⟨n, id, version, ownerRef, fields, sourceRef, supersedes⟩
    events := recordEvent s.events id (.ownerReceipt version ownerRef) }

end Store

namespace PendingCall

def commit : PendingCall → Store → Store
  | transition id current new reason => Store.commitTransition id current new reason
  | ownerReceipt id version ownerRef fields sourceRef supersedes =>
    Store.commitReceipt id version ownerRef fields sourceRef supersedes

/-- The call was found legal when its row was read. -/
def Checked : PendingCall → Prop
  | transition _ current new _ => legal current new
  | ownerReceipt .. => True

/-- The instance is still in the state that was read. -/
def Fresh : PendingCall → Store → Prop
  | transition id current _ _, s => ∀ row, s.getInstance id = some row → row.state = current
  | ownerReceipt .., _ => True

end PendingCall

/-- The pending call of each worker, and the store they share. -/
abbrev Workers (κ : Type) := (κ → Option PendingCall) × Store

/-- One statement of some worker: the read of a call, or its transaction when that meets the condition.
A call that is refused on its read changes nothing. -/
inductive WorkerStep {κ : Type} [DecidableEq κ] (meets : PendingCall → Store → Prop) : Workers κ → Workers κ → Prop
  | readState {ws : κ → Option PendingCall} {s : Store} {w : κ} {id : Nat} {row : Instance} {new : ContinuationState}
      (reason : String) (free : ws w = none) (found : s.getInstance id = some row) (allowed : legal row.state new) :
      WorkerStep meets (ws, s) (Function.update ws w (some (.transition id row.state new reason)), s)
  | readVersion {ws : κ → Option PendingCall} {s : Store} {w : κ} (id : Nat) (ownerRef : String)
      (fields : List (String × Json)) (sourceRef : String) (supersedes : Option Nat) (free : ws w = none) :
      WorkerStep meets (ws, s)
        (Function.update ws w (some (.ownerReceipt id (s.nextVersion id) ownerRef fields sourceRef supersedes)), s)
  | commit {ws : κ → Option PendingCall} {s : Store} {w : κ} {call : PendingCall} (pending : ws w = some call)
      (met : meets call s) : WorkerStep meets (ws, s) (Function.update ws w none, call.commit s)

/-- A call whose two statements have nothing between them is the store's operation. -/
theorem transition_commit {s : Store} {id : Nat} {row : Instance} {new : ContinuationState} (reason : String)
    (found : s.getInstance id = some row) (allowed : legal row.state new) :
    (s.transition id new reason).2 = s.commitTransition id row.state new reason := by
  rw [Store.transition_legal found allowed]
  rfl

theorem nextVersion_free {s : Store} (inv : LogInvariant s) (id : Nat) :
    ((s.receiptsOf id).any fun r => r.version == s.nextVersion id) = false := by
  rw [List.any_eq_false]
  intro r hr
  have mem : r.version ∈ (s.receiptsOf id).map OwnerReceipt.version := List.mem_map_of_mem hr
  unfold Store.nextVersion
  rw [inv.receiptVersions id] at mem ⊢
  rw [maxOf_range']
  have below := List.mem_range'_1.mp mem
  simp only [beq_iff_eq]
  omega

theorem addOwnerReceipt_commit {s : Store} (inv : LogInvariant s) (id : Nat) (ownerRef : String)
    (fields : List (String × Json)) (sourceRef : String) (supersedes : Option Nat) :
    (s.addOwnerReceipt id ownerRef fields sourceRef supersedes).2 =
      s.commitReceipt id (s.nextVersion id) ownerRef fields sourceRef supersedes := by
  unfold Store.commitReceipt
  rw [nextVersion_free inv]
  rfl

/-- What the claim is about: along the runs from `c` the recorded moves of every continuation chain legally and
end in its state, and a terminal instance keeps its row. -/
structure StaysLegal {κ : Type} (step : Workers κ → Workers κ → Prop) (c : Workers κ) : Prop where
  paths : ∀ d, ReflTransGen step c d → ∀ i ∈ d.2.instances.rows, LegalPath .detected (d.2.transitionsOf i.id) i.state
  terminal : ∀ d e i, ReflTransGen step c d → ReflTransGen step d e → i ∈ d.2.instances.rows → i.state.terminal →
    i ∈ e.2.instances.rows

section

variable {κ : Type} [DecidableEq κ] {meets : PendingCall → Store → Prop} {c d : Workers κ} {s : Store}

/-- What every state between the statements keeps. -/
structure Sound (c : Workers κ) : Prop where
  paths : ∀ i ∈ c.2.instances.rows, LegalPath .detected (c.2.transitionsOf i.id) i.state
  checked : ∀ w call, c.1 w = some call → call.Checked

theorem transitionsOf_commitTransition (s : Store) (id : Nat) (current new : ContinuationState) (reason : String) (j : Nat) :
    (s.commitTransition id current new reason).transitionsOf j =
      s.transitionsOf j ++ if id = j then [(current, new)] else [] := by
  rw [recordEvent_transitions (s := s) _ _ rfl]
  rfl

/-- A move whose row has changed in between is one that does not start where the one before it ended. -/
theorem commitTransition_path_iff {id : Nat} {current new : ContinuationState} (reason : String) {i : Instance}
    (path : LegalPath .detected (s.transitionsOf id) i.state) (checked : legal current new) :
    LegalPath .detected ((s.commitTransition id current new reason).transitionsOf id) new ↔ i.state = current := by
  rw [transitionsOf_commitTransition, if_pos rfl]
  constructor
  · intro after
    obtain ⟨mid, before, rfl, _⟩ := legalPath_append.mp after
    exact path.unique before
  · rintro rfl
    exact path.snoc checked

theorem commitTransition_paths {id : Nat} {current new : ContinuationState} (reason : String)
    (paths : ∀ i ∈ s.instances.rows, LegalPath .detected (s.transitionsOf i.id) i.state) (checked : legal current new)
    (fresh : (PendingCall.transition id current new reason).Fresh s) {i : Instance}
    (hi : i ∈ (s.commitTransition id current new reason).instances.rows) :
    LegalPath .detected ((s.commitTransition id current new reason).transitionsOf i.id) i.state := by
  rcases mem_modify hi with ⟨mem, other⟩ | ⟨row, mem, rfl, rfl⟩
  · have apart : id ≠ i.id := Ne.symm other
    rw [transitionsOf_commitTransition, if_neg apart, List.append_nil]
    exact paths i mem
  · have same : row.state = current := fresh row (get?_eq_some.mpr ⟨mem, rfl⟩)
    exact (commitTransition_path_iff reason (paths row mem) checked).mpr same

theorem commitTransition_terminal {id : Nat} {current new : ContinuationState} (reason : String)
    (checked : legal current new) (fresh : (PendingCall.transition id current new reason).Fresh s) {i : Instance}
    (hi : i ∈ s.instances.rows) (ht : i.state.terminal) :
    i ∈ (s.commitTransition id current new reason).instances.rows := by
  have other : i.id ≠ id := by
    intro hid
    have same : i.state = current := fresh i (get?_eq_some.mpr ⟨hi, hid⟩)
    have nonterminal := legal_not_terminal checked
    rw [← same, ht] at nonterminal
    cases nonterminal
  have mem := modified_mem (t := s.instances) (i := id) (f := fun i : Instance => { i with state := new }) hi
  rwa [if_neg (show ¬Keyed.rowId i = id from other)] at mem

theorem commitReceipt_frame (s : Store) (id version : Nat) (ownerRef : String) (fields : List (String × Json))
    (sourceRef : String) (supersedes : Option Nat) :
    (s.commitReceipt id version ownerRef fields sourceRef supersedes).instances = s.instances ∧
    ∀ j, (s.commitReceipt id version ownerRef fields sourceRef supersedes).transitionsOf j = s.transitionsOf j := by
  unfold Store.commitReceipt
  split
  · exact ⟨rfl, fun _ => rfl⟩
  · refine ⟨rfl, fun j => ?_⟩
    rw [recordEvent_transitions (s := s) _ _ rfl]
    simp [EventKind.transition?]

theorem checked_update {ws : κ → Option PendingCall} {w v : κ} {value : Option PendingCall} {call : PendingCall}
    (checked : ∀ w call, ws w = some call → call.Checked) (new : ∀ call, value = some call → call.Checked)
    (h : Function.update ws w value v = some call) : call.Checked := by
  by_cases same : v = w
  · subst same
    rw [Function.update_self] at h
    exact new call h
  · rw [Function.update_of_ne same] at h
    exact checked v call h

/-- One statement keeps the paths, and a terminal row. -/
theorem sound_step (sound : Sound c) (step : WorkerStep PendingCall.Fresh c d) :
    Sound d ∧ ∀ i ∈ c.2.instances.rows, i.state.terminal → i ∈ d.2.instances.rows := by
  cases step with
  | readState reason free found allowed =>
    refine ⟨⟨sound.paths, fun v call h => checked_update sound.checked ?_ h⟩, fun i hi _ => hi⟩
    rintro call ⟨⟩
    exact allowed
  | readVersion id ownerRef fields sourceRef supersedes free =>
    refine ⟨⟨sound.paths, fun v call h => checked_update sound.checked ?_ h⟩, fun i hi _ => hi⟩
    rintro call ⟨⟩
    trivial
  | @commit ws s w call pending fresh =>
    have later : ∀ v call', Function.update ws w none v = some call' → call'.Checked := fun v call' h =>
      checked_update sound.checked (fun _ h => by cases h) h
    have checked := sound.checked w call pending
    cases call with
    | transition id current new reason =>
      exact ⟨⟨fun i hi => commitTransition_paths reason sound.paths checked fresh hi, later⟩,
        fun i hi ht => commitTransition_terminal reason checked fresh hi ht⟩
    | ownerReceipt id version ownerRef fields sourceRef supersedes =>
      obtain ⟨rows, moves⟩ := commitReceipt_frame s id version ownerRef fields sourceRef supersedes
      refine ⟨⟨fun i hi => ?_, later⟩, fun i hi _ => ?_⟩
      · have mem : i ∈ s.instances.rows := rows ▸ hi
        have path := sound.paths i mem
        exact (moves i.id).symm ▸ path
      · exact rows.symm ▸ hi

theorem sound_run (sound : Sound c) (runs : ReflTransGen (WorkerStep PendingCall.Fresh) c d) :
    Sound d ∧ ∀ i ∈ c.2.instances.rows, i.state.terminal → i ∈ d.2.instances.rows := by
  induction runs with
  | refl => exact ⟨sound, fun i hi _ => hi⟩
  | tail _ step ih =>
    obtain ⟨between, kept⟩ := ih
    obtain ⟨after, kept'⟩ := sound_step between step
    exact ⟨after, fun i hi ht => kept' i (kept i hi ht) ht⟩

/-- When every transaction finds the instance in the state its call has read, no interleaving of any number of
workers records an illegal move or leaves a terminal state. -/
theorem freshWorkers_stayLegal (idle : ∀ w, c.1 w = none) (inv : LogInvariant c.2) :
    StaysLegal (WorkerStep PendingCall.Fresh) c := by
  have start : Sound c := ⟨inv.paths, fun w call h => by rw [idle w] at h; cases h⟩
  refine ⟨fun d runs => (sound_run start runs).1.paths, fun d e i runs more hi ht => ?_⟩
  exact (sound_run (sound_run start runs).1 more).2 i hi ht

end

section Samples

/-- One continuation whose fix graph is being made. -/
def materializingStore : Store :=
  StoreOp.runAll [.createInstance { board := "a", sourceTaskId := "t1", sourceEventId := "e1" },
    .transition 1 .materializing "codefix"] .empty

def idleWorkers : Workers Bool := (fun _ => none, materializingStore)

theorem freshWorkers_stayLegal_idle : StaysLegal (WorkerStep PendingCall.Fresh) idleWorkers :=
  freshWorkers_stayLegal (fun _ => rfl) (LogInvariant.empty.runAll _)

/-- Both workers read; one quarantines the instance, and then the other one moves it on. -/
theorem stale_transition_leaves_terminal : ¬StaysLegal (WorkerStep fun _ _ => True) idleWorkers := by
  intro stays
  let row : Instance :=
    { board := "a", sourceTaskId := "t1", sourceEventId := "e1", id := 1, state := .materializing }
  have found : materializingStore.getInstance 1 = some row := rfl
  let slow : PendingCall := .transition 1 .materializing .waitingReview "review"
  let fast : PendingCall := .transition 1 .materializing .blockedInvalid "unsafe"
  let both := Function.update (Function.update idleWorkers.1 true (some slow)) false (some fast)
  have reads : ReflTransGen (WorkerStep fun _ _ => True) idleWorkers (both, materializingStore) :=
    .tail (.single (.readState "review" rfl found rfl)) (.readState "unsafe" rfl found rfl)
  have quarantined := reads.tail (.commit (Function.update_self ..) trivial)
  have moved : WorkerStep (fun _ _ => True) (Function.update both false none, fast.commit materializingStore) _ :=
    @WorkerStep.commit Bool _ _ _ _ true slow rfl trivial
  have kept := stays.terminal _ _ { row with state := .blockedInvalid } quarantined (.single moved)
    (List.mem_singleton.mpr rfl) rfl
  have left : ContinuationState.blockedInvalid = .waitingReview :=
    congrArg Instance.state (List.mem_singleton.mp kept)
  cases left

end Samples

end AgentflowHermes
