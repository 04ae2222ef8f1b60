import AgentflowHermes.ExternalWaitCrash
import AgentflowHermes.StoreInvariant

namespace AgentflowHermes

open CrashProgram RowTable

/-- No transition leads back before MATERIALIZING. -/
theorem legal_begun {current new : ContinuationState} (h : legal current new)
    (begun : current ≠ .detected ∧ current ≠ .waitingOwner ∧ current ≠ .inputAccepted) :
    new ≠ .detected ∧ new ≠ .waitingOwner ∧ new ≠ .inputAccepted := by
  revert h begun
  cases current <;> cases new <;> decide

namespace WaitStore

variable {s t : Store} {check : String → String → String → Option WaitOutcome} {now n : Nat}

theorem empty : WaitStore .empty where
  one := List.nodup_nil
  owners _ h := nomatch h
  begun _ h := nomatch h

theorem frame (h : WaitStore s) (waits : t.waits = s.waits) (instances : t.instances = s.instances) : WaitStore t where
  one := by
    unfold OneEach
    rw [waits]
    exact h.one
  owners := by
    rw [waits, instances]
    exact h.owners
  begun := by
    unfold Store.getInstance
    rw [waits, instances]
    exact h.begun

theorem createInstance (h : WaitStore s) (m : NewInstance) : WaitStore (s.createInstance m).2 := by
  rcases s.createInstance_cases m with ⟨i, _, he⟩ | ⟨_, he⟩
  · rw [he]
    exact h
  · rw [he]
    refine ⟨h.one, fun w hw => Nat.lt_succ_of_lt (h.owners w hw), fun w hw i hi => ?_⟩
    obtain ⟨hmem, hid⟩ := get?_eq_some.mp hi
    rcases mem_insert hmem with hold | rfl
    · exact h.begun w hw i (get?_eq_some.mpr ⟨hold, hid⟩)
    · -- the new instance has no condition yet
      have fresh := h.owners w hw
      have same : s.instances.next = w.continuationId := hid
      omega

theorem transition (h : WaitStore s) (id : Nat) (new : ContinuationState) (reason : String) :
    WaitStore (s.transition id new reason).2 := by
  rcases s.transition_cases id new reason with ⟨_, he⟩ | ⟨row, hrow, hl, he⟩
  · rw [he]
    exact h
  · rw [he]
    refine ⟨h.one, h.owners, fun w hw i hi => ?_⟩
    obtain ⟨hmem, hid⟩ := get?_eq_some.mp hi
    rcases mem_modify hmem with ⟨hold, _⟩ | ⟨r, hr, hrid, rfl⟩
    · exact h.begun w hw i (get?_eq_some.mpr ⟨hold, hid⟩)
    · obtain ⟨hrow, hid'⟩ := get?_eq_some.mp hrow
      obtain rfl : r = row := rowId_inj hr hrow (hrid.trans hid'.symm)
      exact legal_begun hl (h.begun w hw r (get?_eq_some.mpr ⟨hr, hid⟩))

/-- Every operation of the store keeps to it. -/
theorem apply (h : WaitStore s) (op : StoreOp) : WaitStore (op.apply s).2 := by
  cases op with
  | createInstance m => exact h.createInstance m
  | transition id new reason => exact h.transition id new reason
  | addStep => exact h.frame rfl rfl
  | markStep => exact h.frame rfl rfl
  | addOwnerReceipt => exact h.frame rfl rfl
  | outboxEnqueue => exact h.frame rfl rfl
  | outboxMark => exact h.frame rfl rfl
  | outboxReinterpretPending => exact h.frame rfl rfl
  | advanceCursor => exact h.frame rfl rfl

theorem settle (h : WaitStore s) (id : Nat) (outcome : Option WaitOutcome) :
    WaitStore (AgentflowHermes.settle now id outcome s) := by
  refine ⟨UniqueBy.modify h.one (by exact fun _ _ => rfl) fun _ => by rfl, fun w hw => ?_, fun w hw => ?_⟩
  · rcases mem_modify hw with ⟨hold, _⟩ | ⟨r, hr, _, rfl⟩
    · exact h.owners w hold
    · exact h.owners r hr
  · rcases mem_modify hw with ⟨hold, _⟩ | ⟨r, hr, _, rfl⟩
    · exact h.begun w hold
    · exact h.begun r hr

theorem registeredWait (h : WaitStore s) {e : OutcomeEnvelope} (hnew : s.instanceOf e.toInstance = none)
    (w : WaitIntent) : WaitStore (AgentflowHermes.registeredWait e w s) := by
  have started : WaitStore (materializingWait e s) := (h.createInstance e.toInstance).transition ..
  have inst := instanceOf_materializingWait hnew
  have next : s.instances.next < (materializingWait e s).instances.next := find?_lt_next inst
  have waits : (AgentflowHermes.registeredWait e w s).waits =
      registerWait s.instances.next w (materializingWait e s).waits := rfl
  unfold registerWait at waits
  split at waits
  next => exact started.frame waits rfl
  next hnone =>
    refine ⟨?_, fun c hc => ?_, fun c hc i hi => ?_⟩
    · unfold OneEach
      rw [waits]
      refine UniqueBy.insert started.one (fun r hr => ?_) fun _ => rfl
      simpa using find?_none hnone r hr
    · rw [waits] at hc
      rcases mem_insert hc with hold | rfl
      · exact started.owners c hold
      · exact next
    · rw [waits] at hc
      rcases mem_insert hc with hold | rfl
      · exact started.begun c hold i hi
      · have found : (materializingWait e s).getInstance s.instances.next = _ :=
          get?_eq_some.mpr ⟨mem_of_find? inst, rfl⟩
        have hi : (materializingWait e s).getInstance s.instances.next = some i := hi
        rw [found] at hi
        obtain rfl := Option.some.inj hi
        simp

/-- So does the handling of an event. -/
theorem ingestWaitCut (h : WaitStore s) (T : PyText) (e : OutcomeEnvelope) (runMetadata : Json) :
    WaitStore (AgentflowHermes.ingestWaitCut T e runMetadata n s) := by
  cases hs : s.instanceOf e.toInstance with
  | some i =>
    rw [ingestWaitCut_existing hs]
    exact h
  | none =>
    rw [ingestWaitCut_new hs]
    match n with
    | 0 => exact h
    | 1 => exact h.createInstance ..
    | 2 => exact (h.createInstance e.toInstance).transition ..
    | n + 3 =>
      unfold waitStage handledWait
      cases externalWaitIntent T runMetadata e with
      | none => exact (h.createInstance e.toInstance).transition ..
      | some w => exact h.registeredWait hs w

end WaitStore

section Samples

def waiting : OutcomeEnvelope := {
  eventId := "9", board := "main", sourceTaskId := "t1", sourceGraphId := "g1", originRef := "chat:1"
  returnToRef := "", workspaceRef := "", verdict := .needMore, continuationKind := .externalWait
  confidence := .structured, complete := by decide, coherent := by decide }

def answers (_ _ _ : String) : Option WaitOutcome := some .satisfied

end Samples

end AgentflowHermes
