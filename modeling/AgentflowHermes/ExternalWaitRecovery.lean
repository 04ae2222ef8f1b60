import AgentflowHermes.ExternalWaitReplay

namespace AgentflowHermes

open CrashProgram RowTable

section Handle

variable (T : PyText) (e : OutcomeEnvelope) (runMetadata : Json)

def ingestWaitCut (n : Nat) (s : Store) : Store :=
  (crash (waitEnv fun _ _ _ => none) n (handleExternalWait T e runMetadata) () s).2

/-- The store after each of the three writes for a new event. -/
def detectedWait (s : Store) : Store := (s.createInstance e.toInstance).2

def materializingWait (s : Store) : Store :=
  ((detectedWait e s).transition s.instances.next .materializing "external_wait_registered").2

def registeredWait (w : WaitIntent) (s : Store) : Store :=
  { materializingWait e s with waits := registerWait s.instances.next w (materializingWait e s).waits }

/-- Where the handling of a new event ends; a malformed poll interval raises before the last write. -/
def handledWait (s : Store) : Store :=
  (externalWaitIntent T runMetadata e).elim (materializingWait e s) fun w => registeredWait e w s

def waitStage (s : Store) : Nat → Store
  | 0 => s
  | 1 => detectedWait e s
  | 2 => materializingWait e s
  | _ + 3 => handledWait T e runMetadata s

variable {T e runMetadata} {s : Store} {n : Nat} {i : Instance}

theorem ingestWaitCut_existing (h : s.instanceOf e.toInstance = some i) (n : Nat) :
    ingestWaitCut T e runMetadata n s = s := by
  rcases s.createInstance_cases e.toInstance with ⟨j, _, he⟩ | ⟨hnone, _⟩
  · have flag : (s.createInstance e.toInstance).1.1 = false := by rw [he]
    have store : (s.createInstance e.toInstance).2 = s := by rw [he]
    unfold ingestWaitCut handleExternalWait createInstance Prog.txn
    cases n with
    | zero => rfl
    | succ n =>
      simp only [Prog.write_bind, crash, Prog.pure_bind', flag, Bool.false_eq_true, if_false, store]
      cases n <;> rfl
  · rw [h] at hnone
    cases hnone

section New

variable (h : s.instanceOf e.toInstance = none)
include h

theorem new_created : (s.createInstance e.toInstance).1.1 = true ∧
    (s.createInstance e.toInstance).1.2.id = s.instances.next := by
  rcases s.createInstance_cases e.toInstance with ⟨i, hi, _⟩ | ⟨_, he⟩
  · rw [h] at hi
    cases hi
  · rw [he]
    exact ⟨rfl, rfl⟩

theorem ingestWaitCut_new (n : Nat) : ingestWaitCut T e runMetadata n s = waitStage T e runMetadata s n := by
  obtain ⟨flag, hid⟩ := new_created h
  unfold ingestWaitCut handleExternalWait createInstance Prog.txn
  cases n with
  | zero => rfl
  | succ n =>
    simp only [Prog.write_bind, crash, Prog.pure_bind', flag, if_true, hid]
    unfold moveTo
    cases n with
    | zero => rfl
    | succ n =>
      simp only [Prog.write_bind, crash, Prog.pure_bind']
      cases hw : externalWaitIntent T runMetadata e with
      | none => cases n <;> simp only [crash, Prog.raise_bind, waitStage, handledWait, hw] <;> rfl
      | some w =>
        cases n with
        | zero => rfl
        | succ n => cases n <;> simp only [crash, waitStage, handledWait, hw] <;> rfl

theorem instanceOf_detectedWait : (detectedWait e s).instanceOf e.toInstance =
    some { e.toInstance with id := s.instances.next, state := .detected } := by
  have store : detectedWait e s = { s with
      instances := s.instances.insert fun id => { e.toInstance with id := id, state := .detected }
      events := Store.recordEvent s.events s.instances.next (.created .detected) } := by
    rcases s.createInstance_cases e.toInstance with ⟨i, hi, _⟩ | ⟨_, he⟩
    · rw [h] at hi
      cases hi
    · unfold detectedWait
      rw [he]
  rw [store]
  have absent : s.instances.find? (fun j => j.tuple == e.toInstance.tuple) = none := h
  unfold Store.instanceOf
  rw [find?_insert, absent]
  simp

theorem instanceOf_materializingWait : (materializingWait e s).instanceOf e.toInstance =
    some { e.toInstance with id := s.instances.next, state := .materializing } := by
  have detected := instanceOf_detectedWait h
  have row : (detectedWait e s).getInstance s.instances.next =
      some { e.toInstance with id := s.instances.next, state := .detected } :=
    get?_eq_some.mpr ⟨mem_of_find? detected, rfl⟩
  unfold materializingWait
  rw [Store.transition_legal row (by rfl)]
  show (Table.modify _ _ _ fun _ => by rfl).find? _ = _
  have found : (detectedWait e s).instances.find? (fun j => j.tuple == e.toInstance.tuple) = _ := detected
  rw [find?_modify (by exact fun _ _ => rfl), found]
  simp

end New

end Handle

end AgentflowHermes
