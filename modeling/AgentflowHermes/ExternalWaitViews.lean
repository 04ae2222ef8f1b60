import AgentflowHermes.CrashProgram
import AgentflowHermes.ExternalWait

namespace AgentflowHermes

open CrashProgram RowTable

section

/-- The answers of a checker that goes by what is waited for, and of nothing else. -/
def waitEnv (check : String → String → String → Option WaitOutcome) : Env Response Unit
  | .checkWait w, u => (check w.kind w.target w.desired, u)
  | q, u => steadyEnv 0 ⟨false, "", "", none⟩ false q u

variable (check : String → String → String → Option WaitOutcome) (now : Nat)

def verdictOf (w : WaitCondition) : Option WaitOutcome := check w.kind w.target w.desired

def move (id : Nat) (new : ContinuationState) (reason : String) (s : Store) : Store := (s.transition id new reason).2

theorem settleWait_rowId (outcome : Option WaitOutcome) (w : WaitCondition) :
    Keyed.rowId (settleWait outcome now w) = Keyed.rowId w := rfl

def settle (id : Nat) (outcome : Option WaitOutcome) (s : Store) : Store :=
  { s with waits := s.waits.modify id (settleWait outcome now) (settleWait_rowId now outcome) }

end

/-- What an answer does to the instance. -/
def answered : Option WaitOutcome → Instance → Instance
  | some .satisfied, i => Store.movedTo .resumed (Store.movedTo .resumable i)
  | some .failed, i => Store.movedTo .failedRetryable i
  | none, i => i

variable {check : String → String → String → Option WaitOutcome} {now : Nat} {s : Store} {w x : WaitCondition}
  {id owner : Nat}

/-- Each instance has one wait condition. -/
def OneEach (s : Store) : Prop := UniqueBy s.waits WaitCondition.continuationId

theorem OneEach.apart (h : OneEach s) (hw : w ∈ s.waits.rows) (hx : x ∈ s.waits.rows) (hne : w ≠ x) :
    w.id ≠ x.id ∧ w.continuationId ≠ x.continuationId :=
  ⟨fun he => hne (rowId_inj hw hx he), fun he => hne (h.eq hw hx he)⟩

end AgentflowHermes
