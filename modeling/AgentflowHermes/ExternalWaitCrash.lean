import AgentflowHermes.ExternalWaitRecovery

namespace AgentflowHermes

open CrashProgram RowTable

/-- What the wait conditions of a store keep to: one for each instance, and the instance has left the
states that come before MATERIALIZING for good. -/
structure WaitStore (s : Store) : Prop where
  one : OneEach s
  owners : ∀ w ∈ s.waits.rows, w.continuationId < s.instances.next
  begun : ∀ w ∈ s.waits.rows, ∀ i, s.getInstance w.continuationId = some i →
    i.state ≠ .detected ∧ i.state ≠ .waitingOwner ∧ i.state ≠ .inputAccepted

section

variable (T : PyText) (e : OutcomeEnvelope) (runMetadata : Json) (check : String → String → String → Option WaitOutcome)

end

variable {T : PyText} {e : OutcomeEnvelope} {runMetadata : Json} {check : String → String → String → Option WaitOutcome}
  {now now' n id owner : Nat} {s t : Store} {w : WaitCondition}

end AgentflowHermes
