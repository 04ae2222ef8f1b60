import AgentflowHermes.ExternalWaitViews

namespace AgentflowHermes

open CrashProgram RowTable

section Poll

variable (check : String → String → String → Option WaitOutcome) (now : Nat)

end Poll

variable {check : String → String → String → Option WaitOutcome} {now now' n : Nat} {s t : Store} {w : WaitCondition}
  {id owner : Nat}

end AgentflowHermes
