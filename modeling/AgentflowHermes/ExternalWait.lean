import AgentflowHermes.CodeFixHandler

namespace AgentflowHermes

open CrashProgram RowTable

structure WaitIntent where
  kind : String
  target : String
  desired : String
  pollInterval : Int
  resumeTransition : String

def dictAt (v : Json) (key : String) : Json :=
  match v.get? key with
  | some (.obj fields) => .obj fields
  | _ => .obj []

/-- `_external_wait_intent`; `none` where `float()` of the poll interval raises. -/
def externalWaitIntent (T : PyText) (runMetadata : Json) (e : OutcomeEnvelope) : Option WaitIntent :=
  let wait := dictAt (dictAt runMetadata "agentflow_outcome") "external_wait"
  let interval := match wait.get? "poll_interval_seconds" with
    | some v => if v.truthy then T.float v else some 60000000
    | none => some 60000000
  interval.map fun pollInterval =>
    { kind := T.strOr (wait.get? "kind") ""
      target := T.strOr (wait.get? "target") ""
      desired := T.strOr (wait.get? "desired") ""
      pollInterval := pollInterval
      resumeTransition := T.strOr (wait.get? "resume_transition") e.nextTransition }

/-- The condition is inserted unless the instance has one. -/
def registerWait (id : Nat) (w : WaitIntent) (waits : Table WaitCondition) : Table WaitCondition :=
  match waits.find? fun c => c.continuationId == id with
  | some _ => waits
  | none => waits.insert fun n =>
      ⟨n, id, w.kind, w.target, w.desired, w.pollInterval, w.resumeTransition, .pending, 0⟩

def handleExternalWait (T : PyText) (e : OutcomeEnvelope) (runMetadata : Json) : Run (Nat × Bool) := do
  let creation ← createInstance e.toInstance
  if creation.1 then
    moveTo creation.2.id .materializing "external_wait_registered"
    match externalWaitIntent T runMetadata e with
    | none => Prog.raise "ValueError"
    | some w => .write (fun s => { s with waits := registerWait creation.2.id w s.waits }) fun _ => .pure ()
  return (creation.2.id, creation.1)

def pollDue (now : Nat) (w : WaitCondition) : Bool :=
  decide ((if w.pollInterval = 0 then 60000000 else w.pollInterval) ≤ (now : Int) - w.lastCheckedAt)

def settleWait (outcome : Option WaitOutcome) (now : Nat) (w : WaitCondition) : WaitCondition :=
  { w with
    lastCheckedAt := now
    state := match outcome with
      | some .satisfied => .satisfied
      | some .failed => .failedPermanent
      | none => w.state }

def pollOne (now : Nat) (w : WaitCondition) : Run (Option (Nat × Nat × Option WaitOutcome)) :=
  if !pollDue now w then return none
  else do
    let outcome ← (.call (.checkWait w) .pure : Run (Option WaitOutcome))
    .write (fun s => { s with waits := s.waits.modify w.id (settleWait outcome now) }) fun _ => .pure ()
    match outcome with
    | some .satisfied =>
      moveTo w.continuationId .resumable "external_wait_satisfied"
      moveTo w.continuationId .resumed "external_wait_resumed"
    | some .failed => moveTo w.continuationId .failedRetryable "external_wait_failed_permanent"
    | none => pure ()
    return some (w.id, w.continuationId, outcome)

/-- `poll_external_wait_conditions`; the answer lists the conditions that were checked. -/
def pollExternalWaitConditions (at_ : Option Nat) : Run (List (Nat × Nat × Option WaitOutcome)) := do
  let now ← match at_ with
    | some t => pure t
    | none => currentTime
  let rows ← Prog.get fun s => s.waits.filter fun w => w.state == .pending
  let checked ← Prog.forEach (pollOne now) rows
  return checked.filterMap id

end AgentflowHermes
