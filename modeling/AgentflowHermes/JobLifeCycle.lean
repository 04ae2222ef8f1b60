import AgentflowHermes.LiveDispatch
import AgentflowHermes.StoreInvariant
import Mathlib.Data.List.Induction
import Mathlib.Data.List.Nodup

namespace AgentflowHermes.Jobs

/-- The events that record what became of a job's status. -/
def appliedKinds : List String := ["ack_applied", "dispatched_dry_run", "passive_delivery"]

/-- The status after an event, `none` where the event does not start from the status before it. -/
def replayEvent (status : JobStatus) (e : JobEvent) : Option JobStatus :=
  if appliedKinds.contains e.kind then
    if e.prevStatus = status.value then JobStatus.ofValue? e.newStatus else none
  else some status

/-- The status that the events of a job lead to, one after the other. -/
def replay (events : List JobEvent) : Option JobStatus := events.foldlM replayEvent .queued

/-- The calls on a store, with what they read of the clock. -/
inductive Call
  | enqueue (n : NewJob) (now : Int)
  | ack (a : Ack) (now : Int)
  | dispatchDryRun (jobId : String) (now : Int)
  | dispatchLive (c : LiveCall)

/-- The store after a call; one that raises leaves it alone. -/
def stored {α : Type} (s : JobStore) : Except String (α × JobStore) → JobStore
  | .ok answer => answer.2
  | .error _ => s

def Call.perform (T : PyText) (s : JobStore) : Call → JobStore
  | .enqueue n now => stored s (s.enqueue T n now)
  | .ack a now => stored s (s.ack T a now)
  | .dispatchDryRun jobId now => stored s (s.dispatchDryRun T jobId now)
  | .dispatchLive c => stored s (s.dispatchLive T c)

def runCalls (T : PyText) (s : JobStore) (calls : List Call) : JobStore := calls.foldl (Call.perform T) s

/-- A live dispatch that delivers a job whose life is over. -/
def Revives (T : PyText) (s : JobStore) : Call → Prop
  | .dispatchLive c => c.live = true ∧ ∃ j gateway ref, s.job? c.jobId = some j ∧ j.status.final = true ∧
      s.liveGate j c = .ok gateway ∧ gateway j.target (j.message T) j.idempotencyKey = .delivered ref
  | _ => False

/-- What holds of the jobs and their events in every state. -/
structure LifeCycle (s : JobStore) : Prop where
  distinct : (s.jobs.map Job.id).Nodup
  named : ∀ j ∈ s.jobs, j.id ≠ ""
  known : ∀ e ∈ s.events, e.jobId = "" ∨ ∃ j ∈ s.jobs, j.id = e.jobId
  numbered : ∀ id, (s.eventsOf id).map JobEvent.seq = List.range' 1 (s.eventsOf id).length
  replayed : ∀ j ∈ s.jobs, replay (s.eventsOf j.id) = some j.status
  finals : ∀ j ∈ s.jobs, j.finalAt.isSome = j.status.final

/-- Every job stays, and its status moves as `ALLOWED_TRANSITIONS` says, if at all. -/
def MovesLegally (s s' : JobStore) : Prop :=
  ∀ j ∈ s.jobs, ∃ j' ∈ s'.jobs, j'.id = j.id ∧ (j'.status = j.status ∨ j'.status ∈ j.status.allowedTransitions)

/-- What is left of `e` in the store once it is recorded for a job. -/
structure Recorded (s s' : JobStore) (id kind prev new : String) : Prop where
  added : ∃ e, s'.events = s.events ++ [e] ∧ e.jobId = id ∧ e.kind = kind ∧ e.seq = s.maxSeq id + 1 ∧
    e.prevStatus = prev ∧ e.newStatus = new

section

variable {T : PyText} {s s' : JobStore} {id kind prev new : String} {payload : Payload} {now : Int}

theorem recordEvent_ok (h : s.recordEvent T id kind payload now prev new = .ok s') :
    Recorded s s' id kind prev new ∧ s'.jobs = s.jobs := by
  unfold JobStore.recordEvent at h
  split at h
  · cases h
  next fields _ =>
    cases h
    exact ⟨⟨_, rfl, rfl, rfl, rfl, rfl, rfl⟩, rfl⟩

theorem deadletter_ok {reason jobId rawRef : String} (h : s.deadletter reason jobId rawRef payload = .ok s') :
    s'.events = s.events ∧ s'.jobs = s.jobs := by
  unfold JobStore.deadletter at h
  split at h
  · cases h
  · cases h
    exact ⟨rfl, rfl⟩

theorem job?_some {j : Job} (h : s.job? id = some j) : j ∈ s.jobs ∧ j.id = id := by
  refine ⟨List.mem_of_find?_eq_some h, ?_⟩
  simpa using List.find?_some h

/-- What a call can do to the jobs and their events. -/
inductive JobStep (s s' : JobStore) : Prop
  | quiet (jobs : s'.jobs = s.jobs) (events : s'.events = s.events)
  | enqueued (j : Job) (fresh : ∀ other ∈ s.jobs, other.id ≠ j.id) (named : j.id ≠ "") (queued : j.status = .queued)
      (open' : j.finalAt = none) (jobs : s'.jobs = s.jobs ++ [j]) (event : Recorded s s' j.id "enqueued" "" "")
  | noted (id kind prev new : String) (known : id = "" ∨ ∃ j ∈ s.jobs, j.id = id) (jobs : s'.jobs = s.jobs)
      (event : Recorded s s' id kind prev new)
      (same : appliedKinds.contains kind = true → ∃ j ∈ s.jobs, j.id = id ∧ prev = j.status.value ∧ new = j.status.value)
  | moved (j : Job) (mem : j ∈ s.jobs) (f : Job → Job) (kind : String) (applied : appliedKinds.contains kind = true)
      (id : (f j).id = j.id) (legal : (f j).status = j.status ∨ (f j).status ∈ j.status.allowedTransitions)
      (finals : j.finalAt.isSome = j.status.final → (f j).finalAt.isSome = (f j).status.final)
      (jobs : s'.jobs = (s.modify j.id f).jobs)
      (event : Recorded s s' j.id kind j.status.value (f j).status.value)

theorem rejectAck_step {j : Job} {new : JobStatus} {fields : Payload} {reason : String} (mem : j ∈ s.jobs)
    (h : s.rejectAck T j new fields reason now = .ok s') : JobStep s s' := by
  unfold JobStore.rejectAck at h
  obtain ⟨middle, recorded, h⟩ := bind_ok' h
  obtain ⟨event, jobs⟩ := recordEvent_ok recorded
  obtain ⟨events, sameJobs⟩ := deadletter_ok h
  obtain ⟨e, added, rest⟩ := event.added
  refine .noted j.id "ack_rejected" j.status.value new.value (.inr ⟨j, mem, rfl⟩) (sameJobs.trans jobs)
    ⟨⟨e, events.trans added, rest⟩⟩ ?_
  intro applied
  exact absurd applied (by decide)

theorem ack_step {a : Ack} {r : AckResult} (h : s.ack T a now = .ok (r, s')) : JobStep s s' := by
  unfold JobStore.ack at h
  split at h
  · obtain ⟨after, dead, h⟩ := bind_ok' h
    cases h
    obtain ⟨events, jobs⟩ := deadletter_ok dead
    exact .quiet jobs events
  next status _ =>
    split at h
    · obtain ⟨middle, recorded, h⟩ := bind_ok' h
      obtain ⟨after, dead, h⟩ := bind_ok' h
      cases h
      obtain ⟨event, jobs⟩ := recordEvent_ok recorded
      obtain ⟨events, sameJobs⟩ := deadletter_ok dead
      obtain ⟨e, added, rest⟩ := event.added
      refine .noted "" "ack_rejected" "" "" (.inl rfl) (sameJobs.trans jobs) ⟨⟨e, events.trans added, rest⟩⟩ ?_
      intro applied
      exact absurd applied (by decide)
    next j found =>
      have mem := (job?_some found).1
      split at h
      next same =>
        obtain ⟨after, recorded, h⟩ := bind_ok' h
        cases h
        obtain ⟨event, jobs⟩ := recordEvent_ok recorded
        refine .noted j.id "duplicate_ack" j.status.value status.value (.inr ⟨j, mem, rfl⟩) jobs event ?_
        intro applied
        exact absurd applied (by decide)
      split at h
      · obtain ⟨after, rejected, h⟩ := bind_ok' h
        cases h
        exact rejectAck_step mem rejected
      split at h
      · obtain ⟨after, rejected, h⟩ := bind_ok' h
        cases h
        exact rejectAck_step mem rejected
      next allowed =>
        obtain ⟨after, recorded, h⟩ := bind_ok' h
        cases h
        obtain ⟨event, jobs⟩ := recordEvent_ok recorded
        have legal : status ∈ j.status.allowedTransitions := by simpa using allowed
        refine .moved j mem (fun j => { j with status := status, finalAt := if status.final then some now else none })
          "ack_applied" (by decide) rfl (.inr legal) (fun _ => ?_) jobs ?_
        · cases status <;> rfl
        · obtain ⟨e, added, rest⟩ := event.added
          exact ⟨⟨e, added, rest⟩⟩

theorem dispatchDryRun_step {r : Option (Bool × JobStatus)} (h : s.dispatchDryRun T id now = .ok (r, s')) :
    JobStep s s' := by
  unfold JobStore.dispatchDryRun at h
  split at h
  · cases h
    exact .quiet rfl rfl
  next j found =>
    obtain ⟨mem, rfl⟩ := job?_some found
    split at h
    next queued =>
      obtain ⟨after, recorded, h⟩ := bind_ok' h
      cases h
      obtain ⟨event, jobs⟩ := recordEvent_ok recorded
      obtain ⟨e, added, rest⟩ := event.added
      refine .moved j mem (fun j => { j with status := .dispatched }) "dispatched_dry_run" (by decide) rfl (.inr ?_)
        (fun finals => ?_) jobs ⟨⟨e, added, rest⟩⟩
      · show JobStatus.dispatched ∈ j.status.allowedTransitions
        rw [queued]
        decide
      · rw [queued] at finals
        exact finals
    · obtain ⟨after, recorded, h⟩ := bind_ok' h
      cases h
      obtain ⟨event, jobs⟩ := recordEvent_ok recorded
      exact .noted j.id "dispatched_dry_run" j.status.value j.status.value (.inr ⟨j, mem, rfl⟩) jobs event
        fun _ => ⟨j, mem, rfl, rfl, rfl⟩

theorem newJobId_ne_empty : newJobId now ≠ "" := by
  intro empty
  have chars := congrArg String.toList empty
  unfold newJobId at chars
  rw [String.toList_append] at chars
  cases chars

theorem enqueue_step {n : NewJob} {r : String} (h : s.enqueue T n now = .ok (r, s')) : JobStep s s' := by
  unfold JobStore.enqueue at h
  dsimp only at h
  split at h
  · cases h
  next apart =>
    obtain ⟨after, recorded, h⟩ := bind_ok' h
    cases h
    obtain ⟨event, jobs⟩ := recordEvent_ok recorded
    obtain ⟨e, added, rest⟩ := event.added
    refine .enqueued (n.row T now) (fun other mem same => apart ?_) newJobId_ne_empty rfl rfl jobs ⟨⟨e, added, rest⟩⟩
    exact List.any_eq_true.mpr ⟨other, mem, by simp [same]⟩

theorem failLive_quiet {j : Job} {readings : Readings} {ref reason : String} :
    (s.failLive j readings ref reason).events = s.events ∧ (s.failLive j readings ref reason).jobs = s.jobs := by
  unfold JobStore.failLive
  dsimp only
  split <;> exact ⟨rfl, rfl⟩

/-- What a delivery writes, to the job and to its events. -/
theorem deliverLive_ok {j : Job} {readings : Readings} {ref : String} (h : s.deliverLive T j readings ref = .ok s') :
    Recorded s s' j.id "passive_delivery" j.status.value JobStatus.dispatched.value ∧
      s'.jobs = (s.modify j.id fun j =>
        { j with status := .dispatched, liveDeliveredAt := some readings.now, liveDeliveryRef := ref }).jobs := by
  unfold JobStore.deliverLive at h
  split at h
  · cases h
  · obtain ⟨event, jobs⟩ := recordEvent_ok h
    obtain ⟨e, added, rest⟩ := event.added
    exact ⟨⟨⟨e, added, rest⟩⟩, jobs⟩

theorem dispatchLive_step {c : LiveCall} {r : LiveResult} (h : s.dispatchLive T c = .ok (r, s'))
    (lives : ¬ Revives T s (.dispatchLive c)) : JobStep s s' := by
  unfold JobStore.dispatchLive at h
  split at h
  · cases h
    exact .quiet rfl rfl
  next j found =>
    have mem := (job?_some found).1
    split at h
    · obtain ⟨moved, dry, h⟩ := bind_ok' h
      cases h
      exact dispatchDryRun_step dry
    next live =>
      split at h
      · cases h
        exact .quiet rfl rfl
      next gateway opened =>
        dsimp only at h
        generalize answered : gateway j.target (j.message T) j.idempotencyKey = answer at h
        cases answer with
        | raised =>
          cases h
          exact .quiet failLive_quiet.2 failLive_quiet.1
        | failed ref =>
          cases h
          exact .quiet failLive_quiet.2 failLive_quiet.1
        | delivered ref =>
          obtain ⟨after, delivered, h⟩ := bind_ok' h
          cases h
          obtain ⟨event, jobs⟩ := deliverLive_ok delivered
          obtain ⟨e, added, rest⟩ := event.added
          have going : j.status.final = false := by
            cases settled : j.status.final with
            | false => rfl
            | true => exact absurd ⟨by simpa using live, j, gateway, ref, found, settled, opened, answered⟩ lives
          refine .moved j mem
            (fun j => { j with status := .dispatched, liveDeliveredAt := some c.readings.now, liveDeliveryRef := ref })
            "passive_delivery" (by decide) rfl ?_ (fun finals => ?_) jobs ⟨⟨e, added, rest⟩⟩
          · show JobStatus.dispatched = j.status ∨ JobStatus.dispatched ∈ j.status.allowedTransitions
            cases hs : j.status with
            | queued => exact .inr (by decide)
            | dispatched => exact .inl rfl
            | waitingReview => exact .inr (by decide)
            | waitingUser => exact .inr (by decide)
            | succeeded =>
              rw [hs] at going
              cases going
            | failed =>
              rw [hs] at going
              cases going
          · rw [going] at finals
            exact finals

theorem stored_step {α : Type} {x : Except String (α × JobStore)} (h : ∀ r s', x = .ok (r, s') → JobStep s s') :
    JobStep s (stored s x) := by
  cases x with
  | error err => exact .quiet rfl rfl
  | ok answer => exact h answer.1 answer.2 rfl

/-- What any call can do, but for a live dispatch that revives a job. -/
theorem perform_step {c : Call} (lives : ¬ Revives T s c) : JobStep s (c.perform T s) := by
  cases c with
  | enqueue n now => exact stored_step fun r s' h => enqueue_step h
  | ack a now => exact stored_step fun r s' h => ack_step h
  | dispatchDryRun id now => exact stored_step fun r s' h => dispatchDryRun_step h
  | dispatchLive c => exact stored_step fun r s' h => dispatchLive_step h lives

theorem replay_snoc (events : List JobEvent) (e : JobEvent) :
    replay (events ++ [e]) = (replay events).bind fun status => replayEvent status e := by
  have single (status : JobStatus) : [e].foldlM replayEvent status = replayEvent status e := by simp
  unfold replay
  rw [List.foldlM_append]
  exact congrArg _ (funext single)

theorem eventsOf_added {e : JobEvent} (h : s'.events = s.events ++ [e]) (other : String) :
    s'.eventsOf other = s.eventsOf other ++ if e.jobId = other then [e] else [] := by
  unfold JobStore.eventsOf
  rw [h, List.filter_append]
  congr 1
  by_cases same : e.jobId = other <;> simp [same]

theorem eventsOf_same (h : s'.events = s.events) (other : String) : s'.eventsOf other = s.eventsOf other := by
  unfold JobStore.eventsOf
  rw [h]

namespace Recorded

theorem numbered (h : Recorded s s' id kind prev new)
    (before : ∀ id, (s.eventsOf id).map JobEvent.seq = List.range' 1 (s.eventsOf id).length) (other : String) :
    (s'.eventsOf other).map JobEvent.seq = List.range' 1 (s'.eventsOf other).length := by
  obtain ⟨e, added, jobId, -, seq, -, -⟩ := h.added
  rw [eventsOf_added added]
  split
  next same =>
    refine range'_snoc (before other) ?_
    rw [seq, ← jobId, same]
    rfl
  · simpa using before other

theorem known (h : Recorded s s' id kind prev new) (mine : id = "" ∨ ∃ j ∈ s'.jobs, j.id = id)
    (before : ∀ e ∈ s.events, e.jobId = "" ∨ ∃ j ∈ s'.jobs, j.id = e.jobId) :
    ∀ e ∈ s'.events, e.jobId = "" ∨ ∃ j ∈ s'.jobs, j.id = e.jobId := by
  obtain ⟨e, added, jobId, -⟩ := h.added
  intro other mem
  rw [added] at mem
  rcases List.mem_append.mp mem with old | last
  · exact before other old
  · rw [List.mem_singleton.mp last, jobId]
    exact mine

/-- The events of the other jobs stay as they are. -/
theorem other (h : Recorded s s' id kind prev new) {jobId : String} (apart : jobId ≠ id) :
    s'.eventsOf jobId = s.eventsOf jobId := by
  obtain ⟨e, added, mine, -⟩ := h.added
  have elsewhere : e.jobId ≠ jobId := fun same => apart (same ▸ mine)
  rw [eventsOf_added added, if_neg elsewhere, List.append_nil]

theorem replay_mine (h : Recorded s s' id kind prev new) :
    ∃ e : JobEvent, replay (s'.eventsOf id) = (replay (s.eventsOf id)).bind (fun status => replayEvent status e) ∧
      e.kind = kind ∧ e.prevStatus = prev ∧ e.newStatus = new := by
  obtain ⟨e, added, mine, kind, -, prev, new⟩ := h.added
  refine ⟨e, ?_, kind, prev, new⟩
  rw [eventsOf_added added, if_pos mine, replay_snoc]

end Recorded

theorem replayEvent_other {status : JobStatus} {e : JobEvent} (h : appliedKinds.contains e.kind = false) :
    replayEvent status e = some status := by
  unfold replayEvent
  rw [h]
  rfl

theorem replayEvent_applied {status after : JobStatus} {e : JobEvent} (h : appliedKinds.contains e.kind = true)
    (prev : e.prevStatus = status.value) (new : e.newStatus = after.value) : replayEvent status e = some after := by
  unfold replayEvent
  rw [if_pos h, if_pos prev, new]
  exact JobStatus.ofValue?_value after

theorem eventsOf_unborn (h : LifeCycle s) (named : id ≠ "") (fresh : ∀ j ∈ s.jobs, j.id ≠ id) : s.eventsOf id = [] := by
  unfold JobStore.eventsOf
  rw [List.filter_eq_nil_iff]
  intro e mem mine
  have mine : e.jobId = id := by simpa using mine
  rcases h.known e mem with none | ⟨j, hj, same⟩
  · exact named (mine ▸ none)
  · exact fresh j hj (same.trans mine)

theorem mem_modify {j' : Job} {f : Job → Job} (h : j' ∈ (s.modify id f).jobs) :
    ∃ j ∈ s.jobs, j' = if j.id = id then f j else j := by
  obtain ⟨j, mem, same⟩ := List.mem_map.mp h
  exact ⟨j, mem, same.symm⟩

theorem LifeCycle.unique (h : LifeCycle s) {j k : Job} (hj : j ∈ s.jobs) (hk : k ∈ s.jobs) (same : j.id = k.id) : j = k :=
  List.inj_on_of_nodup_map h.distinct hj hk same

theorem modify_ids {f : Job → Job} (keeps : ∀ j ∈ s.jobs, j.id = id → (f j).id = j.id) :
    (s.modify id f).jobs.map Job.id = s.jobs.map Job.id := by
  unfold JobStore.modify
  rw [List.map_map]
  refine List.map_congr_left fun j mem => ?_
  by_cases mine : j.id = id
  · have kept := keeps j mem mine
    simpa [mine] using kept
  · simp [mine]

theorem MovesLegally.of_kept (h : ∀ j ∈ s.jobs, j ∈ s'.jobs) : MovesLegally s s' :=
  fun j mem => ⟨j, h j mem, rfl, .inl rfl⟩

theorem LifeCycle.step (h : LifeCycle s) (step : JobStep s s') : LifeCycle s' ∧ MovesLegally s s' := by
  cases step with
  | quiet jobs events =>
    refine ⟨⟨by rw [jobs]; exact h.distinct, by rw [jobs]; exact h.named, by rw [jobs, events]; exact h.known,
      fun id => ?_, fun j mem => ?_, by rw [jobs]; exact h.finals⟩, .of_kept (by rw [jobs]; exact fun j mem => mem)⟩
    · rw [eventsOf_same events]
      exact h.numbered id
    · rw [jobs] at mem
      rw [eventsOf_same events]
      exact h.replayed j mem
  | enqueued j fresh named queued open' jobs event =>
    have mine : j ∈ s'.jobs := by simp [jobs]
    have kept : ∀ k ∈ s.jobs, k ∈ s'.jobs := by
      rw [jobs]
      exact fun k mem => List.mem_append_left _ mem
    have either {k : Job} (mem : k ∈ s'.jobs) : k ∈ s.jobs ∨ k = j := by
      rw [jobs] at mem
      simpa using mem
    refine ⟨⟨?_, fun k mem => ?_, ?_, event.numbered h.numbered, fun k mem => ?_, fun k mem => ?_⟩, .of_kept kept⟩
    · rw [jobs, List.map_append, List.nodup_append]
      refine ⟨h.distinct, List.nodup_singleton _, fun a ha b hb => ?_⟩
      obtain ⟨k, mem, rfl⟩ := List.mem_map.mp ha
      rw [List.map_singleton, List.mem_singleton] at hb
      rw [hb]
      exact fresh k mem
    · rcases either mem with old | rfl
      · exact h.named k old
      · exact named
    · refine event.known (.inr ⟨j, mine, rfl⟩) fun e mem => ?_
      exact (h.known e mem).imp_right fun ⟨k, old, same⟩ => ⟨k, kept k old, same⟩
    · rcases either mem with old | rfl
      · rw [event.other (fresh k old)]
        exact h.replayed k old
      · obtain ⟨e, after, kind, -, -⟩ := event.replay_mine
        rw [after, eventsOf_unborn h named fresh, queued]
        exact replayEvent_other (by rw [kind]; decide)
    · rcases either mem with old | rfl
      · exact h.finals k old
      · rw [open', queued]
        rfl
  | noted id kind prev new known jobs event same =>
    refine ⟨⟨by rw [jobs]; exact h.distinct, by rw [jobs]; exact h.named,
      event.known (by rw [jobs]; exact known) (by rw [jobs]; exact h.known), event.numbered h.numbered,
      fun j mem => ?_, by rw [jobs]; exact h.finals⟩, .of_kept (by rw [jobs]; exact fun j mem => mem)⟩
    rw [jobs] at mem
    by_cases mine : j.id = id
    · subst mine
      obtain ⟨e, after, kindIs, prevIs, newIs⟩ := event.replay_mine
      rw [after, h.replayed j mem]
      cases applied : appliedKinds.contains kind with
      | false => exact replayEvent_other (by rw [kindIs]; exact applied)
      | true =>
        obtain ⟨k, old, id, before, later⟩ := same applied
        obtain rfl := h.unique mem old id.symm
        exact replayEvent_applied (by rw [kindIs]; exact applied) (prevIs.trans before) (newIs.trans later)
    · rw [event.other mine]
      exact h.replayed j mem
  | moved j mem f kind applied keeps legal finals jobs event =>
    have ids : s'.jobs.map Job.id = s.jobs.map Job.id := by
      rw [jobs]
      refine modify_ids fun k old mine => ?_
      obtain rfl := h.unique old mem mine
      exact keeps
    have either {k : Job} (hk : k ∈ s'.jobs) : (k ∈ s.jobs ∧ k.id ≠ j.id) ∨ k = f j := by
      rw [jobs] at hk
      obtain ⟨old, hold, rfl⟩ := mem_modify hk
      split
      next mine =>
        obtain rfl := h.unique hold mem mine
        exact .inr rfl
      next apart => exact .inl ⟨hold, apart⟩
    have present {id : String} (h : ∃ k ∈ s.jobs, k.id = id) : ∃ k ∈ s'.jobs, k.id = id := by
      have mem : id ∈ s'.jobs.map Job.id := by
        rw [ids]
        exact List.mem_map.mpr h
      exact List.mem_map.mp mem
    refine ⟨⟨by rw [ids]; exact h.distinct, fun k hk => ?_, event.known (.inr (present ⟨j, mem, rfl⟩))
      fun e he => (h.known e he).imp_right present, event.numbered h.numbered, fun k hk => ?_, fun k hk => ?_⟩,
      fun k hk => ?_⟩
    · rcases either hk with ⟨old, -⟩ | rfl
      · exact h.named k old
      · rw [keeps]
        exact h.named j mem
    · rcases either hk with ⟨old, apart⟩ | rfl
      · rw [event.other apart]
        exact h.replayed k old
      · obtain ⟨e, after, kindIs, prevIs, newIs⟩ := event.replay_mine
        rw [keeps, after, h.replayed j mem]
        exact replayEvent_applied (by rw [kindIs]; exact applied) prevIs newIs
    · rcases either hk with ⟨old, -⟩ | rfl
      · exact h.finals k old
      · exact finals (h.finals j mem)
    · by_cases mine : k.id = j.id
      · obtain rfl := h.unique hk mem mine
        refine ⟨f k, ?_, keeps, legal⟩
        rw [jobs]
        exact List.mem_map.mpr ⟨k, mem, if_pos rfl⟩
      · refine ⟨k, ?_, rfl, .inl rfl⟩
        rw [jobs]
        exact List.mem_map.mpr ⟨k, hk, if_neg mine⟩

theorem deliverLive_succeeds {j : Job} {readings : Readings} {ref : String}
    (fresh : s.keys.find? (·.key == j.idempotencyKey) = none) : ∃ s', s.deliverLive T j readings ref = .ok s' := by
  have unclaimed : s.keys.any (·.key == j.idempotencyKey) = false := by
    rw [List.find?_eq_none] at fresh
    rw [List.any_eq_false]
    exact fresh
  unfold JobStore.deliverLive
  rw [if_neg (by simp [unclaimed])]
  unfold JobStore.recordEvent
  have dumped : ∃ fields, dumpsEntries (JobStore.eventPayload T (JobStore.deliveryPayload j ref) readings.outcome) =
      some fields := by
    simp [JobStore.eventPayload, JobStore.deliveryPayload, safeEntries, safeValue, setKey, dumpsEntries, dumps]
  obtain ⟨fields, dumped⟩ := dumped
  dsimp only
  rw [dumped]
  exact ⟨_, rfl⟩

/-- A delivery of a job whose life is over brings the job back. -/
theorem Revives.breaks {c : Call} (revives : Revives T s c) : ¬ MovesLegally s (c.perform T s) := by
  cases c with
  | enqueue n now => exact revives.elim
  | ack a now => exact revives.elim
  | dispatchDryRun id now => exact revives.elim
  | dispatchLive c =>
    obtain ⟨live, j, gateway, ref, found, settled, opened, answered⟩ := revives
    have mem := (job?_some found).1
    let attempted := s.addReceipt (JobStore.liveReceipt j .attempt "" "" c.readings.receipt)
    obtain ⟨after, delivered⟩ : ∃ s', attempted.deliverLive T j c.readings ref = .ok s' :=
      deliverLive_succeeds (JobStore.liveGate_ok opened).fresh
    have performed : Call.perform T s (.dispatchLive c) = after := by
      show stored s (s.dispatchLive T c) = after
      rw [JobStore.dispatchLive_send found live opened, answered, JobStore.settleLive_delivered delivered]
      rfl
    rw [performed]
    intro legal
    obtain ⟨j', mem', same, moved⟩ := legal j mem
    rw [(deliverLive_ok delivered).2] at mem'
    obtain ⟨k, hk, rfl⟩ := mem_modify mem'
    have dispatched : (if k.id = j.id then { k with
        status := .dispatched, liveDeliveredAt := some c.readings.now, liveDeliveryRef := ref } else k).status =
        .dispatched := by
      by_cases mine : k.id = j.id
      · rw [if_pos mine]
      · rw [if_neg mine] at same
        exact absurd same mine
    rw [dispatched, (JobStatus.final_iff _).mp settled] at moved
    rcases moved with stays | none
    · rw [← stays] at settled
      cases settled
    · cases none

theorem lifeCycle_empty : LifeCycle {} where
  distinct := List.nodup_nil
  named := fun j mem => by cases mem
  known := fun e mem => by cases mem
  numbered := fun id => rfl
  replayed := fun j mem => by cases mem
  finals := fun j mem => by cases mem

end

/-- What is claimed of a run of calls on an empty store, over every state it goes through. -/
structure LifeCycleHolds (T : PyText) (calls : List Call) : Prop where
  invariant : ∀ before after, calls = before ++ after → LifeCycle (runCalls T {} before)
  legal : ∀ before c after, calls = before ++ c :: after →
    MovesLegally (runCalls T {} before) (c.perform T (runCalls T {} before))
  final : ∀ before between after, calls = before ++ between ++ after →
    ∀ j ∈ (runCalls T {} before).jobs, j.status.final = true →
      ∃ j' ∈ (runCalls T {} (before ++ between)).jobs, j'.id = j.id ∧ j'.status = j.status

section

variable {T : PyText}

theorem runCalls_snoc (s : JobStore) (calls : List Call) (c : Call) :
    runCalls T s (calls ++ [c]) = c.perform T (runCalls T s calls) := by
  unfold runCalls
  rw [List.foldl_append]
  rfl

/-- A run without a revival keeps the life cycle, up to every state of it. -/
theorem runCalls_lifeCycle {calls : List Call}
    (lives : ∀ before c after, calls = before ++ c :: after → ¬ Revives T (runCalls T {} before) c) :
    ∀ before after, calls = before ++ after → LifeCycle (runCalls T {} before) := by
  intro before
  induction before using List.reverseRecOn with
  | nil => exact fun _ _ => lifeCycle_empty
  | append_singleton before c ih =>
    intro after whole
    have split : calls = before ++ c :: after := by simpa using whole
    rw [runCalls_snoc]
    exact ((ih _ split).step (perform_step (lives before c after split))).1

/-- **Job life cycle.** A run keeps it just when no live dispatch of it delivers a job that is in a final state. -/
theorem lifeCycle_iff (calls : List Call) : LifeCycleHolds T calls ↔
    ∀ before c after, calls = before ++ c :: after → ¬ Revives T (runCalls T {} before) c := by
  constructor
  · intro h before c after split revives
    exact revives.breaks (h.legal before c after split)
  · intro lives
    have invariant := runCalls_lifeCycle lives
    have legal (before : List Call) (c : Call) (after : List Call) (split : calls = before ++ c :: after) :
        MovesLegally (runCalls T {} before) (c.perform T (runCalls T {} before)) :=
      ((invariant before _ split).step (perform_step (lives before c after split))).2
    refine ⟨invariant, legal, fun before between => ?_⟩
    induction between using List.reverseRecOn with
    | nil =>
      intro after split j mem settled
      rw [List.append_nil]
      exact ⟨j, mem, rfl, rfl⟩
    | append_singleton between c ih =>
      intro after split j mem settled
      have earlier : calls = before ++ between ++ c :: after := by simpa using split
      obtain ⟨k, hk, id, status⟩ := ih _ earlier j mem settled
      obtain ⟨j', mem', same, moved⟩ := legal _ c after earlier k hk
      rw [← List.append_assoc, runCalls_snoc]
      refine ⟨j', mem', same.trans id, ?_⟩
      rw [← status] at settled
      rw [(JobStatus.final_iff _).mp settled] at moved
      rcases moved with stays | none
      · exact stays.trans status
      · cases none

end

/-- A policy that lets one target through. -/
def opsPolicy : LivePolicy := { liveDispatchEnabled := true, allowedTargets := ["ops"], canaryTargets := ["ops"] }

def acceptingGateway : Gateway := fun _ _ _ => .delivered "message 1"

/-- A live dispatch of the job that was enqueued at reading 0. -/
def opsDispatch (readings : Readings) : LiveCall :=
  { jobId := newJobId 0, gateway := some acceptingGateway, policy := opsPolicy, live := true, readings }

def opsJob : Call := .enqueue { title := "deploy", target := "ops" } 0

/-- The job is acknowledged as done, and dispatched after that. -/
def lateDispatch : List Call :=
  [opsJob, .ack { jobId := newJobId 0, status := "succeeded" } second, .dispatchLive (opsDispatch ⟨second, second, second⟩)]

theorem succeeded_job_dispatched : ¬ LifeCycleHolds asciiText lateDispatch := by
  intro h
  let s := runCalls asciiText {} (lateDispatch.take 2)
  let c := opsDispatch ⟨second, second, second⟩
  have settled : ((s.job? c.jobId).any fun j => j.status.final && (s.liveGate j c).toBool) = true := by decide +kernel
  obtain ⟨j, found, settled⟩ := (Option.any_eq_true _ _).mp settled
  rw [Bool.and_eq_true] at settled
  cases opened : s.liveGate j c with
  | error stop =>
    rw [opened] at settled
    cases settled.2
  | ok gateway =>
    have accepting : gateway = acceptingGateway :=
      (Option.some.inj (JobStore.liveGate_ok opened).gateway).symm
    have revives : Revives asciiText s (.dispatchLive c) :=
      ⟨rfl, j, gateway, "message 1", found, settled.1, opened, by rw [accepting]; rfl⟩
    exact revives.breaks (h.legal (lateDispatch.take 2) (.dispatchLive c) [] rfl)

end AgentflowHermes.Jobs
