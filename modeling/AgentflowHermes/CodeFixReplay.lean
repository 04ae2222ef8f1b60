import AgentflowHermes.CodeFixTransactions

namespace AgentflowHermes

open CrashProgram RowTable

/-- The board gives every task the id of its key, however often it is asked to create it. -/
def Idempotent (taskFor : String → String) : Mutation → AdapterResult → Prop
  | .createTask payload, r => r.success → r.taskId = taskFor (payload.text "idempotency_key")
  | _, _ => True

/-- A working adapter: creating and subscribing succeed. -/
def Works : Mutation → AdapterResult → Prop
  | .createTask _, r | .subscribe .., r => r.success ∧ hasFailedNestedAck r = false
  | _, _ => True

/-- The answers of the board; once it is working, the clock also shows at least `bound`. -/
def boardAnswers (taskFor : String → String) (working : Prop) (bound : Nat) : ∀ q, Response q → Prop
  | .now, t => working → bound ≤ t
  | .mutate _ _ m, r => Idempotent taskFor m r ∧ (working → Works m r)
  | _, _ => True

/-- A board that works and gives every task the id of its key. -/
def workingBoard (taskFor : String → String) (now : Nat) : Env Response Unit
  | .mutate _ _ (.createTask payload), u => (⟨true, taskFor (payload.text "idempotency_key"), "", none⟩, u)
  | q, u => steadyEnv now ⟨true, "", "", none⟩ true q u

theorem workingBoard_allowed (taskFor : String → String) (working : Prop) {bound now : Nat} (h : bound ≤ now) :
    (workingBoard taskFor now).Allowed (boardAnswers taskFor working bound) := by
  intro q u
  cases q with
  | now => exact fun _ => h
  | mutate a row m =>
    cases m with
    | createTask payload => exact ⟨fun _ => rfl, fun _ => ⟨rfl, rfl⟩⟩
    | subscribe taskId endpoint => exact ⟨trivial, fun _ => ⟨rfl, rfl⟩⟩
    | completeOwnerAnchor taskId receiptRef => exact ⟨trivial, fun _ => trivial⟩
    | scheduleOriginWake taskId endpoint => exact ⟨trivial, fun _ => trivial⟩
    | recordConsumerAck taskId endpoint status => exact ⟨trivial, fun _ => trivial⟩
  | probe a row p => trivial
  | newCaseId => trivial
  | checkWait w => trivial
  | routeRoadmap eventId => trivial
  | routeCodeFix eventId => trivial

namespace CodeFixJob

variable (J : CodeFixJob) (working : Prop) (bound : Nat)

/-- The rows of the graph are due by the time the board works. -/
def Due (s : Store) : Prop :=
  ∀ o ∈ s.outbox.rows, o.continuationId = J.instanceId → o.idempotencyKey ≠ J.ack → o.state = .pending →
    o.nextAttemptAt ≤ bound

def terms : Terms where
  ok := boardAnswers J.taskFor working bound
  inv s := J.Progress s ∧ (working → J.Due bound s)
  may _ _ := True
  raises _ := ¬working

variable {J working bound} {s : Store} {a : Adapter}

theorem due_mark {x : OutboxRow} (h : working → J.Due bound s) (hx : x ∈ s.outbox.rows) (state : OutboxState)
    (taskId : String) (next : Option Nat) (error : Option String)
    (ok : working → state = .pending → x.idempotencyKey = J.ack) :
    working → J.Due bound (s.outboxMark x.id state taskId next error).2 := by
  intro hw o ho hc hne hp
  rcases mem_modify ho with ⟨ho, _⟩ | ⟨r, hr, hid, rfl⟩
  · exact h hw o ho hc hne hp
  · obtain rfl : r = x := rowId_inj hr hx hid
    exact absurd (ok hw hp) hne

theorem due_enqueue (h : working → J.Due bound s) (n : Store.NewOutbox) :
    working → J.Due bound (s.outboxEnqueue J.instanceId n).2 := by
  intro hw o ho hc hne hp
  rcases s.outboxEnqueue_cases J.instanceId n with ⟨_, _, he⟩ | ⟨_, he⟩
  · rw [he] at ho
    exact h hw o ho hc hne hp
  · rw [he] at ho
    rcases mem_insert ho with ho | rfl
    · exact h hw o ho hc hne hp
    · exact Nat.zero_le _

/-- The step carries its task. -/
def Created (steps : Table Step) (key : String) : Prop := ∃ p, J.StepAt steps key p ∧ p.state = .applied

/-- What `_create` leaves: nothing but the step and the row of its key has changed, and a task it
reports is on the step. -/
structure CreatePost (J : CodeFixJob) (working : Prop) (s : Store) (key : String) (r : Option String) (t : Store) : Prop where
  task : ∀ taskId, r = some taskId → taskId = J.taskFor key ∧ J.Created t.steps key
  works : working → r ≠ none
  instances : t.instances = s.instances
  kept : J.StepsKept s.steps t.steps

theorem StepsKept.trans {t u v : Table Step} (h : J.StepsKept t u) (h' : J.StepsKept u v) : J.StepsKept t v := by
  intro key p hp
  obtain ⟨q, hq, hid, ha⟩ := h key p hp
  obtain ⟨q', hq', hid', ha'⟩ := h' key q hq
  exact ⟨q', hq', hid'.trans hid, fun hpa => ha' (ha hpa)⟩

/-- The end of `_create`: the step is marked with the task. -/
theorem wp_create_mark {t : Store} {key : String} {p : Step} (inv : (J.terms working bound).inv t)
    (hp : J.StepAt t.steps key p) (applied : RowApplied t.outbox key) (hi : t.instances = s.instances)
    (kept : J.StepsKept s.steps t.steps) :
    wp (J.terms working bound) (do
      if J.taskFor key ≠ "" then markStepApplied p.id (J.taskFor key)
      return some (J.taskFor key)) (J.CreatePost working s key) t := by
  rw [if_pos (J.created key)]
  have marked := inv.1.markStep p.id (J.taskFor key) fun key' q hq hid => by
    obtain rfl : q = p := rowId_inj hq.1 hp.1 hid
    obtain rfl : key' = key := hq.2.2.symm.trans hp.2.2
    exact ⟨rfl, applied⟩
  have here : J.Created (t.markStep p.id (some .applied) (J.taskFor key)).2.steps key := by
    have mem := modified_mem (t := t.steps) (i := p.id)
      (f := fun p : Step => { p with state := .applied, boardTaskId := Store.coalesce (J.taskFor key) p.boardTaskId }) hp.1
    rw [if_pos (show Keyed.rowId p = p.id from rfl)] at mem
    exact ⟨_, ⟨mem, hp.2⟩, rfl⟩
  have inv' : (J.terms working bound).inv (t.markStep p.id (some .applied) (J.taskFor key)).2 := ⟨marked.1, inv.2⟩
  exact ⟨inv, trivial, inv', by rintro _ ⟨⟩; exact ⟨rfl, here⟩, fun _ => by simp, hi, kept.trans marked.2⟩

/-- The arguments `_create` is called with for the fix and for the review. -/
structure TaskSpec (J : CodeFixJob) (steps : Table Step) (kind : StepKind) (key : String) (payload : Payload)
    (parent : Option Nat) : Prop where
  ours : key = J.fix ∨ key = J.review
  fix : key = J.fix → kind = .codeFix ∧ parent = none
  review : key = J.review → kind = .review ∧
    ∃ f, J.StepAt steps J.fix f ∧ f.state = .applied ∧ parent = some f.id
  keyed : payload.text "idempotency_key" = key
  row : ∀ (steps' : Table Step) p id, J.StepAt steps' key p →
    J.RowOk steps' ((⟨some p.id, .createTask, payload, key⟩ : Store.NewOutbox).row J.instanceId id)

theorem RowOk.task {steps : Table Step} {o : OutboxRow} (h : J.RowOk steps o) {key : String}
    (hk : o.idempotencyKey = key) (ours : key = J.fix ∨ key = J.review) :
    o.continuationId = J.instanceId ∧ RowSettles o (J.taskFor key) := by
  rcases ours with rfl | rfl
  · exact ⟨(h.fix hk).1, (h.fix hk).2.2.2.2⟩
  · exact ⟨(h.review hk).1, (h.review hk).2.2.2.2⟩

theorem Progress.step (h : J.Progress s) {key : String} {p : Step} (hp : J.StepAt s.steps key p)
    (ours : key = J.fix ∨ key = J.review) : StepSettles p (J.taskFor key) (RowApplied s.outbox key) := by
  rcases ours with rfl | rfl
  · exact (h.fix p hp).2.2
  · exact (h.review p hp).2.2

theorem ne_ack {key : String} (ours : key = J.fix ∨ key = J.review) : key ≠ J.ack := by
  rcases ours with rfl | rfl
  · exact J.fix_ne_ack
  · exact J.review_ne_ack

theorem ne_subscribe {key : String} (ours : key = J.fix ∨ key = J.review) : key ≠ J.subscribe := by
  rcases ours with rfl | rfl
  · exact J.fix_ne_subscribe
  · exact J.review_ne_subscribe

/-- The board operation of `_create` and what follows it. -/
theorem wp_create_apply {t : Store} {key : String} {payload : Payload} {p : Step} {row : OutboxRow}
    (inv : (J.terms working bound).inv t) (ours : key = J.fix ∨ key = J.review)
    (keyed : payload.text "idempotency_key" = key) (hp : J.StepAt t.steps key p) (hrow : row ∈ t.outbox.rows)
    (hk : row.idempotencyKey = key) (hi : t.instances = s.instances) (kept : J.StepsKept s.steps t.steps) :
    wp (J.terms working bound) (applyMutation row .createTask payload (some a) >>= fun r =>
      match r with
      | .failed .. => pure none
      | .ok taskId => do
        if taskId ≠ "" then markStepApplied p.id taskId
        return some taskId) (J.CreatePost working s key) t := by
  have ok := inv.1.rows row hrow
  obtain ⟨hc, hs⟩ := ok.task hk ours
  have failed : ¬working → J.CreatePost working s key none t := fun hw =>
    ⟨by simp, fun h => absurd h hw, hi, kept⟩
  refine wp_bind.mpr (wp_applyMutation ?_)
  exact {
    inv := inv
    now := trivial
    applied := fun ha => by
      have hb : row.boardTaskId = J.taskFor key := by
        rcases hs with ⟨hpend, _⟩ | ⟨_, hb⟩
        · rw [ha] at hpend
          cases hpend
        · exact hb
      rw [hb]
      exact wp_create_mark inv hp ⟨row, hrow, hk, ha⟩ hi kept
    early := fun now hnow hpend hlt error => by
      refine ⟨inv, failed fun hw => ?_⟩
      have due := inv.2 hw row hrow hc (hk ▸ ne_ack ours) hpend
      exact absurd hlt (Nat.not_lt.mpr (Nat.le_trans due (hnow hw)))
    absent := fun hnone => by cases hnone
    may := fun _ _ _ _ _ => trivial
    done := fun live b _ r hr hsuccess _ => by
      have htask : r.taskId = J.taskFor key := by
        have := (hr.1 _ rfl).1 hsuccess
        rwa [keyed] at this
      rw [htask]
      have marked := inv.1.mark hrow .applied (J.taskFor key) none none
        (ok.marked (fun key' hk' _ => by
          obtain rfl : key' = key := hk'.symm.trans hk
          exact settles_applied row _) fun he => absurd (hk.symm.trans he) (ne_subscribe ours)) fun ha => absurd ha live
      have inv' : (J.terms working bound).inv (markedApplied t row (J.taskFor key)) :=
        ⟨marked, due_mark inv.2 hrow _ _ _ _ fun _ h => by cases h⟩
      refine ⟨trivial, inv', wp_create_mark inv' hp ?_ hi kept⟩
      have mem := modified_mem (t := t.outbox) (i := row.id)
        (f := Store.markRow .applied (J.taskFor key) none none) hrow
      rw [if_pos (show Keyed.rowId row = row.id from rfl)] at mem
      exact ⟨_, mem, hk, rfl⟩
    failed := fun live b _ r hr hfail next error => by
      have idle : ¬working := fun hw => hfail ((hr.1 _ rfl).2 hw)
      have marked := inv.1.mark hrow .pending "" (some next) (some error)
        (ok.marked (fun key' hk' ours' => ok.settles_pending live hk' ours') fun _ => by simp) fun ha => absurd ha live
      have inv' : (J.terms working bound).inv (markedPending t row next error) := ⟨marked, fun hw => absurd hw idle⟩
      exact ⟨trivial, inv', inv', by simp, fun hw => absurd hw idle, hi, kept⟩ }

/-- `_create` in every state it may be called in. -/
theorem wp_create {kind : StepKind} {key : String} {payload : Payload} {parentKey : Option String}
    {parent : Option Nat} (inv : (J.terms working bound).inv s)
    (hparent : (parentKey.bind fun k =>
      ((s.listSteps J.instanceId).find? fun p => p.idempotencyKey == k).map Step.id) = parent)
    (spec : J.TaskSpec s.steps kind key payload parent) :
    wp (J.terms working bound) (CodeFixHandler.create J.instanceId a kind key payload parentKey)
      (J.CreatePost working s key) s := by
  unfold CodeFixHandler.create
  refine wp_get_bind.mpr ?_
  rw [hparent]
  obtain ⟨added, hp, kept⟩ := inv.1.addStep kind key parent spec.ours spec.fix spec.review
  generalize hstep : s.addStep J.instanceId kind key "" parent = step at added hp kept
  have hi : step.2.instances = s.instances := by rw [← hstep]; rfl
  have ho : step.2.outbox = s.outbox := by rw [← hstep]; rfl
  have inv1 : (J.terms working bound).inv step.2 := by
    refine ⟨added, fun hw => ?_⟩
    have due := inv.2 hw
    unfold Due at due ⊢
    rwa [ho]
  refine wp_txn_bind.mpr ⟨inv, trivial, ?_⟩
  rw [hstep]
  split
  next hb =>
    -- the step carries its task from an earlier run
    have hs := added.step hp spec.ours
    rcases hs with ⟨_, hempty⟩ | ⟨happ, htask, _⟩
    · exact absurd hempty hb.2
    · refine ⟨inv1, ?_, fun _ => by simp, hi, kept⟩
      rintro _ ⟨⟩
      exact ⟨htask, step.1.2, hp, happ⟩
  next =>
    obtain ⟨queued, hrow, hk⟩ := added.enqueue ⟨some step.1.2.id, .createTask, payload, key⟩
      fun id => spec.row step.2.steps step.1.2 id hp
    have inv2 : (J.terms working bound).inv (step.2.outboxEnqueue J.instanceId
        ⟨some step.1.2.id, .createTask, payload, key⟩).2 := ⟨queued, due_enqueue inv1.2 _⟩
    refine wp_bind.mpr (wp_applyBoardOperation inv1 ⟨trivial, inv2, ?_⟩)
    exact wp_bind.mp (wp_create_apply inv2 spec.ours spec.keyed hp hrow hk hi kept)

end CodeFixJob

end AgentflowHermes
