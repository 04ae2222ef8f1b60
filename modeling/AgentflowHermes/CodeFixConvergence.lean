import AgentflowHermes.CodeFixMaterialize

namespace AgentflowHermes

open CrashProgram RowTable

namespace CodeFixJob

variable {J : CodeFixJob} {s : Store} {a : Adapter} {x : OutboxRow}

/-- The step a row names is the one its task belongs to, or none of the instance's steps. -/
theorem step_of_row (h : J.Progress s) (hx : x ∈ s.outbox.rows) {id : Nat} (hstep : x.stepId = some id) {key : String}
    {p : Step} (hp : J.StepAt s.steps key p) (hid : p.id = id) :
    (key = J.fix ∨ key = J.review) ∧ x.idempotencyKey = key := by
  have ok := h.rows x hx
  have hfirst := (h.steps p hp.1 hp.2.1).1
  have hpos := h.first.1
  have same : ∀ key', (∃ q, J.StepAt s.steps key' q ∧ x.stepId = some q.id) → key = key' := by
    rintro key' ⟨q, hq, hqid⟩
    have : q.id = p.id := by rw [hqid] at hstep; exact (Option.some.inj hstep).trans hid.symm
    obtain rfl : q = p := rowId_inj hq.1 hp.1 this
    exact hp.2.2.symm.trans hq.2.2
  have small : x.stepId = some 0 → False := fun h0 => by
    rw [h0] at hstep
    have := Option.some.inj hstep
    omega
  by_cases h1 : x.idempotencyKey = J.fix
  · have hk := same J.fix (ok.fix h1).2.2.2.1
    exact ⟨.inl hk, h1.trans hk.symm⟩
  · by_cases h2 : x.idempotencyKey = J.review
    · have hk := same J.review (ok.review h2).2.2.2.1
      exact ⟨.inr hk, h2.trans hk.symm⟩
    · by_cases h3 : x.idempotencyKey = J.subscribe
      · exact (small (ok.subscribe h3).2.2.2.2.1).elim
      · by_cases h4 : x.idempotencyKey = J.ack
        · exact (small (ok.ack h4).2.2).elim
        · have := (ok.other (by simp [keys, h1, h2, h3, h4])).2 id hstep
          omega

theorem task_of_answer {payload : Payload} {key : String} {r : AdapterResult} (keyed : payload.text "idempotency_key" = key)
    (hr : Idempotent J.taskFor (.createTask payload) r) (hs : r.success) : r.taskId = J.taskFor key := by
  rw [← keyed]
  exact hr hs

/-- One row under `reconcile_outbox`. -/
theorem reconcileTerms (h : J.Progress s) (hmem : x ∈ s.outbox.rows) (hpend : x.state = .pending) :
    ReconcileTerms (J.terms False 0) s a x J.Progress := by
  have ok := h.rows _ hmem
  have live : x.state ≠ .applied := by rw [hpend]; simp
  have idle : ∀ {t : Store}, J.Progress t → (J.terms False 0).inv t := fun hp => ⟨hp, fun hw => hw.elim⟩
  have retried : ∀ next error, Commits (J.terms False 0) s (markedPending s x next error) J.Progress := by
    intro next error
    have marked := h.mark hmem .pending "" (some next) (some error)
      (ok.marked (fun key hk ours => ok.settles_pending live hk ours) fun _ => by simp) fun ha => absurd ha live
    exact ⟨trivial, idle marked, marked⟩
  exact {
    inv := idle h
    may := fun _ _ => trivial
    raises := fun hw => hw
    done := fun r hs hr => by
      have task : ∀ key, x.idempotencyKey = key → key = J.fix ∨ key = J.review → r.taskId = J.taskFor key := by
        rintro key hk (rfl | rfl)
        · obtain ⟨_, hop, hpay, _⟩ := ok.fix hk
          have ans := hr (.createTask x.payload) (by rw [hop]; rfl)
          exact task_of_answer (by rw [hpay]; rfl) ans.1 hs
        · obtain ⟨_, hop, hpay, _⟩ := ok.review hk
          have ans := hr (.createTask x.payload) (by rw [hop]; rfl)
          exact task_of_answer (by rw [hpay]; rfl) ans.1 hs
      have marked := h.mark hmem .applied r.taskId none none
        (ok.marked (fun key hk ours => by
          rw [task key hk ours]
          exact settles_applied x key) fun _ => by simp) fun ha => absurd ha live
      refine ⟨trivial, idle marked, fun _ => marked, fun id hid => ?_⟩
      have stepped := marked.markStep id r.taskId fun key p hp hpid => by
        obtain ⟨ours, hk⟩ := step_of_row h hmem hid hp hpid
        have mem := modified_mem (t := s.outbox) (i := x.id)
          (f := Store.markRow .applied r.taskId none none) hmem
        rw [if_pos (show Keyed.rowId x = x.id from rfl)] at mem
        exact ⟨task key hk ours, _, mem, hk, rfl⟩
      exact ⟨trivial, idle stepped.1, stepped.1⟩
    failed := by
      refine ⟨fun error hop _ => ?_, fun next error _ => retried next error⟩
      have marked := h.mark hmem .callbackDeadletter "" (some 0) (some error)
        (ok.marked (fun key hk ours => by
          have hcreate : x.operation = .createTask := by
            rcases ours with rfl | rfl
            · exact (ok.fix hk).2.1
            · exact (ok.review hk).2.1
          rw [hcreate] at hop
          cases hop) fun hk => by
            rw [(ok.subscribe hk).2.2.1] at hop
            cases hop) fun ha => absurd ha live
      exact ⟨trivial, idle marked, marked⟩ }

/-- A reconcile pass keeps the invariant, wherever it is cut off. -/
theorem wp_reconcile (boards : String → Option Adapter) (h : J.Progress s) :
    wp (J.terms False 0) (reconcileOutbox boards) (fun _ t => J.Progress t) s :=
  wp_reconcileOutbox boards (fun _ hp => ⟨hp, fun hw => hw.elim⟩) trivial (fun _ _ _ hp => reconcileTerms hp) h

/-- Handler replays of the envelope and reconcile passes in any order, each cut off anywhere or run to
its end, under any answers of an idempotent board. -/
inductive Runs (J : CodeFixJob) : Store → Store → Prop
  | done {s : Store} : Runs J s s
  | replay {s t u : Store} {adapter : Option Adapter} {tr} {o : Option (Except String StepResult)}
      (e : Exec (boardAnswers J.taskFor False 0) (CodeFixHandler.materialize J.envelope adapter J.blockers) s tr o t)
      (rest : Runs J t u) : Runs J s u
  | reconcile {s t u : Store} {boards : String → Option Adapter} {tr} {o : Option (Except String ReconcileResult)}
      (e : Exec (boardAnswers J.taskFor False 0) (reconcileOutbox boards) s tr o t) (rest : Runs J t u) : Runs J s u

theorem Runs.progress {s t : Store} (h : J.Runs s t) (hs : J.Progress s) : J.Progress t := by
  have inv : ∀ {t : Store}, J.Progress t → (J.terms False 0).inv t := fun hp => ⟨hp, fun hw => hw.elim⟩
  induction h with
  | done => exact hs
  | replay e _ ih =>
    have := wp_sound (wp_materialize _ (inv hs) fun hw => hw.elim) e
    exact ih this.2.1.1
  | reconcile e _ ih =>
    have := wp_sound (wp_reconcile _ hs) e
    exact ih this.2.1.1

/-- The materialized graph, with nothing of it twice. -/
structure Graph (J : CodeFixJob) (s : Store) (fix review : Step) (fixRow reviewRow : OutboxRow) : Prop where
  steps : ∀ p, (p ∈ s.steps.rows ∧ p.continuationId = J.instanceId) ↔ (p = fix ∨ p = review)
  fixStep : fix.stepKind = .codeFix ∧ fix.state = .applied ∧ fix.boardTaskId = J.taskFor J.fix
  reviewStep : review.stepKind = .review ∧ review.state = .applied ∧ review.boardTaskId = J.taskFor J.review ∧
    review.parentStepId = some fix.id
  tasks : ∀ o, (o ∈ s.outbox.rows ∧ o.continuationId = J.instanceId ∧ o.operation = .createTask) ↔
    (o = fixRow ∨ o = reviewRow)
  fixTask : fixRow.idempotencyKey = J.fix ∧ fixRow.state = .applied ∧ fixRow.stepId = some fix.id ∧
    fixRow.boardTaskId = fix.boardTaskId ∧ fixRow.payload = fixPayload J.envelope J.blockers J.digest
  reviewTask : reviewRow.idempotencyKey = J.review ∧ reviewRow.state = .applied ∧ reviewRow.stepId = some review.id ∧
    reviewRow.boardTaskId = review.boardTaskId ∧
    reviewRow.payload = reviewPayload J.envelope fix.boardTaskId J.digest ∧
    reviewRow.payload.text "parent_task_id" = fixRow.boardTaskId
  unsubscribed : J.endpoint = "" → ∀ o ∈ s.outbox.rows, o.continuationId = J.instanceId → o.operation ≠ .subscribe
  subscribed : J.endpoint ≠ "" → ∃ sub,
    (∀ o, (o ∈ s.outbox.rows ∧ o.continuationId = J.instanceId ∧ o.operation = .subscribe) ↔ o = sub) ∧
    sub.state = .applied ∧ sub.payload.text "task_id" = review.boardTaskId ∧ sub.payload.text "endpoint" = J.endpoint

/-- Where the fault-free run ends. -/
def Converged (J : CodeFixJob) (s : Store) : Prop :=
  (∃ i, s.instanceOf J.envelope.toInstance = some i ∧ i.id = J.instanceId ∧ i.state = .waitingReview) ∧
    ∃ fix review fixRow reviewRow, J.Graph s fix review fixRow reviewRow

theorem Progress.key_of_row (h : J.Progress s) (hx : x ∈ s.outbox.rows) (hc : x.continuationId = J.instanceId) :
    x.idempotencyKey = J.fix ∨ x.idempotencyKey = J.review ∨ x.idempotencyKey = J.subscribe ∨ x.idempotencyKey = J.ack := by
  by_contra hne
  have := ((h.rows x hx).other (by simpa [keys] using hne)).1
  exact this hc

theorem Progress.unique_step (h : J.Progress s) {key : String} {p q : Step} (hp : J.StepAt s.steps key p)
    (hq : J.StepAt s.steps key q) : p = q := by
  refine h.stepKeys.eq hp.1 hq.1 ?_
  rw [hp.2.1, hp.2.2, hq.2.1, hq.2.2]

/-- The two applied steps and the rows behind them make the graph. -/
theorem Finished.converged (h : J.Progress s) (done : J.Finished s) : J.Converged s := by
  obtain ⟨i, hi, hstate, graph⟩ := done
  obtain ⟨fix, hfix, hfa⟩ := graph.fix
  obtain ⟨review, hreview, hra⟩ := graph.review
  obtain ⟨hfk, _, hfs⟩ := h.fix fix hfix
  obtain ⟨hrk, ⟨f, hf, _, hparent⟩, hrs⟩ := h.review review hreview
  obtain rfl : f = fix := h.unique_step hf hfix
  have carries : ∀ {p : Step} {taskId : String} {c : Prop}, StepSettles p taskId c → p.state = .applied →
      p.boardTaskId = taskId ∧ c := by
    rintro p taskId c (⟨hpend, _⟩ | ⟨_, hb, hc⟩) ha
    · rw [ha] at hpend
      cases hpend
    · exact ⟨hb, hc⟩
  obtain ⟨hfb, fixRow, hfr, hfrk, hfra⟩ := carries hfs hfa
  obtain ⟨hrb, reviewRow, hrr, hrrk, hrra⟩ := carries hrs hra
  obtain ⟨hfrc, hfro, hfrp, ⟨fp, hfp, hfrs⟩, hfrt⟩ := (h.rows fixRow hfr).fix hfrk
  obtain ⟨hrrc, hrro, hrrp, ⟨rp, hrp, hrrs⟩, hrrt⟩ := (h.rows reviewRow hrr).review hrrk
  obtain rfl : fp = f := h.unique_step hfp hfix
  obtain rfl : rp = review := h.unique_step hrp hreview
  have task : ∀ {o : OutboxRow} {taskId : String}, RowSettles o taskId → o.state = .applied → o.boardTaskId = taskId := by
    rintro o taskId (⟨hpend, _⟩ | ⟨_, hb⟩) ha
    · rw [ha] at hpend
      cases hpend
    · exact hb
  have uniqueRow : ∀ {o o' : OutboxRow}, o ∈ s.outbox.rows → o' ∈ s.outbox.rows →
      o.idempotencyKey = o'.idempotencyKey → o = o' := fun ho ho' he => h.rowKeys.eq ho ho' he
  refine ⟨⟨i, ?_, hi.2.1, hstate⟩, fp, rp, fixRow, reviewRow, ?_⟩
  · unfold Store.instanceOf
    cases hfind : s.instances.find? fun j => j.tuple == J.envelope.toInstance.tuple with
    | none =>
      have := find?_none hfind i hi.1
      simp [hi.2.2] at this
    | some j =>
      have hj := mem_of_find? hfind
      have hjid := h.tuples j hj (by simpa using pred_of_find? hfind)
      rw [rowId_inj hj hi.1 (hjid.trans hi.2.1.symm)]
  · exact {
      steps := fun p => by
        constructor
        · rintro ⟨hp, hc⟩
          rcases (h.steps p hp hc).2 with hk | hk
          · exact .inl (h.unique_step ⟨hp, hc, hk⟩ hfix)
          · exact .inr (h.unique_step ⟨hp, hc, hk⟩ hreview)
        · rintro (rfl | rfl)
          · exact ⟨hfix.1, hfix.2.1⟩
          · exact ⟨hreview.1, hreview.2.1⟩
      fixStep := ⟨hfk, hfa, hfb⟩
      reviewStep := ⟨hrk, hra, hrb, hparent⟩
      tasks := fun o => by
        constructor
        · rintro ⟨ho, hc, hop⟩
          rcases h.key_of_row ho hc with hk | hk | hk | hk
          · exact .inl (uniqueRow ho hfr (hk.trans hfrk.symm))
          · exact .inr (uniqueRow ho hrr (hk.trans hrrk.symm))
          · rw [((h.rows o ho).subscribe hk).2.2.1] at hop
            cases hop
          · rw [((h.rows o ho).ack hk).2.1] at hop
            cases hop
        · rintro (rfl | rfl)
          · exact ⟨hfr, hfrc, hfro⟩
          · exact ⟨hrr, hrrc, hrro⟩
      fixTask := ⟨hfrk, hfra, hfrs, (task hfrt hfra).trans hfb.symm, hfrp⟩
      reviewTask := by
        refine ⟨hrrk, hrra, hrrs, (task hrrt hrra).trans hrb.symm, by rw [hfb]; exact hrrp, ?_⟩
        rw [hrrp, task hfrt hfra]
        rfl
      unsubscribed := fun he o ho hc hop => by
        rcases h.key_of_row ho hc with hk | hk | hk | hk
        · rw [((h.rows o ho).fix hk).2.1] at hop
          cases hop
        · rw [((h.rows o ho).review hk).2.1] at hop
          cases hop
        · exact ((h.rows o ho).subscribe hk).2.1 he
        · rw [((h.rows o ho).ack hk).2.1] at hop
          cases hop
      subscribed := fun he => by
        obtain ⟨sub, hsub, hsk, hsa⟩ := graph.subscribe he
        obtain ⟨hsc, _, hso, hsp, _⟩ := (h.rows sub hsub).subscribe hsk
        refine ⟨sub, fun o => ?_, hsa, by rw [hsp, hrb]; rfl, by rw [hsp]; rfl⟩
        constructor
        · rintro ⟨ho, hc, hop⟩
          rcases h.key_of_row ho hc with hk | hk | hk | hk
          · rw [((h.rows o ho).fix hk).2.1] at hop
            cases hop
          · rw [((h.rows o ho).review hk).2.1] at hop
            cases hop
          · exact uniqueRow ho hsub (hk.trans hsk.symm)
          · rw [((h.rows o ho).ack hk).2.1] at hop
            cases hop
        · rintro rfl
          exact ⟨hsub, hsc, hso⟩ }

end CodeFixJob

/-- Replay convergence: whatever replays and reconcile passes came before, and wherever they were cut
off, one complete replay against a working board with nothing in backoff returns and leaves the graph
of the fault-free run. -/
theorem codeFix_replay_converges (J : CodeFixJob) {s t u : Store} (fresh : J.Fresh s) (runs : J.Runs s t) {a : Adapter}
    {bound : Nat} (due : J.NoBackoff bound t) {tr} {o : Except String StepResult}
    (last : Exec (boardAnswers J.taskFor True bound) (CodeFixHandler.materialize J.envelope (some a) J.blockers) t tr
      (some o) u) : J.Converged u ∧ ∃ r, o = .ok r := by
  have progress := runs.progress fresh.progress
  have inv : (J.terms True bound).inv t := ⟨progress, fun _ x hx hc _ hp => due x hx hc hp⟩
  obtain ⟨_, after, post, raised⟩ := wp_sound (CodeFixJob.wp_materialize (some a) inv fun _ => ⟨rfl, due⟩) last
  cases o with
  | error e => exact absurd trivial (raised e rfl)
  | ok r => exact ⟨CodeFixJob.Finished.converged after.1 (post r rfl trivial), r, rfl⟩

/-- A review that blocked, on an empty store. -/
def blockedReview : CodeFixJob where
  envelope := {
    eventId := "7", board := "main", sourceTaskId := "t1", sourceGraphId := "g1", originRef := "chat:1"
    returnToRef := "", workspaceRef := "", verdict := .block, continuationKind := .codeFix, confidence := .structured
    complete := by decide, coherent := by decide }
  blockers := ["stale_final_fanin"]
  taskFor key := "task:" ++ key
  created _ h := absurd (String.append_eq_empty_iff.mp h).1 (by decide)
  instanceId := 1
  firstStep := 1

theorem blockedReview_fresh : blockedReview.Fresh Store.empty where
  rowKeys := List.nodup_nil
  stepKeys := List.nodup_nil
  instanceId := rfl
  firstStep := rfl
  tuples _ h := nomatch h
  steps _ h := nomatch h
  rows _ h := nomatch h

/-- The handler is cut off after its fix step is written and replayed. -/
theorem codeFix_replay_converges_afterStep :
    let board := workingBoard blockedReview.taskFor 10
    let handler := CodeFixHandler.materialize blockedReview.envelope (some { board := "main" }) blockedReview.blockers
    blockedReview.Converged (run board handler () (crash board 3 handler () Store.empty).2).2.2 := by
  intro board handler
  obtain ⟨_, cut⟩ := crash_exec (workingBoard_allowed blockedReview.taskFor False (Nat.zero_le 10)) 3 handler () Store.empty
  obtain ⟨_, last⟩ := run_exec (workingBoard_allowed blockedReview.taskFor True (Nat.le_refl 10)) handler ()
    (crash board 3 handler () Store.empty).2
  have empty : (crash board 3 handler () Store.empty).2.outbox.rows = [] := rfl
  have due : blockedReview.NoBackoff 10 (crash board 3 handler () Store.empty).2 := fun o ho => by
    rw [empty] at ho
    cases ho
  exact (codeFix_replay_converges blockedReview blockedReview_fresh (.replay cut .done) due last).1

end AgentflowHermes
