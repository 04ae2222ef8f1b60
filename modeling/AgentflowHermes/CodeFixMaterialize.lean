import AgentflowHermes.CodeFixReplay

namespace AgentflowHermes

open CrashProgram RowTable

namespace CodeFixJob

variable {J : CodeFixJob} {working : Prop} {bound : Nat} {s : Store} {a : Adapter} {i : Instance}

theorem InstanceIs.of_instances {t : Store} (h : J.InstanceIs s i) (hi : t.instances = s.instances) : J.InstanceIs t i := by
  unfold InstanceIs at h ⊢
  rwa [hi]

theorem InstanceIs.moved (h : J.InstanceIs s i) (new : ContinuationState) (reason : String) :
    ∃ j, J.InstanceIs (s.transition J.instanceId new reason).2 j ∧ (legal i.state new → j.state = new) ∧
      (i.state = j.state ∨ j.state = new) := by
  obtain ⟨j, hj, hn, _, hl, hs⟩ := Store.transition_get h.get new reason
  obtain ⟨hmem, hid⟩ := get?_eq_some.mp hj
  exact ⟨j, ⟨hmem, hid, hn.trans h.2.2⟩, hl, hs.imp Eq.symm fun h => h⟩

/-- The end the fault-free run reaches. -/
def Finished (J : CodeFixJob) (t : Store) : Prop :=
  ∃ i, J.InstanceIs t i ∧ i.state = .waitingReview ∧ J.Done t.steps t.outbox

theorem wp_fail {reason : String} {Q : StepResult → Store → Prop} (inv : (J.terms working bound).inv s)
    (hi : J.InstanceIs s i) (hq : ∀ r t, Q r t) :
    wp (J.terms working bound) (CodeFixHandler.fail J.instanceId reason) Q s := by
  have moved := inv.1.transition .failedRetryable reason (.inr (.inr (.inl rfl)))
  have due : working → J.Due bound (s.transition J.instanceId .failedRetryable reason).2 := fun hw => inv.2 hw
  obtain ⟨j, hj, _⟩ := hi.moved .failedRetryable reason
  refine wp_bind.mpr (wp_moveTo inv ⟨trivial, ⟨moved, due⟩, ?_⟩)
  exact wp_bind.mpr (wp_readState ⟨moved, due⟩ hj.get ⟨⟨moved, due⟩, hq _ _⟩)

theorem wp_finish {created : Bool} {fixId reviewId endpoint : String} {ack : Option OpResult}
    (inv : (J.terms working bound).inv s) (hi : J.InstanceIs s i)
    (state : i.state = .materializing ∨ i.state = .waitingReview) (done : J.Done s.steps s.outbox) :
    wp (J.terms working bound) (CodeFixHandler.finish J.instanceId i.state created fixId reviewId endpoint ack)
      (fun _ t => J.Finished t) s := by
  unfold CodeFixHandler.finish
  dsimp only
  split
  next hm =>
    have moved := inv.1.transition .waitingReview "code_fix_graph_materialized" (.inr (.inr (.inr ⟨rfl, done⟩)))
    have due : working → J.Due bound (s.transition J.instanceId .waitingReview "code_fix_graph_materialized").2 :=
      fun hw => inv.2 hw
    obtain ⟨j, hj, hnew, _⟩ := hi.moved .waitingReview "code_fix_graph_materialized"
    have hstate : j.state = .waitingReview := hnew (by rw [hm]; rfl)
    refine wp_bind.mpr (wp_moveTo inv ⟨trivial, ⟨moved, due⟩, ?_⟩)
    refine wp_bind.mpr (wp_readState ⟨moved, due⟩ hj.get ⟨⟨moved, due⟩, j, hj, hstate, ?_⟩)
    rcases s.transition_cases J.instanceId .waitingReview "code_fix_graph_materialized" with ⟨_, he⟩ | ⟨_, _, _, he⟩ <;>
      rw [he] <;> exact done
  next hm =>
    have hw : i.state = .waitingReview := state.resolve_left hm
    exact wp_bind.mpr (wp_readState inv hi.get ⟨inv, i, hi, hw, done⟩)

theorem taskSpec_fix (steps : Table Step) :
    J.TaskSpec steps .codeFix J.fix (fixPayload J.envelope J.blockers J.digest) none where
  ours := .inl rfl
  fix _ := ⟨rfl, rfl⟩
  review h := absurd h J.fix_ne_review
  keyed := rfl
  row _ p _ hp := {
    fix := fun _ => ⟨rfl, rfl, rfl, ⟨p, hp, rfl⟩, .inl ⟨rfl, rfl⟩⟩
    review := fun h => absurd h J.fix_ne_review
    subscribe := fun h => absurd h J.fix_ne_subscribe
    ack := fun h => absurd h J.fix_ne_ack
    other := fun h => absurd (by simp [keys]) (show J.fix ∉ J.keys from h) }

theorem taskSpec_review {steps : Table Step} {f : Step} (hf : J.StepAt steps J.fix f) (ha : f.state = .applied) :
    J.TaskSpec steps .review J.review (reviewPayload J.envelope (J.taskFor J.fix) J.digest) (some f.id) where
  ours := .inr rfl
  fix h := absurd h.symm J.fix_ne_review
  review _ := ⟨rfl, f, hf, ha, rfl⟩
  keyed := rfl
  row _ p _ hp := {
    fix := fun h => absurd h.symm J.fix_ne_review
    review := fun _ => ⟨rfl, rfl, rfl, ⟨p, hp, rfl⟩, .inl ⟨rfl, rfl⟩⟩
    subscribe := fun h => absurd h J.review_ne_subscribe
    ack := fun h => absurd h J.review_ne_ack
    other := fun h => absurd (by simp [keys]) (show J.review ∉ J.keys from h) }

theorem rowOk_subscribe (steps : Table Step) (id : Nat) (he : J.endpoint ≠ "") :
    J.RowOk steps ((subscribeOp J.digest (J.taskFor J.review) J.endpoint).row J.instanceId id) where
  fix h := absurd h.symm J.fix_ne_subscribe
  review h := absurd h.symm J.review_ne_subscribe
  subscribe _ := ⟨rfl, he, rfl, rfl, rfl, by simp [Store.NewOutbox.row]⟩
  ack h := absurd h J.subscribe_ne_ack
  other h := absurd (by simp [keys]) (show J.subscribe ∉ J.keys from h)

theorem rowOk_ack (steps : Table Step) (id : Nat) :
    J.RowOk steps ((consumerAckOp J.envelope J.digest).row J.instanceId id) where
  fix h := absurd h.symm J.fix_ne_ack
  review h := absurd h.symm J.review_ne_ack
  subscribe h := absurd h.symm J.subscribe_ne_ack
  ack _ := ⟨rfl, rfl, rfl⟩
  other h := absurd (by simp [keys]) (show J.ack ∉ J.keys from h)

/-- The subscription of the review task. -/
theorem wp_subscribe {Q : OpResult → Store → Prop} (inv : (J.terms working bound).inv s) (he : J.endpoint ≠ "")
    (ok : ∀ r t, (J.terms working bound).inv t → t.instances = s.instances → t.steps = s.steps →
      (r.success → RowApplied t.outbox J.subscribe) → (working → r.success) → Q r t) :
    wp (J.terms working bound)
      (applyBoardOperation J.instanceId (subscribeOp J.digest (J.taskFor J.review) J.endpoint) (some a)) Q s := by
  obtain ⟨queued, hrow, hk⟩ := inv.1.enqueue _ fun id => rowOk_subscribe s.steps id he
  have hk : _ = J.subscribe := hk
  have hi : (s.outboxEnqueue J.instanceId (subscribeOp J.digest (J.taskFor J.review) J.endpoint)).2.instances =
      s.instances := rfl
  have hs : (s.outboxEnqueue J.instanceId (subscribeOp J.digest (J.taskFor J.review) J.endpoint)).2.steps = s.steps := rfl
  have due := due_enqueue inv.2 (subscribeOp J.digest (J.taskFor J.review) J.endpoint)
  generalize hq : s.outboxEnqueue J.instanceId (subscribeOp J.digest (J.taskFor J.review) J.endpoint) = q
    at queued hrow hk hi hs due
  have inv1 : (J.terms working bound).inv q.2 := ⟨queued, due⟩
  have rowOk := queued.rows _ hrow
  obtain ⟨hc, _⟩ := rowOk.subscribe hk
  have notTask : ∀ key, q.1.2.idempotencyKey = key → ¬(key = J.fix ∨ key = J.review) := by
    rintro key rfl (h | h)
    · exact J.fix_ne_subscribe (h.symm.trans hk)
    · exact J.review_ne_subscribe (h.symm.trans hk)
  refine wp_applyBoardOperation inv ?_
  rw [hq]
  refine ⟨trivial, inv1, ?_⟩
  show wp _ (applyMutation q.1.2 .subscribe _ (some a)) Q q.2
  refine wp_applyMutation ?_
  exact {
    inv := inv1
    now := trivial
    applied := fun ha => ok _ _ inv1 hi hs (fun _ => ⟨_, hrow, hk, ha⟩) fun _ => rfl
    early := fun now hnow hpend hlt error => by
      refine ok _ _ inv1 hi hs (by simp [OpResult.success]) fun hw => ?_
      have ready := due hw _ hrow hc (hk ▸ J.subscribe_ne_ack) hpend
      exact absurd hlt (Nat.not_lt.mpr (Nat.le_trans ready (hnow hw)))
    absent := fun hnone => by cases hnone
    may := fun _ _ _ _ _ => trivial
    done := fun live b _ r hr _ _ => by
      have marked := queued.mark hrow .applied r.taskId none none
        (rowOk.marked (fun key hk' ours => absurd ours (notTask key hk')) fun _ => by simp) fun ha => absurd ha live
      have inv' : (J.terms working bound).inv (markedApplied q.2 q.1.2 r.taskId) :=
        ⟨marked, due_mark due hrow _ _ _ _ fun _ h => by cases h⟩
      refine ⟨trivial, inv', ok _ _ inv' hi hs (fun _ => ?_) fun _ => rfl⟩
      have mem := modified_mem (t := q.2.outbox) (i := q.1.2.id)
        (f := Store.markRow .applied r.taskId none none) hrow
      rw [if_pos (show Keyed.rowId q.1.2 = q.1.2.id from rfl)] at mem
      exact ⟨_, mem, hk, rfl⟩
    failed := fun live b _ r hr hfail next error => by
      have idle : ¬working := fun hw => hfail ((hr.1 _ rfl).2 hw)
      have marked := queued.mark hrow .pending "" (some next) (some error)
        (rowOk.marked (fun key hk' ours => absurd ours (notTask key hk')) fun _ => by simp) fun ha => absurd ha live
      have inv' : (J.terms working bound).inv (markedPending q.2 q.1.2 next error) := ⟨marked, fun hw => absurd hw idle⟩
      exact ⟨trivial, inv', ok _ _ inv' hi hs (by simp [OpResult.success]) fun hw => absurd hw idle⟩ }

/-- The consumer ACK touches nothing but its own row. -/
theorem wp_ack {Q : OpResult → Store → Prop} (inv : (J.terms working bound).inv s)
    (ok : ∀ r t, (J.terms working bound).inv t → t.instances = s.instances → t.steps = s.steps →
      (RowApplied s.outbox J.subscribe → RowApplied t.outbox J.subscribe) → Q r t) :
    wp (J.terms working bound) (applyBoardOperation J.instanceId (consumerAckOp J.envelope J.digest) (some a)) Q s := by
  obtain ⟨queued, hrow, hk⟩ := inv.1.enqueue _ fun id => rowOk_ack s.steps id
  have hk : _ = J.ack := hk
  have hi : (s.outboxEnqueue J.instanceId (consumerAckOp J.envelope J.digest)).2.instances = s.instances := rfl
  have hs : (s.outboxEnqueue J.instanceId (consumerAckOp J.envelope J.digest)).2.steps = s.steps := rfl
  have due := due_enqueue inv.2 (consumerAckOp J.envelope J.digest)
  have hsub : RowApplied s.outbox J.subscribe →
      RowApplied (s.outboxEnqueue J.instanceId (consumerAckOp J.envelope J.digest)).2.outbox J.subscribe := by
    rintro ⟨o, ho, hok, ha⟩
    rcases s.outboxEnqueue_cases J.instanceId (consumerAckOp J.envelope J.digest) with ⟨_, _, he⟩ | ⟨_, he⟩
    · rw [he]
      exact ⟨o, ho, hok, ha⟩
    · rw [he]
      exact ⟨o, List.mem_append_left _ ho, hok, ha⟩
  generalize hq : s.outboxEnqueue J.instanceId (consumerAckOp J.envelope J.digest) = q at queued hrow hk hi hs due hsub
  have inv1 : (J.terms working bound).inv q.2 := ⟨queued, due⟩
  have rowOk := queued.rows _ hrow
  have notTask : ∀ key, q.1.2.idempotencyKey = key → ¬(key = J.fix ∨ key = J.review) := by
    rintro key rfl (h | h)
    · exact J.fix_ne_ack (h.symm.trans hk)
    · exact J.review_ne_ack (h.symm.trans hk)
  have attempt : ∀ (state : OutboxState) (taskId : String) (next : Option Nat) (error : Option String),
      Commits (J.terms working bound) q.2 (q.2.outboxMark q.1.2.id state taskId next error).2 fun t => ∀ r, Q r t := by
    intro state taskId next error
    have marked := queued.mark hrow state taskId next error
      (rowOk.marked (fun key hk' ours => absurd ours (notTask key hk')) fun he => absurd (he.symm.trans hk) J.subscribe_ne_ack)
      fun _ => hk
    have inv' : (J.terms working bound).inv (q.2.outboxMark q.1.2.id state taskId next error).2 :=
      ⟨marked, due_mark due hrow _ _ _ _ fun _ _ => hk⟩
    have sub := rowApplied_mark (Store.markRow_rowId state taskId next error) hrow
      fun _ he => J.subscribe_ne_ack (he.symm.trans hk)
    exact ⟨trivial, inv', fun r => ok r _ inv' hi hs fun h => sub (hsub h)⟩
  refine wp_applyBoardOperation inv ?_
  rw [hq]
  refine ⟨trivial, inv1, ?_⟩
  show wp _ (applyRecordConsumerAck q.1.2 _ (some a)) Q q.2
  refine wp_mono (wp_applyRecordConsumerAck (Q := fun t => ∀ r, Q r t) ?_) fun r t _ h => h r
  exact {
    inv := inv1
    quiet := fun r => ok r _ inv1 hi hs hsub
    now := fun _ => trivial
    may := fun _ _ _ _ _ => trivial
    delivered := fun _ taskId => attempt _ _ _ _
    failed := fun _ => ⟨fun _ _ _ => attempt _ _ _ _, fun _ _ _ => attempt _ _ _ _⟩ }

theorem wp_connect {c : Bool} (inv : (J.terms working bound).inv s) (hi : J.InstanceIs s i)
    (state : i.state = .materializing ∨ i.state = .waitingReview) (fix : J.Created s.steps J.fix)
    (review : J.Created s.steps J.review) :
    wp (J.terms working bound) (CodeFixHandler.connect J.envelope J.instanceId a i.state c J.digest
      (J.taskFor J.fix) (J.taskFor J.review)) (fun _ t => working → J.Finished t) s := by
  unfold CodeFixHandler.connect
  split
  next he =>
    have done : J.Done s.steps s.outbox := ⟨fix, review, fun h => absurd he h⟩
    exact wp_mono (wp_finish inv hi state done) fun _ _ _ h _ => h
  next he =>
    refine wp_bind.mpr (wp_subscribe inv he fun r t inv1 hi1 hs1 happ hwork => ?_)
    split
    next hfail =>
      have idle : ¬working := fun hw => by simp [hwork hw] at hfail
      exact wp_fail inv1 (hi.of_instances hi1) fun _ _ hw => absurd hw idle
    next hok =>
      have hsub := happ (by simpa using hok)
      refine wp_bind.mpr (wp_ack inv1 fun r' u inv2 hi2 hs2 hsub2 => ?_)
      have done : J.Done u.steps u.outbox := by
        rw [hs2, hs1]
        exact ⟨fix, review, fun _ => hsub2 hsub⟩
      exact wp_mono (wp_finish inv2 ((hi.of_instances hi1).of_instances hi2) state done) fun _ _ _ h _ => h

/-- The parent the review step is given is the fix step. -/
theorem parent_of_created (inv : J.Progress s) {f : Step} (hf : J.StepAt s.steps J.fix f) :
    ((some (fixKey J.digest)).bind fun k =>
      ((s.listSteps J.instanceId).find? fun p => p.idempotencyKey == k).map Step.id) = some f.id := by
  have mem : f ∈ s.listSteps J.instanceId := List.mem_filter.mpr ⟨hf.1, by simpa using hf.2.1⟩
  have hfk : f.idempotencyKey = fixKey J.digest := hf.2.2
  simp only [Option.bind_some]
  cases hfind : (s.listSteps J.instanceId).find? fun p => p.idempotencyKey == fixKey J.digest with
  | none =>
    have := List.find?_eq_none.mp hfind f mem
    exact absurd hfk (by simpa using this)
  | some p =>
    have hp := List.mem_filter.mp (List.mem_of_find?_eq_some hfind)
    have hk : p.idempotencyKey = fixKey J.digest := by simpa using List.find?_some hfind
    have hc : p.continuationId = J.instanceId := by simpa using hp.2
    rw [inv.stepKeys.eq hp.1 hf.1 (by rw [hc, hk, hf.2.1, hfk])]
    rfl

theorem wp_build {created : Bool} (inv : (J.terms working bound).inv s) (hi : J.InstanceIs s i)
    (state : i.state = .materializing ∨ i.state = .waitingReview) :
    wp (J.terms working bound) (CodeFixHandler.build J.envelope J.blockers i created a)
      (fun _ t => working → J.Finished t) s := by
  have digest : stableDigest i = J.digest := stableDigest_eq hi.2.2
  unfold CodeFixHandler.build
  rw [digest, hi.2.1]
  refine wp_bind.mpr (wp_mono (wp_create inv rfl (taskSpec_fix s.steps)) fun r t inv1 post => ?_)
  have hi1 := hi.of_instances post.instances
  cases r with
  | none => exact wp_fail inv1 hi1 fun _ _ hw => absurd rfl (post.works hw)
  | some fixId =>
    obtain ⟨rfl, f, hf, ha⟩ := post.task fixId rfl
    refine wp_bind.mpr (wp_mono (wp_create inv1 (parent_of_created inv1.1 hf) (taskSpec_review hf ha)) fun r u inv2 post2 => ?_)
    have hi2 := hi1.of_instances post2.instances
    cases r with
    | none => exact wp_fail inv2 hi2 fun _ _ hw => absurd rfl (post2.works hw)
    | some reviewId =>
      obtain ⟨rfl, hreview⟩ := post2.task reviewId rfl
      obtain ⟨f', hf', _, ha'⟩ := post2.kept _ f hf
      have := wp_connect (a := a) (c := created) inv2 hi2 state ⟨f', hf', ha' ha⟩ hreview
      exact this

theorem wp_enter (inv : (J.terms working bound).inv s) (hi : J.InstanceIs s i) (live : J.Live s i.state)
    {Q : Instance → Store → Prop}
    (ok : ∀ j t, (J.terms working bound).inv t → J.InstanceIs t j →
      j.state = .materializing ∨ j.state = .waitingReview → Q j t) :
    wp (J.terms working bound) (CodeFixHandler.enter i "code_fix_detected") Q s := by
  unfold CodeFixHandler.enter
  split
  next hstart =>
    rw [hi.2.1]
    have moved := inv.1.transition .materializing "code_fix_detected" (.inr (.inl rfl))
    have inv1 : (J.terms working bound).inv (s.transition J.instanceId .materializing "code_fix_detected").2 :=
      ⟨moved, fun hw => inv.2 hw⟩
    obtain ⟨j, hj, hnew, _⟩ := hi.moved .materializing "code_fix_detected"
    have hstate : j.state = .materializing := hnew (by rcases hstart with h | h <;> rw [h] <;> rfl)
    refine wp_bind.mpr (wp_moveTo inv ⟨trivial, inv1, ?_⟩)
    exact wp_readInstance inv1 hj.get (ok j _ inv1 hj (.inl hstate))
  next hstart =>
    have hstate : i.state = .materializing ∨ i.state = .waitingReview := by
      rcases live with h | h | h | ⟨h, _⟩
      · exact absurd (.inl h) hstart
      · exact .inl h
      · exact absurd (.inr h) hstart
      · exact .inr h
    exact ⟨inv, ok i s inv hi hstate⟩

/-- No row of the instance is in backoff at the time the board works. -/
def NoBackoff (J : CodeFixJob) (bound : Nat) (s : Store) : Prop :=
  ∀ o ∈ s.outbox.rows, o.continuationId = J.instanceId → o.state = .pending → o.nextAttemptAt ≤ bound

theorem outboxPendingRetryAt_none {now : Nat} (h : J.NoBackoff bound s) (hb : bound ≤ now) :
    s.outboxPendingRetryAt J.instanceId now = none := by
  unfold Store.outboxPendingRetryAt
  split
  next => rfl
  next earliest hmin =>
    obtain ⟨o, ho, he⟩ := List.mem_map.mp (List.min?_mem hmin)
    obtain ⟨hmem, hp⟩ := List.mem_filter.mp ho
    simp only [Bool.and_eq_true, beq_iff_eq] at hp
    have := h o hmem hp.1 hp.2
    rw [if_pos (by omega)]

/-- A replay keeps the invariant whatever the board answers and wherever it is cut off, and one
against a working board ends where the fault-free run ends. -/
theorem wp_materialize (adapter : Option Adapter) (inv : (J.terms working bound).inv s)
    (ready : working → adapter.isSome ∧ J.NoBackoff bound s) :
    wp (J.terms working bound) (CodeFixHandler.materialize J.envelope adapter J.blockers)
      (fun _ t => working → J.Finished t) s := by
  obtain ⟨created, hi, live⟩ := inv.1.createInstance
  have ho : (s.createInstance J.envelope.toInstance).2.outbox = s.outbox := rfl
  have inv1 : (J.terms working bound).inv (s.createInstance J.envelope.toInstance).2 := ⟨created, fun hw => inv.2 hw⟩
  unfold CodeFixHandler.materialize createInstance
  refine wp_txn_bind.mpr ⟨inv, trivial, ?_⟩
  generalize s.createInstance J.envelope.toInstance = c at created hi live ho inv1
  cases adapter with
  | none => exact ⟨inv1, fun hw => absurd (ready hw).1 (by simp)⟩
  | some a =>
    have enter : wp (J.terms working bound) (do
        let i ← CodeFixHandler.enter c.1.2 "code_fix_detected"
        CodeFixHandler.build J.envelope J.blockers i c.1.1 a) (fun _ t => working → J.Finished t) c.2 :=
      wp_bind.mpr (wp_enter inv1 hi live fun j t inv2 hj hstate => wp_build inv2 hj hstate)
    refine wp_bind.mpr ?_
    unfold CodeFixHandler.backingOff
    split
    next =>
      rw [hi.2.1]
      refine wp_bind.mpr (wp_currentTime inv1 trivial fun now hnow => ⟨inv1, ?_⟩)
      dsimp only
      split
      next hback =>
        refine ⟨inv1, fun hw => ?_⟩
        have free : J.NoBackoff bound c.2 := by
          unfold NoBackoff
          rw [ho]
          exact (ready hw).2
        rw [outboxPendingRetryAt_none free (hnow hw)] at hback
        cases hback
      next => exact enter
    next => exact ⟨inv1, enter⟩

end CodeFixJob

end AgentflowHermes
