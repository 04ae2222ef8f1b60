import AgentflowHermes.CallbackRows

namespace AgentflowHermes

open CrashProgram RowTable

namespace SemanticRefusalHandler

/-- The row `_ensure_origin_wake` works on. -/
def wakeRowIn (owner : Nat) (digest : String) (n : Store.NewOutbox) (outbox : Table OutboxRow) : OutboxRow :=
  (Store.enqueueRow owner n
    (Store.reinterpretRow owner .subscribe (legacyNotifyPrefix digest) .scheduleOriginWake n.idempotencyKey outbox).2).1.2

/-- The row a refusal replay executes its wake on. -/
def wakeRowOf (e : OutcomeEnvelope) (s : Store) : OutboxRow :=
  let i := (s.createInstance e.toInstance).1.2
  wakeRowIn i.id (stableDigest i) (wakeOp e.sourceTaskId (endpointOf e) (stableDigest i)) s.outbox

/-- Answers under which an attempt on a pending wake row does not fail: it is confirmed by the first
probe, it is not due, or the adapter cannot schedule it. -/
def Spared (ok : ∀ q, Response q → Prop) (a : Adapter) (row : OutboxRow) : Prop :=
  (a.originWakeSatisfied ∧ ∀ id p b, ok (.probe a id p) b → b = true) ∨ (∀ t, ok .now t → t < row.nextAttemptAt) ∨
    (a.scheduleOriginWake = false ∧ row.lastError ≠ "origin_wake_not_yet_accepted")

/-- The wake row is one the missing cap of `_mark_wake_pending` does no harm to. -/
structure WakeSafe (ok : ∀ q, Response q → Prop) (a : Adapter) (delivered : Prop) (outbox : Table OutboxRow)
    (row : OutboxRow) : Prop where
  dead : row.state = .callbackDeadletter → a.originWakeSatisfied = false ∧ a.scheduleOriginWake = false ∧
    row.lastError ≠ "origin_wake_not_yet_accepted"
  pending : row.state = .pending → ¬delivered → row.attempts + 1 < callbackRetryCap ∨ Spared ok a row
  legacy : ∀ o ∈ outbox.rows, o.id = row.id → o.operation = .subscribe → ¬delivered → WithinCap row

section

variable {ok : ∀ q, Response q → Prop} {delivered : Prop} {id : Nat} {s : Store} {row : OutboxRow} {a : Adapter}

theorem wp_probeWake {K : Terms} {taskId endpoint : String} {Q : Bool → Store → Prop} (inv : K.inv s)
    (may : a.originWakeSatisfied → ∀ q, q.about a row.id → K.may q s)
    (h : ∀ b, (a.originWakeSatisfied → K.ok (.probe a row.id (.originWakeSatisfied taskId endpoint)) b) →
      (a.originWakeSatisfied = false → b = false) → Q b s) :
    wp K (originWakeSatisfied a row.id taskId endpoint) Q s := by
  unfold originWakeSatisfied
  split
  next hcan => exact ⟨inv, may hcan _ ⟨rfl, rfl⟩, fun b hb => ⟨inv, h b (fun _ => hb) fun hno => by rw [hno] at hcan; cases hcan⟩⟩
  next hcannot => exact ⟨inv, h false (fun hcan => absurd hcan hcannot) fun _ => rfl⟩

theorem wp_markWakePending {K : Terms} {error : String} {Q : Unit → Store → Prop} (inv : K.inv s) (now : K.may .now s)
    (h : ∀ next, Commits K s (markedPending s row next error) (Q ())) : wp K (markWakePending row error) Q s :=
  wp_bind.mpr (wp_currentTime inv now fun _ _ => wp_mark inv (h _))

/-- Below the cap, `_mark_wake_pending` does what `_mark_outbox_pending` does. -/
theorem wake_pending (h : Filed s) (hrow : row ∈ s.outbox.rows) (next : Nat) (error : String)
    (alive : row.id = id → row.state ≠ .callbackDeadletter)
    (budget : row.id = id → row.state = .pending → ¬delivered → row.attempts + 1 < callbackRetryCap) :
    Commits (rowTerms ok delivered id) s (markedPending s row next error) fun _ => True :=
  commits_mark h hrow _ _ _ _ (fun hid _ => alive hid)
    fun hid hnd _ hp _ => ⟨fun _ => budget hid hp hnd, fun hd => nomatch hd⟩

theorem wp_executeWake {taskId endpoint : String} {outbox : Table OutboxRow} (h : Filed s) (hrow : row ∈ s.outbox.rows)
    (safe : row.id = id → WakeSafe ok a delivered outbox row) :
    wp (rowTerms ok delivered id) (executeWake a row taskId endpoint) (fun _ _ => True) s := by
  have inv : (rowTerms ok delivered id).inv s := h
  have now : (rowTerms ok delivered id).may .now s := fun hc => hc.elim
  have stop : ∀ r : OpResult, wp (rowTerms ok delivered id) (pure r) (fun _ _ => True) s := fun r => ⟨h, trivial⟩
  have again : ∀ error (r : OpResult), (row.id = id → row.state ≠ .callbackDeadletter) →
      (row.id = id → row.state = .pending → ¬delivered → row.attempts + 1 < callbackRetryCap) →
      wp (rowTerms ok delivered id) (markWakePending row error >>= fun _ => pure r) (fun _ _ => True) s := by
    intro error r alive budget
    have marked : ∀ next, Commits (rowTerms ok delivered id) s (markedPending s row next error) fun _ => True := fun next =>
      wake_pending h hrow next error alive budget
    exact wp_bind.mpr (wp_markWakePending inv now fun next => (marked next).mono fun u hu _ => ⟨hu, trivial⟩)
  unfold executeWake
  split
  next ha =>
    have alive : row.id = id → row.state ≠ .callbackDeadletter := fun _ => by rw [ha]; simp
    refine wp_bind.mpr (wp_probeWake inv (fun _ => may_of_alive hrow fun hid _ => alive hid) fun b _ _ => ?_)
    split
    · exact stop _
    · refine again _ _ alive fun _ hp => ?_
      rw [ha] at hp
      cases hp
  next hna =>
    have alive : a.originWakeSatisfied ∨ a.scheduleOriginWake ∨ row.lastError = "origin_wake_not_yet_accepted" →
        row.id = id → row.state ≠ .callbackDeadletter := by
      intro can hid hd
      obtain ⟨hprobe, hschedule, herror⟩ := (safe hid).dead hd
      rw [hprobe, hschedule] at can
      rcases can with h | h | h
      · cases h
      · cases h
      · exact herror h
    have delivering : (row.id = id → row.state ≠ .callbackDeadletter) → ∀ r : OpResult,
        wp (rowTerms ok delivered id) (mark row.id .applied "" none none >>= fun _ => pure r) (fun _ _ => True) s := by
      intro alive r
      have marked : Commits (rowTerms ok delivered id) s (markedApplied s row "") fun _ => True :=
        commits_mark h hrow .applied "" none none (fun hid _ => alive hid) fun _ _ _ _ _ => ⟨fun hp => (nomatch hp), fun hd => (nomatch hd)⟩
      exact wp_bind.mpr (wp_mark inv (marked.mono fun u hu _ => ⟨hu, trivial⟩))
    refine wp_bind.mpr (wp_probeWake inv (fun hcan => may_of_alive hrow fun hid _ => alive (.inl hcan) hid) fun b hb hno => ?_)
    split
    next hyes =>
      refine delivering (alive (.inl ?_)) _
      by_contra hcannot
      rw [hno (by simpa using hcannot)] at hyes
      cases hyes
    next hunsatisfied =>
      refine wp_bind.mpr (wp_currentTime inv now fun t ht => ?_)
      split
      next => exact stop _
      next hdue =>
        -- neither the probe nor the clock spares the row any more
        have budget : a.scheduleOriginWake ∨ row.lastError = "origin_wake_not_yet_accepted" → row.id = id →
            row.state = .pending → ¬delivered → row.attempts + 1 < callbackRetryCap := by
          intro can hid hp hnd
          rcases (safe hid).pending hp hnd with hlt | ⟨hprobe, hall⟩ | hearly | ⟨hschedule, herror⟩
          · exact hlt
          · exact absurd (hall _ _ b (hb hprobe)) hunsatisfied
          · exact absurd (hearly t ht) hdue
          · rw [hschedule] at can
            rcases can with h | h
            · cases h
            · exact absurd h herror
        split
        next herror => exact again _ _ (alive (.inr (.inr herror))) (budget (.inr herror))
        next =>
          split
          next => exact stop _
          next hcan =>
            have hcan : a.scheduleOriginWake = true := by simpa using hcan
            have alive' := alive (.inr (.inl hcan))
            have may : ∀ q : Request, q.about a row.id → (rowTerms ok delivered id).may q s :=
              may_of_alive hrow fun hid _ => alive' hid
            refine wp_bind.mpr (wp_mutate inv (may _ ⟨rfl, rfl⟩) fun r _ => ?_)
            split
            next => exact again _ _ alive' (budget (.inl hcan))
            next =>
              refine wp_bind.mpr (wp_probeWake inv (fun _ => may) fun b _ _ => ?_)
              split
              · exact delivering alive' _
              · exact again _ _ alive' (budget (.inl hcan))

/-- A legacy row that is turned into the wake row is the one the enqueue then finds. -/
theorem enqueue_reinterpreted {owner : Nat} {n : Store.NewOutbox} {o : OutboxRow} (ho : o ∈ s.outbox.rows)
    (hnone : s.outboxOf n.idempotencyKey = none) :
    (Store.enqueueRow owner n (s.outbox.modify o.id fun o =>
      { o with operation := n.operation, idempotencyKey := n.idempotencyKey })).1.2 =
      { o with operation := n.operation, idempotencyKey := n.idempotencyKey } := by
  have mem := modified_mem (t := s.outbox) (i := o.id)
    (f := fun o : OutboxRow => { o with operation := n.operation, idempotencyKey := n.idempotencyKey }) ho
  rw [if_pos (show Keyed.rowId o = o.id from rfl)] at mem
  unfold Store.enqueueRow
  split
  next x hx =>
    have hk : x.idempotencyKey = n.idempotencyKey := by simpa using pred_of_find? hx
    rcases mem_modify (mem_of_find? hx) with ⟨hold, _⟩ | ⟨r, hr, hrid, rfl⟩
    · have := find?_none hnone x hold
      simp [hk] at this
    · obtain rfl : r = o := rowId_inj hr ho hrid
      rfl
  next hno =>
    have := find?_none hno _ mem
    simp at this

/-- A legacy row that is turned into the wake row keeps its attempts. -/
theorem commits_reinterpret {owner : Nat} {digest : String} {n : Store.NewOutbox} (h : Filed s)
    (hop : n.operation = .scheduleOriginWake) (hn : CallbackAllowed n)
    (safe : (wakeRowIn owner digest n s.outbox).id = id →
      WakeSafe ok a delivered s.outbox (wakeRowIn owner digest n s.outbox)) :
    Commits (rowTerms ok delivered id) s (s.outboxReinterpretPending owner .subscribe (legacyNotifyPrefix digest)
      .scheduleOriginWake n.idempotencyKey).2 fun _ => True := by
  have hcallback : callbackOnly Operation.scheduleOriginWake := rfl
  have hkey : CallbackKey n.idempotencyKey := hn.mp (by rw [hop]; rfl)
  rcases s.outboxReinterpretPending_cases owner .subscribe (legacyNotifyPrefix digest) .scheduleOriginWake
    n.idempotencyKey with he | ⟨o, ho, _, hsub, hnone, he⟩
  · rw [he]
    exact ⟨⟨fun hd => hd, fun _ _ hb => hb⟩, h, trivial⟩
  · have found : wakeRowIn owner digest n s.outbox =
        { o with operation := .scheduleOriginWake, idempotencyKey := n.idempotencyKey } := by
      have outbox := congrArg Store.outbox he
      have row := @enqueue_reinterpreted s owner n o ho hnone
      rw [hop] at row
      rw [← row]
      exact congrArg (fun t => (Store.enqueueRow owner n t).1.2) outbox
    rw [found] at safe
    rw [he]
    refine ⟨⟨?_, ?_⟩, ⟨?_, ?_⟩, trivial⟩
    · rintro ⟨x, hx, hid, hxop, hd⟩
      have mem := modified_mem (t := s.outbox) (i := o.id)
        (f := fun o : OutboxRow => { o with operation := .scheduleOriginWake, idempotencyKey := n.idempotencyKey }) hx
      split at mem
      · exact ⟨_, mem, hid, hcallback, hd⟩
      · exact ⟨x, mem, hid, hxop, hd⟩
    · intro hnd _ bounded x hx hid hxop
      rcases mem_modify hx with ⟨hx, _⟩ | ⟨r, hr, hrid, rfl⟩
      · exact bounded x hx hid hxop
      · obtain rfl : r = o := rowId_inj hr ho hrid
        exact (safe hid).legacy r hr rfl hsub hnd
    · refine UniqueBy.rekey h.keys o.id ?_ (fun r hr => by simpa using find?_none hnone r hr) fun _ => by rfl
      exact fun _ _ => rfl
    · intro x hx
      rcases mem_modify hx with ⟨hx, _⟩ | ⟨r, _, _, rfl⟩
      · exact h.ops x hx
      · exact ⟨fun _ => hkey, fun _ => hcallback⟩

theorem wp_ensureOriginWake {owner : Nat} {taskId endpoint digest : String} (h : Filed s)
    (safe : (wakeRowIn owner digest (wakeOp taskId endpoint digest) s.outbox).id = id →
      WakeSafe ok a delivered s.outbox (wakeRowIn owner digest (wakeOp taskId endpoint digest) s.outbox)) :
    wp (rowTerms ok delivered id) (ensureOriginWake owner taskId endpoint digest a) (fun _ _ => True) s := by
  have allow := wake_allowed taskId endpoint digest
  obtain ⟨guar, filed, _⟩ := commits_reinterpret h rfl allow safe
  obtain ⟨guar', filed', hrow, _⟩ := @commits_enqueue ok delivered id _ filed owner _ allow
  refine wp_bind.mpr (wp_txn_bind.mpr ⟨h, guar, wp_txn_bind.mpr ⟨filed, guar', filed', ?_⟩⟩)
  exact wp_executeWake filed' hrow safe

theorem wp_enter_frame {i : Instance} {reason : String} {Q : Instance → Store → Prop} (h : Filed s)
    (hi : s.getInstance i.id = some i)
    (hq : ∀ j u, j.id = i.id → j.toNewInstance = i.toNewInstance → u.outbox = s.outbox → Filed u → Q j u) :
    wp (rowTerms ok delivered id) (CodeFixHandler.enter i reason) Q s := by
  unfold CodeFixHandler.enter
  split
  next =>
    obtain ⟨j, hj, hn, hid, _⟩ := Store.transition_get hi .materializing reason
    obtain ⟨guar, moved⟩ := @rowTerms_frame ok delivered id s (s.transition i.id .materializing reason).2 h rfl
    refine wp_bind.mpr (wp_moveTo h ⟨guar, moved, ?_⟩)
    exact wp_readInstance moved hj (hq j _ hid hn rfl moved)
  next => exact ⟨h, hq i s rfl rfl rfl h⟩

theorem wp_write_frame {f : Store → Store} {k : Store → Run Unit} {Q : Unit → Store → Prop} (h : Filed s)
    (hf : (f s).outbox = s.outbox) (hk : Filed (f s) → wp (rowTerms ok delivered id) (k s) Q (f s)) :
    wp (rowTerms ok delivered id) (.write f k) Q s := by
  have kept := @rowTerms_frame ok delivered id s (f s) h hf
  exact ⟨h, kept.1, hk kept.2⟩

theorem wp_quarantine_frame {i : Instance} {blockers categories : List String} {Q : Unit → Store → Prop} (h : Filed s)
    (hq : ∀ u, u.outbox = s.outbox → Filed u → Q () u) :
    wp (rowTerms ok delivered id) (quarantine i blockers categories) Q s := by
  refine wp_bind.mpr (wp_write_frame h rfl fun hu => ⟨hu, ?_⟩)
  split
  next => exact wp_write_frame hu rfl fun hv => ⟨hv, hq _ rfl hv⟩
  next => exact ⟨hu, hq _ rfl hu⟩

/-- A refusal replay over a wake row it does no harm to. -/
theorem wp_materialize_row {e : OutcomeEnvelope} {blockers categories : List String} (h : Filed s)
    (safe : endpointOf e ≠ "" → (wakeRowOf e s).id = id → WakeSafe ok a delivered s.outbox (wakeRowOf e s)) :
    wp (rowTerms ok delivered id) (materialize e (some a) blockers categories) (fun _ _ => True) s := by
  have board := @handlerTerms_row ok delivered id
  have made := s.createInstance_get e.toInstance
  have created := @rowTerms_frame ok delivered id s (s.createInstance e.toInstance).2 h rfl
  unfold materialize
  refine wp_txn_bind.mpr ⟨h, created.1, ?_⟩
  dsimp only
  refine wp_bind.mpr (wp_enter_frame created.2 made fun j u hid hn ho hu => ?_)
  refine wp_bind.mpr (wp_quarantine_frame hu fun v hv hfiled => wp_bind.mpr ?_)
  have rest : ∀ (o : Option (OpResult × OpResult)) w, Filed w → wp (rowTerms ok delivered id) (do
      let state ← readState j.id
      return report e j.id (s.createInstance e.toInstance).1.1 state categories o) (fun _ _ => True) w := fun o w hw =>
    (board.safe (.bind (Uses.readState j.id) fun _ => .pure _)).wp w hw trivial
  unfold callbacks
  split
  next => exact ⟨hfiled, rest _ _ hfiled⟩
  next hend =>
    have digest : stableDigest j = stableDigest (s.createInstance e.toInstance).1.2 :=
      (stableDigest_eq hn).trans (stableDigest_eq rfl).symm
    rw [digest, hid]
    have row : wakeRowIn (s.createInstance e.toInstance).1.2.id (stableDigest (s.createInstance e.toInstance).1.2)
        (wakeOp e.sourceTaskId (endpointOf e) (stableDigest (s.createInstance e.toInstance).1.2)) v.outbox =
        wakeRowOf e s := by
      rw [hv, ho]
      rfl
    refine wp_bind.mpr (wp_mono (wp_ensureOriginWake hfiled fun hid => ?_) fun _ w hw _ => wp_bind.mpr ?_)
    · rw [row] at hid ⊢
      rw [hv, ho]
      exact safe hend hid
    refine wp_mono ((board.apply _ _ _ (refusalAck_allowed ..) trivial).wp w hw trivial) fun _ x hx _ => ⟨hx, ?_⟩
    rw [← hid]
    exact rest _ x hx

end

end SemanticRefusalHandler

end AgentflowHermes
