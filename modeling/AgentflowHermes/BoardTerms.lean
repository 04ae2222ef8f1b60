import AgentflowHermes.BoardIngest
import AgentflowHermes.CodeFixProgress
import AgentflowHermes.SourceFrames

namespace AgentflowHermes

open CrashProgram RowTable

/-- The board of the continuation a row belongs to. -/
def rowBoard (s : Store) (row : Nat) : Option String :=
  (s.outbox.get? row).bind fun o => (s.getInstance o.continuationId).map fun i => i.board

def OnBoard (board : String) (id : Nat) (s : Store) : Prop := ∃ i ∈ s.instances.rows, i.id = id ∧ i.board = board

/-- A row is there, and its continuation is of the board. -/
def RowOn (board : String) (row : Nat) (s : Store) : Prop := ∃ o ∈ s.outbox.rows, o.id = row ∧ OnBoard board o.continuationId s

/-- The keys under which the handlers file the operations of a digest. -/
inductive HandlerKey (digest : String) : String → Prop
  | fix : HandlerKey digest (fixKey digest)
  | review : HandlerKey digest (reviewKey digest)
  | subscribe (endpoint : String) : HandlerKey digest (subscribeKey digest endpoint)
  | ack (endpoint : String) : HandlerKey digest (consumerAckKey digest endpoint)
  | wake (endpoint : String) : HandlerKey digest (wakeKey digest endpoint)
  | refusalAck (endpoint : String) : HandlerKey digest (refusalAckKey digest endpoint)
  | anchor : HandlerKey digest (anchorKey digest)
  | anchorSubscribe (origin : String) : HandlerKey digest (anchorSubscribeKey digest origin)
  | materialize : HandlerKey digest (materializeKey digest)

/-- The keys of a group of digests, and those of the receipts from a number on. -/
def FiledUnder (digests : String → Prop) (receipt : Nat) (key : String) : Prop :=
  (∃ d, digests d ∧ HandlerKey d key) ∨ ∃ taskId n, receipt ≤ n ∧ key = completeKey taskId n

/-- Rows that stay under their continuation. -/
def RowsStay (s t : Store) : Prop :=
  ∀ o ∈ s.outbox.rows, ∃ o' ∈ t.outbox.rows, o'.id = o.id ∧ o'.continuationId = o.continuationId

/-- Work for one board: no row under a key it may file under is another board's, and every mutation goes
through an adapter for the board of the row. -/
def boardTerms (board : String) (receipt : Nat) (filed : String → Prop) : Terms where
  ok _ _ := True
  inv s := receipt ≤ s.receipts.next ∧ ∀ o ∈ s.outbox.rows, filed o.idempotencyKey → OnBoard board o.continuationId s
  may q s := ∀ a row m, q = .mutate a row m → rowBoard s row = some a.board
  guar s t := Kept s t ∧ RowsStay s t

section

variable {board : String} {receipt : Nat} {filed : String → Prop} {s t : Store} {id row : Nat}

theorem OnBoard.mono (h : OnBoard board id s) (kept : Kept s t) : OnBoard board id t := by
  obtain ⟨i, hi, hid, hb⟩ := h
  obtain ⟨j, hj, same, cols⟩ := kept i hi
  exact ⟨j, hj, same.trans hid, (congrArg NewInstance.board cols).trans hb⟩

theorem RowOn.mono (h : RowOn board row s) (kept : Kept s t) (stay : RowsStay s t) : RowOn board row t := by
  obtain ⟨o, ho, hid, hb⟩ := h
  obtain ⟨o', ho', same, owner⟩ := stay o ho
  refine ⟨o', ho', same.trans hid, ?_⟩
  rw [owner]
  exact hb.mono kept

theorem RowOn.rowBoard (h : RowOn board row s) : rowBoard s row = some board := by
  obtain ⟨o, ho, hid, i, hi, hown, hb⟩ := h
  have found : s.outbox.get? row = some o := get?_eq_some.mpr ⟨ho, hid⟩
  have owner : s.getInstance o.continuationId = some i := get?_eq_some.mpr ⟨hi, hown⟩
  unfold AgentflowHermes.rowBoard
  rw [found]
  simp [owner, hb]

theorem stable_onBoard (other : String) (id : Nat) : Stable (boardTerms board receipt filed) (OnBoard other id) :=
  ⟨fun _ _ _ guar _ h => h.mono guar.1⟩

theorem stable_rowOn (other : String) (row : Nat) : Stable (boardTerms board receipt filed) (RowOn other row) :=
  ⟨fun _ _ _ guar _ h => h.mono guar.1 guar.2⟩

theorem rowsStay_of_eq (h : t.outbox = s.outbox) : RowsStay s t := fun o ho => ⟨o, h ▸ ho, rfl, rfl⟩

theorem board_frame (hs : (boardTerms board receipt filed).inv s) (kept : Kept s t) (outbox : t.outbox = s.outbox)
    (receipts : s.receipts.next ≤ t.receipts.next) :
    (boardTerms board receipt filed).guar s t ∧ (boardTerms board receipt filed).inv t := by
  refine ⟨⟨kept, rowsStay_of_eq outbox⟩, Nat.le_trans hs.1 receipts, fun o ho hk => ?_⟩
  rw [outbox] at ho
  exact (hs.2 o ho hk).mono kept

/-- A change of rows that leaves their keys and their continuations alone. -/
theorem board_modify (hs : (boardTerms board receipt filed).inv s) (row : Nat) {f : OutboxRow → OutboxRow}
    {hk : ∀ o, Keyed.rowId (f o) = Keyed.rowId o} (key : ∀ o, (f o).idempotencyKey = o.idempotencyKey)
    (owner : ∀ o, (f o).continuationId = o.continuationId) (ht : t = { s with outbox := s.outbox.modify row f hk }) :
    (boardTerms board receipt filed).guar s t ∧ (boardTerms board receipt filed).inv t := by
  subst ht
  refine ⟨⟨kept_of_eq rfl, fun o ho => ?_⟩, hs.1, fun o ho hk => ?_⟩
  · refine ⟨_, modified_mem ho, ?_⟩
    split
    · exact ⟨hk o, owner o⟩
    · exact ⟨rfl, rfl⟩
  · rcases mem_modify ho with ⟨ho, _⟩ | ⟨r, hr, _, rfl⟩
    · exact hs.2 o ho hk
    · rw [key] at hk
      have own := hs.2 r hr hk
      rw [← owner r] at own
      exact own

theorem board_mark (hs : (boardTerms board receipt filed).inv s) (row : Nat) (state : OutboxState) (taskId : String)
    (next : Option Nat) (error : Option String) :
    (boardTerms board receipt filed).guar s (s.outboxMark row state taskId next error).2 ∧
      (boardTerms board receipt filed).inv (s.outboxMark row state taskId next error).2 :=
  @board_modify _ _ _ s _ hs row _ (Store.markRow_rowId state taskId next error) (fun _ => rfl) (fun _ => rfl) rfl

/-- What is enqueued for a continuation of the board is executed on a row of the board. -/
theorem board_enqueue (hs : (boardTerms board receipt filed).inv s) (own : OnBoard board id s) {n : Store.NewOutbox}
    (hn : filed n.idempotencyKey) : Commits (boardTerms board receipt filed) s (s.outboxEnqueue id n).2
      (RowOn board (s.outboxEnqueue id n).1.2.id) := by
  rcases s.outboxEnqueue_cases id n with ⟨o, ho, he⟩ | ⟨_, he⟩
  · rw [he]
    have mem := mem_of_find? ho
    have key : o.idempotencyKey = n.idempotencyKey := by simpa using pred_of_find? ho
    exact ⟨⟨Kept.refl s, rowsStay_of_eq rfl⟩, hs, o, mem, rfl, hs.2 o mem (key ▸ hn)⟩
  · rw [he]
    refine ⟨⟨kept_of_eq rfl, fun o ho => ⟨o, List.mem_append_left _ ho, rfl, rfl⟩⟩, ⟨hs.1, fun o ho hk => ?_⟩,
      _, List.mem_append_right _ (List.mem_singleton_self _), rfl, own⟩
    rcases mem_insert ho with ho | rfl
    · exact hs.2 o ho hk
    · exact own

/-- Only a row of the continuation itself is reinterpreted. -/
theorem board_reinterpret (hs : (boardTerms board receipt filed).inv s) (own : OnBoard board id s) (pre newKey : String) :
    (boardTerms board receipt filed).guar s (s.outboxReinterpretPending id .subscribe pre .scheduleOriginWake newKey).2 ∧
      (boardTerms board receipt filed).inv (s.outboxReinterpretPending id .subscribe pre .scheduleOriginWake newKey).2 := by
  rcases s.outboxReinterpretPending_cases id .subscribe pre .scheduleOriginWake newKey with he | ⟨o, ho, owner, _, _, he⟩
  · rw [he]
    exact ⟨⟨Kept.refl s, rowsStay_of_eq rfl⟩, hs⟩
  · rw [he]
    refine ⟨⟨kept_of_eq rfl, fun x hx => ?_⟩, hs.1, fun x hx hk => ?_⟩
    · refine ⟨_, modified_mem hx, ?_⟩
      split
      · exact ⟨rfl, rfl⟩
      · exact ⟨rfl, rfl⟩
    · rcases mem_modify hx with ⟨hx, _⟩ | ⟨r, hr, hrid, rfl⟩
      · exact hs.2 x hx hk
      · obtain rfl : r = o := rowId_inj hr ho hrid
        show OnBoard board r.continuationId _
        rw [owner]
        exact own

/-- Attempts on a row of a board go through an adapter for the board. -/
theorem board_attempt {other : String} (adapter : Option Adapter) (through : ∀ a, adapter = some a → a.board = other)
    (row : OutboxRow) : AttemptTerms (boardTerms board receipt filed) (RowOn other row.id) adapter row where
  stable := stable_rowOn other row.id
  now _ _ _ _ _ _ h := by cases h
  asks a ha q s hq _ hrow b id m heq := by
    subst heq
    obtain ⟨rfl, rfl⟩ := hq
    rw [hrow.rowBoard, through b ha]
  mark state taskId next error s hs _ := board_mark hs row.id state taskId next error

theorem safe_board_apply {adapter : Option Adapter} (through : ∀ a, adapter = some a → a.board = board) (id : Nat)
    {n : Store.NewOutbox} (hn : filed n.idempotencyKey) :
    Safe (boardTerms board receipt filed) (OnBoard board id) (applyBoardOperation id n adapter) := by
  refine ⟨fun s hs own => wp_applyBoardOperation hs ?_⟩
  exact (board_enqueue hs own hn).mono fun t ht hrow => ((board_attempt adapter through _).safe_applyEnqueued _ _).wp t ht hrow

theorem safe_board_wake {a : Adapter} (through : a.board = board) (id : Nat) (taskId endpoint digest : String)
    (hn : filed (wakeKey digest endpoint)) : Safe (boardTerms board receipt filed) (OnBoard board id)
      (SemanticRefusalHandler.ensureOriginWake id taskId endpoint digest a) := by
  refine ⟨fun s hs own => wp_bind.mpr (wp_txn_bind.mpr ?_)⟩
  obtain ⟨guar, inv⟩ := board_reinterpret hs own (legacyNotifyPrefix digest) (wakeKey digest endpoint)
  obtain ⟨guar', inv', hrow⟩ := board_enqueue inv (own.mono guar.1)
    (n := SemanticRefusalHandler.wakeOp taskId endpoint digest) hn
  have attempt := @board_attempt board receipt filed _ (some a)
    (fun _ h => by cases h; exact through)
  exact ⟨hs, guar, inv, guar', inv', ((attempt _).safe_executeWake ..).wp _ inv' hrow⟩

end

end AgentflowHermes
