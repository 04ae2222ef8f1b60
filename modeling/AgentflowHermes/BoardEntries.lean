import AgentflowHermes.BoardTerms
import AgentflowHermes.OwnerRoutes

namespace AgentflowHermes

open CrashProgram RowTable

/-- A continuation of the board with one of the digests. -/
def Worked (board : String) (digests : String → Prop) (id : Nat) (s : Store) : Prop :=
  ∃ i ∈ s.instances.rows, i.id = id ∧ i.board = board ∧ digests (digestOf i.toNewInstance)

/-- Work on continuations of one board, through adapters for it, filed under their keys. -/
def boardPermits (board : String) (digests : String → Prop) (receipt : Nat) (filed : String → Prop) : Permits where
  creates n := n.board = board ∧ digests (digestOf n)
  own := Worked board digests
  moves := True
  step _ := True
  enqueue n := filed n.idempotencyKey
  receipts := True
  mine i := digests (stableDigest i)
  issued r := receipt ≤ r.id
  through adapter := ∀ a, adapter = some a → a.board = board

section

variable {board : String} {digests : String → Prop} {receipt : Nat} {filed : String → Prop} {s t : Store} {id : Nat}

theorem Worked.onBoard (h : Worked board digests id s) : OnBoard board id s :=
  have ⟨i, hi, hid, hb, _⟩ := h
  ⟨i, hi, hid, hb⟩

theorem stable_worked (id : Nat) : Stable (boardTerms board receipt filed) (Worked board digests id) := by
  refine ⟨fun s t _ guar _ h => ?_⟩
  obtain ⟨i, hi, hid, hb, hd⟩ := h
  obtain ⟨j, hj, same, cols⟩ := guar.1 i hi
  exact ⟨j, hj, same.trans hid, (congrArg NewInstance.board cols).trans hb, by rw [cols]; exact hd⟩

theorem digestOf_tuple {n m : NewInstance} (h : n.tuple = m.tuple) : digestOf n = digestOf m := by
  simp only [NewInstance.tuple, Prod.mk.injEq] at h
  obtain ⟨hb, ht, he, hr⟩ := h
  unfold digestOf NewInstance.idempotencyKey
  rw [hb, ht, he, hr]

theorem worked_created {n : NewInstance} (hb : n.board = board) (hd : digests (digestOf n)) (s : Store) :
    Worked board digests (s.createInstance n).1.2.id (s.createInstance n).2 := by
  obtain ⟨mem, _⟩ := get?_eq_some.mp (s.createInstance_get n)
  rcases s.createInstance_cases n with ⟨i, hi, he⟩ | ⟨_, he⟩
  · rw [he] at mem ⊢
    have tuple : i.toNewInstance.tuple = n.tuple := by simpa using pred_of_find? hi
    refine ⟨i, mem, rfl, ?_, ?_⟩
    · have same : i.board = n.board := congrArg Prod.fst tuple
      exact same.trans hb
    · rw [digestOf_tuple tuple]
      exact hd
  · rw [he] at mem ⊢
    exact ⟨_, mem, rfl, hb, hd⟩

theorem handlerTerms_board :
    HandlerTerms (boardTerms board receipt filed) (boardPermits board digests receipt filed) where
  stable := stable_worked
  asks q s hq a row m heq := by
    subst heq
    exact hq.elim
  create n s hn hs := by
    have frame := board_frame hs (kept_createInstance s n) rfl (Nat.le_refl _)
    exact ⟨frame.1, frame.2, worked_created hn.1 hn.2 s⟩
  known id i s own hi := by
    obtain ⟨mem, hid⟩ := get?_eq_some.mp hi
    obtain ⟨j, hj, hjid, _, hd⟩ := own
    obtain rfl : i = j := rowId_inj mem hj (hid.trans hjid.symm)
    show digests (stableDigest i)
    rw [stableDigest_eq rfl]
    exact hd
  move id new reason s _ _ hs := board_frame hs (kept_transition s id new reason) rfl (Nat.le_refl _)
  addStep _ _ _ _ _ _ _ _ hs := board_frame hs (kept_of_eq rfl) rfl (Nat.le_refl _)
  markStep _ _ _ _ hs := board_frame hs (kept_of_eq rfl) rfl (Nat.le_refl _)
  receipt id owner fields ref s _ _ hs := by
    have frame := board_frame (t := (s.addOwnerReceipt id owner fields ref none).2) hs (kept_of_eq rfl) rfl (Nat.le_succ _)
    exact ⟨frame.1, frame.2, hs.1⟩
  other s t hs same := board_frame hs (kept_of_eq same.instances) same.outbox (Nat.le_of_eq (congrArg Table.next same.receipts.symm))
  apply id n adapter hn ha := (safe_board_apply ha id hn).weaken fun _ => Worked.onBoard
  wake id taskId endpoint digest a _ hn ha :=
    (safe_board_wake (ha a rfl) id taskId endpoint digest hn).weaken fun _ => Worked.onBoard

section

variable (files : ∀ key, FiledUnder digests receipt key → filed key)
include files

theorem files_key {d key : String} (hd : digests d) (h : HandlerKey d key) : filed key := files _ (.inl ⟨d, hd, h⟩)

theorem board_receiving : Uses.ReceiptAllowed (boardPermits board digests receipt filed) where
  moves := trivial
  marks := trivial
  receipts := trivial
  materializationStep := trivial
  complete _ _ taskId r issued := files _ (.inr ⟨taskId, r.id, issued, rfl⟩)
  materialize _ _ _ hi := files_key files hi .materialize

theorem board_event {e : OutcomeEnvelope} (hb : e.board = board) (hd : digests (digestOf e.toInstance))
    (auto : digests (digestOf { e.toInstance with contractRef := autoContractRef e })) :
    EventAllowed (boardPermits board digests receipt filed) e where
  creates := ⟨hb, hd⟩
  createsAuto := ⟨hb, auto⟩
  routes := trivial
  codeFix := {
    moves := trivial
    marks := trivial
    fixStep := trivial
    reviewStep := trivial
    fix := fun _ _ _ hi => files_key files hi .fix
    review := fun _ _ _ hi => files_key files hi .review
    subscribe := fun _ _ hi => files_key files hi (.subscribe _)
    ack := fun _ hi => files_key files hi (.ack _) }
  refusal := ⟨trivial, trivial, fun _ hi => files_key files hi (.wake _), fun _ hi => files_key files hi (.refusalAck _)⟩
  ask := ⟨trivial, trivial, trivial, fun _ _ _ hi => files_key files hi .anchor,
    fun _ _ _ origin hi => files_key files hi (.anchorSubscribe origin)⟩
  receipt _ := board_receiving files

end

end

/-- The ways outbox work is executed with real adapters. -/
inductive BoardEntry
  | ingest (cfg : IngestConfig) (fetch : Int → List BoardEvent)
  | reconcile (adapterByBoard : String → Option Adapter)
  | retry (id : Nat) (board : String)
  | submit (contracts : String → Option InputContract) (id : Nat) (submission : Submission) (board : String)

/-- The digests of the instances that events may be filed under. -/
def EventDigest (T : PyText) (cfg : IngestConfig) (events : List BoardEvent) (digest : String) : Prop :=
  ∃ ev ∈ events, ∃ o, compileEvent T cfg ev = .ok o ∧
    (digest = digestOf o.envelope.toInstance ∨
      digest = digestOf { o.envelope.toInstance with contractRef := autoContractRef o.envelope })

namespace BoardEntry

def perform (T : PyText) : BoardEntry → Run (Option CommandResult)
  | ingest cfg fetch => do
    let _ ← ingestBoardOnce T cfg fetch
    return none
  | reconcile adapterByBoard => do
    let _ ← reconcileOutbox adapterByBoard
    return none
  | retry id board => do
    let r ← runContinuationRetry id board
    return some r
  | submit contracts id submission board => do
    let r ← runContinuationSubmit contracts id submission board
    return some r

/-- Ingestion and reconciliation are given the adapter of each board by the registry. -/
def Wired : BoardEntry → Prop
  | ingest cfg _ => ∀ a, cfg.adapter = some a → a.board = cfg.board
  | reconcile adapterByBoard => ∀ b a, adapterByBoard b = some a → a.board = b
  | _ => True

/-- The instance and the board an operator names. -/
def operator : BoardEntry → Option (Nat × String)
  | retry id board => some (id, board)
  | submit _ id _ board => some (id, board)
  | _ => none

/-- The board is the instance's, or the command does not get as far as its adapter. -/
def OperatorRight : BoardEntry → Store → Prop
  | retry id board, s => board = "" ∨ ∀ i, s.getInstance id = some i → i.board = board
  | submit contracts id submission board, s => board = "" ∨ ∀ i, s.getInstance id = some i →
      i.board = board ∨ (submitErrors contracts submission i).isRight
  | _, _ => True

/-- No row of another board holds a key that the step may file under. -/
def NoForeignRow (T : PyText) : BoardEntry → Store → Prop
  | ingest cfg fetch, s => ∀ o ∈ s.outbox.rows,
      FiledUnder (EventDigest T cfg (fetch (s.getCursor cfg.board cfg.dbIdentity))) s.receipts.next o.idempotencyKey →
        OnBoard cfg.board o.continuationId s
  | submit _ id _ _, s => ∀ i, s.getInstance id = some i → ∀ o ∈ s.outbox.rows,
      FiledUnder (fun d => d = stableDigest i) s.receipts.next o.idempotencyKey → OnBoard i.board o.continuationId s
  | _, _ => True

end BoardEntry

/-- Every mutation goes through an adapter for the board of the continuation whose row it is made for. -/
def OnItsBoard (tr : List (Act Request Store)) : Prop :=
  ∀ a row m u, .call (.mutate a row m) u ∈ tr → rowBoard u row = some a.board

/-- Mutations stay on their board, and a command that names another one is refused before it does anything. -/
structure StaysOnBoard (T : PyText) (entry : BoardEntry) (s : Store) : Prop where
  calls : ∀ {tr o t}, Exec (fun _ _ => True) (entry.perform T) s tr o t → OnItsBoard tr
  refuses : ∀ id board i, entry.operator = some (id, board) → s.getInstance id = some i → i.board ≠ board →
    ∀ {tr o t}, Exec (fun _ _ => True) (entry.perform T) s tr o t →
      tr = [] ∧ ∀ r, o = some r → ∃ errors, r = .ok (some (.refused errors))

section

variable {T : PyText} {s : Store} {board : String} {receipt : Nat} {filed : String → Prop}

theorem onItsBoard_of_wp {α : Type} {p : Run α} {Q : α → Store → Prop} (h : wp (boardTerms board receipt filed) p Q s)
    {tr : List (Act Request Store)} {o : Option (Except String α)} {t : Store} (e : Exec (fun _ _ => True) p s tr o t) :
    OnItsBoard tr := by
  have sound : Exec (boardTerms board receipt filed).ok p s tr o t := e
  intro a row m u mem
  exact (wp_sound h sound).1.may mem a row m rfl

theorem wp_ingest_board {cfg : IngestConfig} {fetch : Int → List BoardEvent} (wired : (BoardEntry.ingest cfg fetch).Wired)
    (foreign : (BoardEntry.ingest cfg fetch).NoForeignRow T s) :
    wp (boardTerms cfg.board s.receipts.next (FiledUnder (EventDigest T cfg (fetch (s.getCursor cfg.board cfg.dbIdentity)))
      s.receipts.next)) (ingestBoardOnce T cfg fetch) (fun _ _ => True) s := by
  refine wp_ingestBoardOnce stable_true (fun ev hev => ?_)
    (fun value u hu => board_frame hu (kept_of_eq rfl) rfl (Nat.le_refl _)) ⟨Nat.le_refl _, foreign⟩ trivial
  refine (@handlerTerms_board _ (EventDigest T cfg (fetch (s.getCursor cfg.board cfg.dbIdentity))) _ _).whole
    (.routeEvent (fun _ => trivial) T cfg wired ev fun o hc => ?_)
  have source := compileEvent_source hc
  exact board_event (fun _ h => h) (congrArg SourceRef.board source) ⟨ev, hev, o, hc, .inl rfl⟩ ⟨ev, hev, o, hc, .inr rfl⟩

theorem wp_reconcile_board {adapterByBoard : String → Option Adapter}
    (wired : (BoardEntry.reconcile adapterByBoard).Wired) :
    wp (boardTerms board 0 fun _ => False) (reconcileOutbox adapterByBoard) (fun _ _ => True) s := by
  have start : (boardTerms board 0 fun _ => False).inv s := ⟨Nat.zero_le _, fun _ _ h => h.elim⟩
  refine wp_bind.mpr (wp_currentTime start (fun _ _ _ h => by cases h) fun now _ => wp_get_bind.mpr ?_)
  have rows : ∀ item ∈ dueRows now s, RowOn item.2 item.1.id s := by
    intro item hitem
    obtain ⟨o, ho, hmap⟩ := List.mem_filterMap.mp hitem
    obtain ⟨i, hi, rfl⟩ := Option.map_eq_some_iff.mp hmap
    obtain ⟨mem, hid⟩ := get?_eq_some.mp hi
    exact ⟨o, (List.mem_filter.mp ho).1, rfl, i, mem, hid, rfl⟩
  have stable : Stable (boardTerms board 0 fun _ => False) fun u => ∀ item ∈ dueRows now s, RowOn item.2 item.1.id u :=
    ⟨fun _ _ _ guar _ h item hitem => (h item hitem).mono guar.1 guar.2⟩
  have loop : Safe (boardTerms board 0 fun _ => False) (fun u => ∀ item ∈ dueRows now s, RowOn item.2 item.1.id u)
      (Prog.forEach (reconcileItem adapterByBoard) (dueRows now s)) := by
    refine safe_forEach stable fun item hitem => ?_
    unfold reconcileItem
    split
    next => exact safe_pure _
    next a ha =>
      have attempt := @board_attempt board 0 (fun _ => False) _ (some a)
        (fun b hb => by cases hb; exact wired _ _ ha) item.1
      have row := attempt.safe_reconcileRow trivial fun _ _ u hu _ => board_frame hu (kept_of_eq rfl) rfl (Nat.le_refl _)
      exact safe_bind stable (row.weaken fun u hu => hu item hitem) fun _ => safe_pure _
  exact wp_bind.mpr (wp_mono (loop.wp s start rows) fun _ u hu _ => ⟨hu, trivial⟩)

theorem wp_retry_board {id : Nat} {i : Instance} (hi : s.getInstance id = some i)
    (keys : UniqueBy s.outbox fun o => o.idempotencyKey) (a : Adapter) (through : a.board = i.board) :
    wp (boardTerms i.board 0 fun key => ∃ o ∈ s.outbox.rows, o.continuationId = id ∧ o.idempotencyKey = key)
      (continuationRetry id a) (fun _ _ => True) s := by
  obtain ⟨mem, hid⟩ := get?_eq_some.mp hi
  have own : Worked i.board (fun _ => True) id s := ⟨i, mem, hid, rfl, trivial⟩
  refine wp_get_bind.mpr ?_
  rw [hi]
  have start : (boardTerms i.board 0 fun key => ∃ o ∈ s.outbox.rows, o.continuationId = id ∧ o.idempotencyKey = key).inv s := by
    refine ⟨Nat.zero_le _, fun o ho hk => ?_⟩
    obtain ⟨o', ho', owner, same⟩ := hk
    obtain rfl : o' = o := keys.eq ho' ho same
    rw [owner]
    exact own.onBoard
  have retried : Safe (boardTerms i.board 0 fun key => ∃ o ∈ s.outbox.rows, o.continuationId = id ∧ o.idempotencyKey = key)
      (Worked i.board (fun _ => True) id) (Prog.forEach (retryRow id a) (s.pendingOf id)) := by
    have uses : Uses (boardPermits i.board (fun _ => True) 0 fun key =>
        ∃ o ∈ s.outbox.rows, o.continuationId = id ∧ o.idempotencyKey = key) (some id)
        (Prog.forEach (retryRow id a) (s.pendingOf id)) := by
      refine .forEach fun o ho => .retryRow trivial trivial id a (fun b hb => ?_) o ?_
      · cases hb
        exact through
      · obtain ⟨hmem, hp⟩ := List.mem_filter.mp ho
        simp only [Bool.and_eq_true, beq_iff_eq] at hp
        exact ⟨o, hmem, hp.1, rfl⟩
    exact handlerTerms_board.safe uses
  exact wp_get_bind.mpr (retried.wp s start own)

theorem wp_submit_board {id : Nat} {i : Instance} (hi : s.getInstance id = some i) {contracts : String → Option InputContract}
    {submission : Submission} (foreign : (BoardEntry.submit contracts id submission board).NoForeignRow T s) (a : Adapter)
    (through : a.board = i.board) (contract : InputContract) :
    wp (boardTerms i.board s.receipts.next (FiledUnder (fun d => d = stableDigest i) s.receipts.next))
      (OwnerInputHandler.onReceipt i submission (some a) contract) (fun _ _ => True) s := by
  obtain ⟨mem, hid⟩ := get?_eq_some.mp hi
  have digest : digestOf i.toNewInstance = stableDigest i := (stableDigest_eq (Eq.refl i.toNewInstance)).symm
  have own : Worked i.board (fun d => d = stableDigest i) i.id s := ⟨i, mem, Eq.refl _, Eq.refl _, digest⟩
  have mine : (boardPermits i.board (fun d => d = stableDigest i) s.receipts.next
      (FiledUnder (fun d => d = stableDigest i) s.receipts.next)).mine i := Eq.refl (stableDigest i)
  have uses : Uses (boardPermits i.board (fun d => d = stableDigest i) s.receipts.next
      (FiledUnder (fun d => d = stableDigest i) s.receipts.next)) (some i.id)
      (OwnerInputHandler.onReceipt i submission (some a) contract) :=
    .onReceipt (board_receiving fun _ h => h) i mine submission (some a) (fun b hb => by cases hb; exact through) contract
  exact (handlerTerms_board.safe uses).wp s ⟨Nat.le_refl _, foreign i hi⟩ own

end

end AgentflowHermes
