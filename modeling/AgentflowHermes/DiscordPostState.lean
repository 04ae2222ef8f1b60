import AgentflowHermes.DiscordPasses

namespace AgentflowHermes.Origins

open ScriptRuns

def ackOf (cols : List MergeCol) (f : Facts) : String := (f.within cols).consumerAckStatus.shown

/-- A receipt that is as strong and as late as another, and keeps its acknowledgement. -/
structure Covers (parseInt : String → Option Int) (cols : List MergeCol) (f' f : Facts) : Prop where
  notify : notifyRank (f.within cols).notifyDeliveryStatus.shown ≤ notifyRank (f'.within cols).notifyDeliveryStatus.shown
  wake : wakeRank (f.within cols).activeWakeStatus.shown ≤ wakeRank (f'.within cols).activeWakeStatus.shown
  notifyAt : (f.within cols).notifyDeliveryAt.asInt parseInt ≤ (f'.within cols).notifyDeliveryAt.asInt parseInt
  wakeAt : (f.within cols).activeWakeAt.asInt parseInt ≤ (f'.within cols).activeWakeAt.asInt parseInt
  ackAt : (f.within cols).consumerAckAt.asInt parseInt ≤ (f'.within cols).consumerAckAt.asInt parseInt
  updatedAt : (f.within cols).updatedAt.asInt parseInt ≤ (f'.within cols).updatedAt.asInt parseInt
  ack : ackOf cols f ≠ "" → ackOf cols f' = ackOf cols f

section

variable {parseInt : String → Option Int} {cols : List MergeCol}

theorem Covers.refl (f : Facts) : Covers parseInt cols f f :=
  ⟨Nat.le_refl _, Nat.le_refl _, Int.le_refl _, Int.le_refl _, Int.le_refl _, Int.le_refl _, fun _ => rfl⟩

theorem Covers.trans {f g h : Facts} (hfg : Covers parseInt cols f g) (hgh : Covers parseInt cols g h) :
    Covers parseInt cols f h where
  notify := Nat.le_trans hgh.notify hfg.notify
  wake := Nat.le_trans hgh.wake hfg.wake
  notifyAt := Int.le_trans hgh.notifyAt hfg.notifyAt
  wakeAt := Int.le_trans hgh.wakeAt hfg.wakeAt
  ackAt := Int.le_trans hgh.ackAt hfg.ackAt
  updatedAt := Int.le_trans hgh.updatedAt hfg.updatedAt
  ack := by
    intro some
    have first := hgh.ack some
    have second := hfg.ack (by rw [first]; exact some)
    exact second.trans first

theorem strongest_rank (rank : String → Nat) (s t : Value) :
    rank s.shown ≤ rank (strongest rank s t) ∧ rank t.shown ≤ rank (strongest rank s t) := by
  unfold strongest
  split
  · omega
  · omega

/-- What is read back of a receipt that was written in the columns there are. -/
theorem within_set (d : Facts) (m : Merged) : (d.set cols m).within cols = ({
    notifyDeliveryStatus := .text m.notifyDeliveryStatus
    activeWakeStatus := .text m.activeWakeStatus
    consumerAckStatus := .text m.consumerAckStatus
    notifyDeliveryAt := .integer m.notifyDeliveryAt
    activeWakeAt := .integer m.activeWakeAt
    consumerAckAt := .integer m.consumerAckAt
    updatedAt := .integer m.updatedAt } : Facts).within cols := by
  unfold Facts.within Facts.set
  congr 1 <;> split <;> rfl

/-- What is read of a column that may not be there. -/
def column (present : Bool) (v : Value) : Value := if present then v else .null

theorem strongest_column (rank : String → Nat) (present : Bool) (a b : Value) :
    rank (column present a).shown ≤
        rank (column present (.text (strongest rank (column present a) (column present b)))).shown ∧
      rank (column present b).shown ≤
        rank (column present (.text (strongest rank (column present a) (column present b)))).shown := by
  cases present with
  | true => exact strongest_rank rank a b
  | false => exact ⟨Nat.le_refl _, Nat.le_refl _⟩

theorem latest_column (present : Bool) (a b : Value) :
    (column present a).asInt parseInt ≤ (column present
        (.integer (max ((column present a).asInt parseInt) ((column present b).asInt parseInt)))).asInt parseInt ∧
      (column present b).asInt parseInt ≤ (column present
        (.integer (max ((column present a).asInt parseInt) ((column present b).asInt parseInt)))).asInt parseInt := by
  cases present with
  | true => exact ⟨Int.le_max_left _ _, Int.le_max_right _ _⟩
  | false => exact ⟨Int.le_refl _, Int.le_refl _⟩

/-- The acknowledgement of two that do not contradict each other. -/
theorem ack_column (present : Bool) {a b : String} (empty : present = false → a = "" ∧ b = "")
    (agree : ¬(a ≠ "" ∧ b ≠ "" ∧ a ≠ b)) :
    let shown := (column present (.text (if b = "" then a else b))).shown
    (a ≠ "" → shown = a) ∧ (b ≠ "" → shown = b) ∧ (shown = a ∨ shown = b) := by
  cases present with
  | false =>
    obtain ⟨rfl, rfl⟩ := empty rfl
    exact ⟨fun h => absurd rfl h, fun h => absurd rfl h, .inl rfl⟩
  | true =>
    show (a ≠ "" → (if b = "" then a else b) = a) ∧ (b ≠ "" → (if b = "" then a else b) = b) ∧
      ((if b = "" then a else b) = a ∨ (if b = "" then a else b) = b)
    by_cases hb : b = ""
    · rw [if_pos hb]
      exact ⟨fun _ => rfl, fun h => absurd hb h, .inl rfl⟩
    · rw [if_neg hb]
      refine ⟨fun ha => ?_, fun _ => rfl, .inr rfl⟩
      by_contra differ
      exact agree ⟨ha, hb, Ne.symm differ⟩

/-- A merged receipt covers both, and has the acknowledgement of one of them. -/
theorem merge_covers {task thread : String} {s d : Facts} {m : Merged}
    (h : mergeReceiptFacts parseInt task thread (s.within cols) (d.within cols) = .ok m) :
    Covers parseInt cols (d.set cols m) s ∧ Covers parseInt cols (d.set cols m) d ∧
      (ackOf cols (d.set cols m) = ackOf cols s ∨ ackOf cols (d.set cols m) = ackOf cols d) := by
  unfold mergeReceiptFacts at h
  dsimp only at h
  split at h
  · cases h
  next agree =>
    cases h
    have notify := strongest_column notifyRank (cols.contains .notifyDeliveryStatus) s.notifyDeliveryStatus
      d.notifyDeliveryStatus
    have wake := strongest_column wakeRank (cols.contains .activeWakeStatus) s.activeWakeStatus d.activeWakeStatus
    have notifyAt := @latest_column parseInt (cols.contains .notifyDeliveryAt) s.notifyDeliveryAt d.notifyDeliveryAt
    have wakeAt := @latest_column parseInt (cols.contains .activeWakeAt) s.activeWakeAt d.activeWakeAt
    have ackAt := @latest_column parseInt (cols.contains .consumerAckAt) s.consumerAckAt d.consumerAckAt
    have updatedAt := @latest_column parseInt (cols.contains .updatedAt) s.updatedAt d.updatedAt
    have absent : cols.contains .consumerAckStatus = false → ackOf cols s = "" ∧ ackOf cols d = "" := by
      intro none
      unfold ackOf Facts.within
      rw [none]
      exact ⟨rfl, rfl⟩
    obtain ⟨ofSource, ofTarget, either⟩ := ack_column (cols.contains .consumerAckStatus) absent agree
    have read (m : Merged) := @within_set cols d m
    refine ⟨⟨?_, ?_, ?_, ?_, ?_, ?_, ?_⟩, ⟨?_, ?_, ?_, ?_, ?_, ?_, ?_⟩, ?_⟩
    all_goals
      try unfold ackOf
      rw [read]
    · exact notify.1
    · exact wake.1
    · exact notifyAt.1
    · exact wakeAt.1
    · exact ackAt.1
    · exact updatedAt.1
    · exact ofSource
    · exact notify.2
    · exact wake.2
    · exact notifyAt.2
    · exact wakeAt.2
    · exact ackAt.2
    · exact updatedAt.2
    · exact ofTarget
    · exact either

variable {env : BoardEnv} {dst token : String} {done : List String}

/-- What has become of a task and thread, after the source channels in `done`. -/
structure LaneMerged (parseInt : String → Option Int) (cols : List MergeCol) (dst : String) (done : List String)
    (before after : String → Option Facts) : Prop where
  cleared : ∀ chat ∈ done, after chat = none
  frame : ∀ chat, chat ∉ dst :: done → after chat = before chat
  covers : ∀ chat ∈ dst :: done, ∀ f, before chat = some f → ∃ f', after dst = some f' ∧ Covers parseInt cols f' f
  acked : ∀ f', after dst = some f' → ∃ chat ∈ dst :: done, ∃ f, before chat = some f ∧ ackOf cols f = ackOf cols f'

theorem LaneMerged.nil (before : String → Option Facts) : LaneMerged parseInt cols dst [] before before where
  cleared := fun _ mem => nomatch mem
  frame := fun _ _ => rfl
  covers := by
    intro chat mem f found
    rw [List.mem_singleton.mp mem] at found
    exact ⟨f, found, .refl f⟩
  acked := fun f' found => ⟨dst, List.mem_cons_self, f', found, rfl⟩

/-- A source channel that has nothing there leaves the task and thread as they are. -/
theorem LaneMerged.skip {before after : String → Option Facts} (h : LaneMerged parseInt cols dst done before after)
    (apart : token ≠ dst) (new : token ∉ done) (absent : before token = none) :
    LaneMerged parseInt cols dst (token :: done) before after where
  cleared := by
    intro chat mem
    rcases List.mem_cons.mp mem with rfl | earlier
    · rw [h.frame chat (by simp [apart, new])]
      exact absent
    · exact h.cleared chat earlier
  frame := fun chat off => h.frame chat fun mem => off (by
    rcases List.mem_cons.mp mem with rfl | earlier
    · exact List.mem_cons_self
    · exact List.mem_cons_of_mem _ (List.mem_cons_of_mem _ earlier))
  covers := by
    intro chat mem f found
    rcases List.mem_cons.mp mem with rfl | later
    · exact h.covers chat List.mem_cons_self f found
    · rcases List.mem_cons.mp later with rfl | earlier
      · rw [absent] at found
        cases found
      · exact h.covers chat (List.mem_cons_of_mem _ earlier) f found
  acked := by
    intro f' found
    obtain ⟨chat, mem, f, was, same⟩ := h.acked f' found
    refine ⟨chat, ?_, f, was, same⟩
    rcases List.mem_cons.mp mem with rfl | earlier
    · exact List.mem_cons_self
    · exact List.mem_cons_of_mem _ (List.mem_cons_of_mem _ earlier)

/-- A source channel whose receipt is re-keyed or merged. -/
theorem LaneMerged.move {before after after' : String → Option Facts} {lane : String × String} {a : Action}
    (h : LaneMerged parseInt cols dst done before after) (apart : token ≠ dst) (new : token ∉ done) (target : dst ∉ done)
    (present : (before token).isSome = true) (planned : planAction parseInt cols lane (after token) (after dst) = .ok a)
    (result : after' dst = a.result cols (after token) (after dst)) (source : after' token = none)
    (others : ∀ chat, chat ≠ token → chat ≠ dst → after' chat = after chat) :
    LaneMerged parseInt cols dst (token :: done) before after' := by
  obtain ⟨s, was⟩ := Option.isSome_iff_exists.mp present
  have standing : after token = some s := (h.frame token (by simp [apart, new])).trans was
  have reached : ∃ f', after' dst = some f' ∧ Covers parseInt cols f' s ∧
      (∀ d, after dst = some d → Covers parseInt cols f' d) ∧
      (ackOf cols f' = ackOf cols s ∨ ∃ d, after dst = some d ∧ ackOf cols f' = ackOf cols d) := by
    unfold planAction at planned
    cases there : after dst with
    | none =>
      rw [there] at planned
      cases planned
      refine ⟨s, result.trans standing, .refl s, fun d found => ?_, .inl rfl⟩
      cases found
    | some d =>
      rw [there, standing, Option.map_some, Option.getD_some] at planned
      dsimp only at planned
      cases merging : mergeReceiptFacts parseInt lane.1 lane.2 (s.within cols) (d.within cols) with
      | error e =>
        rw [merging] at planned
        cases planned
      | ok m =>
        rw [merging] at planned
        cases planned
        obtain ⟨ofSource, ofTarget, ack⟩ := merge_covers merging
        refine ⟨d.set cols m, ?_, ofSource, fun d' found => ?_, ?_⟩
        · rw [result, there]
          rfl
        · cases found
          exact ofTarget
        · rcases ack with same | same
          · exact .inl same
          · exact .inr ⟨d, rfl, same⟩
  obtain ⟨f', now, ofSource, ofTarget, ack⟩ := reached
  constructor
  · intro chat mem
    rcases List.mem_cons.mp mem with rfl | earlier
    · exact source
    · have offTarget : chat ≠ dst := fun same => target (same ▸ earlier)
      have offSource : chat ≠ token := fun same => new (same ▸ earlier)
      rw [others chat offSource offTarget]
      exact h.cleared chat earlier
  · intro chat off
    simp only [List.mem_cons, not_or] at off
    rw [others chat off.2.1 off.1]
    exact h.frame chat (by simp [off])
  · intro chat mem f found
    refine ⟨f', now, ?_⟩
    have older (earlier : chat ∈ dst :: done) : Covers parseInt cols f' f := by
      obtain ⟨d, there, covers⟩ := h.covers chat earlier f found
      exact (ofTarget d there).trans covers
    rcases List.mem_cons.mp mem with rfl | later
    · exact older List.mem_cons_self
    · rcases List.mem_cons.mp later with rfl | earlier
      · cases was.symm.trans found
        exact ofSource
      · exact older (List.mem_cons_of_mem _ earlier)
  · intro g found
    cases now.symm.trans found
    rcases ack with same | ⟨d, there, same⟩
    · exact ⟨token, List.mem_cons_of_mem _ List.mem_cons_self, s, was, same.symm⟩
    · obtain ⟨chat, mem, f, stood, own⟩ := h.acked d there
      refine ⟨chat, ?_, f, stood, own.trans same.symm⟩
      rcases List.mem_cons.mp mem with rfl | earlier
      · exact List.mem_cons_self
      · exact List.mem_cons_of_mem _ (List.mem_cons_of_mem _ earlier)

/-- Every receipt has a thread. -/
def BoardDb.Threaded (db : BoardDb) : Prop := ∀ r ∈ db.receipts, r.threadId ≠ none

theorem ReceiptsKept.threaded {chats : List String} {t t' : Txn} (h : ReceiptsKept chats t t') (before : t.db.Threaded) :
    t'.db.Threaded := by
  intro r mem none
  have same := h.kept (fun r => r.threadId.isNone) fun r isNone lane chat _ => by
    rw [Bool.eq_false_iff]
    intro has
    rw [(hasKey_discord.mp has).2.2] at isNone
    cases isNone
  have inside : r ∈ t'.db.receipts.filter fun r => r.threadId.isNone := List.mem_filter.mpr ⟨mem, by rw [none]; rfl⟩
  rw [same] at inside
  exact before r (List.mem_filter.mp inside).1 none

/-- What the source channels, one after the other, make of every task and thread. -/
theorem migrateReceipts_merge {tokens : List String} {t u t' : Txn} (single : tokens.Nodup) (target : dst ∉ tokens)
    (new : ∀ token ∈ tokens, token ∉ done) (off : dst ∉ done) (keyed : u.db.Keyed) (threaded : u.db.Threaded)
    (columns : u.db.receiptCols = t.db.receiptCols)
    (merged : ∀ lane, LaneMerged parseInt t.db.receiptCols dst done (t.db.factsAt lane) (u.db.factsAt lane))
    (h : runScript (migrateReceipts parseInt env dst) tokens u = .ok t') :
    ∃ all, (∀ token, token ∈ all ↔ token ∈ tokens ∨ token ∈ done) ∧
      ∀ lane, LaneMerged parseInt t.db.receiptCols dst all (t.db.factsAt lane) (t'.db.factsAt lane) := by
  induction tokens generalizing u done with
  | nil =>
    cases h
    exact ⟨done, fun _ => by simp, merged⟩
  | cons token rest ih =>
    unfold runScript at h
    cases first : migrateReceipts parseInt env dst token u with
    | error e =>
      rw [first] at h
      cases h
    | ok v =>
      rw [first] at h
      unfold migrateReceipts at first
      rw [List.nodup_cons] at single
      have apart : token ≠ dst := fun same => target (same ▸ List.mem_cons_self)
      have fresh := new token List.mem_cons_self
      have among : ∀ r ∈ u.db.receipts, r.discord token = true → r.threadId ≠ none := fun r mem _ => threaded r mem
      have channel := migrateReceipts_moves apart (channelReceipts_nodup keyed among) first
      have kept : ReceiptsKept [token, dst] u v := migrateReceipts_kept apart (by simp) (by simp) first
      have still : v.db.Threaded := kept.threaded threaded
      have next : ∀ lane, LaneMerged parseInt t.db.receiptCols dst (token :: done) (t.db.factsAt lane)
          (v.db.factsAt lane) := by
        intro lane
        have standing : u.db.factsAt lane token = t.db.factsAt lane token :=
          (merged lane).frame token (by simp [apart, fresh])
        cases present : (t.db.factsAt lane token).isSome with
        | false =>
          have absent : t.db.factsAt lane token = none := by simpa using present
          have same : v.db.factsAt lane = u.db.factsAt lane := by
            funext chat
            refine channel.unmoved lane (fun key mem is => ?_) chat
            have found := (lane_of_channel among).mp ⟨key, mem, is⟩
            rw [standing, present] at found
            cases found
          rw [same]
          exact (merged lane).skip apart fresh absent
        | true =>
          have found : (u.db.factsAt lane token).isSome = true := by rw [standing, present]
          obtain ⟨key, mem, rfl⟩ := (lane_of_channel among).mpr found
          obtain ⟨source, a, planned, result⟩ := channel.moved key mem
          rw [columns] at planned result
          refine (merged (laneOf key)).move apart fresh off present planned result source fun chat offSource offTarget => ?_
          exact kept.frame _ chat (by simp [offSource, offTarget])
      obtain ⟨all, members, lanes⟩ := ih single.2 (fun mem => target (List.mem_cons_of_mem _ mem))
        (fun other mem => by
          simp only [List.mem_cons, not_or]
          exact ⟨fun same => single.1 (same ▸ mem), new other (List.mem_cons_of_mem _ mem)⟩)
        (by simp only [List.mem_cons, not_or]; exact ⟨Ne.symm apart, off⟩) (kept.keyed keyed) still
        (kept.keeps.2.1.trans columns) next h
      refine ⟨all, fun other => ?_, lanes⟩
      rw [members, List.mem_cons, List.mem_cons]
      tauto

end

section

variable {parseInt : String → Option Int} {env : BoardEnv} {dst token : String} {tokens : List String} {t t' : Txn}

theorem migrateOrigins_ok (h : migrateOrigins env dst token t = .ok t') :
    t'.db = (BoardWrite.migrateOrigins dst token).apply t.db ∧ t'.actions = t.actions := by
  unfold migrateOrigins at h
  obtain ⟨db, written, h⟩ := bind_ok' h
  cases h
  exact ⟨execute_ok written, rfl⟩

theorem deleteSubs_ok (h : deleteSubs env token t = .ok t') :
    t'.db = (BoardWrite.deleteSubs token).apply t.db ∧ t'.actions = t.actions := by
  unfold deleteSubs at h
  dsimp only at h
  split at h
  next none =>
    cases h
    refine ⟨?_, rfl⟩
    unfold BoardWrite.apply
    dsimp only
    rw [Option.isNone_iff_eq_none.mp none, Option.map_none, ← Option.isNone_iff_eq_none.mp none]
  next =>
    obtain ⟨db, written, h⟩ := bind_ok' h
    cases h
    exact ⟨execute_ok written, rfl⟩

def migratedOrigin (dst : String) (tokens : List String) (o : OriginRow) : OriginRow :=
  if o.platform = "discord" ∧ o.chatId ∈ tokens then { o with chatId := dst } else o

def keptSub (tokens : List String) (s : SubRow) : Bool := !(s.platform = "discord" && tokens.contains s.chatId)

theorem originRun_ok (target : dst ∉ tokens) (h : runScript (migrateOrigins env dst) tokens t = .ok t') :
    t'.db = { t.db with origins := t.db.origins.map (migratedOrigin dst tokens) } ∧ t'.actions = t.actions := by
  induction tokens generalizing t with
  | nil =>
    cases h
    have same : migratedOrigin dst [] = id := funext fun o => if_neg fun both => nomatch both.2
    rw [same, List.map_id]
    exact ⟨rfl, rfl⟩
  | cons token rest ih =>
    unfold runScript at h
    cases first : migrateOrigins env dst token t with
    | error e =>
      rw [first] at h
      cases h
    | ok u =>
      rw [first] at h
      obtain ⟨db, acted⟩ := migrateOrigins_ok first
      obtain ⟨last, acts⟩ := ih (fun mem => target (List.mem_cons_of_mem _ mem)) h
      refine ⟨?_, acts.trans acted⟩
      rw [last, db]
      unfold BoardWrite.apply
      dsimp only
      rw [List.map_map]
      congr 1
      refine List.map_congr_left fun o _ => ?_
      have offRest : dst ∉ rest := fun mem => target (List.mem_cons_of_mem _ mem)
      unfold migratedOrigin OriginRow.discord Function.comp
      by_cases platform : o.platform = "discord" <;> by_cases here : o.chatId = token <;>
        simp [platform, here, offRest]

theorem subRun_ok (h : runScript (deleteSubs env) tokens t = .ok t') :
    t'.db = { t.db with subs := t.db.subs.map fun subs => subs.filter (keptSub tokens) } ∧ t'.actions = t.actions := by
  induction tokens generalizing t with
  | nil =>
    cases h
    have same : (fun subs : List SubRow => subs.filter (keptSub [])) = id := by
      funext subs
      exact List.filter_eq_self.mpr fun s _ => by simp [keptSub]
    rw [same, Option.map_id]
    exact ⟨rfl, rfl⟩
  | cons token rest ih =>
    unfold runScript at h
    cases first : deleteSubs env token t with
    | error e =>
      rw [first] at h
      cases h
    | ok u =>
      rw [first] at h
      obtain ⟨db, acted⟩ := deleteSubs_ok first
      obtain ⟨last, acts⟩ := ih h
      refine ⟨?_, acts.trans acted⟩
      rw [last, db]
      unfold BoardWrite.apply
      dsimp only
      rw [Option.map_map]
      congr 2
      funext subs
      dsimp only [Function.comp]
      rw [List.filter_filter]
      refine List.filter_congr fun s _ => ?_
      unfold keptSub SubRow.discord
      by_cases platform : s.platform = "discord" <;> by_cases here : s.chatId = token <;> simp [platform, here]

/-- The three passes of a transaction that commits. -/
theorem transactionBody_ok {db : BoardDb} (target : dst ∉ tokens) (h : transactionBody parseInt env dst tokens db = .ok t) :
    ∃ u v : Txn, u.db = { db with origins := db.origins.map (migratedOrigin dst tokens) } ∧ u.actions = [] ∧
      runScript (migrateReceipts parseInt env dst) tokens u = .ok v ∧
      t.db = { v.db with subs := v.db.subs.map fun subs => subs.filter (keptSub tokens) } ∧ t.actions = v.actions := by
  unfold transactionBody at h
  obtain ⟨u, first, h⟩ := bind_ok' h
  obtain ⟨v, second, h⟩ := bind_ok' h
  obtain ⟨w, third, h⟩ := bind_ok' h
  obtain ⟨last, committed, h⟩ := bind_ok' h
  cases h
  obtain ⟨origins, acted⟩ := originRun_ok target first
  obtain ⟨subs, acts⟩ := subRun_ok third
  refine ⟨u, v, origins, acted, second, ?_, acts⟩
  dsimp only
  rw [execute_ok committed, ← subs]
  rfl

end

/-- The rows of one task and thread under the source channels and the target. -/
def Among (chats : List String) (task thread : String) (r : ReceiptRow) : Prop :=
  r.platform = "discord" ∧ r.chatId ∈ chats ∧ r.taskId = task ∧ r.threadId = some thread

/-- A row of another channel or platform. -/
def ReceiptRow.outside (chats : List String) (r : ReceiptRow) : Bool :=
  !(r.platform = "discord" && chats.contains r.chatId)

/-- What is claimed of a board database when its transaction has committed. -/
structure Migrated (parseInt : String → Option Int) (dst : String) (tokens : List String) (db db' : BoardDb) : Prop where
  origins : db'.origins = db.origins.map (migratedOrigin dst tokens)
  subs : db'.subs = db.subs.map fun subs => subs.filter (keptSub tokens)
  noOrigin : ∀ o ∈ db'.origins, o.platform = "discord" → o.chatId ∉ tokens
  noReceipt : ∀ r ∈ db'.receipts, r.platform = "discord" → r.chatId ∉ tokens
  noSub : ∀ subs, db'.subs = some subs → ∀ s ∈ subs, s.platform = "discord" → s.chatId ∉ tokens
  merged : ∀ task thread, (∃ r ∈ db.receipts, Among (dst :: tokens) task thread r) →
    ∃ r', db'.receipts.filter (·.hasKey task dst thread) = [r'] ∧
      (∀ r ∈ db.receipts, Among (dst :: tokens) task thread r → Covers parseInt db.receiptCols r'.facts r.facts) ∧
      ∃ r ∈ db.receipts, Among (dst :: tokens) task thread r ∧ ackOf db.receiptCols r.facts = ackOf db.receiptCols r'.facts
  others : db'.receipts.filter (·.outside (dst :: tokens)) = db.receipts.filter (·.outside (dst :: tokens))

section

variable {parseInt : String → Option Int} {env : BoardEnv} {dst : String} {tokens : List String} {db : BoardDb}

theorem filter_single {α : Type} {p : α → Bool} {l : List α} {a : α} (nodup : l.Nodup) (mem : a ∈ l) (holds : p a = true)
    (only : ∀ x ∈ l, p x = true → x = a) : l.filter p = [a] := by
  induction l with
  | nil => cases mem
  | cons x rest ih =>
    rw [List.nodup_cons] at nodup
    rcases List.mem_cons.mp mem with rfl | later
    · have none : rest.filter p = [] := by
        refine List.filter_eq_nil_iff.mpr fun y inside py => nodup.1 ?_
        rw [← only y (List.mem_cons_of_mem _ inside) py]
        exact inside
      rw [List.filter_cons_of_pos holds, none]
    · have off : ¬p x = true := by
        intro px
        have same := only x List.mem_cons_self px
        exact nodup.1 (same ▸ later)
      rw [List.filter_cons_of_neg off]
      exact ih nodup.2 later fun y inside => only y (List.mem_cons_of_mem _ inside)

theorem factsAt_row {lane : String × String} {chat : String} {f : Facts} (h : db.factsAt lane chat = some f) :
    ∃ r ∈ db.receipts, r.hasKey lane.1 chat lane.2 = true ∧ r.facts = f := by
  unfold BoardDb.factsAt at h
  obtain ⟨r, found, rfl⟩ := Option.map_eq_some_iff.mp h
  have has := List.find?_some found
  exact ⟨r, List.mem_of_find?_eq_some found, has, rfl⟩

/-- The target is none of the channels that are migrated, and these are different. -/
theorem validated_tokens {T : PyText} (letters : T.isDigit 'r' = false ∧ T.isDigit '#' = false) {fromId toId : String}
    (valid : validateMigrationInputs T fromId toId = none) :
    (sourceMatchTokens T fromId).Nodup ∧ target T toId ∉ sourceMatchTokens T fromId := by
  unfold validateMigrationInputs at valid
  dsimp only at valid
  split at valid
  · cases valid
  next digits =>
  split at valid
  · cases valid
  split at valid
  · cases valid
  next apart =>
    have digit : ∀ c ∈ (target T toId).toList, T.isDigit c = true := by
      simp only [Bool.not_eq_true', Bool.not_eq_false, isDigits, Bool.and_eq_true, List.all_eq_true] at digits
      exact digits.2
    unfold sourceMatchTokens
    dsimp only
    split
    · refine ⟨by decide, fun mem => ?_⟩
      simp only [researchSourceAliases, List.mem_cons, List.not_mem_nil, or_false] at mem
      rcases mem with same | same
      · have hash := digit '#' (by rw [same]; decide)
        rw [letters.2] at hash
        cases hash
      · have letter := digit 'r' (by rw [same]; decide)
        rw [letters.1] at letter
        cases letter
    · split
      · exact ⟨.nil, fun mem => nomatch mem⟩
      · refine ⟨List.nodup_singleton _, fun mem => apart ?_⟩
        exact (List.mem_singleton.mp mem).symm

theorem receiptRun_kept {u v : Txn} (target : dst ∉ tokens)
    (h : runScript (migrateReceipts parseInt env dst) tokens u = .ok v) : ReceiptsKept (dst :: tokens) u v := by
  refine runScript_keeps (P := fun w => ReceiptsKept (dst :: tokens) u w) (fun token mem w w' step kept => ?_) h
    (.refl _ u)
  have apart : token ≠ dst := fun same => target (same ▸ mem)
  exact kept.trans (migrateReceipts_kept apart (List.mem_cons_of_mem _ mem) List.mem_cons_self step)

theorem discord_iff {r : ReceiptRow} {chat : String} : r.discord chat = true ↔ r.platform = "discord" ∧ r.chatId = chat := by
  simp [ReceiptRow.discord]

/-- A row of the group is found under its channel. -/
theorem Among.factsAt (keyed : db.Keyed) {chats : List String} {task thread : String} {r : ReceiptRow}
    (h : Among chats task thread r) (mem : r ∈ db.receipts) : db.factsAt (task, thread) r.chatId = some r.facts := by
  obtain ⟨platform, _, own, there⟩ := h
  have has : r.hasKey task r.chatId thread = true :=
    (@hasKey_discord r.chatId r (task, thread)).mpr ⟨discord_iff.mpr ⟨platform, rfl⟩, own, there⟩
  unfold BoardDb.factsAt
  rw [@factsAt_of_mem db (task, thread) r.chatId keyed r mem has]
  rfl

/-- What a transaction that commits leaves. -/
theorem transaction_migrates {t : Txn} (single : tokens.Nodup) (target : dst ∉ tokens) (keyed : db.Keyed)
    (threaded : db.Threaded) (h : transactionBody parseInt env dst tokens db = .ok t) :
    Migrated parseInt dst tokens db t.db := by
  obtain ⟨u, v, origins, _, receipts, last, _⟩ := transactionBody_ok target h
  have sameReceipts : u.db.receipts = db.receipts := by rw [origins]
  have sameColumns : u.db.receiptCols = db.receiptCols := by rw [origins]
  have keyedU : u.db.Keyed := by
    unfold BoardDb.Keyed
    rw [sameReceipts]
    exact keyed
  have threadedU : u.db.Threaded := by
    unfold BoardDb.Threaded
    rw [sameReceipts]
    exact threaded
  have sameFacts (lane : String × String) (chat : String) : u.db.factsAt lane chat = db.factsAt lane chat := by
    unfold BoardDb.factsAt
    rw [sameReceipts]
  have kept := receiptRun_kept target receipts
  have keyedV := kept.keyed keyedU
  have threadedV := kept.threaded threadedU
  obtain ⟨all, members, lanes⟩ := migrateReceipts_merge (t := u) single target (fun _ _ => List.not_mem_nil)
    List.not_mem_nil keyedU threadedU rfl (fun lane => .nil _) receipts
  have inAll (token : String) : token ∈ all ↔ token ∈ tokens := by simp [members]
  have inGroup (chat : String) : chat ∈ dst :: all ↔ chat ∈ dst :: tokens := by simp [inAll]
  rw [last]
  constructor
  · dsimp only
    rw [kept.keeps.1, origins]
  · dsimp only
    rw [kept.keeps.2.2, origins]
  · intro o mem platform among
    dsimp only at mem
    rw [kept.keeps.1, origins] at mem
    obtain ⟨old, _, rfl⟩ := List.mem_map.mp mem
    unfold migratedOrigin at platform among
    split at among
    · exact target among
    next other =>
      rw [if_neg other] at platform
      exact other ⟨platform, among⟩
  · intro r mem platform among
    obtain ⟨thread, there⟩ := Option.ne_none_iff_exists'.mp (threadedV r mem)
    have has : r.hasKey r.taskId r.chatId thread = true :=
      (@hasKey_discord r.chatId r (r.taskId, thread)).mpr ⟨discord_iff.mpr ⟨platform, rfl⟩, rfl, there⟩
    have found : (v.db.factsAt (r.taskId, thread) r.chatId).isSome = true := factsAt_isSome.mpr ⟨r, mem, has⟩
    rw [(lanes (r.taskId, thread)).cleared r.chatId ((inAll _).mpr among)] at found
    cases found
  · intro subs is s mem platform among
    dsimp only at is
    obtain ⟨old, _, rfl⟩ := Option.map_eq_some_iff.mp is
    have stays := (List.mem_filter.mp mem).2
    simp [keptSub, platform, among] at stays
  · rintro task thread ⟨r₀, mem₀, among₀⟩
    have lane := lanes (task, thread)
    have before (r : ReceiptRow) (mem : r ∈ db.receipts) (among : Among (dst :: tokens) task thread r) :
        u.db.factsAt (task, thread) r.chatId = some r.facts := by
      rw [sameFacts]
      exact among.factsAt keyed mem
    obtain ⟨f', now, _⟩ := lane.covers r₀.chatId ((inGroup _).mpr among₀.2.1) r₀.facts (before r₀ mem₀ among₀)
    obtain ⟨r', mem', has', rfl⟩ := factsAt_row now
    refine ⟨r', ?_, fun r mem among => ?_, ?_⟩
    · refine filter_single (List.Nodup.of_map _ keyedV) mem' has' fun x inside has => ?_
      have keys := (@hasKey_iff (task, thread) dst x).mp has
      exact List.inj_on_of_nodup_map keyedV inside mem' (keys.trans ((@hasKey_iff (task, thread) dst r').mp has').symm)
    · obtain ⟨g, again, covers⟩ := lane.covers r.chatId ((inGroup _).mpr among.2.1) r.facts (before r mem among)
      cases now.symm.trans again
      rw [sameColumns] at covers
      exact covers
    · obtain ⟨chat, inside, f, was, ack⟩ := lane.acked _ now
      rw [sameFacts] at was
      obtain ⟨r, mem, has, rfl⟩ := factsAt_row was
      obtain ⟨channel, own, there⟩ := hasKey_discord.mp has
      rw [discord_iff] at channel
      refine ⟨r, mem, ⟨channel.1, channel.2 ▸ (inGroup _).mp inside, own, there⟩, ?_⟩
      rw [sameColumns] at ack
      exact ack
  · have same := kept.kept (·.outside (dst :: tokens)) fun r out lane chat mem => by
      rw [Bool.eq_false_iff]
      intro has
      obtain ⟨platform, rfl⟩ := discord_iff.mp (hasKey_discord.mp has).1
      simp only [ReceiptRow.outside, platform, decide_true, Bool.true_and, Bool.not_eq_true'] at out
      rw [List.contains_iff_mem.mpr mem] at out
      cases out
    dsimp only
    rw [same, sameReceipts]

/-- A database without a source row is left as it is. -/
theorem transaction_idle {t : Txn} (target : dst ∉ tokens)
    (origins : ∀ o ∈ db.origins, o.platform = "discord" → o.chatId ∉ tokens)
    (receipts : ∀ r ∈ db.receipts, r.platform = "discord" → r.chatId ∉ tokens)
    (subs : ∀ subs, db.subs = some subs → ∀ s ∈ subs, s.platform = "discord" → s.chatId ∉ tokens)
    (h : transactionBody parseInt env dst tokens db = .ok t) : t.db = db := by
  obtain ⟨u, v, first, _, second, last, _⟩ := transactionBody_ok target h
  have unmoved : u.db = db := by
    have same : db.origins.map (migratedOrigin dst tokens) = db.origins := by
      refine Eq.trans (List.map_congr_left fun o mem => ?_) (List.map_id _)
      exact if_neg fun both => origins o mem both.1 both.2
    rw [first, same]
  have idle : v.db = db := by
    refine runScript_keeps (P := fun w : Txn => w.db = db) (fun token mem w w' step is => ?_) second unmoved
    have none : w.db.channelReceipts token = [] := by
      rw [List.eq_nil_iff_forall_not_mem]
      intro key inside
      obtain ⟨r, there, channel, _⟩ := mem_channelReceipts.mp inside
      rw [discord_iff] at channel
      rw [is] at there
      exact receipts r there channel.1 (channel.2 ▸ mem)
    unfold migrateReceipts at step
    rw [none] at step
    cases step
    exact is
  have kept : db.subs.map (fun subs => subs.filter (keptSub tokens)) = db.subs := by
    cases table : db.subs with
    | none => rfl
    | some rows =>
      rw [Option.map_some, Option.some.injEq]
      refine List.filter_eq_self.mpr fun s mem => ?_
      have off := subs rows table s mem
      unfold keptSub
      by_cases platform : s.platform = "discord"
      · simp [platform, off platform]
      · simp [platform]
  rw [last, idle, kept]

end

/-- Once its transaction commits, a board database is migrated and a second run changes nothing; whatever the
transaction raises, the database is as it was. -/
theorem board_transaction_post_state (T : PyText) (letters : T.isDigit 'r' = false ∧ T.isDigit '#' = false)
    (parseInt : String → Option Int) (env : BoardEnv) (fromId toId : String)
    (valid : validateMigrationInputs T fromId toId = none) (db : BoardDb) (keyed : db.Keyed) (threaded : db.Threaded) :
    let tokens := sourceMatchTokens T fromId
    let dst := target T toId
    let outcome := applyBoardTransaction parseInt env dst tokens db
    (∀ t, outcome.1 = .ok t → Migrated parseInt dst tokens db outcome.2 ∧
      ∀ again : BoardEnv, (applyBoardTransaction parseInt again dst tokens outcome.2).2 = outcome.2) ∧
    ∀ e, outcome.1 = .error e → outcome.2 = db := by
  intro tokens dst outcome
  obtain ⟨single, target⟩ := validated_tokens letters valid
  constructor
  · intro t committed
    have body : transactionBody parseInt env dst tokens db = .ok t ∧ outcome.2 = t.db := by
      unfold outcome applyBoardTransaction at committed ⊢
      split at committed
      · cases committed
      · cases committed
      next granted =>
        split at committed
        · cases committed
        next t' ran =>
          cases committed
          exact ⟨ran, rfl⟩
    obtain ⟨ran, left⟩ := body
    have migrated := transaction_migrates single target keyed threaded ran
    rw [left]
    refine ⟨migrated, fun again => ?_⟩
    unfold applyBoardTransaction
    split
    · rfl
    · rfl
    · split
      · rfl
      next t' rerun =>
        exact transaction_idle target migrated.noOrigin migrated.noReceipt migrated.noSub rerun
  · intro e raised
    unfold outcome applyBoardTransaction at raised ⊢
    split
    · rfl
    · rfl
    next granted =>
      rw [granted] at raised
      dsimp only at raised
      cases ran : transactionBody parseInt env dst tokens db with
      | error _ => rfl
      | ok t =>
        rw [ran] at raised
        cases raised

/-- One task called back under both aliases. -/
def aliasBoard : BoardDb where
  origins := [{ taskId := "t1", platform := "discord", chatId := "#research", threadId := some "" }]
  receipts := [
    { taskId := "t1", platform := "discord", chatId := "#research", threadId := some ""
      facts := { notifyDeliveryStatus := .text "delivered" } },
    { taskId := "t1", platform := "discord", chatId := "research", threadId := some ""
      facts := { activeWakeStatus := .text "accepted" } }]
  subs := some [{ taskId := "t1", platform := "discord", chatId := "#research", threadId := some "" }]

theorem board_transaction_post_state_aliases :
    let tokens := sourceMatchTokens asciiText "#research"
    let outcome := applyBoardTransaction String.toInt? {} (target asciiText "123") tokens aliasBoard
    (∀ t, outcome.1 = .ok t → Migrated String.toInt? (target asciiText "123") tokens aliasBoard outcome.2 ∧
      ∀ again : BoardEnv,
        (applyBoardTransaction String.toInt? again (target asciiText "123") tokens outcome.2).2 = outcome.2) ∧
    ∀ e, outcome.1 = .error e → outcome.2 = aliasBoard :=
  board_transaction_post_state asciiText (by decide) String.toInt? {} "#research" "123" (by decide) aliasBoard
    (by unfold BoardDb.Keyed; decide) (by unfold BoardDb.Threaded; decide)

end AgentflowHermes.Origins
