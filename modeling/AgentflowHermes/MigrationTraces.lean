import AgentflowHermes.DiscordEdges
import AgentflowHermes.RepairProofs

namespace AgentflowHermes.Origins

open ScriptRuns

/-- A receipt without a thread is merged as if it said nothing. -/
def Unsettled (parseInt : String → Option Int) (dst : String) (db : BoardDb) (task : String) : Prop :=
  ∃ d m, db.factsAt (task, "") dst = some d ∧ mergeReceiptFacts parseInt task "" {} (d.within db.receiptCols) = .ok m ∧
    d.set db.receiptCols m ≠ d

/-- Rows of a source channel that a transaction changes, or for which it changes a row of the target. -/
def Touched (parseInt : String → Option Int) (dst : String) (tokens : List String) (db : BoardDb) : Prop :=
  (∃ o ∈ db.origins, o.platform = "discord" ∧ o.chatId ∈ tokens) ∨
    (∃ s ∈ db.subs.getD [], s.platform = "discord" ∧ s.chatId ∈ tokens) ∨
    ∃ r ∈ db.receipts, r.platform = "discord" ∧ r.chatId ∈ tokens ∧
      (r.threadId ≠ none ∨ Unsettled parseInt dst db r.taskId)

section

variable {parseInt : String → Option Int} {env : BoardEnv} {dst token : String} {tokens : List String} {db : BoardDb}
  {lane : String × String} {t t' : Txn}

theorem source_stays {keys : List (String × Option String)} (apart : token ≠ dst)
    (none : t.db.factsAt lane token = none) (h : runScript (migrateReceipt parseInt env dst token) keys t = .ok t') :
    t'.db.factsAt lane token = Option.none := by
  refine runScript_keeps (P := fun u : Txn => u.db.factsAt lane token = Option.none) (fun key _ u v step is => ?_) h none
  obtain ⟨a, moved⟩ := migrateReceipt_moves apart step
  by_cases own : lane = (key.1, threadText key.2)
  · rw [own]
    exact moved.source
  · rw [moved.frame lane token fun both => own both.1]
    exact is

theorem channelKeys_source {keys : List (String × Option String)} (apart : token ≠ dst) (mem : lane ∈ keys.map laneOf)
    (h : runScript (migrateReceipt parseInt env dst token) keys t = .ok t') : t'.db.factsAt lane token = none := by
  induction keys generalizing t with
  | nil => cases mem
  | cons key rest ih =>
    unfold runScript at h
    cases first : migrateReceipt parseInt env dst token key t with
    | error e =>
      rw [first] at h
      cases h
    | ok u =>
      rw [first] at h
      obtain ⟨a, moved⟩ := migrateReceipt_moves apart first
      rcases List.mem_cons.mp mem with own | later
      · exact source_stays apart (own ▸ moved.source) h
      · exact ih later h

/-- A source channel has nothing left under any task and thread. -/
theorem channel_source (apart : token ≠ dst) (h : migrateReceipts parseInt env dst token t = .ok t') :
    t'.db.factsAt lane token = none := by
  unfold migrateReceipts at h
  cases before : (t.db.factsAt lane token).isSome with
  | true =>
    obtain ⟨r, mem, has⟩ := factsAt_isSome.mp before
    obtain ⟨own, task, thread⟩ := hasKey_discord.mp has
    refine channelKeys_source apart (List.mem_map.mpr ⟨(r.taskId, r.threadId), ?_, ?_⟩) h
    · exact mem_channelReceipts.mpr ⟨r, mem, own, rfl⟩
    · simp [laneOf, threadText, task, thread]
  | false => exact source_stays apart (by simpa using before) h

theorem receiptRun_source {u v : Txn} (single : tokens.Nodup) (target : dst ∉ tokens)
    (h : runScript (migrateReceipts parseInt env dst) tokens u = .ok v) (mem : token ∈ tokens) :
    v.db.factsAt lane token = none := by
  induction tokens generalizing u with
  | nil => cases mem
  | cons first rest ih =>
    unfold runScript at h
    cases moved : migrateReceipts parseInt env dst first u with
    | error e =>
      rw [moved] at h
      cases h
    | ok w =>
      rw [moved] at h
      dsimp only at h
      rw [List.nodup_cons] at single
      have offRest : dst ∉ rest := fun inside => target (List.mem_cons_of_mem _ inside)
      have apart : first ≠ dst := fun same => target (same ▸ List.mem_cons_self)
      rcases List.mem_cons.mp mem with rfl | inside
      · have off : token ∉ dst :: rest := by
          rw [List.mem_cons, not_or]
          exact ⟨apart, single.1⟩
        rw [(receiptRun_kept offRest h).frame lane token off]
        exact channel_source apart moved
      · exact ih single.2 offRest h inside

/-- A receipt that is merged with nothing. -/
theorem merge_nothing {task thread : String} (f : Facts) :
    mergeReceiptFacts parseInt task thread {} f = .ok {
      notifyDeliveryStatus := f.notifyDeliveryStatus.shown, activeWakeStatus := f.activeWakeStatus.shown
      consumerAckStatus := f.consumerAckStatus.shown, notifyDeliveryAt := max 0 (f.notifyDeliveryAt.asInt parseInt)
      activeWakeAt := max 0 (f.activeWakeAt.asInt parseInt), consumerAckAt := max 0 (f.consumerAckAt.asInt parseInt)
      updatedAt := max 0 (f.updatedAt.asInt parseInt) } := by
  have strong (rank : String → Nat) (zero : rank "" = 0) (v : Value) : strongest rank .null v = v.shown := by
    unfold strongest
    rw [show Value.null.shown = "" from rfl, zero, if_neg (Nat.not_lt_zero _)]
  unfold mergeReceiptFacts
  dsimp only
  rw [if_neg fun both => both.1 rfl, strong notifyRank rfl, strong wakeRank rfl]
  have ack : (if f.consumerAckStatus.shown = "" then (Value.null).shown else f.consumerAckStatus.shown) =
      f.consumerAckStatus.shown := by
    split
    next empty => rw [empty]; rfl
    next => rfl
  rw [ack]
  rfl

/-- What was merged with nothing stays as it is when it is merged with nothing again. -/
theorem merge_nothing_again {task thread : String} {cols : List MergeCol} {d : Facts} {m m' : Merged}
    (h : mergeReceiptFacts parseInt task thread {} (d.within cols) = .ok m)
    (h' : mergeReceiptFacts parseInt task thread {} ((d.set cols m).within cols) = .ok m') :
    (d.set cols m).set cols m' = d.set cols m := by
  rw [merge_nothing, Except.ok.injEq] at h h'
  subst h h'
  rw [within_set]
  unfold Facts.set Facts.within
  dsimp only
  congr 1
  all_goals
    split
    · simp [Value.shown, Value.asInt]
    · rfl

theorem ReceiptMoved.settles {a : Action} {f : Facts} (h : ReceiptMoved parseInt dst token lane a t t')
    (none : t.db.factsAt lane token = none) (there : t.db.factsAt lane dst = some f) :
    ∃ m, mergeReceiptFacts parseInt lane.1 lane.2 {} (f.within t.db.receiptCols) = .ok m ∧
      t'.db.factsAt lane dst = some (f.set t.db.receiptCols m) := by
  have planned := h.planned
  have result := h.result
  rw [none, there] at planned result
  unfold planAction at planned
  dsimp only [Option.map_none, Option.getD_none] at planned
  cases merged : mergeReceiptFacts parseInt lane.1 lane.2 {} (f.within t.db.receiptCols) with
  | error e =>
    rw [merged] at planned
    cases planned
  | ok m =>
    rw [merged] at planned
    cases planned
    exact ⟨m, rfl, result⟩

/-- How far the receipts of one task without a thread have got, where its target said `d`, and says `d'` once one of them
is merged. -/
structure Settling (dst : String) (tokens : List String) (task : String) (cols : List MergeCol) (d d' : Facts) (done : Prop)
    (db : BoardDb) : Prop where
  sources : ∀ token ∈ tokens, db.factsAt (task, "") token = none
  cols : db.receiptCols = cols
  target : db.factsAt (task, "") dst = some d' ∨ (¬done ∧ db.factsAt (task, "") dst = some d)

section

variable {task : String} {cols : List MergeCol} {d : Facts} {m : Merged} {done : Prop}

theorem Settling.step {a : Action} (single : token ≠ dst) (inside : token ∈ tokens)
    (merged : mergeReceiptFacts parseInt task "" {} (d.within cols) = .ok m)
    (h : Settling dst tokens task cols d (d.set cols m) done t.db) (moved : ReceiptMoved parseInt dst token lane a t t')
    (target : dst ∉ tokens) : Settling dst tokens task cols d (d.set cols m) (done ∨ lane = (task, "")) t'.db := by
  have columns : t'.db.receiptCols = cols := moved.keeps.2.1.trans h.cols
  by_cases own : lane = (task, "")
  · subst own
    refine ⟨fun chat mem => ?_, columns, .inl ?_⟩
    · by_cases same : chat = token
      · rw [same]
        exact moved.source
      · have off : ¬((task, "") = (task, "") ∧ (chat = token ∨ chat = dst)) := by
          rintro ⟨_, rfl | rfl⟩
          · exact same rfl
          · exact target mem
        rw [moved.frame _ _ off]
        exact h.sources chat mem
    · rcases h.target with there | ⟨_, there⟩
      · obtain ⟨m', again, now⟩ := moved.settles (h.sources token inside) there
        rw [h.cols] at again now
        rw [now, merge_nothing_again merged again]
      · obtain ⟨m', again, now⟩ := moved.settles (h.sources token inside) there
        rw [h.cols] at again now
        cases merged.symm.trans again
        exact now
  · have frame (chat : String) : t'.db.factsAt (task, "") chat = t.db.factsAt (task, "") chat :=
      moved.frame _ _ fun both => own both.1.symm
    refine ⟨fun chat mem => by rw [frame]; exact h.sources chat mem, columns, ?_⟩
    rw [frame, or_iff_left own]
    exact h.target

theorem Settling.keys {keys : List (String × Option String)} (single : token ≠ dst) (inside : token ∈ tokens)
    (target : dst ∉ tokens) (merged : mergeReceiptFacts parseInt task "" {} (d.within cols) = .ok m)
    (h : Settling dst tokens task cols d (d.set cols m) done t.db)
    (run : runScript (migrateReceipt parseInt env dst token) keys t = .ok t') :
    Settling dst tokens task cols d (d.set cols m) (done ∨ (task, "") ∈ keys.map laneOf) t'.db := by
  induction keys generalizing t done with
  | nil =>
    cases run
    rw [List.map_nil, or_iff_left List.not_mem_nil]
    exact h
  | cons key rest ih =>
    unfold runScript at run
    cases first : migrateReceipt parseInt env dst token key t with
    | error e =>
      rw [first] at run
      cases run
    | ok u =>
      rw [first] at run
      obtain ⟨a, moved⟩ := migrateReceipt_moves single first
      have later := ih (h.step single inside merged moved target) run
      rw [or_assoc] at later
      rw [List.map_cons, List.mem_cons, eq_comm]
      exact later

theorem Settling.weaken {done' : Prop} {d' : Facts} (h : Settling dst tokens task cols d d' done db) (weaker : done' → done) :
    Settling dst tokens task cols d d' done' db where
  sources := h.sources
  cols := h.cols
  target := h.target.imp_right fun ⟨not, there⟩ => ⟨fun is => not (weaker is), there⟩

/-- The receipts without a thread are where they were. -/
theorem ReceiptsKept.threadless {chats : List String} (h : ReceiptsKept chats t t') :
    t'.db.receipts.filter (fun r => r.threadId.isNone) = t.db.receipts.filter fun r => r.threadId.isNone := by
  refine h.kept (fun r => r.threadId.isNone) fun r isNone lane chat _ => ?_
  rw [Bool.eq_false_iff]
  intro has
  rw [(hasKey_discord.mp has).2.2] at isNone
  cases isNone

/-- Once the channel of such a receipt is migrated, the target has been merged with nothing. -/
theorem Settling.run {rest : List String} (target : dst ∉ tokens) (sub : rest ⊆ tokens)
    (merged : mergeReceiptFacts parseInt task "" {} (d.within cols) = .ok m)
    (h : Settling dst tokens task cols d (d.set cols m) done t.db)
    (run : runScript (migrateReceipts parseInt env dst) rest t = .ok t') :
    Settling dst tokens task cols d (d.set cols m) (done ∨ ∃ r ∈ t.db.receipts, r.threadId = none ∧ r.taskId = task ∧
      r.platform = "discord" ∧ r.chatId ∈ rest) t'.db := by
  induction rest generalizing t done with
  | nil =>
    cases run
    exact h.weaken fun is => is.resolve_right fun ⟨_, _, _, _, _, mem⟩ => nomatch mem
  | cons token rest ih =>
    unfold runScript at run
    cases moved : migrateReceipts parseInt env dst token t with
    | error e =>
      rw [moved] at run
      cases run
    | ok w =>
      rw [moved] at run
      dsimp only at run
      have inside : token ∈ tokens := sub List.mem_cons_self
      have apart : token ≠ dst := fun same => target (same ▸ inside)
      have kept : ReceiptsKept [token, dst] t w := by
        unfold migrateReceipts at moved
        exact migrateReceipts_kept apart (by simp) (by simp) moved
      have first := h.keys apart inside target merged moved
      refine (ih (fun other mem => sub (List.mem_cons_of_mem _ mem)) first run).weaken ?_
      rintro (before | ⟨r, mem, none, own, platform, chat⟩)
      · exact .inl (.inl before)
      · rcases List.mem_cons.mp chat with here | later
        · refine .inl (.inr (List.mem_map.mpr ⟨(r.taskId, r.threadId), ?_, ?_⟩))
          · exact mem_channelReceipts.mpr ⟨r, mem, discord_iff.mpr ⟨platform, here⟩, rfl⟩
          · simp [laneOf, threadText, own, none]
        · refine .inr ⟨r, ?_, none, own, platform, later⟩
          have still : r ∈ t.db.receipts.filter fun r => r.threadId.isNone :=
            List.mem_filter.mpr ⟨mem, by rw [none]; rfl⟩
          rw [← kept.threadless] at still
          exact (List.mem_filter.mp still).1

end

/-- A receipt that stands under no thread and whose target has settled is migrated without a trace. -/
theorem migrateReceipt_idle {key : String × Option String} (keyed : t.db.Keyed)
    (none : t.db.factsAt (laneOf key) token = none)
    (settled : ∀ d m, t.db.factsAt (laneOf key) dst = some d →
      mergeReceiptFacts parseInt (laneOf key).1 (laneOf key).2 {} (d.within t.db.receiptCols) = .ok m →
        d.set t.db.receiptCols m = d)
    (h : migrateReceipt parseInt env dst token key t = .ok t') : t'.db = t.db := by
  have dict (chat : String) := @receiptRowDict_eq t.db (laneOf key) chat
  have absent (r : ReceiptRow) (mem : r ∈ t.db.receipts) : r.hasKey (laneOf key).1 token (laneOf key).2 = false :=
    factsAt_none none mem
  unfold migrateReceipt at h
  dsimp only at h
  rw [show key.1 = (laneOf key).1 from rfl, show threadText key.2 = (laneOf key).2 from rfl, dict, dict, none] at h
  cases goal : t.db.factsAt (laneOf key) dst with
  | none =>
    rw [goal] at h
    obtain ⟨db, written, h⟩ := bind_ok' h
    cases h
    dsimp only
    rw [execute_ok written]
    unfold BoardWrite.apply
    dsimp only
    have same : t.db.receipts.map (fun r => if r.hasKey (laneOf key).1 token (laneOf key).2 then { r with chatId := dst } else r) =
        t.db.receipts := by
      refine Eq.trans (List.map_congr_left fun r mem => ?_) (List.map_id _)
      rw [absent r mem]
      rfl
    rw [same]
  | some d =>
    rw [goal] at h
    dsimp only [Option.map_some, Option.map_none, Option.getD_none] at h
    obtain ⟨m, merged, h⟩ := bind_ok' h
    obtain ⟨db₁, first, h⟩ := bind_ok' h
    obtain ⟨db₂, second, h⟩ := bind_ok' h
    cases h
    dsimp only
    rw [execute_ok second, execute_ok first]
    have stays := settled d m goal merged
    have kept : t.db.receipts.map (fun r =>
        if r.hasKey (laneOf key).1 dst (laneOf key).2 then { r with facts := r.facts.set t.db.receiptCols m } else r) =
        t.db.receipts := by
      refine Eq.trans (List.map_congr_left fun r mem => ?_) (List.map_id _)
      split
      next has =>
        have found := factsAt_of_mem keyed mem has
        have facts : r.facts = d := by
          unfold BoardDb.factsAt at goal
          rw [found] at goal
          exact Option.some.inj goal
        rw [facts, stays, ← facts]
        rfl
      next => rfl
    have written : (BoardWrite.setFacts (laneOf key).1 dst (laneOf key).2 m).apply t.db = t.db := by
      unfold BoardWrite.apply
      dsimp only
      rw [kept]
    change (BoardWrite.deleteReceipt (laneOf key).1 token (laneOf key).2).apply
      ((BoardWrite.setFacts (laneOf key).1 dst (laneOf key).2 m).apply t.db) = t.db
    rw [written]
    unfold BoardWrite.apply
    dsimp only
    rw [List.filter_eq_self.mpr fun r mem => by rw [absent r mem]; rfl]

/-- Where no receipt of a source channel has a thread, none is found under one. -/
theorem threadless_source (none : ∀ r ∈ db.receipts, r.platform = "discord" → r.chatId ∈ tokens → r.threadId = none)
    (inside : token ∈ tokens) : db.factsAt lane token = Option.none := by
  cases found : (db.factsAt lane token).isSome with
  | false => simpa using found
  | true =>
    obtain ⟨r, mem, has⟩ := factsAt_isSome.mp found
    obtain ⟨own, _, thread⟩ := hasKey_discord.mp has
    rw [discord_iff] at own
    have absent := none r mem own.1 (own.2 ▸ inside)
    rw [absent] at thread
    cases thread

theorem touched_changes (single : tokens.Nodup) (target : dst ∉ tokens) (touched : Touched parseInt dst tokens db)
    (h : transactionBody parseInt env dst tokens db = .ok t) : t.db ≠ db := by
  intro same
  obtain ⟨u, v, origins, _, receipts, last, _⟩ := transactionBody_ok target h
  have kept := receiptRun_kept target receipts
  have receiptsU : u.db.receipts = db.receipts := by rw [origins]
  have receiptsV : v.db.receipts = db.receipts := by rw [← same, last]
  have facts (lane : String × String) (chat : String) : v.db.factsAt lane chat = db.factsAt lane chat := by
    unfold BoardDb.factsAt
    rw [receiptsV]
  rcases touched with ⟨o, mem, platform, chat⟩ | ⟨s, mem, platform, chat⟩ | ⟨r, mem, platform, chat, why⟩
  · have rows : t.db.origins = db.origins.map (migratedOrigin dst tokens) := by
      rw [last]
      dsimp only
      rw [kept.keeps.1, origins]
    rw [← same, rows] at mem
    obtain ⟨o', _, rfl⟩ := List.mem_map.mp mem
    unfold migratedOrigin at platform chat
    split at chat
    · exact target chat
    next other =>
      rw [if_neg other] at platform
      exact other ⟨platform, chat⟩
  · have rows : t.db.subs.getD [] = (db.subs.getD []).filter (keptSub tokens) := by
      rw [last]
      dsimp only
      rw [kept.keeps.2.2, origins]
      cases db.subs <;> rfl
    rw [← same, rows] at mem
    have stays := (List.mem_filter.mp mem).2
    simp [keptSub, platform, chat] at stays
  · have threadless : ∀ r ∈ db.receipts, r.platform = "discord" → r.chatId ∈ tokens → r.threadId = none := by
      intro x inside discord source
      by_contra some
      obtain ⟨thread, there⟩ := Option.ne_none_iff_exists'.mp some
      have has : x.hasKey x.taskId x.chatId thread = true :=
        (@hasKey_discord x.chatId x (x.taskId, thread)).mpr ⟨discord_iff.mpr ⟨discord, rfl⟩, rfl, there⟩
      have found : (db.factsAt (x.taskId, thread) x.chatId).isSome = true := factsAt_isSome.mpr ⟨x, inside, has⟩
      rw [← facts, receiptRun_source single target receipts source] at found
      cases found
    obtain ⟨d, m, there, merged, differ⟩ := why.resolve_left fun some => some (threadless r mem platform chat)
    have start : Settling dst tokens r.taskId db.receiptCols d (d.set db.receiptCols m) False u.db := by
      refine ⟨fun token inside => ?_, by rw [origins], .inr ⟨id, ?_⟩⟩
      · unfold BoardDb.factsAt
        rw [receiptsU]
        exact threadless_source threadless inside
      · unfold BoardDb.factsAt
        rw [receiptsU]
        exact there
    have settled := (start.run target (List.Subset.refl _) merged receipts).target
    rw [facts, there, receiptsU] at settled
    rcases settled with moved | ⟨not, _⟩
    · exact differ (Option.some.inj moved).symm
    · exact not (.inr ⟨r, mem, threadless r mem platform chat, rfl, platform, chat⟩)

theorem untouched_stays (target : dst ∉ tokens) (keyed : db.Keyed) (untouched : ¬Touched parseInt dst tokens db)
    (h : transactionBody parseInt env dst tokens db = .ok t) : t.db = db := by
  obtain ⟨u, v, origins, _, receipts, last, _⟩ := transactionBody_ok target h
  have idle {r : ReceiptRow} (mem : r ∈ db.receipts) (platform : r.platform = "discord") (chat : r.chatId ∈ tokens) :
      r.threadId = none ∧ ¬Unsettled parseInt dst db r.taskId := by
    have both : ¬(r.threadId ≠ none ∨ Unsettled parseInt dst db r.taskId) := fun why =>
      untouched (.inr (.inr ⟨r, mem, platform, chat, why⟩))
    rw [not_or, not_not] at both
    exact both
  have sameOrigins : db.origins.map (migratedOrigin dst tokens) = db.origins := by
    refine (List.map_congr_left fun o mem => ?_).trans (List.map_id _)
    exact if_neg fun source => untouched (.inl ⟨o, mem, source⟩)
  have start : u.db = db := by rw [origins, sameOrigins]
  have run : v.db = db := by
    refine runScript_keeps (P := fun w : Txn => w.db = db) (fun token inside w w' moved is => ?_) receipts start
    unfold migrateReceipts at moved
    refine runScript_keeps (P := fun x : Txn => x.db = db) (fun key mem x x' step now => ?_) moved is
    rw [is] at mem
    obtain ⟨r, row, own, rfl⟩ := mem_channelReceipts.mp mem
    rw [discord_iff] at own
    obtain ⟨none, settled⟩ := idle row own.1 (own.2 ▸ inside)
    have lane : laneOf (r.taskId, r.threadId) = (r.taskId, "") := by rw [none]; rfl
    have source : x.db.factsAt (laneOf (r.taskId, r.threadId)) token = Option.none := by
      rw [now]
      exact threadless_source (fun _ among platform chat => (idle among platform chat).1) inside
    refine (migrateReceipt_idle (now ▸ keyed) source (fun d m there merged => ?_) step).trans now
    rw [lane, now] at there merged
    rw [now]
    by_contra differ
    exact settled ⟨d, m, there, merged, differ⟩
  rw [last, run]
  cases table : db.subs with
  | none => rw [Option.map_none, ← table]
  | some subs =>
    have all : subs.filter (keptSub tokens) = subs := by
      refine List.filter_eq_self.mpr fun s mem => ?_
      have off : ¬(s.platform = "discord" ∧ s.chatId ∈ tokens) := fun source =>
        untouched (.inr (.inl ⟨s, by rw [table]; exact mem, source⟩))
      rw [not_and_or] at off
      simpa [keptSub] using off
    rw [Option.map_some, all, ← table]

end

end AgentflowHermes.Origins
