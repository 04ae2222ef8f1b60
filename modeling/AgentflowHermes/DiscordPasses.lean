import AgentflowHermes.DiscordMerges

namespace AgentflowHermes.Origins

open ScriptRuns

/-- The task and thread of a row, as the migration reads them. -/
def laneOf (key : String × Option String) : String × String := (key.1, threadText key.2)

/-- What the migration of receipts leaves alone, from whatever channels of `chats`. -/
structure ReceiptsKept (chats : List String) (t t' : Txn) : Prop where
  keeps : t'.db.origins = t.db.origins ∧ t'.db.receiptCols = t.db.receiptCols ∧ t'.db.subs = t.db.subs
  kept : ∀ p : ReceiptRow → Bool,
    (∀ r, p r = true → ∀ lane : String × String, ∀ chat ∈ chats, r.hasKey lane.1 chat lane.2 = false) →
      t'.db.receipts.filter p = t.db.receipts.filter p
  keyed : t.db.Keyed → t'.db.Keyed
  frame : ∀ lane, ∀ chat ∉ chats, t'.db.factsAt lane chat = t.db.factsAt lane chat

theorem ReceiptsKept.refl (chats : List String) (t : Txn) : ReceiptsKept chats t t :=
  ⟨⟨rfl, rfl, rfl⟩, fun _ _ => rfl, id, fun _ _ _ => rfl⟩

theorem ReceiptsKept.trans {chats : List String} {t t' t'' : Txn} (h : ReceiptsKept chats t t')
    (h' : ReceiptsKept chats t' t'') : ReceiptsKept chats t t'' where
  keeps := ⟨h'.keeps.1.trans h.keeps.1, h'.keeps.2.1.trans h.keeps.2.1, h'.keeps.2.2.trans h.keeps.2.2⟩
  kept := fun p out => (h'.kept p out).trans (h.kept p out)
  keyed := fun keyed => h'.keyed (h.keyed keyed)
  frame := fun lane chat off => (h'.frame lane chat off).trans (h.frame lane chat off)

section

variable {parseInt : String → Option Int} {env : BoardEnv} {token dst : String} {t t' : Txn}

theorem ReceiptMoved.receiptsKept {lane : String × String} {a : Action} {chats : List String}
    (h : ReceiptMoved parseInt dst token lane a t t') (source : token ∈ chats) (target : dst ∈ chats) :
    ReceiptsKept chats t t' where
  keeps := h.keeps
  kept := fun p out => h.kept p fun r inside => ⟨out r inside lane token source, out r inside lane dst target⟩
  keyed := h.keyed
  frame := by
    intro other chat off
    refine h.frame other chat fun ⟨_, among⟩ => off ?_
    rcases among with rfl | rfl
    · exact source
    · exact target

theorem migrateReceipts_kept {keys : List (String × Option String)} {chats : List String} (apart : token ≠ dst)
    (source : token ∈ chats) (target : dst ∈ chats)
    (h : runScript (migrateReceipt parseInt env dst token) keys t = .ok t') : ReceiptsKept chats t t' := by
  refine runScript_keeps (P := fun u => ReceiptsKept chats t u) (fun key _ u u' step kept => ?_) h (.refl chats t)
  obtain ⟨a, moved⟩ := migrateReceipt_moves apart step
  exact kept.trans (moved.receiptsKept source target)

/-- The plan for a receipt reads what stands in its own task and thread. -/
theorem planReceipt_eq {db : BoardDb} {key : String × Option String} :
    planReceipt parseInt db dst token key =
      (planAction parseInt db.receiptCols (laneOf key) (db.factsAt (laneOf key) token) (db.factsAt (laneOf key) dst)).map
        fun action => { taskId := key.1, fromChatId := token, threadId := threadText key.2, action } := by
  have dict (chat : String) := @receiptRowDict_eq db (laneOf key) chat
  unfold planReceipt planAction
  unfold laneOf at dict ⊢
  dsimp only at dict ⊢
  rw [dict, dict]
  cases db.factsAt (key.1, threadText key.2) dst with
  | none => rfl
  | some d =>
    dsimp only [Option.map_some]
    cases mergeReceiptFacts parseInt key.1 (threadText key.2)
      (((db.factsAt (key.1, threadText key.2) token).map (Facts.within db.receiptCols)).getD {})
      (d.within db.receiptCols) <;> rfl

/-- The entries of a list that the plan makes, or its first refusal. -/
def planAll (parseInt : String → Option Int) (db : BoardDb) (dst token : String) :
    List (String × Option String) → Except MigrationError (List ReceiptEntry)
  | [] => .ok []
  | key :: rest =>
    match planReceipt parseInt db dst token key with
    | .error e => .error e
    | .ok entry => (planAll parseInt db dst token rest).map (entry :: ·)

theorem planAll_congr {db db' : BoardDb} {keys : List (String × Option String)} (cols : db'.receiptCols = db.receiptCols)
    (same : ∀ key ∈ keys, ∀ chat, db'.factsAt (laneOf key) chat = db.factsAt (laneOf key) chat) :
    planAll parseInt db' dst token keys = planAll parseInt db dst token keys := by
  induction keys with
  | nil => rfl
  | cons key rest ih =>
    have first : planReceipt parseInt db' dst token key = planReceipt parseInt db dst token key := by
      rw [planReceipt_eq, planReceipt_eq, cols, same key List.mem_cons_self, same key List.mem_cons_self]
    have others := ih fun other mem => same other (List.mem_cons_of_mem _ mem)
    unfold planAll
    rw [first, others]

/-- What the loop over the receipts of a source channel does, none of which are of one task and thread. -/
structure ChannelMoved (parseInt : String → Option Int) (dst token : String) (keys : List (String × Option String))
    (t t' : Txn) : Prop where
  planned : ∃ entries, planAll parseInt t.db dst token keys = .ok entries ∧ t'.actions = t.actions ++ entries
  moved : ∀ key ∈ keys, t'.db.factsAt (laneOf key) token = none ∧ ∃ a,
    planAction parseInt t.db.receiptCols (laneOf key) (t.db.factsAt (laneOf key) token) (t.db.factsAt (laneOf key) dst) =
        .ok a ∧
      t'.db.factsAt (laneOf key) dst =
        a.result t.db.receiptCols (t.db.factsAt (laneOf key) token) (t.db.factsAt (laneOf key) dst)
  unmoved : ∀ lane, (∀ key ∈ keys, laneOf key ≠ lane) → ∀ chat, t'.db.factsAt lane chat = t.db.factsAt lane chat

theorem migrateReceipts_moves {keys : List (String × Option String)} (apart : token ≠ dst)
    (single : (keys.map laneOf).Nodup) (h : runScript (migrateReceipt parseInt env dst token) keys t = .ok t') :
    ChannelMoved parseInt dst token keys t t' := by
  induction keys generalizing t with
  | nil =>
    cases h
    exact ⟨⟨[], rfl, (List.append_nil _).symm⟩, (by simp), fun _ _ _ => rfl⟩
  | cons key rest ih =>
    unfold runScript at h
    cases first : migrateReceipt parseInt env dst token key t with
    | error e =>
      rw [first] at h
      cases h
    | ok u =>
      rw [first] at h
      rw [List.map_cons, List.nodup_cons] at single
      obtain ⟨a, step⟩ := migrateReceipt_moves apart first
      change ReceiptMoved parseInt dst token (laneOf key) a t u at step
      have later := ih single.2 h
      have others : ∀ other ∈ rest, ∀ chat, u.db.factsAt (laneOf other) chat = t.db.factsAt (laneOf other) chat := by
        intro other mem chat
        refine step.frame _ _ fun both => single.1 ?_
        exact List.mem_map.mpr ⟨other, mem, both.1⟩
      have own : ∀ other ∈ rest, laneOf other ≠ laneOf key := fun other mem same =>
        single.1 (List.mem_map.mpr ⟨other, mem, same⟩)
      refine ⟨?_, fun other mem => ?_, fun lane off chat => ?_⟩
      · obtain ⟨entries, planned, acted⟩ := later.planned
        refine ⟨{ taskId := key.1, fromChatId := token, threadId := threadText key.2, action := a } :: entries, ?_, ?_⟩
        · unfold planAll
          rw [planReceipt_eq, step.planned]
          dsimp only [Except.map]
          rw [← planAll_congr step.keeps.2.1 others, planned]
        · rw [acted, step.acted, List.append_assoc]
          rfl
      · rcases List.mem_cons.mp mem with rfl | inside
        · rw [later.unmoved _ own, later.unmoved _ own]
          exact ⟨step.source, a, step.planned, step.result⟩
        · have moved := later.moved other inside
          rw [others other inside, others other inside, step.keeps.2.1] at moved
          exact moved
      · rw [later.unmoved lane (fun other mem => off other (List.mem_cons_of_mem _ mem))]
        exact step.frame _ _ fun both => off key List.mem_cons_self both.1.symm

/-- The receipts of a channel that all have a thread are of different tasks and threads. -/
theorem channelReceipts_nodup {db : BoardDb} (keyed : db.Keyed)
    (threaded : ∀ r ∈ db.receipts, r.discord token = true → r.threadId ≠ none) :
    ((db.channelReceipts token).map laneOf).Nodup := by
  have perm : ((db.channelReceipts token).map laneOf).Perm
      (((db.receipts.filter (·.discord token)).map fun r => (r.taskId, r.threadId)).map laneOf) :=
    (List.mergeSort_perm _ _).map _
  rw [perm.nodup_iff, List.map_map]
  have own : db.receipts.Nodup := List.Nodup.of_map _ keyed
  refine List.Nodup.map_on (fun r hr s hs same => ?_) (own.filter _)
  obtain ⟨hr, channel⟩ := List.mem_filter.mp hr
  obtain ⟨hs, channel'⟩ := List.mem_filter.mp hs
  have threads : r.threadId = s.threadId := by
    have texts := congrArg Prod.snd same
    obtain ⟨x, hx⟩ := Option.ne_none_iff_exists'.mp (threaded r hr channel)
    obtain ⟨y, hy⟩ := Option.ne_none_iff_exists'.mp (threaded s hs channel')
    simp only [Function.comp, laneOf, hx, hy, threadText, Option.getD_some] at texts
    rw [hx, hy, texts]
  unfold ReceiptRow.discord at channel channel'
  simp only [Bool.and_eq_true, decide_eq_true_eq] at channel channel'
  refine List.inj_on_of_nodup_map keyed hr hs ?_
  unfold ReceiptRow.key
  rw [channel.1, channel'.1, channel.2, channel'.2, threads, show r.taskId = s.taskId from congrArg Prod.fst same]

theorem mem_channelReceipts {db : BoardDb} {key : String × Option String} :
    key ∈ db.channelReceipts token ↔ ∃ r ∈ db.receipts, r.discord token = true ∧ (r.taskId, r.threadId) = key := by
  unfold BoardDb.channelReceipts
  rw [List.mem_mergeSort, List.mem_map]
  simp only [List.mem_filter, and_assoc]

theorem hasKey_discord {r : ReceiptRow} {lane : String × String} :
    r.hasKey lane.1 token lane.2 = true ↔ r.discord token = true ∧ r.taskId = lane.1 ∧ r.threadId = some lane.2 := by
  unfold ReceiptRow.hasKey
  simp only [Bool.and_eq_true, decide_eq_true_eq]
  tauto

theorem factsAt_isSome {db : BoardDb} {lane : String × String} :
    (db.factsAt lane token).isSome = true ↔ ∃ r ∈ db.receipts, r.hasKey lane.1 token lane.2 = true := by
  unfold BoardDb.factsAt
  rw [Option.isSome_map, List.find?_isSome]

/-- Where every receipt has a thread, those of a channel are the ones that are found under it. -/
theorem lane_of_channel {db : BoardDb} {lane : String × String}
    (threaded : ∀ r ∈ db.receipts, r.discord token = true → r.threadId ≠ none) :
    (∃ key ∈ db.channelReceipts token, laneOf key = lane) ↔ (db.factsAt lane token).isSome = true := by
  rw [factsAt_isSome]
  constructor
  · rintro ⟨key, mem, rfl⟩
    obtain ⟨r, inside, channel, rfl⟩ := mem_channelReceipts.mp mem
    obtain ⟨thread, there⟩ := Option.ne_none_iff_exists'.mp (threaded r inside channel)
    refine ⟨r, inside, hasKey_discord.mpr ⟨channel, rfl, ?_⟩⟩
    simp [laneOf, threadText, there]
  · rintro ⟨r, inside, has⟩
    obtain ⟨channel, task, thread⟩ := hasKey_discord.mp has
    refine ⟨(r.taskId, r.threadId), mem_channelReceipts.mpr ⟨r, inside, channel, rfl⟩, ?_⟩
    simp [laneOf, threadText, task, thread]

end

end AgentflowHermes.Origins
