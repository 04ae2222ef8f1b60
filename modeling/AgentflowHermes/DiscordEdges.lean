import AgentflowHermes.DryRunTruth

namespace AgentflowHermes.Origins

open ScriptRuns

section

variable {parseInt : String → Option Int} {env : BoardEnv} {dst token : String} {tokens : List String} {lane : String × String}
  {t t' : Txn}

/-- After one turn, something stands under the target exactly if something stood there or under the source. -/
theorem ReceiptMoved.target_iff {a : Action} (h : ReceiptMoved parseInt dst token lane a t t') :
    (t'.db.factsAt lane dst).isSome = true ↔
      (t.db.factsAt lane dst).isSome = true ∨ (t.db.factsAt lane token).isSome = true := by
  have planned := h.planned
  have result := h.result
  rw [result]
  unfold planAction at planned
  cases goal : t.db.factsAt lane dst with
  | none =>
    rw [goal] at planned
    cases planned
    simp [Action.result]
  | some d =>
    rw [goal] at planned
    dsimp only at planned
    cases merged : mergeReceiptFacts parseInt lane.1 lane.2
        (((t.db.factsAt lane token).map (Facts.within t.db.receiptCols)).getD {}) (d.within t.db.receiptCols) with
    | error e =>
      rw [merged] at planned
      cases planned
    | ok m =>
      rw [merged] at planned
      cases planned
      simp [Action.result]

theorem channelKeys_target {keys : List (String × Option String)} (apart : token ≠ dst)
    (h : runScript (migrateReceipt parseInt env dst token) keys t = .ok t') :
    (t'.db.factsAt lane dst).isSome = true ↔ (t.db.factsAt lane dst).isSome = true ∨
      ((t.db.factsAt lane token).isSome = true ∧ lane ∈ keys.map laneOf) := by
  induction keys generalizing t with
  | nil =>
    cases h
    simp
  | cons key rest ih =>
    unfold runScript at h
    cases first : migrateReceipt parseInt env dst token key t with
    | error e =>
      rw [first] at h
      cases h
    | ok u =>
      rw [first] at h
      obtain ⟨a, step⟩ := migrateReceipt_moves apart first
      change ReceiptMoved parseInt dst token (laneOf key) a t u at step
      rw [ih h, List.map_cons, List.mem_cons]
      by_cases own : lane = laneOf key
      · subst own
        rw [step.target_iff, step.source]
        simp
      · rw [step.frame lane dst fun both => own both.1, step.frame lane token fun both => own both.1]
        simp [own]

/-- After a source channel, something stands under the target exactly if something stood there or under the channel. -/
theorem channel_target (apart : token ≠ dst) (h : migrateReceipts parseInt env dst token t = .ok t') :
    (t'.db.factsAt lane dst).isSome = true ↔
      (t.db.factsAt lane dst).isSome = true ∨ (t.db.factsAt lane token).isSome = true := by
  unfold migrateReceipts at h
  rw [channelKeys_target apart h]
  refine or_congr_right ⟨fun both => both.1, fun source => ⟨source, ?_⟩⟩
  obtain ⟨r, mem, has⟩ := factsAt_isSome.mp source
  obtain ⟨own, task, thread⟩ := hasKey_discord.mp has
  refine List.mem_map.mpr ⟨(r.taskId, r.threadId), mem_channelReceipts.mpr ⟨r, mem, own, rfl⟩, ?_⟩
  simp [laneOf, threadText, task, thread]

theorem receiptRun_target {u v : Txn} (single : tokens.Nodup) (target : dst ∉ tokens)
    (h : runScript (migrateReceipts parseInt env dst) tokens u = .ok v) :
    (v.db.factsAt lane dst).isSome = true ↔ ∃ chat ∈ dst :: tokens, (u.db.factsAt lane chat).isSome = true := by
  induction tokens generalizing u with
  | nil =>
    cases h
    simp
  | cons token rest ih =>
    unfold runScript at h
    cases moved : migrateReceipts parseInt env dst token u with
    | error e =>
      rw [moved] at h
      cases h
    | ok w =>
      rw [moved] at h
      dsimp only at h
      rw [List.nodup_cons] at single
      have apart : token ≠ dst := fun same => target (same ▸ List.mem_cons_self)
      have offRest : dst ∉ rest := fun mem => target (List.mem_cons_of_mem _ mem)
      have step : (w.db.factsAt lane dst).isSome = true ↔
          (u.db.factsAt lane dst).isSome = true ∨ (u.db.factsAt lane token).isSome = true := channel_target apart moved
      unfold migrateReceipts at moved
      have kept : ReceiptsKept [token, dst] u w := migrateReceipts_kept apart (by simp) (by simp) moved
      have others {chat : String} (mem : chat ∈ rest) : w.db.factsAt lane chat = u.db.factsAt lane chat := by
        refine kept.frame lane chat ?_
        simp only [List.mem_cons, List.not_mem_nil, or_false, not_or]
        exact ⟨fun same => single.1 (same ▸ mem), fun same => offRest (same ▸ mem)⟩
      rw [ih single.2 offRest h]
      constructor
      · rintro ⟨chat, mem, found⟩
        rcases List.mem_cons.mp mem with rfl | inside
        · rcases step.mp found with there | there
          · exact ⟨chat, List.mem_cons_self, there⟩
          · exact ⟨token, List.mem_cons_of_mem _ List.mem_cons_self, there⟩
        · rw [others inside] at found
          exact ⟨chat, List.mem_cons_of_mem _ (List.mem_cons_of_mem _ inside), found⟩
      · rintro ⟨chat, mem, found⟩
        rcases List.mem_cons.mp mem with rfl | mem
        · exact ⟨chat, List.mem_cons_self, step.mpr (.inl found)⟩
        · rcases List.mem_cons.mp mem with rfl | inside
          · exact ⟨dst, List.mem_cons_self, step.mpr (.inr found)⟩
          · exact ⟨chat, List.mem_cons_of_mem _ inside, by rw [others inside]; exact found⟩

end

/-- A row of a task and thread in one of some channels, whichever table it is in. -/
def HasEdge (db : BoardDb) (chats : List String) (task thread : String) : Prop :=
  (∃ o ∈ db.origins, o.platform = "discord" ∧ o.chatId ∈ chats ∧ o.taskId = task ∧ threadText o.threadId = thread) ∨
    (∃ r ∈ db.receipts, r.platform = "discord" ∧ r.chatId ∈ chats ∧ r.taskId = task ∧ threadText r.threadId = thread) ∨
    ∃ s ∈ db.subs.getD [], s.platform = "discord" ∧ s.chatId ∈ chats ∧ s.taskId = task ∧ threadText s.threadId = thread

/-- What is claimed of a migration: no task and thread of a source channel is left without a row of the target. -/
def EdgesKept (dst : String) (tokens : List String) (db db' : BoardDb) : Prop :=
  ∀ task thread, HasEdge db tokens task thread → HasEdge db' [dst] task thread

/-- A row that makes or leaves one of the target: an origin or a receipt with its thread under a source channel or the
target, or any row of the target. -/
def Anchored (dst : String) (tokens : List String) (db : BoardDb) (task thread : String) : Prop :=
  (∃ o ∈ db.origins, o.platform = "discord" ∧ o.chatId ∈ tokens ∧ o.taskId = task ∧ threadText o.threadId = thread) ∨
    (∃ r ∈ db.receipts, r.platform = "discord" ∧ r.chatId ∈ tokens ∧ r.taskId = task ∧ r.threadId = some thread) ∨
    HasEdge db [dst] task thread

/-- Every subscription of a source channel, and every receipt of one without a thread, has a row that stays. -/
structure SourceAnchored (dst : String) (tokens : List String) (db : BoardDb) : Prop where
  subs : ∀ s ∈ db.subs.getD [], s.platform = "discord" → s.chatId ∈ tokens →
    Anchored dst tokens db s.taskId (threadText s.threadId)
  threadless : ∀ r ∈ db.receipts, r.platform = "discord" → r.chatId ∈ tokens → r.threadId = none →
    Anchored dst tokens db r.taskId ""

section

variable {T : PyText} {parseInt : String → Option Int} {env : BoardEnv} {dst : String} {tokens : List String} {db : BoardDb}
  {t : Txn} {task thread : String}

/-- The receipts of the target after a transaction. -/
theorem transaction_receipt_edge (single : tokens.Nodup) (target : dst ∉ tokens)
    (h : transactionBody parseInt env dst tokens db = .ok t) :
    (∃ r ∈ t.db.receipts, r.platform = "discord" ∧ r.chatId ∈ [dst] ∧ r.taskId = task ∧ threadText r.threadId = thread) ↔
      (∃ r ∈ db.receipts, r.platform = "discord" ∧ r.chatId ∈ tokens ∧ r.taskId = task ∧ r.threadId = some thread) ∨
      ∃ r ∈ db.receipts, r.platform = "discord" ∧ r.chatId ∈ [dst] ∧ r.taskId = task ∧ threadText r.threadId = thread := by
  obtain ⟨u, v, origins, _, receipts, last, _⟩ := transactionBody_ok target h
  have sameRows : t.db.receipts = v.db.receipts := by rw [last]
  have before : u.db.receipts = db.receipts := by rw [origins]
  have kept := receiptRun_kept target receipts
  have threadless : v.db.receipts.filter (fun r => r.threadId.isNone) = db.receipts.filter fun r => r.threadId.isNone := by
    rw [← before]
    refine kept.kept (fun r => r.threadId.isNone) fun r isNone lane chat _ => ?_
    rw [Bool.eq_false_iff]
    intro has
    rw [(hasKey_discord.mp has).2.2] at isNone
    cases isNone
  have lanes : (v.db.factsAt (task, thread) dst).isSome = true ↔
      ∃ chat ∈ dst :: tokens, (u.db.factsAt (task, thread) chat).isSome = true := receiptRun_target single target receipts
  have has {r : ReceiptRow} {chat : String} : r.hasKey task chat thread = true ↔
      r.platform = "discord" ∧ r.chatId = chat ∧ r.taskId = task ∧ r.threadId = some thread := by
    rw [@hasKey_discord chat r (task, thread), discord_iff, and_assoc]
  simp only [factsAt_isSome, before, has] at lanes
  have ofDst {r : ReceiptRow} (mem : r ∈ v.db.receipts) (there : r.platform = "discord" ∧ r.chatId = dst ∧
      r.taskId = task ∧ r.threadId = some thread) : ∃ r ∈ v.db.receipts, r.platform = "discord" ∧ r.chatId ∈ [dst] ∧
        r.taskId = task ∧ threadText r.threadId = thread := by
    refine ⟨r, mem, there.1, List.mem_singleton.mpr there.2.1, there.2.2.1, ?_⟩
    rw [there.2.2.2]
    rfl
  rw [sameRows]
  constructor
  · rintro ⟨r, mem, platform, chat, own, text⟩
    cases is : r.threadId with
    | none =>
      have inside : r ∈ v.db.receipts.filter fun r => r.threadId.isNone := List.mem_filter.mpr ⟨mem, by rw [is]; rfl⟩
      rw [threadless] at inside
      exact .inr ⟨r, (List.mem_filter.mp inside).1, platform, chat, own, text⟩
    | some th =>
      rw [is] at text
      change th = thread at text
      subst text
      obtain ⟨chat', among, r', inside, platform', chat', own', is'⟩ :=
        lanes.mp ⟨r, mem, platform, List.mem_singleton.mp chat, own, is⟩
      subst chat'
      rcases List.mem_cons.mp among with same | source
      · exact .inr ⟨r', inside, platform', List.mem_singleton.mpr same, own', by rw [is']; rfl⟩
      · exact .inl ⟨r', inside, platform', source, own', is'⟩
  · rintro (⟨r, mem, platform, chat, own, is⟩ | ⟨r, mem, platform, chat, own, text⟩)
    · obtain ⟨r', inside, there⟩ :=
        lanes.mpr ⟨r.chatId, List.mem_cons_of_mem _ chat, r, mem, platform, rfl, own, is⟩
      exact ofDst inside there
    · cases is : r.threadId with
      | none =>
        have inside : r ∈ db.receipts.filter fun r => r.threadId.isNone := List.mem_filter.mpr ⟨mem, by rw [is]; rfl⟩
        rw [← threadless] at inside
        exact ⟨r, (List.mem_filter.mp inside).1, platform, chat, own, text⟩
      | some th =>
        rw [is] at text
        change th = thread at text
        subst text
        obtain ⟨r', inside, there⟩ :=
          lanes.mpr ⟨dst, List.mem_cons_self, r, mem, platform, List.mem_singleton.mp chat, own, is⟩
        exact ofDst inside there

theorem transaction_origin_edge (target : dst ∉ tokens) (h : transactionBody parseInt env dst tokens db = .ok t) :
    (∃ o ∈ t.db.origins, o.platform = "discord" ∧ o.chatId ∈ [dst] ∧ o.taskId = task ∧ threadText o.threadId = thread) ↔
      (∃ o ∈ db.origins, o.platform = "discord" ∧ o.chatId ∈ tokens ∧ o.taskId = task ∧ threadText o.threadId = thread) ∨
      ∃ o ∈ db.origins, o.platform = "discord" ∧ o.chatId ∈ [dst] ∧ o.taskId = task ∧ threadText o.threadId = thread := by
  obtain ⟨u, v, origins, _, receipts, last, _⟩ := transactionBody_ok target h
  have rows : t.db.origins = db.origins.map (migratedOrigin dst tokens) := by
    rw [last]
    dsimp only
    rw [(receiptRun_kept target receipts).keeps.1, origins]
  rw [rows]
  constructor
  · rintro ⟨o', mem, platform, chat, own, text⟩
    obtain ⟨o, inside, rfl⟩ := List.mem_map.mp mem
    unfold migratedOrigin at platform chat own text
    split at platform
    next source =>
      rw [if_pos source] at own text
      exact .inl ⟨o, inside, source.1, source.2, own, text⟩
    next other =>
      rw [if_neg other] at chat own text
      exact .inr ⟨o, inside, platform, chat, own, text⟩
  · rintro (⟨o, mem, platform, chat, own, text⟩ | ⟨o, mem, platform, chat, own, text⟩)
    · refine ⟨_, List.mem_map_of_mem mem, ?_⟩
      unfold migratedOrigin
      rw [if_pos ⟨platform, chat⟩]
      exact ⟨platform, List.mem_singleton.mpr rfl, own, text⟩
    · refine ⟨_, List.mem_map_of_mem mem, ?_⟩
      unfold migratedOrigin
      rw [if_neg fun source => target (List.mem_singleton.mp chat ▸ source.2)]
      exact ⟨platform, chat, own, text⟩

theorem transaction_sub_edge (target : dst ∉ tokens) (h : transactionBody parseInt env dst tokens db = .ok t) :
    (∃ s ∈ t.db.subs.getD [], s.platform = "discord" ∧ s.chatId ∈ [dst] ∧ s.taskId = task ∧ threadText s.threadId = thread) ↔
      ∃ s ∈ db.subs.getD [], s.platform = "discord" ∧ s.chatId ∈ [dst] ∧ s.taskId = task ∧
        threadText s.threadId = thread := by
  obtain ⟨u, v, origins, _, receipts, last, _⟩ := transactionBody_ok target h
  have rows : t.db.subs.getD [] = (db.subs.getD []).filter (keptSub tokens) := by
    rw [last]
    dsimp only
    rw [(receiptRun_kept target receipts).keeps.2.2, origins]
    cases db.subs <;> rfl
  rw [rows]
  constructor
  · rintro ⟨s, mem, rest⟩
    exact ⟨s, (List.mem_filter.mp mem).1, rest⟩
  · rintro ⟨s, mem, platform, chat, rest⟩
    refine ⟨s, List.mem_filter.mpr ⟨mem, ?_⟩, platform, chat, rest⟩
    have off : s.chatId ∉ tokens := fun source => target (List.mem_singleton.mp chat ▸ source)
    simp [keptSub, off]

/-- After a transaction a task and thread has a row of the target exactly if one was anchored. -/
theorem transaction_edge (single : tokens.Nodup) (target : dst ∉ tokens)
    (h : transactionBody parseInt env dst tokens db = .ok t) :
    HasEdge t.db [dst] task thread ↔ Anchored dst tokens db task thread := by
  unfold HasEdge Anchored HasEdge
  rw [transaction_origin_edge target h, transaction_receipt_edge single target h, transaction_sub_edge target h]
  constructor
  · rintro ((moved | own) | (moved | own) | own)
    · exact .inl moved
    · exact .inr (.inr (.inl own))
    · exact .inr (.inl moved)
    · exact .inr (.inr (.inr (.inl own)))
    · exact .inr (.inr (.inr (.inr own)))
  · rintro (moved | moved | own | own | own)
    · exact .inl (.inl moved)
    · exact .inr (.inl (.inl moved))
    · exact .inl (.inr own)
    · exact .inr (.inl (.inr own))
    · exact .inr (.inr own)

/-- Every edge is kept exactly if the rows that do not move by themselves are anchored. -/
theorem edges_iff {db' : BoardDb} (after : ∀ task thread, HasEdge db' [dst] task thread ↔ Anchored dst tokens db task thread) :
    EdgesKept dst tokens db db' ↔ SourceAnchored dst tokens db := by
  unfold EdgesKept
  simp only [after]
  constructor
  · intro kept
    refine ⟨fun s mem platform chat => kept _ _ (.inr (.inr ⟨s, mem, platform, chat, rfl, rfl⟩)), ?_⟩
    intro r mem platform chat none
    exact kept _ _ (.inr (.inl ⟨r, mem, platform, chat, rfl, by rw [none]; rfl⟩))
  · rintro anchored task thread (⟨o, mem, platform, chat, own, text⟩ | ⟨r, mem, platform, chat, own, text⟩ |
      ⟨s, mem, platform, chat, own, text⟩)
    · exact .inl ⟨o, mem, platform, chat, own, text⟩
    · cases is : r.threadId with
      | none =>
        rw [is] at text
        subst own text
        exact anchored.threadless r mem platform chat is
      | some th =>
        rw [is] at text
        subst text
        exact .inr (.inl ⟨r, mem, platform, chat, own, is⟩)
    · subst own text
      exact anchored.subs s mem platform chat

/-- What the board stage has done where it gets to its end. -/
theorem applyBoardStage_ok {e : MigrationEnv} {a : MigrationArgs} {b : BoardFile} {s : Store} {plan : Plan}
    {m : BoardMigration} {file : Option BoardFile}
    (stage : applyBoardStage T parseInt e a (some b) (some s) = (.ok (plan, m), file)) :
    validateMigrationInputs T a.fromId a.toId = none ∧ buildPlan T parseInt a (some b) (some s) = .ok plan ∧
      ∃ b', file = some b' ∧ ((plan.nothingToMigrate = true ∧ b' = b) ∨
        ∃ t, transactionBody parseInt e.board (target T a.toId) (sourceMatchTokens T a.fromId) b.db = .ok t ∧
          b'.db = t.db) := by
  unfold applyBoardStage at stage
  split at stage
  · cases stage
  next valid =>
    refine ⟨valid, ?_⟩
    dsimp only [Option.isNone_some] at stage
    rw [if_neg Bool.false_ne_true] at stage
    cases built : buildPlan T parseInt a (some b) (some s) with
    | error e =>
      rw [built] at stage
      cases stage
    | ok plan' =>
      rw [built] at stage
      dsimp only at stage
      split at stage
      · cases stage
      · split at stage
        next nothing =>
          cases stage
          exact ⟨rfl, b, rfl, .inl ⟨nothing, rfl⟩⟩
        · split at stage
          · cases stage
          next t db ran =>
            cases stage
            refine ⟨rfl, _, rfl, .inr ⟨t, ?_⟩⟩
            obtain ⟨_, _, _, _, _, aliases, goal, _⟩ := buildPlan_ok built
            rw [aliases, goal] at ran
            unfold applyBoardTransaction at ran
            split at ran
            · cases ran
            · cases ran
            · split at ran
              · cases ran
              next t' committed =>
                cases ran
                exact ⟨committed, rfl⟩

/-- A migration that succeeds has got through its board stage. -/
theorem applyDiscordMigration_stage {σ : Type} {e : MigrationEnv} {a : MigrationArgs} {adapter : Option (RepairAdapter σ)}
    {file : Option BoardFile} {store : Option Store} {w : σ} {x : Plan × BoardMigration × RepairReport}
    (done : (applyDiscordMigration T parseInt e a adapter file store w).answer = .ok x) :
    ∃ s plan m, store = some s ∧ applyBoardStage T parseInt e a file store =
      (.ok (plan, m), (applyDiscordMigration T parseInt e a adapter file store w).file) := by
  unfold applyDiscordMigration at done ⊢
  cases stage : applyBoardStage T parseInt e a file store with
  | mk answer file' =>
    rw [stage] at done
    cases answer with
    | error stop => cases done
    | ok migrated =>
      obtain ⟨plan, m⟩ := migrated
      cases store with
      | none => cases done
      | some s =>
        refine ⟨s, plan, m, rfl, ?_⟩
        dsimp only
        split <;> rfl

/-- Where a plan lists nothing there is no row of a source channel. -/
theorem nothing_planned {a : MigrationArgs} {b : BoardFile} {store : Option Store} {plan : Plan}
    (built : buildPlan T parseInt a (some b) store = .ok plan) (nothing : plan.nothingToMigrate = true) :
    ¬HasEdge b.db (sourceMatchTokens T a.fromId) task thread := by
  obtain ⟨_, is, _, planned, _, aliases, _, origins, subs⟩ := buildPlan_ok built
  cases is
  have empty := (tellsTruth_nothing nothing aliases planned).2
  unfold Plan.nothingToMigrate at nothing
  simp only [Bool.and_eq_true, List.isEmpty_iff] at nothing
  rw [nothing.1.1] at origins
  rw [nothing.2] at subs
  rintro (⟨o, mem, platform, chat, _⟩ | ⟨r, mem, platform, chat, _⟩ | ⟨s, mem, platform, chat, _⟩)
  · have there : (o.taskId, o.threadId) ∈ b.db.channelOrigins o.chatId :=
      mem_channelOrigins.mpr ⟨o, mem, by simp [OriginRow.discord, platform], rfl⟩
    have listed := List.flatMap_eq_nil_iff.mp origins.symm o.chatId chat
    rw [List.map_eq_nil_iff.mp listed] at there
    cases there
  · have there : (r.taskId, r.threadId) ∈ b.db.channelReceipts r.chatId :=
      mem_channelReceipts.mpr ⟨r, mem, discord_iff.mpr ⟨platform, rfl⟩, rfl⟩
    rw [empty r.chatId chat] at there
    cases there
  · have there : (s.taskId, s.threadId) ∈ b.db.channelSubs s.chatId :=
      mem_channelSubs.mpr ⟨s, mem, by simp [SubRow.discord, platform], rfl⟩
    have listed := List.flatMap_eq_nil_iff.mp subs.symm s.chatId chat
    rw [List.map_eq_nil_iff.mp listed] at there
    cases there

/-- A migration that succeeds keeps every edge exactly if the rows that do not move by themselves are anchored. -/
theorem migration_keeps_edges_iff (letters : T.isDigit 'r' = false ∧ T.isDigit '#' = false) {σ : Type} {e : MigrationEnv}
    {a : MigrationArgs} {adapter : Option (RepairAdapter σ)} {b : BoardFile} {store : Option Store} {w : σ}
    {x : Plan × BoardMigration × RepairReport}
    (done : (applyDiscordMigration T parseInt e a adapter (some b) store w).answer = .ok x) :
    (∃ b', (applyDiscordMigration T parseInt e a adapter (some b) store w).file = some b' ∧
      EdgesKept (target T a.toId) (sourceMatchTokens T a.fromId) b.db b'.db) ↔
    SourceAnchored (target T a.toId) (sourceMatchTokens T a.fromId) b.db := by
  obtain ⟨s, plan, m, rfl, stage⟩ := applyDiscordMigration_stage done
  obtain ⟨valid, built, b', left, changed⟩ := applyBoardStage_ok stage
  obtain ⟨single, target'⟩ := validated_tokens letters valid
  have same : (∃ b', (applyDiscordMigration T parseInt e a adapter (some b) (some s) w).file = some b' ∧
      EdgesKept (target T a.toId) (sourceMatchTokens T a.fromId) b.db b'.db) ↔
      EdgesKept (target T a.toId) (sourceMatchTokens T a.fromId) b.db b'.db := by
    rw [left]
    exact ⟨fun ⟨_, is, kept⟩ => by cases is; exact kept, fun kept => ⟨b', rfl, kept⟩⟩
  rw [same]
  rcases changed with ⟨nothing, rfl⟩ | ⟨t, ran, is⟩
  · have none {task thread : String} : ¬HasEdge b'.db (sourceMatchTokens T a.fromId) task thread :=
      nothing_planned built nothing
    refine ⟨fun _ => ⟨fun s mem platform chat => ?_, fun r mem platform chat _ => ?_⟩, fun _ task thread edge => ?_⟩
    · exact absurd (.inr (.inr ⟨s, mem, platform, chat, rfl, rfl⟩)) none
    · exact absurd (.inr (.inl ⟨r, mem, platform, chat, rfl, rfl⟩)) none
    · exact absurd edge none
  · rw [is]
    exact edges_iff fun task thread => transaction_edge single target' ran

end

/-- A board whose only return edge of a task is a subscription under an alias. -/
def subscribedFile : BoardFile where
  originTable := some requiredCols
  receiptTable := some requiredCols
  db := { subs := some [{ taskId := "t1", platform := "discord", chatId := "#research", threadId := some "" }] }

def subscribedRun : Migration Unit :=
  applyDiscordMigration asciiText String.toInt? { board := quietBoard } aliasArgs none (some subscribedFile)
    (some Store.empty) ()

theorem subscribedFile_source : sourceMatchTokens asciiText aliasArgs.fromId = ["#research", "research"] ∧
    target asciiText aliasArgs.toId = "123" := by decide

theorem subscribedRun_succeeds : ∃ x, subscribedRun.answer = .ok x := by
  obtain ⟨tokens, goal⟩ := subscribedFile_source
  have agree : AcksAgree "123" ["#research", "research"] subscribedFile.db := by
    intro token _ key _ s d source
    cases source
  obtain ⟨rows, planned⟩ := (@planReceipts_iff String.toInt? _ _ _).mpr agree
  have selected : selectDeadletters asciiText aliasArgs.board ["#research", "research"] "123" aliasArgs.deadletterIds
      aliasArgs.deadletterRefs (some Store.empty) = .ok [] := rfl
  have built : ∃ plan, buildPlan asciiText String.toInt? aliasArgs (some subscribedFile) (some Store.empty) = .ok plan ∧
      plan.affectedDeadletters = [] := by
    unfold buildPlan
    dsimp only
    rw [show requireBoardSchema subscribedFile = none from by decide, tokens, goal, planned, selected]
    exact ⟨_, rfl, rfl⟩
  obtain ⟨plan, built, none⟩ := built
  have stage := applyBoardStage_quiet (by decide) built
  obtain ⟨_, _, _, _, _, aliases, goal', _⟩ := buildPlan_ok built
  have ran : ∃ t, transactionBody String.toInt? quietBoard plan.toId plan.fromAliases subscribedFile.db = .ok t := by
    rw [aliases, goal', tokens, goal]
    have threaded : SourceThreaded ["#research", "research"] subscribedFile.db := fun _ mem => nomatch mem
    have held : MergesHeld String.toInt? "123" ["#research", "research"] subscribedFile.db :=
      fun _ _ _ _ _ _ source => nomatch source
    obtain ⟨t, ran, _⟩ := (transaction_planned (by decide) (by decide) (by decide) (by unfold BoardDb.Keyed; decide) threaded
      planned).mpr ⟨(writable_iff threaded planned).mpr held, List.pairwise_pair.mpr fun _ _ _ source => nomatch source⟩
    exact ⟨t, ran⟩
  obtain ⟨t, ran⟩ := ran
  unfold subscribedRun applyDiscordMigration
  rw [stage, ran]
  dsimp only
  cases plan.nothingToMigrate with
  | true =>
    rw [if_pos rfl]
    dsimp only
    rw [none]
    exact ⟨_, rfl⟩
  | false =>
    rw [if_neg Bool.false_ne_true]
    dsimp only
    rw [none]
    exact ⟨_, rfl⟩

theorem migration_keeps_edges_subscribed :
    (∃ b', subscribedRun.file = some b' ∧
      EdgesKept (target asciiText "123") (sourceMatchTokens asciiText "#research") subscribedFile.db b'.db) ↔
    SourceAnchored (target asciiText "123") (sourceMatchTokens asciiText "#research") subscribedFile.db := by
  obtain ⟨x, done⟩ := subscribedRun_succeeds
  exact migration_keeps_edges_iff (by decide) done

/-- A task that was only subscribed under the alias cannot be called back any more. -/
theorem subscription_edge_lost : ¬∀ (T : PyText), T.isDigit 'r' = false ∧ T.isDigit '#' = false →
    ∀ (parseInt : String → Option Int) (σ : Type) (e : MigrationEnv) (a : MigrationArgs) (adapter : Option (RepairAdapter σ))
      (b : BoardFile) (store : Option Store) (w : σ) (x : Plan × BoardMigration × RepairReport),
      (applyDiscordMigration T parseInt e a adapter (some b) store w).answer = .ok x →
      ∃ b', (applyDiscordMigration T parseInt e a adapter (some b) store w).file = some b' ∧
        EdgesKept (target T a.toId) (sourceMatchTokens T a.fromId) b.db b'.db := by
  intro claim
  obtain ⟨x, done⟩ := subscribedRun_succeeds
  obtain ⟨tokens, goal⟩ := subscribedFile_source
  obtain ⟨b', left, kept⟩ := claim asciiText (by decide) String.toInt? Unit { board := quietBoard } aliasArgs none subscribedFile
    (some Store.empty) () x done
  rw [tokens, goal] at kept
  have edge : HasEdge subscribedFile.db ["#research", "research"] "t1" "" := by
    refine .inr (.inr ⟨_, List.mem_cons_self, rfl, ?_, rfl, rfl⟩)
    simp
  have numeric := kept "t1" "" edge
  have absent : ¬Anchored "123" ["#research", "research"] subscribedFile.db "t1" "" := by
    simp [Anchored, HasEdge, subscribedFile]
  obtain ⟨s, plan, m, _, stage⟩ := applyDiscordMigration_stage done
  obtain ⟨_, _, b₁, left', changed⟩ := applyBoardStage_ok stage
  cases left.symm.trans left'
  rcases changed with ⟨_, rfl⟩ | ⟨t, ran, is⟩
  · exact absent (.inr (.inr numeric))
  · rw [is] at numeric
    rw [tokens, goal] at ran
    exact absent ((transaction_edge (by decide) (by decide) ran).mp numeric)

end AgentflowHermes.Origins
