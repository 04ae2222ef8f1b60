import AgentflowHermes.PlanTruth

namespace AgentflowHermes.Origins

open ScriptRuns

section

variable {T : PyText} {parseInt : String → Option Int} {dst : String} {tokens : List String} {db : BoardDb}

theorem originRun_quiet (t : Txn) : ∃ u, runScript (migrateOrigins quietBoard dst) tokens t = .ok u := by
  refine runScript_total fun token _ s => ?_
  unfold migrateOrigins
  rw [quiet_execute rfl]
  exact ⟨_, rfl⟩

theorem subRun_quiet (t : Txn) : ∃ u, runScript (deleteSubs quietBoard) tokens t = .ok u := by
  refine runScript_total fun token _ s => ?_
  unfold deleteSubs
  dsimp only
  split
  · exact ⟨_, rfl⟩
  · rw [quiet_execute rfl]
    exact ⟨_, rfl⟩

/-- The plan for the receipts does not read the origins. -/
theorem planReceipts_origins (origins : List OriginRow) :
    planReceipts parseInt { db with origins } dst tokens = planReceipts parseInt db dst tokens := by
  induction tokens with
  | nil => rfl
  | cons token rest ih =>
    have own : planAll parseInt { db with origins } dst token (db.channelReceipts token) =
        planAll parseInt db dst token (db.channelReceipts token) := planAll_congr rfl fun _ _ _ => rfl
    unfold planReceipts
    rw [ih, ← own]
    rfl

/-- Where nobody else writes, the transaction commits what is planned exactly if it can be written and no two aliases get
in each other's way. -/
theorem transaction_planned {rows : List ReceiptEntry} (two : tokens.length ≤ 2) (single : tokens.Nodup)
    (target : dst ∉ tokens) (keyed : db.Keyed) (threaded : SourceThreaded tokens db)
    (planned : planReceipts parseInt db dst tokens = .ok rows) :
    (∃ t, transactionBody parseInt quietBoard dst tokens db = .ok t ∧ t.actions = rows) ↔
      Writable db.receiptCols rows ∧ AliasesApart parseInt dst tokens db := by
  obtain ⟨u, first⟩ := @originRun_quiet dst tokens { db }
  obtain ⟨origins, acted⟩ := originRun_ok target first
  have sameRows : planReceipts parseInt u.db dst tokens = .ok rows := by
    rw [origins, planReceipts_origins, planned]
  have receipts := migrateReceipts_planned (u := u) two single target (by rw [origins]; exact keyed)
    (by rw [origins]; exact threaded) sameRows
  have sameAliases : AliasesApart parseInt dst tokens u.db ↔ AliasesApart parseInt dst tokens db := by
    rw [origins]
    exact Iff.rfl
  have sameColumns : u.db.receiptCols = db.receiptCols := by rw [origins]
  rw [sameAliases, sameColumns] at receipts
  rw [← receipts]
  unfold transactionBody
  rw [first]
  dsimp only [bind, Except.bind]
  constructor
  · rintro ⟨t, ran, acts⟩
    cases second : runScript (migrateReceipts parseInt quietBoard dst) tokens u with
    | error e =>
      rw [second] at ran
      cases ran
    | ok v =>
      rw [second] at ran
      dsimp only at ran
      obtain ⟨w, third⟩ := @subRun_quiet tokens v
      rw [third] at ran
      dsimp only at ran
      rw [quiet_execute rfl] at ran
      cases ran
      refine ⟨v, rfl, ?_⟩
      rw [← (subRun_ok third).2, acted]
      exact acts
  · rintro ⟨v, second, acts⟩
    obtain ⟨w, third⟩ := @subRun_quiet tokens v
    rw [second]
    dsimp only
    rw [third]
    dsimp only
    rw [quiet_execute rfl]
    refine ⟨_, rfl, ?_⟩
    dsimp only
    rw [(subRun_ok third).2, acts, acted]
    rfl

theorem buildPlan_ok {a : MigrationArgs} {file : Option BoardFile} {store : Option Store} {plan : Plan}
    (h : buildPlan T parseInt a file store = .ok plan) :
    ∃ b, file = some b ∧ requireBoardSchema b = none ∧
      planReceipts parseInt b.db (target T a.toId) (sourceMatchTokens T a.fromId) = .ok plan.receiptRows ∧
      selectDeadletters T a.board (sourceMatchTokens T a.fromId) (target T a.toId) a.deadletterIds a.deadletterRefs store =
        .ok plan.affectedDeadletters ∧
      plan.fromAliases = sourceMatchTokens T a.fromId ∧ plan.toId = target T a.toId ∧
      plan.taskOriginRows = (sourceMatchTokens T a.fromId).flatMap (fun token => (b.db.channelOrigins token).map fun key =>
        { taskId := key.1, fromChatId := token, toChatId := target T a.toId, threadId := threadText key.2 }) ∧
      plan.aliasSubsToDelete = (sourceMatchTokens T a.fromId).flatMap (fun token => (b.db.channelSubs token).map fun key =>
        { taskId := key.1, fromChatId := token, threadId := threadText key.2 }) := by
  unfold buildPlan at h
  dsimp only at h
  split at h
  · cases h
  next b =>
    split at h
    · cases h
    next schema =>
      obtain ⟨rows, planned, h⟩ := bind_ok' h
      obtain ⟨entries, selected, h⟩ := bind_ok' h
      rw [Except.ok.injEq] at h
      subst h
      refine ⟨b, rfl, schema, planned, selected, ?_⟩
      dsimp only
      exact ⟨rfl, rfl, rfl, rfl⟩

theorem mem_channelOrigins {token : String} {key : String × Option String} :
    key ∈ db.channelOrigins token ↔ ∃ o ∈ db.origins, o.discord token = true ∧ (o.taskId, o.threadId) = key := by
  unfold BoardDb.channelOrigins
  rw [List.mem_mergeSort, List.mem_map]
  simp only [List.mem_filter, and_assoc]

theorem mem_channelSubs {token : String} {key : String × Option String} :
    key ∈ db.channelSubs token ↔ ∃ s ∈ db.subs.getD [], s.discord token = true ∧ (s.taskId, s.threadId) = key := by
  unfold BoardDb.channelSubs
  rw [List.mem_mergeSort, List.mem_map]
  simp only [List.mem_filter, and_assoc]

/-- The origins that a plan lists are those of the source channels. -/
theorem listsOrigin_iff {plan : Plan} {o : OriginRow} (mem : o ∈ db.origins) (goal : plan.toId = dst)
    (rows : plan.taskOriginRows = tokens.flatMap fun token => (db.channelOrigins token).map fun key =>
      { taskId := key.1, fromChatId := token, toChatId := dst, threadId := threadText key.2 }) :
    plan.listsOrigin o = true ↔ o.platform = "discord" ∧ o.chatId ∈ tokens := by
  unfold Plan.listsOrigin
  rw [rows, goal]
  simp only [List.any_eq_true, List.mem_flatMap, List.mem_map, Bool.and_eq_true, decide_eq_true_eq]
  constructor
  · rintro ⟨e, ⟨token, inside, key, _, rfl⟩, ⟨⟨⟨platform, _⟩, chat⟩, _⟩, _⟩
    exact ⟨platform, chat ▸ inside⟩
  · rintro ⟨platform, inside⟩
    refine ⟨_, ⟨o.chatId, inside, (o.taskId, o.threadId), ?_, rfl⟩, ⟨⟨⟨platform, rfl⟩, rfl⟩, rfl⟩, rfl⟩
    exact mem_channelOrigins.mpr ⟨o, mem, by simp [OriginRow.discord, platform], rfl⟩

/-- The subscriptions that a plan lists are those of the source channels. -/
theorem listsSub_iff {plan : Plan} {s : SubRow} {subs : List SubRow} (table : db.subs = some subs) (mem : s ∈ subs)
    (rows : plan.aliasSubsToDelete = tokens.flatMap fun token => (db.channelSubs token).map fun key =>
      { taskId := key.1, fromChatId := token, threadId := threadText key.2 }) :
    plan.listsSub s = true ↔ s.platform = "discord" ∧ s.chatId ∈ tokens := by
  unfold Plan.listsSub
  rw [rows]
  simp only [List.any_eq_true, List.mem_flatMap, List.mem_map, Bool.and_eq_true, decide_eq_true_eq]
  constructor
  · rintro ⟨e, ⟨token, inside, key, _, rfl⟩, ⟨⟨platform, _⟩, chat⟩, _⟩
    exact ⟨platform, chat ▸ inside⟩
  · rintro ⟨platform, inside⟩
    refine ⟨_, ⟨s.chatId, inside, (s.taskId, s.threadId), ?_, rfl⟩, ⟨⟨platform, rfl⟩, rfl⟩, rfl⟩
    refine mem_channelSubs.mpr ⟨s, ?_, by simp [SubRow.discord, platform], rfl⟩
    rw [table]
    exact mem

theorem sourceMatchTokens_two (fromId : String) : (sourceMatchTokens T fromId).length ≤ 2 := by
  unfold sourceMatchTokens
  dsimp only
  split
  · exact Nat.le_refl 2
  · split
    · exact Nat.zero_le 2
    · exact Nat.le_succ 1

/-- The receipts that the transaction leaves without a thread are those that were there. -/
theorem transaction_threaded {t : Txn} (target : dst ∉ tokens)
    (h : transactionBody parseInt quietBoard dst tokens db = .ok t)
    (left : ∀ r ∈ t.db.receipts, r.platform = "discord" → r.chatId ∉ tokens) : SourceThreaded tokens db := by
  obtain ⟨u, v, origins, _, receipts, last, _⟩ := transactionBody_ok target h
  have kept := receiptRun_kept target receipts
  intro r mem platform inside none
  have same := kept.kept (fun r => r.threadId.isNone) fun r isNone lane chat _ => by
    rw [Bool.eq_false_iff]
    intro has
    rw [(hasKey_discord.mp has).2.2] at isNone
    cases isNone
  have stays : r ∈ u.db.receipts.filter fun r => r.threadId.isNone :=
    List.mem_filter.mpr ⟨by rw [origins]; exact mem, by rw [none]; rfl⟩
  rw [← same] at stays
  refine left r ?_ platform inside
  rw [last]
  exact (List.mem_filter.mp stays).1

theorem transaction_cleared {t : Txn} (single : tokens.Nodup) (target : dst ∉ tokens) (keyed : db.Keyed)
    (threaded : SourceThreaded tokens db) (h : transactionBody parseInt quietBoard dst tokens db = .ok t) :
    ∀ r ∈ t.db.receipts, r.platform = "discord" → r.chatId ∉ tokens := by
  obtain ⟨u, v, origins, _, receipts, last, _⟩ := transactionBody_ok target h
  have cleared := receiptRun_cleared single target (by rw [origins]; exact keyed) (by rw [origins]; exact threaded) receipts
  intro r mem platform inside
  rw [last] at mem
  have there : (r.taskId, r.threadId) ∈ v.db.channelReceipts r.chatId :=
    mem_channelReceipts.mpr ⟨r, mem, discord_iff.mpr ⟨platform, rfl⟩, rfl⟩
  rw [cleared r.chatId inside] at there
  cases there

/-- A plan without a source row is told by leaving everything as it is. -/
theorem tellsTruth_nothing {plan : Plan} (nothing : plan.nothingToMigrate = true) (aliases : plan.fromAliases = tokens)
    (planned : planReceipts parseInt db dst tokens = .ok plan.receiptRows) :
    TellsTruth plan db (.ok (plan, {})) db ∧ ∀ token ∈ tokens, db.channelReceipts token = [] := by
  unfold Plan.nothingToMigrate at nothing
  simp only [Bool.and_eq_true, List.isEmpty_iff] at nothing
  obtain ⟨⟨origins, receipts⟩, subs⟩ := nothing
  have empty : ∀ token ∈ tokens, db.channelReceipts token = [] := by
    intro token mem
    obtain ⟨entries, all, among⟩ := planReceipts_ok planned token mem
    rw [receipts, List.subset_nil] at among
    subst among
    have each := (planAll_ok.mp all).length_eq
    exact List.eq_nil_of_length_eq_zero each
  refine ⟨⟨⟨{}, rfl, receipts.symm⟩, fun r mem platform inside => ?_, ?_, ?_⟩, empty⟩
  · have there : (r.taskId, r.threadId) ∈ db.channelReceipts r.chatId :=
      mem_channelReceipts.mpr ⟨r, mem, discord_iff.mpr ⟨platform, rfl⟩, rfl⟩
    rw [empty r.chatId (aliases ▸ inside)] at there
    cases there
  · unfold Plan.listsOrigin
    rw [origins]
    exact (List.map_id _).symm
  · unfold Plan.listsSub
    rw [subs]
    cases db.subs with
    | none => rfl
    | some l =>
      rw [Option.map_some]
      exact congrArg some (List.filter_eq_self.mpr fun _ _ => rfl).symm

/-- What the board stage comes to where nobody else writes. -/
theorem applyBoardStage_quiet {a : MigrationArgs} {b : BoardFile} {s : Store} {plan : Plan}
    (valid : validateMigrationInputs T a.fromId a.toId = none) (built : buildPlan T parseInt a (some b) (some s) = .ok plan) :
    applyBoardStage T parseInt { board := quietBoard } a (some b) (some s) =
      if plan.nothingToMigrate then (.ok (plan, {}), some b)
      else
        match transactionBody parseInt quietBoard plan.toId plan.fromAliases b.db with
        | .error e => (.error (.refused e), some b)
        | .ok t => (.ok (plan, { actions := t.actions, stats := t.stats }), some { b with db := t.db }) := by
  unfold applyBoardStage
  rw [valid, built]
  dsimp only [Option.isNone_some]
  rw [Bool.and_false]
  cases plan.nothingToMigrate with
  | true => rfl
  | false =>
    have opened : applyBoardTransaction parseInt quietBoard plan.toId plan.fromAliases b.db =
        match transactionBody parseInt quietBoard plan.toId plan.fromAliases b.db with
        | .error e => (.error e, b.db)
        | .ok t => (.ok t, t.db) := rfl
    rw [opened]
    cases transactionBody parseInt quietBoard plan.toId plan.fromAliases b.db with
    | error e => rfl
    | ok t => rfl

/-- A plan is what is done exactly where the receipts do not get in each other's way. -/
theorem tellsTruth_iff (letters : T.isDigit 'r' = false ∧ T.isDigit '#' = false) {a : MigrationArgs} {b : BoardFile}
    {s : Store} {plan : Plan} (valid : validateMigrationInputs T a.fromId a.toId = none) (keyed : b.db.Keyed)
    (built : buildPlan T parseInt a (some b) (some s) = .ok plan) :
    (∃ b', (applyBoardStage T parseInt { board := quietBoard } a (some b) (some s)).2 = some b' ∧
      TellsTruth plan b.db (applyBoardStage T parseInt { board := quietBoard } a (some b) (some s)).1 b'.db) ↔
    Unentangled parseInt (target T a.toId) (sourceMatchTokens T a.fromId) b.db := by
  obtain ⟨single, target'⟩ := validated_tokens letters valid
  obtain ⟨_, is, _, planned, _, aliases, goal, origins, subs⟩ := buildPlan_ok built
  cases is
  rw [applyBoardStage_quiet valid built]
  have two := sourceMatchTokens_two (T := T) a.fromId
  generalize sourceMatchTokens T a.fromId = tokens at *
  generalize target T a.toId = dst at *
  cases nothing : plan.nothingToMigrate with
  | true =>
    rw [if_pos rfl]
    obtain ⟨told, empty⟩ := tellsTruth_nothing nothing aliases planned
    have none {r : ReceiptRow} (mem : r ∈ b.db.receipts) (platform : r.platform = "discord") : r.chatId ∉ tokens := by
      intro inside
      have there : (r.taskId, r.threadId) ∈ b.db.channelReceipts r.chatId :=
        mem_channelReceipts.mpr ⟨r, mem, discord_iff.mpr ⟨platform, rfl⟩, rfl⟩
      rw [empty r.chatId inside] at there
      cases there
    have threaded : SourceThreaded tokens b.db := fun r mem platform inside => absurd inside (none mem platform)
    have absent {token : String} (mem : token ∈ tokens) {lane : String × String} {f : Facts}
        (found : b.db.factsAt lane token = some f) : False := by
      obtain ⟨key, inside, _⟩ := (@lane_of_channel token b.db lane (sourceThreaded_channel threaded mem)).mpr
        (by rw [found]; rfl)
      rw [empty token mem] at inside
      cases inside
    refine ⟨fun _ => ⟨threaded, fun token mem lane s d m source => (absent mem source).elim, ?_⟩, fun _ => ⟨b, rfl, told⟩⟩
    refine List.Pairwise.imp_of_mem (R := fun _ _ => True) ?_ (List.pairwise_of_forall fun _ _ => trivial)
    exact fun mem _ _ lane sa sb source => (absent mem source).elim
  | false =>
    rw [if_neg Bool.false_ne_true, aliases, goal]
    constructor
    · rintro ⟨b', left, told⟩
      obtain ⟨migrated, done, acts⟩ := told.done
      cases ran : transactionBody parseInt quietBoard dst tokens b.db with
      | error e =>
        rw [ran] at done
        cases done
      | ok t =>
        rw [ran] at left done
        cases left
        cases done
        have threaded := transaction_threaded target' ran (aliases ▸ told.left)
        obtain ⟨writable, apart⟩ := (transaction_planned two single target' keyed threaded planned).mp ⟨t, ran, acts⟩
        exact ⟨threaded, (writable_iff threaded planned).mp writable, apart⟩
    · rintro ⟨threaded, held, apart⟩
      obtain ⟨t, ran, acts⟩ := (transaction_planned two single target' keyed threaded planned).mpr
        ⟨(writable_iff threaded planned).mpr held, apart⟩
      obtain ⟨u, v, first, _, receipts, last, _⟩ := transactionBody_ok target' ran
      have kept := receiptRun_kept target' receipts
      rw [ran]
      refine ⟨_, rfl, ⟨_, rfl, acts⟩, aliases ▸ transaction_cleared single target' keyed threaded ran, ?_, ?_⟩
      · dsimp only
        rw [last]
        dsimp only
        rw [kept.keeps.1, first]
        refine List.map_congr_left fun o mem => ?_
        have listed := listsOrigin_iff mem goal origins
        unfold migratedOrigin
        rw [goal]
        by_cases own : o.platform = "discord" ∧ o.chatId ∈ tokens
        · rw [if_pos own, if_pos (listed.mpr own)]
        · rw [if_neg own, if_neg fun is => own (listed.mp is)]
      · dsimp only
        rw [last]
        dsimp only
        rw [kept.keeps.2.2, first]
        cases table : b.db.subs with
        | none => rfl
        | some rows =>
          rw [Option.map_some, Option.map_some]
          refine congrArg some (List.filter_congr fun s mem => ?_)
          have listed := listsSub_iff table mem subs
          unfold keptSub
          refine congrArg not ?_
          rw [Bool.eq_iff_iff, listed]
          simp

theorem requireBoardSchema_code {b : BoardFile} {e : MigrationError} (h : requireBoardSchema b = some e) :
    e.code ≠ "canonical_db_missing" := by
  unfold requireBoardSchema at h
  split at h
  · cases h
    decide
  · cases h
    decide
  · split at h
    · cases h
      decide
    · split at h
      · cases h
        decide
      · cases h

/-- Without a store, the plan says so exactly where a deadletter is asked for and nothing before is wrong. -/
theorem buildPlan_storeless {a : MigrationArgs} {file : Option BoardFile} :
    (∃ e, buildPlan T parseInt a file none = .error e ∧ e.code = "canonical_db_missing") ↔
      ¬(a.deadletterIds = [] ∧ a.deadletterRefs = []) ∧ ∃ b, file = some b ∧ requireBoardSchema b = none ∧
        AcksAgree (target T a.toId) (sourceMatchTokens T a.fromId) b.db := by
  have selects : selectDeadletters T a.board (sourceMatchTokens T a.fromId) (target T a.toId) a.deadletterIds
      a.deadletterRefs none =
        if a.deadletterIds = [] ∧ a.deadletterRefs = [] then .ok [] else .error { code := "canonical_db_missing" } := by
    unfold selectDeadletters
    cases a.deadletterIds <;> cases a.deadletterRefs <;> rfl
  unfold buildPlan
  dsimp only
  rw [selects]
  cases file with
  | none =>
    refine ⟨fun ⟨e, is, code⟩ => ?_, fun ⟨_, b, is, _⟩ => nomatch is⟩
    cases is
    simp at code
  | some b =>
    dsimp only
    cases schema : requireBoardSchema b with
    | some e =>
      refine ⟨fun ⟨e', is, code⟩ => ?_, fun ⟨_, b', is, ok, _⟩ => ?_⟩
      · cases is
        exact absurd code (requireBoardSchema_code schema)
      · cases is
        rw [schema] at ok
        cases ok
    | none =>
      dsimp only
      cases planned : planReceipts parseInt b.db (target T a.toId) (sourceMatchTokens T a.fromId) with
      | error e =>
        refine ⟨fun ⟨e', is, code⟩ => ?_, fun ⟨_, b', is, _, agree⟩ => ?_⟩
        · cases is
          obtain ⟨token, _, key, _, refused⟩ := planReceipts_error planned
          rw [(planReceipt_error refused).1] at code
          simp at code
        · cases is
          obtain ⟨rows, again⟩ := planReceipts_iff.mpr agree
          cases planned.symm.trans again
      | ok rows =>
        dsimp only [bind, Except.bind]
        by_cases none : a.deadletterIds = [] ∧ a.deadletterRefs = []
        · rw [if_pos none]
          exact ⟨fun ⟨e, is, _⟩ => (nomatch is), fun both => absurd none both.1⟩
        · rw [if_neg none]
          refine ⟨fun _ => ⟨none, b, rfl, schema, planReceipts_iff.mp ⟨rows, planned⟩⟩, fun _ => ⟨_, rfl, rfl⟩⟩

/-- Where nobody else writes, apply does what the dry run says, or refuses with its code, exactly where it can be foreseen. -/
theorem dry_run_true_iff (letters : T.isDigit 'r' = false ∧ T.isDigit '#' = false) {a : MigrationArgs}
    {file : Option BoardFile} {store : Option Store} (keyed : ∀ b, file = some b → b.db.Keyed) :
    DryRunTrue T parseInt a file store ↔
      (validateMigrationInputs T a.fromId a.toId = none → Foreseen T parseInt a file store) := by
  unfold DryRunTrue planDiscordMigration
  dsimp only
  cases valid : validateMigrationInputs T a.fromId a.toId with
  | some code =>
    refine ⟨fun _ none => (nomatch none), fun _ => ⟨_, ?_, rfl⟩⟩
    unfold applyBoardStage
    rw [valid]
  | none =>
    dsimp only
    cases store with
    | none =>
      have stage : applyBoardStage T parseInt { board := quietBoard } a file none =
          (.error (.refused { code := "canonical_db_missing" }), file) := by
        unfold applyBoardStage
        rw [valid]
        rfl
      rw [stage]
      unfold Foreseen
      dsimp only
      rw [← @buildPlan_storeless T parseInt a file]
      cases buildPlan T parseInt a file none with
      | error e =>
        constructor
        · rintro ⟨e', is, code⟩ _
          cases is
          exact ⟨e, rfl, code.symm⟩
        · intro h
          obtain ⟨e', is, code⟩ := h rfl
          cases is
          exact ⟨_, rfl, code.symm⟩
      | ok plan =>
        constructor
        · rintro ⟨b, b', _, _, told⟩
          obtain ⟨_, done, _⟩ := told.done
          cases done
        · intro h
          obtain ⟨e, is, _⟩ := h rfl
          cases is
    | some s =>
      cases built : buildPlan T parseInt a file (some s) with
      | error e =>
        dsimp only
        constructor
        · intro _ _ b is schema agree ⟨entries, selected⟩
          subst is
          obtain ⟨rows, planned⟩ := (@planReceipts_iff parseInt _ _ _).mpr agree
          unfold buildPlan at built
          dsimp only at built
          rw [schema, planned, selected] at built
          cases built
        · intro _
          refine ⟨e, ?_, rfl⟩
          unfold applyBoardStage
          rw [valid, built]
          cases file <;> rfl
      | ok plan =>
        obtain ⟨b, is, schema, planned, selected, _⟩ := buildPlan_ok built
        subst is
        have told := tellsTruth_iff letters valid (keyed b rfl) built
        dsimp only
        unfold Foreseen
        dsimp only
        constructor
        · rintro ⟨b₁, b', is, left, tells⟩ _ b₂ is' _ _ _
          cases is
          cases is'
          exact told.mp ⟨b', left, tells⟩
        · intro h
          obtain ⟨b', left, tells⟩ := told.mpr (h rfl b rfl schema (planReceipts_iff.mp ⟨_, planned⟩) ⟨_, selected⟩)
          exact ⟨b, b', rfl, left, tells⟩

end

/-- The board of one task that is called back under both aliases. -/
def aliasFile : BoardFile := ⟨some requiredCols, some requiredCols, aliasBoard⟩

def aliasArgs : MigrationArgs := { board := "main", fromId := "#research", toId := "123" }

theorem dry_run_true_aliases :
    DryRunTrue asciiText String.toInt? aliasArgs (some aliasFile) (some Store.empty) ↔
      (validateMigrationInputs asciiText "#research" "123" = none →
        Foreseen asciiText String.toInt? aliasArgs (some aliasFile) (some Store.empty)) :=
  dry_run_true_iff (by decide) fun _ is => by cases is; unfold BoardDb.Keyed; decide

theorem aliasBoard_target (lane : String × String) : aliasBoard.factsAt lane "123" = none := by
  unfold BoardDb.factsAt
  rw [Option.map_eq_none_iff, List.find?_eq_none]
  simp [aliasBoard, ReceiptRow.hasKey, ReceiptRow.discord]

/-- The plan re-keys the receipts of both aliases, where the second is merged into the first. -/
theorem aliases_planned_apart : ¬∀ (T : PyText), T.isDigit 'r' = false ∧ T.isDigit '#' = false →
    ∀ (parseInt : String → Option Int) (a : MigrationArgs) (file : Option BoardFile) (store : Option Store),
      (∀ b, file = some b → b.db.Keyed) → DryRunTrue T parseInt a file store := by
  intro claim
  have keyed : aliasBoard.Keyed := by
    unfold BoardDb.Keyed
    decide
  have told := claim asciiText (by decide) String.toInt? aliasArgs (some aliasFile) (some Store.empty)
    fun b is => by cases is; exact keyed
  have agree : AcksAgree "123" researchSourceAliases aliasBoard := by
    intro token _ key _ s d _ goal
    rw [aliasBoard_target] at goal
    cases goal
  obtain ⟨rows, planned⟩ := (@planReceipts_iff String.toInt? _ _ _).mpr agree
  have built : ∃ plan, buildPlan asciiText String.toInt? aliasArgs (some aliasFile) (some Store.empty) = .ok plan := by
    unfold buildPlan
    dsimp only
    rw [show requireBoardSchema aliasFile = none from by decide,
      show sourceMatchTokens asciiText aliasArgs.fromId = researchSourceAliases from by decide,
      show target asciiText aliasArgs.toId = "123" from by decide]
    have selected : selectDeadletters asciiText aliasArgs.board researchSourceAliases "123" aliasArgs.deadletterIds
        aliasArgs.deadletterRefs (some Store.empty) = .ok [] := rfl
    dsimp only [aliasFile]
    rw [planned, selected]
    dsimp only [bind, Except.bind]
    exact ⟨_, rfl⟩
  obtain ⟨plan, built⟩ := built
  unfold DryRunTrue planDiscordMigration at told
  rw [show validateMigrationInputs asciiText aliasArgs.fromId aliasArgs.toId = none from by decide, built] at told
  obtain ⟨b, b', is, left, tells⟩ := told
  cases is
  have apart := ((tellsTruth_iff (by decide) (by decide) keyed built).mp ⟨b', left, tells⟩).apart
  rw [show sourceMatchTokens asciiText aliasArgs.fromId = ["#research", "research"] from by decide] at apart
  obtain ⟨d, found, _⟩ := List.pairwise_pair.mp apart ("t1", "") { notifyDeliveryStatus := .text "delivered" }
    { activeWakeStatus := .text "accepted" } (by decide) (by decide)
  rw [show target asciiText aliasArgs.toId = "123" from by decide] at found
  cases (aliasBoard_target ("t1", "")).symm.trans found

end AgentflowHermes.Origins
