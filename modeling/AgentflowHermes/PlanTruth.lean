import AgentflowHermes.PlanRuns

namespace AgentflowHermes.Origins

open ScriptRuns

/-- Whether the plan lists an origin for its new channel. -/
def Plan.listsOrigin (p : Plan) (o : OriginRow) : Bool :=
  p.taskOriginRows.any fun e =>
    o.platform = "discord" && e.taskId = o.taskId && e.fromChatId = o.chatId && e.threadId = threadText o.threadId &&
      e.toChatId = p.toId

def Plan.listsSub (p : Plan) (s : SubRow) : Bool :=
  p.aliasSubsToDelete.any fun e =>
    s.platform = "discord" && e.taskId = s.taskId && e.fromChatId = s.chatId && e.threadId = threadText s.threadId

/-- What is claimed of a plan that is applied: what is re-keyed and merged, with the merged values, is what it lists, all
of this has left its channel, and exactly the listed origins are migrated and the listed subscriptions deleted. -/
structure TellsTruth (plan : Plan) (db : BoardDb) (stage : Except Stop (Plan × BoardMigration)) (db' : BoardDb) : Prop where
  done : ∃ migrated, stage = .ok (plan, migrated) ∧ migrated.actions = plan.receiptRows
  left : ∀ r ∈ db'.receipts, r.platform = "discord" → r.chatId ∉ plan.fromAliases
  origins : db'.origins = db.origins.map fun o => if plan.listsOrigin o then { o with chatId := plan.toId } else o
  subs : db'.subs = db.subs.map fun subs => subs.filter fun s => !plan.listsSub s

/-- What is claimed of a dry run, where nobody else writes. -/
def DryRunTrue (T : PyText) (parseInt : String → Option Int) (a : MigrationArgs) (file : Option BoardFile)
    (store : Option Store) : Prop :=
  let stage := applyBoardStage T parseInt { board := quietBoard } a file store
  match planDiscordMigration T parseInt a file store with
  | .error e => ∃ e', stage.1 = .error (.refused e') ∧ e'.code = e.code
  | .ok plan => ∃ b b', file = some b ∧ stage.2 = some b' ∧ TellsTruth plan b.db stage.1 b'.db

/-- No receipt of a source channel contradicts the one it is to be merged into. -/
def AcksAgree (dst : String) (tokens : List String) (db : BoardDb) : Prop :=
  ∀ token ∈ tokens, ∀ key ∈ db.channelReceipts token, ∀ s d, db.factsAt (laneOf key) token = some s →
    db.factsAt (laneOf key) dst = some d → ackOf db.receiptCols s ≠ "" → ackOf db.receiptCols d ≠ "" →
      ackOf db.receiptCols s = ackOf db.receiptCols d

/-- Whatever is to be merged can be written. -/
def MergesHeld (parseInt : String → Option Int) (dst : String) (tokens : List String) (db : BoardDb) : Prop :=
  ∀ token ∈ tokens, ∀ lane s d m, db.factsAt lane token = some s → db.factsAt lane dst = some d →
    db.mergeAt parseInt lane s d = .ok m → m.writable db.receiptCols = true

/-- Receipts that can be migrated as they are planned one by one. -/
structure Unentangled (parseInt : String → Option Int) (dst : String) (tokens : List String) (db : BoardDb) : Prop where
  threaded : SourceThreaded tokens db
  held : MergesHeld parseInt dst tokens db
  apart : AliasesApart parseInt dst tokens db

/-- Where the dry run can be trusted. -/
def Foreseen (T : PyText) (parseInt : String → Option Int) (a : MigrationArgs) (file : Option BoardFile)
    (store : Option Store) : Prop :=
  let tokens := sourceMatchTokens T a.fromId
  let dst := target T a.toId
  match store with
  | none =>
    ¬(a.deadletterIds = [] ∧ a.deadletterRefs = []) ∧
      ∃ b, file = some b ∧ requireBoardSchema b = none ∧ AcksAgree dst tokens b.db
  | some _ =>
    ∀ b, file = some b → requireBoardSchema b = none → AcksAgree dst tokens b.db →
      (∃ entries, selectDeadletters T a.board tokens dst a.deadletterIds a.deadletterRefs store = .ok entries) →
        Unentangled parseInt dst tokens b.db

section

variable {parseInt : String → Option Int} {dst token : String} {tokens : List String} {db : BoardDb}

theorem mergeReceiptFacts_error {task thread : String} {s d : Facts} {e : MigrationError}
    (h : mergeReceiptFacts parseInt task thread s d = .error e) :
    e.code = "ambiguous_receipt_merge" ∧ s.consumerAckStatus.shown ≠ "" ∧ d.consumerAckStatus.shown ≠ "" ∧
      s.consumerAckStatus.shown ≠ d.consumerAckStatus.shown := by
  unfold mergeReceiptFacts at h
  dsimp only at h
  split at h
  next differ =>
    cases h
    exact ⟨rfl, differ⟩
  · cases h

theorem mergeReceiptFacts_agree {task thread : String} {s d : Facts} {m : Merged}
    (h : mergeReceiptFacts parseInt task thread s d = .ok m) (some : s.consumerAckStatus.shown ≠ "")
    (some' : d.consumerAckStatus.shown ≠ "") : s.consumerAckStatus.shown = d.consumerAckStatus.shown := by
  unfold mergeReceiptFacts at h
  dsimp only at h
  split at h
  · cases h
  next agree => exact Decidable.byContradiction fun differ => agree ⟨some, some', differ⟩

theorem planReceipt_error {key : String × Option String} {e : MigrationError}
    (h : planReceipt parseInt db dst token key = .error e) :
    e.code = "ambiguous_receipt_merge" ∧ ∃ s d, db.factsAt (laneOf key) token = some s ∧
      db.factsAt (laneOf key) dst = some d ∧ ackOf db.receiptCols s ≠ "" ∧ ackOf db.receiptCols d ≠ "" ∧
        ackOf db.receiptCols s ≠ ackOf db.receiptCols d := by
  rw [planReceipt_eq] at h
  cases goal : db.factsAt (laneOf key) dst with
  | none =>
    rw [goal] at h
    cases h
  | some d =>
    rw [goal] at h
    unfold planAction at h
    dsimp only at h
    cases merging : mergeReceiptFacts parseInt (laneOf key).1 (laneOf key).2
        (((db.factsAt (laneOf key) token).map (Facts.within db.receiptCols)).getD {}) (d.within db.receiptCols) with
    | ok m =>
      rw [merging] at h
      cases h
    | error e' =>
      rw [merging] at h
      cases h
      obtain ⟨code, source, target, differ⟩ := mergeReceiptFacts_error merging
      refine ⟨code, ?_⟩
      cases there : db.factsAt (laneOf key) token with
      | none =>
        rw [there] at source
        exact absurd rfl source
      | some s =>
        rw [there] at source differ
        exact ⟨s, d, rfl, rfl, source, target, differ⟩

theorem planAll_error {keys : List (String × Option String)} {e : MigrationError}
    (h : planAll parseInt db dst token keys = .error e) :
    ∃ key ∈ keys, planReceipt parseInt db dst token key = .error e := by
  induction keys with
  | nil => cases h
  | cons key rest ih =>
    unfold planAll at h
    cases first : planReceipt parseInt db dst token key with
    | error e' =>
      rw [first] at h
      cases h
      exact ⟨key, List.mem_cons_self, first⟩
    | ok entry =>
      rw [first] at h
      cases later : planAll parseInt db dst token rest with
      | ok more =>
        rw [later] at h
        cases h
      | error e' =>
        rw [later] at h
        cases h
        obtain ⟨other, mem, found⟩ := ih later
        exact ⟨other, List.mem_cons_of_mem _ mem, found⟩

theorem planReceipts_error {e : MigrationError} (h : planReceipts parseInt db dst tokens = .error e) :
    ∃ token ∈ tokens, ∃ key ∈ db.channelReceipts token, planReceipt parseInt db dst token key = .error e := by
  induction tokens with
  | nil => cases h
  | cons token rest ih =>
    unfold planReceipts at h
    cases first : planAll parseInt db dst token (db.channelReceipts token) with
    | error e' =>
      rw [first] at h
      cases h
      exact ⟨token, List.mem_cons_self, planAll_error first⟩
    | ok entries =>
      rw [first] at h
      cases later : planReceipts parseInt db dst rest with
      | ok more =>
        rw [later] at h
        cases h
      | error e' =>
        rw [later] at h
        cases h
        obtain ⟨other, mem, found⟩ := ih later
        exact ⟨other, List.mem_cons_of_mem _ mem, found⟩

theorem planReceipts_ok {rows : List ReceiptEntry} (h : planReceipts parseInt db dst tokens = .ok rows) :
    ∀ token ∈ tokens, ∃ entries, planAll parseInt db dst token (db.channelReceipts token) = .ok entries ∧ entries ⊆ rows := by
  induction tokens generalizing rows with
  | nil => exact fun _ mem => nomatch mem
  | cons first rest ih =>
    unfold planReceipts at h
    obtain ⟨entries, own, h⟩ := bind_ok' h
    obtain ⟨more, later, h⟩ := bind_ok' h
    cases h
    intro token mem
    rcases List.mem_cons.mp mem with rfl | inside
    · exact ⟨entries, own, List.subset_append_left _ _⟩
    · obtain ⟨others, planned, among⟩ := ih later token inside
      exact ⟨others, planned, List.Subset.trans among (List.subset_append_right _ _)⟩

/-- The receipts can be planned exactly if none contradicts the one it is to be merged into. -/
theorem planReceipts_iff : (∃ rows, planReceipts parseInt db dst tokens = .ok rows) ↔ AcksAgree dst tokens db := by
  constructor
  · rintro ⟨rows, planned⟩ token mem key inside s d source target some some'
    obtain ⟨entries, all, _⟩ := planReceipts_ok planned token mem
    obtain ⟨i, hi, rfl⟩ := List.mem_iff_getElem.mp inside
    have each := planAll_ok.mp all
    have found := each.get hi (each.length_eq ▸ hi)
    rw [List.get_eq_getElem, planReceipt_eq, source, target] at found
    rw [planAction_merge] at found
    cases merging : db.mergeAt parseInt (laneOf (db.channelReceipts token)[i]) s d with
    | error e =>
      rw [merging] at found
      cases found
    | ok m => exact mergeReceiptFacts_agree merging some some'
  · intro agree
    cases planned : planReceipts parseInt db dst tokens with
    | ok rows => exact ⟨rows, rfl⟩
    | error e =>
      obtain ⟨token, mem, key, inside, refused⟩ := planReceipts_error planned
      obtain ⟨_, s, d, source, target, some, some', differ⟩ := planReceipt_error refused
      exact absurd (agree token mem key inside s d source target some some') differ

theorem sourceThreaded_channel (threaded : SourceThreaded tokens db) (mem : token ∈ tokens) :
    ∀ r ∈ db.receipts, r.discord token = true → r.threadId ≠ none := by
  intro r inside own
  rw [discord_iff] at own
  exact threaded r inside own.1 (own.2 ▸ mem)

/-- What is planned can be written exactly if every merge can. -/
theorem writable_iff {rows : List ReceiptEntry} (threaded : SourceThreaded tokens db)
    (planned : planReceipts parseInt db dst tokens = .ok rows) :
    Writable db.receiptCols rows ↔ MergesHeld parseInt dst tokens db := by
  constructor
  · intro writable token mem lane s d m source target merged
    obtain ⟨entries, all, among⟩ := planReceipts_ok planned token mem
    obtain ⟨key, inside, rfl⟩ :=
      (@lane_of_channel token db lane (sourceThreaded_channel threaded mem)).mpr (by rw [source]; rfl)
    obtain ⟨i, hi, rfl⟩ := List.mem_iff_getElem.mp inside
    have each := planAll_ok.mp all
    have found := each.get hi (each.length_eq ▸ hi)
    rw [List.get_eq_getElem, planReceipt_eq, source, target, planAction_merge, merged] at found
    refine writable _ (among (List.get_mem entries ⟨i, each.length_eq ▸ hi⟩)) m ?_
    exact (congrArg ReceiptEntry.action (Except.ok.inj found)).symm
  · intro held
    induction tokens generalizing rows with
    | nil =>
      cases planned
      exact fun _ mem => nomatch mem
    | cons token rest ih =>
      unfold planReceipts at planned
      obtain ⟨entries, own, planned⟩ := bind_ok' planned
      obtain ⟨more, later, planned⟩ := bind_ok' planned
      cases planned
      have others := ih (fun r inside platform mem => threaded r inside platform (List.mem_cons_of_mem _ mem)) later
        fun other mem => held other (List.mem_cons_of_mem _ mem)
      refine writable_append.mpr ⟨fun entry mem m is => ?_, others⟩
      have each := planAll_ok.mp own
      obtain ⟨i, hi, rfl⟩ := List.mem_iff_getElem.mp mem
      have hk : i < (db.channelReceipts token).length := each.length_eq ▸ hi
      have found := each.get hk hi
      have inside : (db.channelReceipts token)[i] ∈ db.channelReceipts token := List.getElem_mem hk
      obtain ⟨s, source⟩ := Option.isSome_iff_exists.mp
        ((lane_of_channel (sourceThreaded_channel threaded List.mem_cons_self)).mp ⟨_, inside, rfl⟩)
      rw [List.get_eq_getElem, planReceipt_eq, source] at found
      cases target : db.factsAt (laneOf (db.channelReceipts token)[i]) dst with
      | none =>
        rw [target] at found
        dsimp only [planAction, Except.map] at found
        rw [Except.ok.injEq] at found
        have action := congrArg ReceiptEntry.action found
        rw [List.get_eq_getElem, is] at action
        cases action
      | some d =>
        rw [target, planAction_merge] at found
        cases merged : db.mergeAt parseInt (laneOf (db.channelReceipts token)[i]) s d with
        | error e =>
          rw [merged] at found
          cases found
        | ok m' =>
          rw [merged] at found
          dsimp only [Except.map] at found
          rw [Except.ok.injEq] at found
          have action := congrArg ReceiptEntry.action found
          rw [List.get_eq_getElem, is] at action
          cases action
          exact held token List.mem_cons_self _ s d m source target merged

/-- A source channel whose receipts all have a thread is empty afterwards. -/
theorem channel_cleared {env : BoardEnv} {u v : Txn} (apart : token ≠ dst) (keyed : u.db.Keyed)
    (threaded : ∀ r ∈ u.db.receipts, r.discord token = true → r.threadId ≠ none)
    (h : migrateReceipts parseInt env dst token u = .ok v) : v.db.channelReceipts token = [] := by
  unfold migrateReceipts at h
  have moved := migrateReceipts_moves apart (channelReceipts_nodup keyed threaded) h
  have kept : ReceiptsKept [token, dst] u v := migrateReceipts_kept apart (by simp) (by simp) h
  have still : ∀ r ∈ v.db.receipts, r.discord token = true → r.threadId ≠ none := by
    intro r inside own none
    have same := kept.kept (fun r => r.threadId.isNone) fun r isNone lane chat _ => by
      rw [Bool.eq_false_iff]
      intro has
      rw [(hasKey_discord.mp has).2.2] at isNone
      cases isNone
    have mem : r ∈ v.db.receipts.filter fun r => r.threadId.isNone := List.mem_filter.mpr ⟨inside, by rw [none]; rfl⟩
    rw [same] at mem
    exact threaded r (List.mem_filter.mp mem).1 own none
  rw [List.eq_nil_iff_forall_not_mem]
  intro key mem
  have found := (lane_of_channel still).mp ⟨key, mem, rfl⟩
  cases before : (u.db.factsAt (laneOf key) token).isSome with
  | true =>
    obtain ⟨other, inside, is⟩ := (@lane_of_channel token u.db (laneOf key) threaded).mpr before
    rw [← is, (moved.moved other inside).1] at found
    cases found
  | false =>
    rw [moved.unmoved (laneOf key) (fun other inside is => ?_) token, before] at found
    · cases found
    · rw [← is, (lane_of_channel threaded).mp ⟨other, inside, rfl⟩] at before
      cases before

/-- Source channels whose receipts all have a thread are empty afterwards. -/
theorem receiptRun_cleared {env : BoardEnv} {u v : Txn} (single : tokens.Nodup) (target : dst ∉ tokens)
    (keyed : u.db.Keyed) (threaded : SourceThreaded tokens u.db)
    (h : runScript (migrateReceipts parseInt env dst) tokens u = .ok v) :
    ∀ token ∈ tokens, v.db.channelReceipts token = [] := by
  induction tokens generalizing u with
  | nil => exact fun _ mem => nomatch mem
  | cons first rest ih =>
    unfold runScript at h
    cases moved : migrateReceipts parseInt env dst first u with
    | error e =>
      rw [moved] at h
      cases h
    | ok w =>
      rw [moved] at h
      dsimp only at h
      rw [List.nodup_cons] at single
      have apart : first ≠ dst := fun same => target (same ▸ List.mem_cons_self)
      have offRest : dst ∉ rest := fun mem => target (List.mem_cons_of_mem _ mem)
      have cleared := channel_cleared apart keyed (sourceThreaded_channel threaded List.mem_cons_self) moved
      unfold migrateReceipts at moved
      have kept : ReceiptsKept [first, dst] u w := migrateReceipts_kept apart (by simp) (by simp) moved
      have still : SourceThreaded rest w.db := by
        intro r inside platform mem none
        have off : r.chatId ∉ [first, dst] := by
          simp only [List.mem_cons, List.not_mem_nil, or_false, not_or]
          exact ⟨fun same => single.1 (same ▸ mem), fun same => offRest (same ▸ mem)⟩
        have there : (r.taskId, r.threadId) ∈ w.db.channelReceipts r.chatId :=
          mem_channelReceipts.mpr ⟨r, inside, discord_iff.mpr ⟨platform, rfl⟩, rfl⟩
        rw [kept.channelReceipts off] at there
        obtain ⟨r', inside', own', is⟩ := mem_channelReceipts.mp there
        rw [discord_iff] at own'
        refine threaded r' inside' own'.1 (List.mem_cons_of_mem _ (own'.2 ▸ mem)) ?_
        rw [show r'.threadId = r.threadId from congrArg Prod.snd is, none]
      intro token mem
      rcases List.mem_cons.mp mem with rfl | inside
      · have off : token ∉ dst :: rest := by
          rw [List.mem_cons, not_or]
          exact ⟨apart, single.1⟩
        rw [(receiptRun_kept offRest h).channelReceipts off, cleared]
      · exact ih single.2 offRest (kept.keyed keyed) still h token inside

end

end AgentflowHermes.Origins
