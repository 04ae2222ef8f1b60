import AgentflowHermes.DiscordPlans

namespace AgentflowHermes.Origins

open ScriptRuns

/-- Whether all that is merged can be written. -/
def Writable (cols : List MergeCol) (entries : List ReceiptEntry) : Prop :=
  ∀ entry ∈ entries, ∀ m, entry.action = .merge m → m.writable cols = true

/-- The merge of two receipts of one task and thread. -/
def BoardDb.mergeAt (parseInt : String → Option Int) (db : BoardDb) (lane : String × String) (s d : Facts) :
    Except MigrationError Merged :=
  mergeReceiptFacts parseInt lane.1 lane.2 (s.within db.receiptCols) (d.within db.receiptCols)

/-- Two receipts of one task and thread that do not get in each other's way: the second is merged into what the first
leaves as it is into the target. -/
def ApartAt (parseInt : String → Option Int) (dst : String) (db : BoardDb) (lane : String × String) (first second : Facts) :
    Prop :=
  ∃ d, db.factsAt lane dst = some d ∧ ∀ m, db.mergeAt parseInt lane first d = .ok m →
    db.mergeAt parseInt lane second (d.set db.receiptCols m) = db.mergeAt parseInt lane second d

section

variable {parseInt : String → Option Int} {dst token : String} {tokens : List String} {t t' : Txn}

theorem quiet_execute {w : BoardWrite} {db : BoardDb} (h : quietBoard.refuses w db = false) :
    execute quietBoard w db = .ok (w.apply db) := by
  unfold execute
  rw [h]
  rfl

/-- Where nobody else writes, a receipt is migrated exactly if it can be planned and written. -/
theorem migrateReceipt_quiet {key : String × Option String} :
    (∃ t', migrateReceipt parseInt quietBoard dst token key t = .ok t') ↔
      ∃ a, planAction parseInt t.db.receiptCols (laneOf key) (t.db.factsAt (laneOf key) token)
          (t.db.factsAt (laneOf key) dst) = .ok a ∧
        ∀ m, a = .merge m → m.writable t.db.receiptCols = true := by
  have dict (chat : String) := @receiptRowDict_eq t.db (laneOf key) chat
  unfold migrateReceipt planAction
  unfold laneOf at dict ⊢
  dsimp only at dict ⊢
  rw [dict, dict]
  cases t.db.factsAt (key.1, threadText key.2) dst with
  | none =>
    dsimp only [Option.map_none]
    rw [quiet_execute rfl]
    exact ⟨fun _ => ⟨.rekey, rfl, fun _ is => (nomatch is)⟩, fun _ => ⟨_, rfl⟩⟩
  | some d =>
    dsimp only [Option.map_some]
    cases mergeReceiptFacts parseInt key.1 (threadText key.2)
        (((t.db.factsAt (key.1, threadText key.2) token).map (Facts.within t.db.receiptCols)).getD {})
        (d.within t.db.receiptCols) with
    | error e => exact ⟨fun ⟨_, h⟩ => (nomatch h), fun ⟨_, h, _⟩ => nomatch h⟩
    | ok m =>
      dsimp only [Except.map, bind, Except.bind]
      cases held : m.writable t.db.receiptCols with
      | true =>
        rw [quiet_execute (by simp [quietBoard, held])]
        dsimp only
        rw [quiet_execute rfl]
        refine ⟨fun _ => ⟨.merge m, rfl, fun m' is => ?_⟩, fun _ => ⟨_, rfl⟩⟩
        cases is
        exact held
      | false =>
        have refused : execute quietBoard (.setFacts key.1 dst (threadText key.2) m) t.db =
            .error { code := "board_transaction_failed" } := by
          unfold execute
          exact if_pos (by simp [quietBoard, held])
        rw [refused]
        refine ⟨fun ⟨_, h⟩ => (nomatch h), fun ⟨a, is, all⟩ => ?_⟩
        cases is
        have written := all m rfl
        rw [held] at written
        cases written

/-- Where nobody else writes, a source channel is migrated exactly if all of it can be planned and written. -/
theorem migrateChannel_quiet {keys : List (String × Option String)} (apart : token ≠ dst)
    (single : (keys.map laneOf).Nodup) :
    (∃ t', runScript (migrateReceipt parseInt quietBoard dst token) keys t = .ok t') ↔
      ∃ entries, planAll parseInt t.db dst token keys = .ok entries ∧ Writable t.db.receiptCols entries := by
  induction keys generalizing t with
  | nil => exact ⟨fun _ => ⟨[], rfl, by simp [Writable]⟩, fun _ => ⟨t, rfl⟩⟩
  | cons key rest ih =>
    rw [List.map_cons, List.nodup_cons] at single
    have others {u : Txn} {a : Action} (step : ReceiptMoved parseInt dst token (laneOf key) a t u) :
        planAll parseInt u.db dst token rest = planAll parseInt t.db dst token rest := by
      refine planAll_congr step.keeps.2.1 fun other mem chat => step.frame _ _ fun both => single.1 ?_
      exact List.mem_map.mpr ⟨other, mem, both.1⟩
    have one := @migrateReceipt_quiet parseInt dst token t key
    unfold runScript planAll
    rw [planReceipt_eq]
    cases first : migrateReceipt parseInt quietBoard dst token key t with
    | error e =>
      refine iff_of_false (by simp) ?_
      rintro ⟨entries, planned, writable⟩
      cases own : planAction parseInt t.db.receiptCols (laneOf key) (t.db.factsAt (laneOf key) token)
          (t.db.factsAt (laneOf key) dst) with
      | error e =>
        rw [own] at planned
        cases planned
      | ok a =>
        rw [own] at planned
        dsimp only [Except.map] at planned
        cases later : planAll parseInt t.db dst token rest with
        | error e =>
          rw [later] at planned
          cases planned
        | ok more =>
          rw [later] at planned
          cases planned
          obtain ⟨t', moved⟩ := one.mpr ⟨a, own, fun m is => writable _ List.mem_cons_self m is⟩
          rw [first] at moved
          cases moved
    | ok u =>
      obtain ⟨a, step⟩ := migrateReceipt_moves apart first
      change ReceiptMoved parseInt dst token (laneOf key) a t u at step
      obtain ⟨a', own, held⟩ := one.mp ⟨u, first⟩
      cases step.planned.symm.trans own
      dsimp only
      rw [ih single.2, others step, step.keeps.2.1, step.planned]
      dsimp only [Except.map]
      cases planAll parseInt t.db dst token rest with
      | error e => exact iff_of_false (by simp) (by simp)
      | ok more =>
        constructor
        · rintro ⟨entries, is, writable⟩
          cases is
          refine ⟨_, rfl, fun entry mem m is => ?_⟩
          rcases List.mem_cons.mp mem with rfl | inside
          · exact held m is
          · exact writable entry inside m is
        · rintro ⟨entries, is, writable⟩
          cases is
          exact ⟨more, rfl, fun entry mem => writable entry (List.mem_cons_of_mem _ mem)⟩

theorem planAction_merge {db : BoardDb} {lane : String × String} {s d : Facts} :
    planAction parseInt db.receiptCols lane (some s) (some d) = (db.mergeAt parseInt lane s d).map .merge := rfl

/-- Two merges that are planned alike are the same. -/
theorem merge_planned {x y : Except MigrationError Merged} {f : Action → ReceiptEntry} (inj : Function.Injective f)
    {entry : ReceiptEntry} (hx : (x.map Action.merge).map f = .ok entry) (hy : (y.map Action.merge).map f = .ok entry) :
    x = y := by
  cases x with
  | error e => cases hx
  | ok m =>
    cases y with
    | error e => cases hy
    | ok m' =>
      have same := inj (Except.ok.inj (hx.trans hy.symm))
      cases same
      rfl

/-- After one source channel, a receipt of another is planned as before exactly if the two do not get in each other's way. -/
theorem nextChannel_plan {a b : String} {u v : Txn} (distinct : b ≠ a) (target : a ≠ dst ∧ b ≠ dst)
    (threaded : ∀ r ∈ u.db.receipts, r.discord a = true → r.threadId ≠ none)
    (kept : ReceiptsKept [a, dst] u v) (moved : ChannelMoved parseInt dst a (u.db.channelReceipts a) u v)
    {key : String × Option String} {sb : Facts} (there : u.db.factsAt (laneOf key) b = some sb) {entry : ReceiptEntry}
    (planned : planReceipt parseInt u.db dst b key = .ok entry) :
    planReceipt parseInt v.db dst b key = .ok entry ↔
      ∀ sa, u.db.factsAt (laneOf key) a = some sa → ApartAt parseInt dst u.db (laneOf key) sa sb := by
  have same : v.db.factsAt (laneOf key) b = some sb := by
    rw [kept.frame _ b (by simp [distinct, target.2]), there]
  rw [planReceipt_eq, there] at planned
  rw [planReceipt_eq, same, kept.keeps.2.1]
  cases first : u.db.factsAt (laneOf key) a with
  | none =>
    have unmoved := moved.unmoved (laneOf key) (fun other mem is => by
      have found := (lane_of_channel threaded).mp ⟨other, mem, is⟩
      rw [first] at found
      cases found) dst
    rw [unmoved]
    exact ⟨fun _ sa is => (nomatch is), fun _ => planned⟩
  | some sa =>
    obtain ⟨other, mem, is⟩ := (@lane_of_channel a u.db (laneOf key) threaded).mpr (by rw [first]; rfl)
    obtain ⟨_, action, own, result⟩ := moved.moved other mem
    rw [is, first] at own result
    rw [result]
    cases goal : u.db.factsAt (laneOf key) dst with
    | none =>
      rw [goal] at own planned
      cases own
      cases planned
      constructor
      · intro merged
        exfalso
        unfold planAction Action.result at merged
        dsimp only at merged
        cases h : mergeReceiptFacts parseInt (laneOf key).1 (laneOf key).2
            (((some sb).map (Facts.within u.db.receiptCols)).getD {}) (sa.within u.db.receiptCols) with
        | error e =>
          rw [h] at merged
          cases merged
        | ok m =>
          rw [h] at merged
          cases merged
      · intro apart
        obtain ⟨d, found, _⟩ := apart sa rfl
        rw [goal] at found
        cases found
    | some d =>
      rw [goal] at own planned
      cases merged : u.db.mergeAt parseInt (laneOf key) sa d with
      | error e =>
        have stuck : planAction parseInt u.db.receiptCols (laneOf key) (some sa) (some d) = .error e := by
          show (u.db.mergeAt parseInt (laneOf key) sa d).map Action.merge = _
          rw [merged]
          rfl
        cases stuck.symm.trans own
      | ok m =>
        rw [planAction_merge, merged] at own
        cases own
        rw [planAction_merge] at planned
        unfold Action.result
        dsimp only [Option.map_some]
        rw [planAction_merge]
        constructor
        · intro again sa' is
          cases is
          refine ⟨d, goal, fun m' is => ?_⟩
          cases merged.symm.trans is
          refine merge_planned (fun x y same => ?_) again planned
          exact congrArg ReceiptEntry.action same
        · intro apart
          obtain ⟨d', found, agree⟩ := apart sa rfl
          cases goal.symm.trans found
          rw [agree m merged]
          exact planned

theorem planAll_ok {db : BoardDb} {keys : List (String × Option String)} {entries : List ReceiptEntry} :
    planAll parseInt db dst token keys = .ok entries ↔
      List.Forall₂ (fun key entry => planReceipt parseInt db dst token key = .ok entry) keys entries := by
  induction keys generalizing entries with
  | nil =>
    unfold planAll
    rw [Except.ok.injEq, List.forall₂_nil_left_iff]
    exact eq_comm
  | cons key rest ih =>
    unfold planAll
    cases first : planReceipt parseInt db dst token key with
    | error e =>
      refine iff_of_false (by simp) fun h => ?_
      cases h with
      | cons head _ =>
        rw [first] at head
        cases head
    | ok entry =>
      dsimp only
      constructor
      · intro h
        cases later : planAll parseInt db dst token rest with
        | error e =>
          rw [later] at h
          cases h
        | ok more =>
          rw [later] at h
          cases h
          exact .cons first (ih.mp later)
      · intro h
        cases h with
        | cons head tail =>
          cases first.symm.trans head
          rw [ih.mpr tail]
          rfl

/-- Plans of one list that come to the same are made of the same entries. -/
theorem planAll_same {db db' : BoardDb} {keys : List (String × Option String)} {entries : List ReceiptEntry}
    (planned : planAll parseInt db dst token keys = .ok entries) :
    planAll parseInt db' dst token keys = .ok entries ↔
      ∀ key ∈ keys, ∀ entry, planReceipt parseInt db dst token key = .ok entry →
        planReceipt parseInt db' dst token key = .ok entry := by
  rw [planAll_ok] at planned ⊢
  induction planned with
  | nil => exact ⟨fun _ key mem => (nomatch mem), fun _ => .nil⟩
  | @cons key entry rest more first _ ih =>
    constructor
    · intro h other mem found planned
      cases h with
      | cons head tail =>
        rcases List.mem_cons.mp mem with rfl | inside
        · cases first.symm.trans planned
          exact head
        · exact ih.mp tail other inside found planned
    · intro h
      refine .cons (h key List.mem_cons_self entry first) (ih.mpr fun other mem => ?_)
      exact h other (List.mem_cons_of_mem _ mem)

theorem writable_append {cols : List MergeCol} {entries more : List ReceiptEntry} :
    Writable cols (entries ++ more) ↔ Writable cols entries ∧ Writable cols more := by
  unfold Writable
  simp only [List.mem_append]
  constructor
  · exact fun h => ⟨fun entry mem => h entry (.inl mem), fun entry mem => h entry (.inr mem)⟩
  · rintro ⟨one, two⟩ entry (mem | mem)
    · exact one entry mem
    · exact two entry mem

/-- The receipts of a channel that is not touched. -/
theorem ReceiptsKept.channelReceipts {chats : List String} {u v : Txn} {b : String} (kept : ReceiptsKept chats u v)
    (off : b ∉ chats) : v.db.channelReceipts b = u.db.channelReceipts b := by
  unfold BoardDb.channelReceipts
  rw [kept.kept (·.discord b) fun r own lane chat mem => ?_]
  rw [Bool.eq_false_iff]
  intro has
  have there := (hasKey_discord.mp has).1
  rw [discord_iff] at own there
  exact off (own.2 ▸ there.2 ▸ mem)

/-- Every receipt of the source channels has a thread. -/
def SourceThreaded (tokens : List String) (db : BoardDb) : Prop :=
  ∀ r ∈ db.receipts, r.platform = "discord" → r.chatId ∈ tokens → r.threadId ≠ none

/-- No two aliases get in each other's way. -/
def AliasesApart (parseInt : String → Option Int) (dst : String) (tokens : List String) (db : BoardDb) : Prop :=
  tokens.Pairwise fun a b => ∀ lane sa sb, db.factsAt lane a = some sa → db.factsAt lane b = some sb →
    ApartAt parseInt dst db lane sa sb

section

variable {a b : String} {u v : Txn} {ea eb : List ReceiptEntry}

/-- What the migration of a channel does that was planned. -/
theorem channel_moves (apart : a ≠ dst) (keyed : u.db.Keyed)
    (threaded : ∀ r ∈ u.db.receipts, r.discord a = true → r.threadId ≠ none)
    (planned : planAll parseInt u.db dst a (u.db.channelReceipts a) = .ok ea)
    (h : migrateReceipts parseInt quietBoard dst a u = .ok v) :
    ReceiptsKept [a, dst] u v ∧ ChannelMoved parseInt dst a (u.db.channelReceipts a) u v ∧ v.actions = u.actions ++ ea := by
  unfold migrateReceipts at h
  have moved := migrateReceipts_moves apart (channelReceipts_nodup keyed threaded) h
  obtain ⟨entries, same, acted⟩ := moved.planned
  cases planned.symm.trans same
  exact ⟨migrateReceipts_kept apart (by simp) (by simp) h, moved, acted⟩

theorem channel_runs (apart : a ≠ dst) (keyed : u.db.Keyed)
    (threaded : ∀ r ∈ u.db.receipts, r.discord a = true → r.threadId ≠ none)
    (planned : planAll parseInt u.db dst a (u.db.channelReceipts a) = .ok ea) :
    (∃ v, migrateReceipts parseInt quietBoard dst a u = .ok v) ↔ Writable u.db.receiptCols ea := by
  unfold migrateReceipts
  rw [migrateChannel_quiet apart (channelReceipts_nodup keyed threaded), planned]
  constructor
  · rintro ⟨entries, is, writable⟩
    cases is
    exact writable
  · exact fun writable => ⟨ea, rfl, writable⟩

/-- After one channel, another is planned as before exactly if they do not get in each other's way. -/
theorem channel_replanned (distinct : b ≠ a) (target : a ≠ dst ∧ b ≠ dst)
    (threaded : ∀ r ∈ u.db.receipts, r.discord a = true → r.threadId ≠ none)
    (threadedB : ∀ r ∈ u.db.receipts, r.discord b = true → r.threadId ≠ none) (kept : ReceiptsKept [a, dst] u v)
    (moved : ChannelMoved parseInt dst a (u.db.channelReceipts a) u v)
    (planned : planAll parseInt u.db dst b (u.db.channelReceipts b) = .ok eb) :
    planAll parseInt v.db dst b (u.db.channelReceipts b) = .ok eb ↔
      ∀ lane sa sb, u.db.factsAt lane a = some sa → u.db.factsAt lane b = some sb →
        ApartAt parseInt dst u.db lane sa sb := by
  rw [planAll_same planned]
  constructor
  · intro h lane sa sb first second
    obtain ⟨key, mem, rfl⟩ := (@lane_of_channel b u.db lane threadedB).mpr (by rw [second]; rfl)
    obtain ⟨entry, found⟩ : ∃ entry, planReceipt parseInt u.db dst b key = .ok entry := by
      obtain ⟨i, hi, rfl⟩ := List.mem_iff_getElem.mp mem
      have each := planAll_ok.mp planned
      have length := each.length_eq
      exact ⟨eb[i], each.get hi (length ▸ hi)⟩
    exact (nextChannel_plan distinct target threaded kept moved second found).mp (h key mem entry found) sa first
  · intro h key mem entry found
    obtain ⟨sb, second⟩ := Option.isSome_iff_exists.mp ((lane_of_channel threadedB).mp ⟨key, mem, rfl⟩)
    exact (nextChannel_plan distinct target threaded kept moved second found).mpr fun sa first => h _ sa sb first second

end

/-- Where nobody else writes, the receipts are migrated as planned exactly if this can be written and no two aliases
get in each other's way. -/
theorem migrateReceipts_planned {u : Txn} {rows : List ReceiptEntry} (two : tokens.length ≤ 2) (single : tokens.Nodup)
    (target : dst ∉ tokens) (keyed : u.db.Keyed) (threaded : SourceThreaded tokens u.db)
    (planned : planReceipts parseInt u.db dst tokens = .ok rows) :
    (∃ v, runScript (migrateReceipts parseInt quietBoard dst) tokens u = .ok v ∧ v.actions = u.actions ++ rows) ↔
      Writable u.db.receiptCols rows ∧ AliasesApart parseInt dst tokens u.db := by
  have channel {a : String} (mem : a ∈ tokens) : ∀ r ∈ u.db.receipts, r.discord a = true → r.threadId ≠ none := by
    intro r inside own
    rw [discord_iff] at own
    exact threaded r inside own.1 (own.2 ▸ mem)
  match tokens with
  | [] =>
    cases planned
    refine ⟨fun _ => ⟨fun _ mem => (nomatch mem), .nil⟩, fun _ => ⟨u, rfl, ?_⟩⟩
    rw [List.append_nil]
  | [a] =>
    have apart : a ≠ dst := fun same => target (same ▸ List.mem_cons_self)
    unfold planReceipts at planned
    obtain ⟨ea, first, planned⟩ := bind_ok' planned
    cases planned
    have runs := channel_runs apart keyed (channel List.mem_cons_self) first
    rw [List.append_nil, ← runs]
    constructor
    · rintro ⟨v, run, _⟩
      unfold runScript at run
      cases moved : migrateReceipts parseInt quietBoard dst a u with
      | error e =>
        rw [moved] at run
        cases run
      | ok v => exact ⟨⟨v, rfl⟩, List.pairwise_singleton _ _⟩
    · rintro ⟨⟨v, moved⟩, _⟩
      refine ⟨v, ?_, (channel_moves apart keyed (channel List.mem_cons_self) first moved).2.2⟩
      unfold runScript
      rw [moved]
      rfl
  | [a, b] =>
    have apartA : a ≠ dst := fun same => target (same ▸ List.mem_cons_self)
    have apartB : b ≠ dst := fun same => target (same ▸ List.mem_cons_of_mem _ List.mem_cons_self)
    have distinct : b ≠ a := by
      rintro rfl
      simp at single
    have threadedA := channel (a := a) List.mem_cons_self
    have threadedB := channel (a := b) (List.mem_cons_of_mem _ List.mem_cons_self)
    unfold planReceipts at planned
    obtain ⟨ea, first, planned⟩ := bind_ok' planned
    obtain ⟨eb', second, planned⟩ := bind_ok' planned
    unfold planReceipts at second
    obtain ⟨eb, planB, rest⟩ := bind_ok' second
    cases rest
    cases planned
    have later {v : Txn} (moved : migrateReceipts parseInt quietBoard dst a u = .ok v) :
        v.db.Keyed ∧ (∀ r ∈ v.db.receipts, r.discord b = true → r.threadId ≠ none) ∧
          v.db.channelReceipts b = u.db.channelReceipts b ∧ v.db.receiptCols = u.db.receiptCols ∧
          v.actions = u.actions ++ ea ∧
          (planAll parseInt v.db dst b (u.db.channelReceipts b) = .ok eb ↔ AliasesApart parseInt dst [a, b] u.db) := by
      obtain ⟨kept, channel, acted⟩ := channel_moves apartA keyed threadedA first moved
      have same := kept.channelReceipts (b := b) (by simp [distinct, apartB])
      refine ⟨kept.keyed keyed, fun r inside own => ?_, same, kept.keeps.2.1, acted, ?_⟩
      · have mem : (r.taskId, r.threadId) ∈ v.db.channelReceipts b := mem_channelReceipts.mpr ⟨r, inside, own, rfl⟩
        rw [same] at mem
        obtain ⟨r', inside', own', is⟩ := mem_channelReceipts.mp mem
        rw [← show r'.threadId = r.threadId from congrArg Prod.snd is]
        exact threadedB r' inside' own'
      · rw [channel_replanned distinct ⟨apartA, apartB⟩ threadedA threadedB kept channel planB]
        unfold AliasesApart
        rw [List.pairwise_pair]
    rw [List.append_nil, writable_append]
    constructor
    · rintro ⟨v', run, acted⟩
      unfold runScript at run
      cases moved : migrateReceipts parseInt quietBoard dst a u with
      | error e =>
        rw [moved] at run
        cases run
      | ok v =>
        rw [moved] at run
        dsimp only at run
        obtain ⟨keyedV, threadedV, same, cols, actedV, again⟩ := later moved
        unfold runScript at run
        cases movedB : migrateReceipts parseInt quietBoard dst b v with
        | error e =>
          rw [movedB] at run
          cases run
        | ok w =>
          rw [movedB] at run
          cases run
          have replanned : planAll parseInt v.db dst b (v.db.channelReceipts b) = .ok eb := by
            have channel := movedB
            unfold migrateReceipts at channel
            obtain ⟨entries, planned, acts⟩ := (migrateReceipts_moves apartB (channelReceipts_nodup keyedV threadedV) channel).planned
            rw [acts, actedV, List.append_assoc] at acted
            rw [planned, List.append_cancel_left (List.append_cancel_left acted)]
          have writableB := (channel_runs apartB keyedV threadedV replanned).mp ⟨_, movedB⟩
          rw [cols] at writableB
          rw [same] at replanned
          exact ⟨⟨(channel_runs apartA keyed threadedA first).mp ⟨v, moved⟩, writableB⟩, again.mp replanned⟩
    · rintro ⟨⟨writableA, writableB⟩, aliases⟩
      obtain ⟨v, moved⟩ := (channel_runs apartA keyed threadedA first).mpr writableA
      obtain ⟨keyedV, threadedV, same, cols, actedV, again⟩ := later moved
      have replanned := again.mpr aliases
      rw [← same] at replanned
      rw [← cols] at writableB
      obtain ⟨w, movedB⟩ := (channel_runs apartB keyedV threadedV replanned).mpr writableB
      refine ⟨w, ?_, ?_⟩
      · unfold runScript
        rw [moved]
        dsimp only
        unfold runScript
        rw [movedB]
        rfl
      · rw [(channel_moves apartB keyedV threadedV replanned movedB).2.2, actedV, List.append_assoc]
  | _ :: _ :: _ :: _ => simp at two

end

end AgentflowHermes.Origins
