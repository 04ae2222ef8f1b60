import AgentflowHermes.MigrationTraces

namespace AgentflowHermes.Origins

open RowTable

section

variable {σ : Type} (T : PyText) (adapter : RepairAdapter σ) (toId : String)

/-- Whether the adapter raises on its way through some rows, and then, whether it had proven one of them before. -/
def raisesAfter : List DeadletterEntry → σ → Option Bool
  | [], _ => none
  | entry :: rest, w =>
    match proveAck T adapter toId entry w with
    | (none, _) => some false
    | (some (proven, _), w) => (raisesAfter rest w).map (proven || ·)

end

section

variable {σ : Type} {T : PyText} {adapter : RepairAdapter σ} {toId : String} {r r' : Repair σ} {b : Bool}
  {entries : List DeadletterEntry}

theorem repairOne_proven {entry : DeadletterEntry} (h : repairOne T adapter toId entry r = (b, r')) :
    (b = false ∧ (∃ w, proveAck T adapter toId entry r.world = (none, w)) ∧ r'.store = r.store) ∨
      (b = true ∧ ∃ proven error, proveAck T adapter toId entry r.world = (some (proven, error), r'.world) ∧
        r'.store = if proven then (r.store.outboxMark entry.outboxId .applied "" none none).2 else r.store) := by
  unfold repairOne at h
  split at h
  next w raised =>
    cases h
    exact .inl ⟨rfl, ⟨w, raised⟩, rfl⟩
  next error w proven =>
    cases h
    exact .inr ⟨rfl, true, error, proven, rfl⟩
  next error w refuted =>
    cases h
    exact .inr ⟨rfl, false, error, refuted, rfl⟩

theorem repairEach_returns (h : repairEach T adapter toId entries r = (b, r')) :
    b = false ↔ (raisesAfter T adapter toId entries r.world).isSome = true := by
  induction entries generalizing r with
  | nil =>
    cases h
    simp [raisesAfter]
  | cons entry rest ih =>
    unfold repairEach at h
    unfold raisesAfter
    cases first : repairOne T adapter toId entry r with
    | mk done u =>
      rw [first] at h
      rcases repairOne_proven first with ⟨rfl, ⟨w, raised⟩, _⟩ | ⟨rfl, proven, error, answered, _⟩
      · cases h
        rw [raised]
        exact ⟨fun _ => rfl, fun _ => rfl⟩
      · rw [answered, ih h]
        dsimp only
        rw [Option.isSome_map]

/-- Where nothing had been proven, the store is as it was. -/
theorem repairEach_unproven (raised : raisesAfter T adapter toId entries r.world = some false)
    (h : repairEach T adapter toId entries r = (b, r')) : r'.store = r.store := by
  induction entries generalizing r with
  | nil => cases raised
  | cons entry rest ih =>
    unfold repairEach at h
    unfold raisesAfter at raised
    cases first : repairOne T adapter toId entry r with
    | mk done u =>
      rw [first] at h
      rcases repairOne_proven first with ⟨rfl, _, store⟩ | ⟨rfl, proven, error, answered, store⟩
      · cases h
        exact store
      · rw [answered] at raised
        obtain ⟨later, rests, either⟩ := Option.map_eq_some_iff.mp raised
        rw [Bool.or_eq_false_iff] at either
        obtain ⟨rfl, rfl⟩ := either
        exact (ih rests h).trans store

/-- Where a row had been proven, it is marked. -/
theorem repairEach_proven (single : (entries.map DeadletterEntry.outboxId).Nodup)
    (raised : raisesAfter T adapter toId entries r.world = some true) (h : repairEach T adapter toId entries r = (b, r')) :
    ∃ entry ∈ entries, ∀ o, r.store.outbox.get? entry.outboxId = some o →
      r'.store.outbox.get? entry.outboxId = some (repairedRow o) := by
  induction entries generalizing r with
  | nil => cases raised
  | cons entry rest ih =>
    unfold repairEach at h
    unfold raisesAfter at raised
    rw [List.map_cons, List.nodup_cons] at single
    cases first : repairOne T adapter toId entry r with
    | mk done u =>
      rw [first] at h
      rcases repairOne_proven first with ⟨rfl, ⟨w, stops⟩, _⟩ | ⟨rfl, proven, error, answered, store⟩
      · rw [stops] at raised
        cases raised
      · rw [answered] at raised
        obtain ⟨later, rests, either⟩ := Option.map_eq_some_iff.mp raised
        cases proven with
        | true =>
          refine ⟨entry, List.mem_cons_self, fun o was => ?_⟩
          rw [if_pos rfl] at store
          have marked : u.store.outbox.get? entry.outboxId = some (repairedRow o) := by
            rw [store, get?_outboxMark was, if_pos rfl]
          exact repairEach_other h marked single.1
        | false =>
          rw [Bool.false_or] at either
          subst either
          obtain ⟨other, mem, marked⟩ := ih single.2 rests h
          rw [if_neg Bool.false_ne_true] at store
          rw [store] at marked
          exact ⟨other, List.mem_cons_of_mem _ mem, marked⟩

/-- A repair that raises leaves the store as it was exactly if nothing had been proven. -/
theorem repairEach_store_iff {board : String} {tokens : List String} {ids : List Int} {refs : List String} {s : Store} {w : σ}
    {proven : Bool} (selected : selectDeadletters T board tokens toId ids refs (some s) = .ok entries)
    (raised : raisesAfter T adapter toId entries w = some proven)
    (h : repairEach T adapter toId entries { store := s, world := w } = (b, r')) : r'.store = s ↔ proven = false := by
  cases proven with
  | false => exact ⟨fun _ => rfl, fun _ => repairEach_unproven raised h⟩
  | true =>
    refine ⟨fun same => ?_, fun is => nomatch is⟩
    obtain ⟨rows, sublist, rfl, taken⟩ := selectDeadletters_rows selected
    have single : ((rows.map deadletterEntry).map DeadletterEntry.outboxId).Nodup := by
      rw [List.map_map]
      have all : (s.outbox.rows.map OutboxRow.id).Nodup := s.outbox.sorted.imp Nat.ne_of_lt
      exact all.sublist (sublist.map _)
    obtain ⟨entry, mem, marked⟩ := repairEach_proven single raised h
    obtain ⟨o, inside, rfl⟩ := List.mem_map.mp mem
    have was : s.outbox.get? o.id = some o := get?_eq_some.mpr ⟨sublist.subset inside, rfl⟩
    have now := marked o was
    rw [same] at now
    change s.outbox.get? o.id = some (repairedRow o) at now
    rw [was, Option.some.injEq] at now
    have state := congrArg OutboxRow.state now
    rw [(taken o inside).1] at state
    cases state

end

/-- A migration that gets past its board transaction, or has none to make. -/
structure PastBoard (T : PyText) (parseInt : String → Option Int) (env : MigrationEnv) (a : MigrationArgs) (b : BoardFile)
    (s : Store) (plan : Plan) : Prop where
  valid : validateMigrationInputs T a.fromId a.toId = none
  built : buildPlan T parseInt a (some b) (some s) = .ok plan
  saved : plan.nothingToMigrate = true ∧ plan.affectedDeadletters = [] ∨ env.backupRaises = false
  commits : plan.nothingToMigrate = true ∨ (env.board.opening = .granted ∧
    ∃ t, transactionBody parseInt env.board (target T a.toId) (sourceMatchTokens T a.fromId) b.db = .ok t)

section

variable {T : PyText} {parseInt : String → Option Int} {env : MigrationEnv} {a : MigrationArgs} {file : Option BoardFile}
  {b : BoardFile} {s : Store} {store : Option Store} {plan : Plan}

theorem applyBoardStage_built (valid : validateMigrationInputs T a.fromId a.toId = none)
    (built : buildPlan T parseInt a (some b) (some s) = .ok plan) :
    applyBoardStage T parseInt env a (some b) (some s) =
      if !(plan.nothingToMigrate && plan.affectedDeadletters.isEmpty) && env.backupRaises then (.error .raised, some b)
      else if plan.nothingToMigrate then (.ok (plan, {}), some b)
      else
        match applyBoardTransaction parseInt env.board (target T a.toId) (sourceMatchTokens T a.fromId) b.db with
        | (.error e, db) => (.error (.refused e), some { b with db })
        | (.ok t, db) => (.ok (plan, { actions := t.actions, stats := t.stats }), some { b with db }) := by
  obtain ⟨_, _, _, _, _, aliases, goal, _⟩ := buildPlan_ok built
  unfold applyBoardStage
  rw [valid]
  dsimp only [Option.isNone_some]
  rw [if_neg Bool.false_ne_true, built]
  dsimp only
  rw [aliases, goal] <;> rfl

/-- A board transaction that is refused leaves the rows as they are. -/
theorem applyBoardTransaction_refused {env : BoardEnv} {dst : String} {tokens : List String} {db : BoardDb}
    {e : MigrationError} (h : (applyBoardTransaction parseInt env dst tokens db).1 = .error e) :
    (applyBoardTransaction parseInt env dst tokens db).2 = db := by
  unfold applyBoardTransaction at h ⊢
  cases opening : env.opening with
  | locked => rfl
  | failed => rfl
  | granted =>
    rw [opening] at h
    dsimp only at h ⊢
    cases ran : transactionBody parseInt env dst tokens db with
    | error e => rfl
    | ok t =>
      rw [ran] at h
      cases h

theorem applyBoardStage_refused {stop : Stop} (h : (applyBoardStage T parseInt env a file store).1 = .error stop) :
    (applyBoardStage T parseInt env a file store).2 = file := by
  unfold applyBoardStage at h ⊢
  split
  · rfl
  next valid =>
    rw [valid] at h
    split
    · rfl
    next there =>
      rw [if_neg there] at h
      dsimp only at h
      split
      · rfl
      · rfl
      next plan built =>
        rw [built] at h
        dsimp only at h
        split
        · rfl
        next saved =>
          rw [if_neg saved] at h
          split
          · rfl
          next some =>
            rw [if_neg some] at h
            have kept := @applyBoardTransaction_refused parseInt env.board plan.toId plan.fromAliases
            split
            next e db refused =>
              have same := kept (congrArg Prod.fst refused)
              rw [refused] at same
              dsimp only at same
              rw [same]
            next t db ran =>
              rw [ran] at h
              cases h

theorem PastBoard.stage (h : PastBoard T parseInt env a b s plan) :
    ∃ m b', applyBoardStage T parseInt env a (some b) (some s) = (.ok (plan, m), some b') ∧
      ((plan.nothingToMigrate = true ∧ b' = b) ∨
        ∃ t, transactionBody parseInt env.board (target T a.toId) (sourceMatchTokens T a.fromId) b.db = .ok t ∧
          b' = { b with db := t.db }) := by
  rw [applyBoardStage_built h.valid h.built]
  have saved : ¬(!(plan.nothingToMigrate && plan.affectedDeadletters.isEmpty) && env.backupRaises) = true := by
    rcases h.saved with ⟨nothing, empty⟩ | quiet
    · simp [nothing, empty]
    · simp [quiet]
  rw [if_neg saved]
  split
  next nothing => exact ⟨{}, b, rfl, .inl ⟨nothing, rfl⟩⟩
  next some =>
    obtain ⟨granted, t, ran⟩ := h.commits.resolve_left some
    unfold applyBoardTransaction
    rw [granted, ran]
    exact ⟨_, _, rfl, .inr ⟨t, rfl, rfl⟩⟩

theorem applyBoardStage_past {m : BoardMigration}
    (h : (applyBoardStage T parseInt env a (some b) (some s)).1 = .ok (plan, m)) : PastBoard T parseInt env a b s plan := by
  cases stage : applyBoardStage T parseInt env a (some b) (some s) with
  | mk answer file' =>
    rw [stage] at h
    dsimp only at h
    subst h
    obtain ⟨valid, built, _⟩ := applyBoardStage_ok stage
    rw [applyBoardStage_built valid built] at stage
    split at stage
    · cases stage
    next saved =>
      refine ⟨valid, built, ?_, ?_⟩
      · cases quiet : env.backupRaises with
        | false => exact .inr rfl
        | true => exact .inl (by simpa [quiet] using saved)
      · split at stage
        next nothing => exact .inl nothing
        · refine .inr ?_
          unfold applyBoardTransaction at stage
          cases opening : env.board.opening with
          | locked =>
            rw [opening] at stage
            cases stage
          | failed =>
            rw [opening] at stage
            cases stage
          | granted =>
            rw [opening] at stage
            dsimp only at stage
            split at stage
            · cases stage
            next t db ran =>
              split at ran
              · cases ran
              next t' committed => exact ⟨rfl, t', committed⟩

/-- The repair raises, for want of an adapter or in one of its calls, when something has changed. -/
def RepairRaises {σ : Type} (T : PyText) (toId : String) (entries : List DeadletterEntry) (w : σ) (changed : Prop) :
    Option (RepairAdapter σ) → Prop
  | none => entries ≠ [] ∧ changed
  | some adapter => ∃ proven, raisesAfter T adapter toId entries w = some proven ∧ (changed ∨ proven = true)

/-- A migration that raises in its last part, when it has changed rows of the board or deadletters. -/
def RaisesLate {σ : Type} (T : PyText) (parseInt : String → Option Int) (env : MigrationEnv) (a : MigrationArgs)
    (adapter : Option (RepairAdapter σ)) (file : Option BoardFile) (store : Option Store) (w : σ) : Prop :=
  ∃ b s plan, file = some b ∧ store = some s ∧ PastBoard T parseInt env a b s plan ∧
    RepairRaises T (target T a.toId) plan.affectedDeadletters w
      (Touched parseInt (target T a.toId) (sourceMatchTokens T a.fromId) b.db) adapter

/-- What is claimed of a migration: where it fails, the rows are as they were. -/
def LeavesNoTrace {σ : Type} (file : Option BoardFile) (store : Option Store) (m : Migration σ) : Prop :=
  ∀ stop, m.answer = .error stop → m.file = file ∧ m.store = store

theorem PastBoard.file_iff (letters : T.isDigit 'r' = false ∧ T.isDigit '#' = false) (keyed : b.db.Keyed)
    (h : PastBoard T parseInt env a b s plan) {b' : BoardFile}
    (left : (plan.nothingToMigrate = true ∧ b' = b) ∨
      ∃ t, transactionBody parseInt env.board (target T a.toId) (sourceMatchTokens T a.fromId) b.db = .ok t ∧
        b' = { b with db := t.db }) :
    some b' = some b ↔ ¬Touched parseInt (target T a.toId) (sourceMatchTokens T a.fromId) b.db := by
  obtain ⟨single, target'⟩ := validated_tokens letters h.valid
  rcases left with ⟨nothing, rfl⟩ | ⟨t, ran, rfl⟩
  · refine ⟨fun _ touched => ?_, fun _ => rfl⟩
    rcases touched with ⟨o, mem, platform, chat⟩ | ⟨r, mem, platform, chat⟩ | ⟨r, mem, platform, chat, _⟩
    · exact nothing_planned h.built nothing (.inl ⟨o, mem, platform, chat, rfl, rfl⟩)
    · exact nothing_planned h.built nothing (.inr (.inr ⟨r, mem, platform, chat, rfl, rfl⟩))
    · exact nothing_planned h.built nothing (.inr (.inl ⟨r, mem, platform, chat, rfl, rfl⟩))
  · constructor
    · intro same touched
      exact touched_changes single target' touched ran (congrArg BoardFile.db (Option.some.inj same))
    · intro untouched
      rw [untouched_stays target' keyed untouched ran]

/-- Whether the last part of a migration raises, and with what the store is left then. -/
theorem repair_raises {σ : Type} {adapter : Option (RepairAdapter σ)} {w : σ} {r : Repair σ} {done : Bool} {toId board : String}
    {tokens : List String} {ids : List Int} {refs : List String} {entries : List DeadletterEntry}
    (selected : selectDeadletters T board tokens toId ids refs (some s) = .ok entries)
    (h : repairCallbackDeadletters T toId adapter entries s w = (done, r)) {changed : Prop} :
    (done = false ∧ (changed ∨ r.store ≠ s)) ↔ RepairRaises T toId entries w changed adapter := by
  unfold repairCallbackDeadletters at h
  split at h
  next empty =>
    cases h
    rw [List.isEmpty_iff.mp empty]
    cases adapter <;> simp [RepairRaises, raisesAfter]
  next listed =>
    rw [List.isEmpty_iff] at listed
    cases adapter with
    | none =>
      cases h
      simp [RepairRaises, listed]
    | some adapter =>
      unfold RepairRaises
      change repairEach T adapter toId entries { store := s, world := w } = (done, r) at h
      rw [repairEach_returns h]
      cases raised : raisesAfter T adapter toId entries w with
      | none => simp [raised]
      | some proven =>
        have store := repairEach_store_iff selected raised h
        cases proven <;> simp [raised, store]

theorem applyBoardStage_files {x : Plan × BoardMigration} (h : (applyBoardStage T parseInt env a file store).1 = .ok x) :
    ∃ b s, file = some b ∧ store = some s := by
  unfold applyBoardStage at h
  split at h
  · cases h
  · split at h
    · cases h
    next there =>
      split at h
      · cases h
      · cases h
      next b plan _ =>
        rw [Bool.not_eq_true, Option.isNone_eq_false_iff, Option.isSome_iff_exists] at there
        obtain ⟨s, is⟩ := there
        exact ⟨b, s, rfl, is⟩

/-- A migration that fails leaves no trace exactly if it does not raise in its last part. -/
theorem failed_migration_traceless_iff (letters : T.isDigit 'r' = false ∧ T.isDigit '#' = false)
    (keyed : ∀ b, file = some b → b.db.Keyed) {σ : Type} {adapter : Option (RepairAdapter σ)} {w : σ} :
    LeavesNoTrace file store (applyDiscordMigration T parseInt env a adapter file store w) ↔
      ¬RaisesLate T parseInt env a adapter file store w := by
  cases stage : (applyBoardStage T parseInt env a file store).1 with
  | error stop =>
    have same := applyBoardStage_refused stage
    constructor
    · rintro _ ⟨b, s, plan, rfl, rfl, past, _⟩
      obtain ⟨m, b', ok, _⟩ := past.stage
      rw [ok] at stage
      cases stage
    · intro _ stop _
      unfold applyDiscordMigration
      split
      next e file' failed =>
        rw [failed] at same
        exact ⟨same, rfl⟩
      next failed => rw [failed] at stage; cases stage
      next failed => rw [failed] at stage; cases stage
  | ok x =>
    obtain ⟨b, s, rfl, rfl⟩ := applyBoardStage_files stage
    obtain ⟨plan, m⟩ := x
    have past := applyBoardStage_past stage
    obtain ⟨m, b', ok, left⟩ := past.stage
    have file := past.file_iff letters (keyed b rfl) left
    obtain ⟨_, _, _, _, selected, _, goal, _⟩ := buildPlan_ok past.built
    have late : RaisesLate T parseInt env a adapter (some b) (some s) w ↔
        RepairRaises T (target T a.toId) plan.affectedDeadletters w
          (Touched parseInt (target T a.toId) (sourceMatchTokens T a.fromId) b.db) adapter := by
      constructor
      · rintro ⟨b', s', plan', sameFile, sameStore, past', late⟩
        cases sameFile
        cases sameStore
        cases past.built.symm.trans past'.built
        exact late
      · exact fun late => ⟨b, s, plan, rfl, rfl, past, late⟩
    unfold applyDiscordMigration LeavesNoTrace
    rw [ok]
    dsimp only
    rw [goal]
    cases run : repairCallbackDeadletters T (target T a.toId) adapter plan.affectedDeadletters s w with
    | mk done r =>
      rw [late, ← repair_raises selected run]
      cases done with
      | true => exact ⟨fun _ both => Bool.noConfusion both.1, fun _ stop failed => nomatch failed⟩
      | false =>
        simp only [true_and, not_or, not_not, ← file, Option.some.injEq]
        exact ⟨fun traceless => traceless .raised rfl, fun same _ _ => same⟩

end

/-- A board with one task of an alias. -/
def originFile : BoardFile where
  originTable := some requiredCols
  receiptTable := some requiredCols
  db := { origins := [{ taskId := "t1", platform := "discord", chatId := "#research", threadId := some "" }] }

def legacyStore : Store := deadletterStore .recordConsumerAck "discord:#research"

theorem failed_migration_traceless_origin :
    LeavesNoTrace (some originFile) (some legacyStore) (applyDiscordMigration asciiText String.toInt? { board := quietBoard }
      aliasArgs (some agreeable) (some originFile) (some legacyStore) ()) ↔
    ¬RaisesLate asciiText String.toInt? { board := quietBoard } aliasArgs (some agreeable) (some originFile)
      (some legacyStore) () :=
  failed_migration_traceless_iff (by decide) fun _ is => by cases is; unfold BoardDb.Keyed; decide

theorem originFile_past : ∃ plan, PastBoard asciiText String.toInt? { board := quietBoard } aliasArgs originFile legacyStore
    plan ∧ plan.affectedDeadletters ≠ [] := by
  obtain ⟨tokens, goal⟩ := subscribedFile_source
  have agree : AcksAgree "123" ["#research", "research"] originFile.db := by
    intro token _ key _ s d source
    cases source
  obtain ⟨rows, planned⟩ := (@planReceipts_iff String.toInt? _ _ _).mpr agree
  have selected : ∃ entry, selectDeadletters asciiText aliasArgs.board ["#research", "research"] "123"
      aliasArgs.deadletterIds aliasArgs.deadletterRefs (some legacyStore) = .ok [entry] := ⟨_, rfl⟩
  obtain ⟨entry, selected⟩ := selected
  have built : ∃ plan, buildPlan asciiText String.toInt? aliasArgs (some originFile) (some legacyStore) = .ok plan ∧
      plan.affectedDeadletters = [entry] := by
    unfold buildPlan
    dsimp only
    rw [show requireBoardSchema originFile = none from by decide, tokens, goal, planned, selected]
    exact ⟨_, rfl, rfl⟩
  obtain ⟨plan, built, affected⟩ := built
  have threaded : SourceThreaded ["#research", "research"] originFile.db := fun _ mem => nomatch mem
  have held : MergesHeld String.toInt? "123" ["#research", "research"] originFile.db :=
    fun _ _ _ _ _ _ source => nomatch source
  obtain ⟨t, ran, _⟩ := (transaction_planned (by decide) (by decide) (by decide) (by unfold BoardDb.Keyed; decide) threaded
    planned).mpr ⟨(writable_iff threaded planned).mpr held, List.pairwise_pair.mpr fun _ _ _ source => nomatch source⟩
  refine ⟨plan, ⟨by decide, built, .inr rfl, .inr ⟨rfl, t, ?_⟩⟩, by rw [affected]; exact List.cons_ne_nil _ _⟩
  rw [tokens, goal]
  exact ran

/-- The missing adapter is only found out when the origin has been migrated. -/
theorem adapter_missing_too_late : ¬∀ (T : PyText), T.isDigit 'r' = false ∧ T.isDigit '#' = false →
    ∀ (parseInt : String → Option Int) (env : MigrationEnv) (a : MigrationArgs) (file : Option BoardFile)
      (store : Option Store), (∀ b, file = some b → b.db.Keyed) →
      ∀ (σ : Type) (adapter : Option (RepairAdapter σ)) (w : σ),
        LeavesNoTrace file store (applyDiscordMigration T parseInt env a adapter file store w) := by
  intro claim
  have keyed : originFile.db.Keyed := by
    unfold BoardDb.Keyed
    decide
  obtain ⟨plan, past, listed⟩ := originFile_past
  have traceless := claim asciiText (by decide) String.toInt? { board := quietBoard } aliasArgs (some originFile)
    (some legacyStore) (fun _ is => by cases is; exact keyed) Unit none ()
  obtain ⟨m, b', ok, left⟩ := past.stage
  have file := past.file_iff (by decide) keyed left
  unfold applyDiscordMigration repairCallbackDeadletters LeavesNoTrace at traceless
  rw [ok] at traceless
  dsimp only at traceless
  rw [if_neg fun empty => listed (List.isEmpty_iff.mp empty)] at traceless
  refine file.mp (traceless .raised rfl).1 (.inl ⟨_, List.mem_cons_self, rfl, ?_⟩)
  rw [subscribedFile_source.1]
  exact List.mem_cons_self

end AgentflowHermes.Origins
