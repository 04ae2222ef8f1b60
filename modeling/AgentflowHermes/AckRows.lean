import AgentflowHermes.AdapterOperations

namespace AgentflowHermes.Boards

open SqlSessions Origins

/-- A card at an address, and the name its wake goes by. -/
structure AckTarget where
  taskId : String
  flags : OriginFlags
  correlation : String

def profileCell : String × Value := ("notifier_profile", .text "default")

def createdCell (now : Int) : String × Value := ("created_at", .integer now)

/-- The settings of a subscription that requires a wake. -/
def wakeSettings : List (String × Value) :=
  [("active_wake_required", .integer 1), ("desired_delivery_mode", .text "passive+active_wake")]

namespace AckTarget

variable (t : AckTarget)

def subKey : List (String × Value) := addressKey t.taskId t.flags ++ [profileCell]

def wakeKey (subId : Value) : List (String × Value) :=
  [("task_id", .text t.taskId), ("subscription_id", subId), ("correlation_id", .text t.correlation)]

def newSub (now : Int) : List (String × Value) :=
  t.subKey ++ [("desired_delivery_mode", .text "passive+active_wake"), ("active_wake_required", .integer 1),
    ("operator_receipt_required", .integer 0), createdCell now]

def newWake (subId : Value) (now : Int) : List (String × Value) :=
  t.wakeKey subId ++ [("triggered_agent", .integer 0), ("status", .text "pending"), createdCell now]

end AckTarget

/-- The subscription of a target, found or inserted; `asId` is what is made of the id that is found. -/
def repairSubscription (asId : Value → Db BoardTables Value) (now : Int) (t : AckTarget) : Db BoardTables Value := do
  match ← Db.ask (selectFirst "ack_subscription" ["id"] t.subKey) with
  | some (table, sub) =>
    let id ← asId (table.value sub "id")
    Db.attempt (updateWhere "ack_subscription" wakeSettings ("id", id))
    return id
  | none =>
    let id ← Db.attempt (insertInto "ack_subscription" (t.newSub now))
    return .integer id

/-- The wake of a target, found or inserted. -/
def repairWake (now : Int) (t : AckTarget) (subId : Value) : Db BoardTables Unit := do
  match ← Db.ask (selectFirst "ack_active_wake" ["id"] (t.wakeKey subId)) with
  | some _ => return ()
  | none =>
    let _ ← Db.attempt (insertInto "ack_active_wake" (t.newWake subId now))
    return ()

def repairAckRows (asId : Value → Db BoardTables Value) (now : Int) (t : AckTarget) : Db BoardTables Unit := do
  let subId ← repairSubscription asId now t
  repairWake now t subId

/-- The notify row of a target: a conflict sets the trigger where there is one. -/
def upsertNotifyRow (cols : List String) (now : Int) (t : AckTarget) : Db BoardTables Unit :=
  let address := addressKey t.taskId t.flags
  if cols.contains "trigger_agent" then
    Db.attempt (upsertInto "kanban_notify_subs" (address ++
    [profileCell, ("trigger_agent", .integer 1), createdCell now])
      ["task_id", "platform", "chat_id", "thread_id"] [("trigger_agent", .integer 1), profileCell])
  else Db.attempt (insertOrIgnore "kanban_notify_subs" (address ++ [profileCell, createdCell now]))

/-- `update name set values where key`. -/
def updateWhereAll (name : String) (values key : List (String × Value)) (db : BoardTables) :
    Option (Unit × BoardTables) :=
  (db name).bind fun t =>
    let written (row : BoardRow) : BoardRow := if t.fits key row then row.write values else row
    if t.has ((key ++ values).map Prod.fst) then some ((), setTable db name { t with rows := t.rows.map written })
    else none

/-- The notify row as `_ensure_active_wake_ack` finds or inserts it. -/
def findNotifyRow (now : Int) (t : AckTarget) : Db BoardTables Unit := do
  let address := addressKey t.taskId t.flags
  let known ← tableExists "kanban_notify_subs"
  let cols ← if known then tableColumns "kanban_notify_subs" else pure []
  if cols.isEmpty then pure ()
  else
    match ← Db.ask (selectFirst "kanban_notify_subs" ["task_id"] address) with
    | some _ =>
      if cols.contains "trigger_agent" then
        Db.attempt (updateWhereAll "kanban_notify_subs" [("trigger_agent", .integer 1), profileCell] address)
      else pure ()
    | none => do
      let trigger := if cols.contains "trigger_agent" then [("trigger_agent", .integer 1)] else []
      let _ ← Db.attempt (insertInto "kanban_notify_subs" (address ++ [profileCell] ++ trigger ++ [createdCell now]))
      pure ()

/-- The rows of some targets, each with its notify row first. -/
def repairTargets (notify : Int → AckTarget → Db BoardTables Unit) (asId : Value → Db BoardTables Value) (now : Int)
    (targets : List AckTarget) : Db BoardTables Unit :=
  Db.each (fun t => notify now t >>= fun _ => repairAckRows asId now t) targets

/-- `int(value)` of an id. -/
def intId : Value → Db BoardTables Value
  | .integer n => pure (.integer n)
  | _ => fun s => (none, s)

/-- The rows that the owner anchor and the remediation cards repair. -/
def upsertTargets (now : Int) (targets : List AckTarget) : Db BoardTables Unit := do
  let cols ← tableColumns "kanban_notify_subs"
  repairTargets (upsertNotifyRow cols) pure now targets

def anchorTarget (taskId : String) (flags : OriginFlags) : AckTarget where
  taskId
  flags
  correlation := "owner-anchor:" ++ taskId ++ ":" ++ flags.platform ++ ":" ++ flags.chatId

/-- The target of `_ensure_active_wake_ack`. -/
def graphTarget (T : PyText) (board taskId : String) (flags : OriginFlags) : AckTarget :=
  let platform := shortText T flags.platform
  let chatId := shortText T flags.chatId
  let threadId := shortText T flags.threadId
  { taskId, flags := { platform, chatId, threadId }
    correlation := "roadmap-autopromote:" ++ board ++ ":" ++ taskId ++ ":" ++ platform ++ ":" ++ chatId ++ ":" ++
    threadId }

/-- Whether the tables are there, asked one after the other. -/
def allExist : List String → Db BoardTables Bool
  | [] => pure true
  | name :: rest => do
    if ← tableExists name then allExist rest else return false

/-- A repair in one transaction, on a board that has the tables for it; the answer is whether it has. -/
def repairWhere (needed : List String) (body : Db BoardTables Unit) : Db BoardTables Bool := do
  if ← allExist needed then
    Db.transaction body
    return true
  else return false

/-- What `_ensure_active_wake_ack` does on its connection: whether there are ACK tables to repair. -/
def activeWakeAck (T : PyText) (board taskId : String) (flags : OriginFlags) (now : Int) : Db BoardTables Bool :=
  repairWhere ["ack_subscription", "ack_active_wake"]
    (repairTargets findNotifyRow intId now [graphTarget T board taskId flags])

/-- `_ensure_active_wake_ack` on a board whose file is there or not: `none` where it fails. -/
def ensureActiveWakeAck {ι : Type} (T : PyText) (board : String) (found : Bool) (taskId : String) (flags : OriginFlags)
    (now : Int) (w : World ι) : Option Bool × World ι :=
  if !found then (some false, w)
  else if !w.reachable then (none, w)
  else
    let (answer, session) := activeWakeAck T board taskId flags now { committed := w.tables, patience := w.patience }
    (answer, { w with tables := session.committed, patience := session.patience })

def cardTarget (taskId : String) (target : String × String) : AckTarget where
  taskId
  flags := { platform := target.1, chatId := target.2 }
  correlation := "kanban-auto-remediation:" ++ taskId ++ ":" ++ target.1 ++ ":" ++ target.2

/-- What the remediation adapter's `_ensure_durable_ack_rows` does on its connection: whether all tables are there. -/
def cardAckRows (targets : List (String × String)) (taskId : String) (now : Int) : Db BoardTables Bool :=
  repairWhere ["kanban_notify_subs", "ack_subscription", "ack_active_wake"]
    (upsertTargets now (targets.map (cardTarget taskId)))

theorem bind_pure' {σ α : Type} (p : Db σ α) : (p >>= fun a => pure a) = p := by
  funext c
  rcases ran : p c with ⟨_ | a, d⟩
  · rw [bind_none ran]
  · rw [bind_some ran]
    rfl

theorem repairTargets_one (notify : Int → AckTarget → Db BoardTables Unit) (asId : Value → Db BoardTables Value)
    (now : Int) (t : AckTarget) :
    repairTargets notify asId now [t] = notify now t >>= fun _ => repairAckRows asId now t := bind_pure' _

theorem bind_assoc' {σ α β γ : Type} (p : Db σ α) (g : α → Db σ β) (k : β → Db σ γ) :
    (p >>= g >>= k) = p >>= fun x => g x >>= k := by
  funext c
  rcases ran : p c with ⟨_ | x, d⟩
  · rw [bind_none ran, bind_none (bind_none ran)]
  · rw [bind_some ran]
    rcases ran' : g x d with ⟨_ | y, e⟩
    · rw [bind_none ran', bind_none ((bind_some ran).trans ran')]
    · rw [bind_some ran', bind_some ((bind_some ran).trans ran')]

/-- The rows of an owner anchor are repaired like all the others. -/
theorem durableAckRows_eq (taskId : String) (flags : OriginFlags) (now : Int) :
    durableAckRows taskId flags now = upsertTargets now [anchorTarget taskId flags] := by
  unfold durableAckRows upsertTargets
  simp only [repairTargets_one, repairAckRows, repairSubscription, bind_assoc']
  congr 1
  funext cols
  unfold upsertNotifyRow
  dsimp only
  split
  · congr 1
    funext _
    congr 1
    funext r
    rcases r with _ | ⟨table, sub⟩
    · exact (bind_assoc' _ _ _).symm
    · exact (bind_assoc' _ _ _).symm
  · congr 1
    funext _
    congr 1
    funext r
    rcases r with _ | ⟨table, sub⟩
    · exact (bind_assoc' _ _ _).symm
    · exact (bind_assoc' _ _ _).symm

theorem ensureAckRows_eq (taskId : String) (flags : OriginFlags) (now : Int) :
    ensureAckRows taskId flags now =
      repairWhere ["kanban_notify_subs", "ack_subscription", "ack_active_wake"]
          (upsertTargets now [anchorTarget taskId flags]) >>= fun all =>
        pure (if all then granted else refusal "ack_schema_missing") := by
  unfold ensureAckRows repairWhere
  simp only [durableAckRows_eq, allExist, bind_assoc']
  congr 1
  funext notify
  cases notify with
  | false => rfl
  | true =>
    simp only [if_true, bind_assoc']
    congr 1
    funext subscription
    cases subscription with
    | false => rfl
    | true =>
      simp only [if_true, bind_assoc']
      congr 1
      funext wake
      cases wake with
      | false => rfl
      | true =>
        exact (bind_assoc' (Db.transaction (upsertTargets now [anchorTarget taskId flags])) (fun _ => pure true)
          fun all => pure (if all then granted else refusal "ack_schema_missing")).symm

/-- The two tables of the ACK rows. -/
structure AckTables where
  subs : BoardTable
  wakes : BoardTable

/-- Where the ACK rows of a board are. -/
structure Holds (a : AckTables) (db : BoardTables) : Prop where
  subs : db "ack_subscription" = some a.subs
  wakes : db "ack_active_wake" = some a.wakes

namespace AckTables

/-- The subscription of a target, found and set or inserted, with its id. -/
def withSub (a : AckTables) (now : Int) (t : AckTarget) : BoardTable × Int :=
  match a.subs.rows.find? (a.subs.fits t.subKey) with
  | some sub => (a.subs.update sub.rowId wakeSettings, sub.rowId)
  | none => (a.subs.add (a.subs.newRow (t.newSub now)), a.subs.nextId)

/-- The wake of a target, found or inserted. -/
def withWake (a : AckTables) (now : Int) (t : AckTarget) (subId : Int) : BoardTable :=
  match a.wakes.rows.find? (a.wakes.fits (t.wakeKey (.integer subId))) with
  | some _ => a.wakes
  | none => a.wakes.add (a.wakes.newRow (t.newWake (.integer subId) now))

def repaired (a : AckTables) (now : Int) (t : AckTarget) : AckTables where
  subs := (a.withSub now t).1
  wakes := a.withWake now t (a.withSub now t).2

/-- The column `id` of both tables is the row id, and no two rows have the same. -/
structure Keyed (a : AckTables) : Prop where
  subs : a.subs.key = some "id"
  wakes : a.wakes.key = some "id"
  distinct : (a.subs.rows.map BoardRow.rowId).Nodup

end AckTables

section

variable {a : AckTables} {db db' : BoardTables} {table : BoardTable} {name : String}

theorem Holds.setSubs (h : Holds a db) : Holds { a with subs := table } (setTable db "ack_subscription" table) := by
  refine ⟨by simp [setTable], ?_⟩
  have apart : "ack_active_wake" ≠ "ack_subscription" := by decide
  simp [setTable, apart, h.wakes]

theorem Holds.setWakes (h : Holds a db) : Holds { a with wakes := table } (setTable db "ack_active_wake" table) := by
  refine ⟨?_, by simp [setTable]⟩
  have apart : "ack_subscription" ≠ "ack_active_wake" := by decide
  simp [setTable, apart, h.subs]

theorem selectFirst_some (there : db name = some table) {cols : List String} {key : List (String × Value)}
    {r : Option (BoardTable × BoardRow)} (h : selectFirst name cols key db = some r) :
    r = (table.rows.find? (table.fits key)).map fun row => (table, row) := by
  unfold selectFirst at h
  rw [there, Option.bind_some] at h
  split at h
  · exact (Option.some.inj h).symm
  · cases h

theorem insertInto_some (there : db name = some table) {values : List (String × Value)} {id : Int}
    (h : insertInto name values db = some (id, db')) :
    id = table.nextId ∧ db' = setTable db name (table.add (table.newRow values)) := by
  unfold insertInto at h
  rw [there, Option.bind_some] at h
  dsimp only at h
  split at h
  · cases h
    exact ⟨rfl, rfl⟩
  · cases h

theorem fits_id (keyed : table.key = some "id") {id : Int} {row : BoardRow} :
    table.fits [("id", .integer id)] row = decide (row.rowId = id) := by
  simp [BoardTable.fits, BoardTable.value, keyed]

theorem updateWhere_some (there : db name = some table) (keyed : table.key = some "id") {values : List (String × Value)}
    {id : Int} (h : updateWhere name values ("id", .integer id) db = some ((), db')) :
    db' = setTable db name (table.update id values) := by
  unfold updateWhere at h
  rw [there, Option.bind_some] at h
  dsimp only at h
  split at h
  · have same : (fun row => if table.fits [("id", Value.integer id)] row then row.write values else row) =
        fun row => if row.rowId = id then row.write values else row := by
      funext row
      simp [fits_id keyed]
    cases h
    rw [same]
    rfl
  · cases h

end

/-- What is made of an id is the id itself, or the program stops. -/
structure KeepsId (asId : Value → Db BoardTables Value) : Prop where
  same : ∀ (P : BoardTables → Prop) v, Triple P (asId v) fun v' db => P db ∧ v' = v
  uncommitted : ∀ v, Uncommitted (asId v)

theorem keepsId_pure : KeepsId pure where
  same _ _ := Triple.pure fun _ holds => ⟨holds, rfl⟩
  uncommitted _ := .pure _

theorem keepsId_intId : KeepsId intId where
  same P v := by
    cases v with
    | integer n => exact Triple.pure fun _ holds => ⟨holds, rfl⟩
    | _ =>
      intro c a c' _ is
      cases is
  uncommitted v := by
    cases v with
    | integer n => exact .pure _
    | _ => exact fun _ => rfl

section

variable {a : AckTables} {asId : Value → Db BoardTables Value} {now : Int} {t : AckTarget}

theorem repairSubscription_triple (keeps : KeepsId asId) (keyed : a.subs.key = some "id") :
    Triple (Holds a) (repairSubscription asId now t) fun id db =>
      Holds { a with subs := (a.withSub now t).1 } db ∧ id = .integer (a.withSub now t).2 := by
  refine Triple.bind (Q := fun r db => Holds a db ∧
    r = (a.subs.rows.find? (a.subs.fits t.subKey)).map fun row => (a.subs, row)) ?_ fun r => ?_
  · exact Triple.ask fun db r holds is => ⟨holds, selectFirst_some holds.subs is⟩
  rcases found : a.subs.rows.find? (a.subs.fits t.subKey) with _ | sub
  · have withSub : a.withSub now t = (a.subs.add (a.subs.newRow (t.newSub now)), a.subs.nextId) := by
      simp only [AckTables.withSub, found]
    cases r with
    | some r =>
      intro c id c' holds
      cases holds.2
    | none =>
      refine Triple.bind (Q := fun id db => Holds { a with subs := (a.withSub now t).1 } db ∧ id = (a.withSub now t).2)
        (Triple.attempt fun db id db' holds is => ?_) fun id => Triple.pure fun db holds => ⟨holds.1, by rw [holds.2]⟩
      obtain ⟨rfl, rfl⟩ := insertInto_some holds.1.subs is
      rw [withSub]
      exact ⟨holds.1.setSubs, rfl⟩
  · have withSub : a.withSub now t = (a.subs.update sub.rowId wakeSettings, sub.rowId) := by
      simp only [AckTables.withSub, found]
    cases r with
    | none =>
      intro c id c' holds
      cases holds.2
    | some r =>
      obtain ⟨table, row⟩ := r
      refine Triple.bind (Q := fun v db => Holds a db ∧ v = .integer sub.rowId)
        ((keeps.same _ _).weaken (fun db holds => holds) fun v db holds => ?_) fun v => ?_
      · obtain ⟨⟨holds, is⟩, rfl⟩ := holds
        cases is
        exact ⟨holds, by simp [BoardTable.value, keyed]⟩
      · refine Triple.bind (Q := fun _ db => Holds { a with subs := (a.withSub now t).1 } db ∧
          v = .integer (a.withSub now t).2) (Triple.attempt fun db _ db' holds is => ?_)
          fun _ => Triple.pure fun db holds => holds
        obtain ⟨holds, rfl⟩ := holds
        rw [updateWhere_some holds.subs keyed is, withSub]
        exact ⟨holds.setSubs, rfl⟩

/-- A repair that runs through leaves the two tables repaired. -/
theorem repairAckRows_triple (keeps : KeepsId asId) (keyed : a.subs.key = some "id") :
    Triple (Holds a) (repairAckRows asId now t) fun _ db => Holds (a.repaired now t) db := by
  refine Triple.bind (repairSubscription_triple keeps keyed) fun subId => ?_
  refine Triple.bind (Q := fun r db => (Holds { a with subs := (a.withSub now t).1 } db ∧
    subId = .integer (a.withSub now t).2) ∧
    r = (a.wakes.rows.find? (a.wakes.fits (t.wakeKey subId))).map fun row => (a.wakes, row)) ?_ fun r => ?_
  · exact Triple.ask fun db r holds is => ⟨holds, selectFirst_some holds.1.wakes is⟩
  by_cases known : subId = .integer (a.withSub now t).2
  · subst known
    rcases found : a.wakes.rows.find? (a.wakes.fits (t.wakeKey (.integer (a.withSub now t).2))) with _ | wake
    · have withWake : a.withWake now t (a.withSub now t).2 =
          a.wakes.add (a.wakes.newRow (t.newWake (.integer (a.withSub now t).2) now)) := by
        simp only [AckTables.withWake, found]
      cases r with
      | some r =>
        intro c id c' holds
        cases holds.2
      | none =>
        refine Triple.bind (Q := fun _ db => Holds (a.repaired now t) db)
          (Triple.attempt fun db id db' holds is => ?_) fun _ => Triple.pure fun db holds => holds
        obtain ⟨rfl, rfl⟩ := insertInto_some holds.1.1.wakes is
        rw [AckTables.repaired, withWake]
        exact holds.1.1.setWakes
    · have withWake : a.withWake now t (a.withSub now t).2 = a.wakes := by simp only [AckTables.withWake, found]
      cases r with
      | none =>
        intro c id c' holds
        cases holds.2
      | some r =>
        refine Triple.pure fun db holds => ?_
        rw [AckTables.repaired, withWake]
        exact holds.1.1
  · intro c id c' holds
    exact absurd holds.1.2 known

theorem Holds.frame {db db' : BoardTables} (h : Holds a db) (same : ∀ n, n ≠ "kanban_notify_subs" → db' n = db n) :
    Holds a db' :=
  ⟨(same _ (by decide)).trans h.subs, (same _ (by decide)).trans h.wakes⟩

end

section

variable {db db' : BoardTables} {name n : String} {values : List (String × Value)}

theorem setTable_other {table : BoardTable} (apart : n ≠ name) : setTable db name table n = db n := by
  simp [setTable, apart]

theorem insertInto_other {id : Int} (h : insertInto name values db = some (id, db')) (apart : n ≠ name) :
    db' n = db n := by
  obtain ⟨table, _, h⟩ := Option.bind_eq_some_iff.mp h
  dsimp only at h
  split at h
  · cases h
    exact setTable_other apart
  · cases h

theorem insertOrIgnore_other {u : Unit} (h : insertOrIgnore name values db = some (u, db')) (apart : n ≠ name) :
    db' n = db n := by
  obtain ⟨table, _, h⟩ := Option.bind_eq_some_iff.mp h
  dsimp only at h
  split at h
  · cases h
    split
    · rfl
    · exact setTable_other apart
  · cases h

theorem upsertInto_other {u : Unit} {columns : List String} {set : List (String × Value)}
    (h : upsertInto name values columns set db = some (u, db')) (apart : n ≠ name) : db' n = db n := by
  obtain ⟨table, _, h⟩ := Option.bind_eq_some_iff.mp h
  dsimp only at h
  split at h
  · cases h
  · split at h
    · cases h
      exact setTable_other apart
    · split at h
      · cases h
      · cases h
        exact setTable_other apart

theorem updateWhereAll_other {u : Unit} {key : List (String × Value)}
    (h : updateWhereAll name values key db = some (u, db')) (apart : n ≠ name) : db' n = db n := by
  obtain ⟨table, _, h⟩ := Option.bind_eq_some_iff.mp h
  dsimp only at h
  split at h
  · cases h
    exact setTable_other apart
  · cases h

end

/-- A step that has to do with notify rows alone. -/
structure NotifyStep (p : Db BoardTables Unit) : Prop where
  keeps : ∀ a, Triple (Holds a) p fun _ db => Holds a db
  uncommitted : Uncommitted p

theorem notifyStep_attempt {f : BoardTables → Option (Unit × BoardTables)}
    (h : ∀ db u db', f db = some (u, db') → ∀ n, n ≠ "kanban_notify_subs" → db' n = db n) :
    NotifyStep (Db.attempt f) where
  keeps _ := Triple.attempt fun db u db' holds is => holds.frame (h db u db' is)
  uncommitted := .attempt f

theorem notifyStep_pure : NotifyStep (pure ()) where
  keeps _ := Triple.pure fun _ holds => holds
  uncommitted := .pure ()

theorem upsertNotifyRow_step (cols : List String) (now : Int) (t : AckTarget) :
    NotifyStep (upsertNotifyRow cols now t) := by
  unfold upsertNotifyRow
  dsimp only
  split
  · exact notifyStep_attempt fun db u db' is n apart => upsertInto_other is apart
  · exact notifyStep_attempt fun db u db' is n apart => insertOrIgnore_other is apart

theorem findNotifyRow_step (now : Int) (t : AckTarget) : NotifyStep (findNotifyRow now t) := by
  have rest (cols : List String) : NotifyStep (if cols.isEmpty then pure () else
      Db.ask (selectFirst "kanban_notify_subs" ["task_id"] (addressKey t.taskId t.flags)) >>= fun found =>
        match found with
        | some _ =>
          if cols.contains "trigger_agent" then
            Db.attempt (updateWhereAll "kanban_notify_subs" [("trigger_agent", .integer 1), profileCell]
              (addressKey t.taskId t.flags))
          else pure ()
        | none =>
          Db.attempt (insertInto "kanban_notify_subs" (addressKey t.taskId t.flags ++ [profileCell] ++
            (if cols.contains "trigger_agent" then [("trigger_agent", .integer 1)] else []) ++ [createdCell now]))
            >>= fun _ => pure ()) := by
    split
    · exact notifyStep_pure
    · have inserted (values : List (String × Value)) : NotifyStep
          (Db.attempt (insertInto "kanban_notify_subs" values) >>= fun _ => pure ()) :=
        ⟨fun a => (Triple.attempt fun db id db' holds is => holds.frame fun n apart => insertInto_other is apart).bind
            fun _ => Triple.pure fun _ holds => holds,
          .bind (.attempt _) fun _ => .pure ()⟩
      have updated : NotifyStep (if cols.contains "trigger_agent" then
          Db.attempt (updateWhereAll "kanban_notify_subs" [("trigger_agent", .integer 1), profileCell]
            (addressKey t.taskId t.flags)) else pure ()) := by
        split
        · exact notifyStep_attempt fun db u db' is n apart => updateWhereAll_other is apart
        · exact notifyStep_pure
      refine ⟨fun a => (Triple.ask fun db r holds _ => holds : Triple (Holds a) _ fun _ db => Holds a db).bind fun
        found => ?_,
        .bind (.ask _) fun found => ?_⟩
      · cases found with
        | none => exact (inserted _).keeps a
        | some _ => exact updated.keeps a
      · cases found with
        | none => exact (inserted _).uncommitted
        | some _ => exact updated.uncommitted
  unfold findNotifyRow
  dsimp only
  have asked {α : Type} (f : BoardTables → α) (a : AckTables) : Triple (Holds a) (Db.query f) fun _ db => Holds a db :=
    Triple.query fun _ holds => holds
  refine ⟨fun a => (asked _ a).bind fun known => ?_, .bind (.query _) fun known => ?_⟩
  · cases known with
    | false => exact (rest []).keeps a
    | true => exact (asked _ a).bind fun cols => (rest cols).keeps a
  · cases known with
    | false => exact (rest []).uncommitted
    | true => exact .bind (.query _) fun cols => (rest cols).uncommitted

section

variable {asId : Value → Db BoardTables Value} {now : Int} {t : AckTarget}

theorem repairSubscription_uncommitted (keeps : KeepsId asId) : Uncommitted (repairSubscription asId now t) := by
  refine .bind (.ask _) fun found => ?_
  cases found with
  | none => exact .bind (.attempt _) fun _ => .pure _
  | some found => exact .bind (keeps.uncommitted _) fun _ => .bind (.attempt _) fun _ => .pure _

theorem repairWake_uncommitted (subId : Value) : Uncommitted (repairWake now t subId) := by
  refine .bind (.ask _) fun found => ?_
  cases found with
  | none => exact .bind (.attempt _) fun _ => .pure _
  | some _ => exact .pure _

theorem repairAckRows_uncommitted (keeps : KeepsId asId) : Uncommitted (repairAckRows asId now t) :=
  .bind (repairSubscription_uncommitted keeps) repairWake_uncommitted

variable {notify : Int → AckTarget → Db BoardTables Unit}

theorem repairTargets_uncommitted (step : ∀ t, NotifyStep (notify now t)) (keeps : KeepsId asId)
    (targets : List AckTarget) :
    Uncommitted (repairTargets notify asId now targets) := by
  induction targets with
  | nil => exact .pure _
  | cons t rest ih => exact .bind (.bind (step t).uncommitted fun _ => repairAckRows_uncommitted keeps) fun _ => ih

def AckTables.repairedAll (a : AckTables) (now : Int) (targets : List AckTarget) : AckTables :=
  targets.foldl (fun a t => a.repaired now t) a

theorem AckTables.repaired_key (a : AckTables) (now : Int) (t : AckTarget) :
    (a.repaired now t).subs.key = a.subs.key := by
  unfold AckTables.repaired AckTables.withSub
  dsimp only
  split <;> rfl

/-- The targets are repaired one after the other. -/
theorem repairTargets_triple (step : ∀ t, NotifyStep (notify now t)) (keeps : KeepsId asId) (targets : List AckTarget) :
    ∀ a : AckTables, a.subs.key = some "id" →
      Triple (Holds a) (repairTargets notify asId now targets) fun _ db => Holds (a.repairedAll now targets) db := by
  induction targets with
  | nil => exact fun a _ => Triple.pure fun _ holds => holds
  | cons t rest ih =>
    intro a keyed
    have first : Triple (Holds a) (notify now t >>= fun _ => repairAckRows asId now t)
        fun _ db => Holds (a.repaired now t) db :=
      ((step t).keeps a).bind fun _ => repairAckRows_triple keeps keyed
    exact first.bind fun _ => ih (a.repaired now t) ((a.repaired_key now t).trans keyed)

end

theorem upsertTargets_uncommitted (now : Int) (targets : List AckTarget) : Uncommitted (upsertTargets now targets) :=
  .bind (.query _) fun cols => repairTargets_uncommitted (upsertNotifyRow_step cols now) keepsId_pure targets

theorem upsertTargets_triple {a : AckTables} (keyed : a.subs.key = some "id") (now : Int) (targets : List AckTarget) :
    Triple (Holds a) (upsertTargets now targets) fun _ db => Holds (a.repairedAll now targets) db := by
  have asked : Triple (Holds a) (tableColumns "kanban_notify_subs") fun _ db => Holds a db :=
    Triple.query fun _ holds => holds
  exact asked.bind fun cols => repairTargets_triple (upsertNotifyRow_step cols now) keepsId_pure targets a keyed

theorem allExist_keeps (names : List String) : ∀ c,
    (allExist names c).2.committed = c.committed ∧ (allExist names c).2.working = c.working := by
  induction names with
  | nil => exact fun _ => ⟨rfl, rfl⟩
  | cons name rest ih =>
    intro c
    have asked := (reads_query fun db : BoardTables => (db name).isSome).keeps c
    rcases ran : Db.query (fun db : BoardTables => (db name).isSome) c with ⟨_ | known, d⟩
    · rw [ran] at asked
      have whole : allExist (name :: rest) c = (none, d) := bind_none ran
      rw [whole]
      exact asked
    · rw [ran] at asked
      have whole : allExist (name :: rest) c = (if known then allExist rest else pure false) d := bind_some ran
      rw [whole]
      cases known with
      | false => exact asked
      | true => exact ⟨(ih d).1.trans asked.1, (ih d).2.trans asked.2⟩

/-- A repair that is granted leaves the tables repaired, and any other one leaves the database as it was. -/
theorem repairWhere_committed {needed : List String} {body : Db BoardTables Unit} {a a' : AckTables}
    (right : Triple (Holds a) body fun _ db => Holds a' db) (kept : Uncommitted body) {c : Session BoardTables}
    (closed : c.working = none) (holds : Holds a c.committed) :
    if (repairWhere needed body c).1 = some true then Holds a' (repairWhere needed body c).2.committed
    else (repairWhere needed body c).2.committed = c.committed := by
  obtain ⟨committed, working⟩ := allExist_keeps needed c
  rcases ran : allExist needed c with ⟨_ | all, d⟩
  · rw [ran] at committed
    have whole : repairWhere needed body c = (none, d) := bind_none ran
    rw [whole, if_neg (by simp)]
    exact committed
  · rw [ran] at committed working
    have whole : repairWhere needed body c =
        (if all then Db.transaction body >>= fun _ => pure true else pure false) d := bind_some ran
    rw [whole]
    cases all with
    | false =>
      have refused : (pure false : Db BoardTables Bool) d = (some false, d) := rfl
      rw [if_neg Bool.false_ne_true, refused, if_neg (by simp)]
      exact committed
    | true =>
      rw [if_pos rfl]
      rcases done : Db.transaction body d with ⟨_ | u, e⟩
      · have left := Triple.transaction right kept (working.trans closed) (committed.symm ▸ holds) done
        rw [bind_none done, if_neg (by simp)]
        exact left.2.trans committed
      · have left := Triple.transaction right kept (working.trans closed) (committed.symm ▸ holds) done
        rw [bind_some done]
        exact left.2

end AgentflowHermes.Boards
