import AgentflowHermes.AckRows
import Mathlib.Data.List.Count
import Mathlib.Data.List.Nodup

namespace AgentflowHermes.Boards

open SqlSessions Origins

namespace BoardTable

variable {t : BoardTable} {key values : List (String × Value)} {row : BoardRow}

def count (t : BoardTable) (key : List (String × Value)) : Nat := t.rows.countP (t.fits key)

theorem fits_append (k l : List (String × Value)) : t.fits (k ++ l) row = (t.fits k row && t.fits l row) :=
    List.all_append

theorem value_other {column : String} (keyed : t.key = some "id") (other : column ≠ "id") :
    t.value row column = row.cells column := by
  unfold value
  rw [keyed, if_neg]
  exact fun same => other (Option.some.inj same).symm

/-- A row keeps fitting where none of the columns is written. -/
theorem fits_write (apart : ∀ cell ∈ key, values.lookup cell.1 = none) :
    t.fits key (row.write values) = t.fits key row := by
  unfold fits
  rw [Bool.eq_iff_iff, List.all_eq_true, List.all_eq_true]
  have same (cell : String × Value) (mem : cell ∈ key) : t.value (row.write values) cell.1 = t.value row cell.1 := by
    unfold value BoardRow.write
    simp only [apart cell mem, Option.getD_none]
  constructor
  · intro all cell mem
    rw [← same cell mem]
    exact all cell mem
  · intro all cell mem
    rw [same cell mem]
    exact all cell mem

theorem count_update (id : Int) (apart : ∀ cell ∈ key, values.lookup cell.1 = none) :
    (t.update id values).count key = t.count key := by
  unfold count update
  rw [List.countP_map]
  refine List.countP_congr fun row _ => ?_
  show t.fits key (if row.rowId = id then row.write values else row) = true ↔ t.fits key row = true
  split
  · rw [fits_write apart]
  · exact Iff.rfl

theorem count_absent (absent : t.rows.find? (t.fits key) = none) : t.count key = 0 := by
  refine List.countP_eq_zero.mpr fun row mem => ?_
  exact List.find?_eq_none.mp absent row mem

/-- A row that is added where there is none like it is the only one of its kind. -/
theorem count_add {key' : List (String × Value)} (absent : t.rows.find? (t.fits key) = none)
    (own : t.fits key' row = true → key' = key) : (t.add row).count key' ≤ max 1 (t.count key') := by
  have split : (t.add row).count key' = t.count key' + if t.fits key' row then 1 else 0 := by
    unfold count add
    rw [List.countP_append, List.countP_singleton]
    rfl
  rw [split]
  by_cases fits : t.fits key' row = true
  · have none : t.count key' = 0 := own fits ▸ count_absent absent
    rw [none, if_pos fits]
    exact le_max_left _ _
  · rw [if_neg fits]
    exact le_max_right _ _

theorem rowId_lt_nextId (mem : row ∈ t.rows) : row.rowId < t.nextId := by
  have greatest : (0 :: t.rows.map BoardRow.rowId).max? = some (t.rows.foldl (fun n row => max n row.rowId) 0) := by
    rw [List.max?_cons', List.foldl_map]
  have bound := (List.max?_le_iff greatest).mp le_rfl row.rowId (List.mem_cons_of_mem _ (List.mem_map_of_mem mem))
  unfold nextId
  omega

/-- The id of a new row is no other row's. -/
theorem nodup_add (distinct : (t.rows.map BoardRow.rowId).Nodup) :
    ((t.add (t.newRow values)).rows.map BoardRow.rowId).Nodup := by
  unfold add
  rw [List.map_append, List.nodup_append]
  refine ⟨distinct, List.nodup_singleton _, fun id mem id' mem' same => ?_⟩
  obtain ⟨row, inside, rfl⟩ := List.mem_map.mp mem
  have fresh := rowId_lt_nextId inside
  rw [List.mem_singleton.mp mem'] at same
  exact absurd same (ne_of_lt fresh)

theorem update_rowIds (id : Int) : (t.update id values).rows.map BoardRow.rowId = t.rows.map BoardRow.rowId := by
  unfold update
  rw [List.map_map]
  refine List.map_congr_left fun row _ => ?_
  show (if row.rowId = id then row.write values else row).rowId = row.rowId
  split <;> rfl

end BoardTable

namespace AckTables

variable {a b c : AckTables} {now : Int} {t : AckTarget}

/-- The target has a subscription that requires a wake, and its wake. -/
def Woken (a : AckTables) (t : AckTarget) : Prop :=
  ∃ sub ∈ a.subs.rows, a.subs.fits (t.subKey ++ wakeSettings) sub = true ∧
    ∃ wake ∈ a.wakes.rows, a.wakes.fits (t.wakeKey (.integer sub.rowId)) wake = true

/-- What later tables keep of earlier ones: no second row for a key, and every wake. -/
structure Grows (a b : AckTables) : Prop where
  subs : ∀ t : AckTarget, b.subs.count t.subKey ≤ max 1 (a.subs.count t.subKey)
  wakes : ∀ (t : AckTarget) id, b.wakes.count (t.wakeKey (.integer id)) ≤ max 1
    (a.wakes.count (t.wakeKey (.integer id)))
  woken : ∀ t, a.Woken t → b.Woken t

theorem Grows.refl (a : AckTables) : Grows a a :=
  ⟨fun _ => le_max_right _ _, fun _ _ => le_max_right _ _, fun _ woken => woken⟩

theorem Grows.trans (first : Grows a b) (later : Grows b c) : Grows a c where
  subs t := (later.subs t).trans (max_le (le_max_left _ _) (first.subs t))
  wakes t id := (later.wakes t id).trans (max_le (le_max_left _ _) (first.wakes t id))
  woken t woken := later.woken t (first.woken t woken)

theorem subKey_apart (t : AckTarget) : ∀ cell ∈ t.subKey, wakeSettings.lookup cell.1 = none := by
  simp [AckTarget.subKey, addressKey, profileCell, wakeSettings, List.lookup_cons, List.lookup_nil]

theorem newSub_own (keyed : a.Keyed) {t' : AckTarget}
    (fits : a.subs.fits t'.subKey (a.subs.newRow (t.newSub now)) = true) : t'.subKey = t.subKey := by
  have cells := List.all_eq_true.mp fits
  simp [AckTarget.subKey, addressKey, profileCell, AckTarget.newSub, BoardTable.newRow, BoardTable.value, keyed.subs,
    List.lookup_cons] at cells
  simp [AckTarget.subKey, addressKey, cells]

theorem newWake_own (keyed : a.Keyed) {t' : AckTarget} {id id' : Int}
    (fits : a.wakes.fits (t'.wakeKey (.integer id')) (a.wakes.newRow (t.newWake (.integer id) now)) = true) :
    t'.wakeKey (.integer id') = t.wakeKey (.integer id) := by
  have cells := List.all_eq_true.mp fits
  simp [AckTarget.wakeKey, AckTarget.newWake, BoardTable.newRow, BoardTable.value, keyed.wakes,
    List.lookup_cons] at cells
  simp [AckTarget.wakeKey, cells]

theorem newSub_fits (keyed : a.Keyed) :
    a.subs.fits (t.subKey ++ wakeSettings) (a.subs.newRow (t.newSub now)) = true := by
  simp [BoardTable.fits, AckTarget.subKey, addressKey, profileCell, wakeSettings, AckTarget.newSub, BoardTable.newRow,
    BoardTable.value, keyed.subs, List.lookup_cons]

theorem newWake_fits (keyed : a.Keyed) (id : Int) :
    a.wakes.fits (t.wakeKey (.integer id)) (a.wakes.newRow (t.newWake (.integer id) now)) = true := by
  simp [BoardTable.fits, AckTarget.wakeKey, AckTarget.newWake, BoardTable.newRow, BoardTable.value, keyed.wakes,
    List.lookup_cons]

theorem settings_fit (keyed : a.Keyed) (sub : BoardRow) : a.subs.fits wakeSettings (sub.write wakeSettings) = true := by
  simp [BoardTable.fits, wakeSettings, BoardRow.write, BoardTable.value, keyed.subs, List.lookup_cons]

theorem withSub_key (a : AckTables) (now : Int) (t : AckTarget) : (a.withSub now t).1.key = a.subs.key :=
  a.repaired_key now t

theorem withSub_count (keyed : a.Keyed) (t' : AckTarget) :
    (a.withSub now t).1.count t'.subKey ≤ max 1 (a.subs.count t'.subKey) := by
  unfold withSub
  split
  next sub _ =>
    rw [BoardTable.count_update _ (subKey_apart t')]
    exact le_max_right _ _
  next absent => exact BoardTable.count_add absent (newSub_own keyed)

theorem withSub_distinct (keyed : a.Keyed) : ((a.withSub now t).1.rows.map BoardRow.rowId).Nodup := by
  unfold withSub
  split
  · rw [BoardTable.update_rowIds]
    exact keyed.distinct
  · exact BoardTable.nodup_add keyed.distinct

/-- A subscription that requires a wake goes on to require it. -/
theorem withSub_keeps (now : Int) (t : AckTarget) (keyed : a.Keyed) {t' : AckTarget} {sub : BoardRow} (mem : sub ∈ a.subs.rows)
    (fits : a.subs.fits (t'.subKey ++ wakeSettings) sub = true) :
    ∃ sub' ∈ (a.withSub now t).1.rows, (a.withSub now t).1.fits (t'.subKey ++ wakeSettings) sub' = true ∧
      sub'.rowId = sub.rowId := by
  unfold withSub
  split
  next found _ =>
    by_cases written : sub.rowId = found.rowId
    · refine ⟨sub.write wakeSettings, List.mem_map.mpr ⟨sub, mem, if_pos written⟩, ?_, rfl⟩
      rw [BoardTable.fits_append, Bool.and_eq_true] at fits ⊢
      exact ⟨(BoardTable.fits_write (subKey_apart t')).trans fits.1, settings_fit keyed sub⟩
    · exact ⟨sub, List.mem_map.mpr ⟨sub, mem, if_neg written⟩, fits, rfl⟩
  next _ => exact ⟨sub, List.mem_append_left _ mem, fits, rfl⟩

theorem withSub_found (now : Int) (t : AckTarget) (keyed : a.Keyed) :
    ∃ sub ∈ (a.withSub now t).1.rows, (a.withSub now t).1.fits (t.subKey ++ wakeSettings) sub = true ∧
      sub.rowId = (a.withSub now t).2 := by
  unfold withSub
  split
  next sub found =>
    refine ⟨sub.write wakeSettings, List.mem_map.mpr ⟨sub, List.mem_of_find?_eq_some found, if_pos rfl⟩, ?_, rfl⟩
    rw [BoardTable.fits_append, Bool.and_eq_true]
    exact ⟨(BoardTable.fits_write (subKey_apart t)).trans (List.find?_some found), settings_fit keyed sub⟩
  next _ => exact ⟨_, List.mem_append_right _ (List.mem_singleton_self _), newSub_fits keyed, rfl⟩

theorem withWake_key (a : AckTables) (now : Int) (t : AckTarget) (id : Int) :
    (a.withWake now t id).key = a.wakes.key := by
  unfold withWake
  split <;> rfl

theorem withWake_keeps {id : Int} {wake : BoardRow} (mem : wake ∈ a.wakes.rows) :
    wake ∈ (a.withWake now t id).rows := by
  unfold withWake
  split
  · exact mem
  · exact List.mem_append_left _ mem

theorem withWake_fits (a : AckTables) (now : Int) (t : AckTarget) (id : Int) (key : List (String × Value)) :
    (a.withWake now t id).fits key = a.wakes.fits key := by
  funext row
  unfold BoardTable.fits BoardTable.value
  rw [withWake_key]

theorem withWake_found (now : Int) (t : AckTarget) (keyed : a.Keyed) (id : Int) :
    ∃ wake ∈ (a.withWake now t id).rows, (a.withWake now t id).fits (t.wakeKey (.integer id)) wake = true := by
  unfold withWake
  split
  next wake found => exact ⟨wake, List.mem_of_find?_eq_some found, List.find?_some found⟩
  next _ => exact ⟨_, List.mem_append_right _ (List.mem_singleton_self _), newWake_fits keyed id⟩

theorem withWake_count (keyed : a.Keyed) (id : Int) (t' : AckTarget) (id' : Int) :
    (a.withWake now t id).count (t'.wakeKey (.integer id')) ≤ max 1 (a.wakes.count (t'.wakeKey (.integer id'))) := by
  unfold withWake
  split
  next => exact le_max_right _ _
  next absent => exact BoardTable.count_add absent (newWake_own keyed)

theorem repaired_keyed (keyed : a.Keyed) (now : Int) (t : AckTarget) : (a.repaired now t).Keyed where
  subs := (a.withSub_key now t).trans keyed.subs
  wakes := (a.withWake_key now t _).trans keyed.wakes
  distinct := withSub_distinct keyed

theorem repaired_grows (keyed : a.Keyed) (now : Int) (t : AckTarget) : Grows a (a.repaired now t) where
  subs t' := withSub_count keyed t'
  wakes t' id := withWake_count keyed _ t' id
  woken t' woken := by
    obtain ⟨sub, mem, fits, wake, mem', fits'⟩ := woken
    obtain ⟨sub', there, fits, same⟩ := withSub_keeps now t keyed mem fits
    refine ⟨sub', there, fits, wake, withWake_keeps mem', ?_⟩
    rw [same]
    exact (congrFun (a.withWake_fits now t _ _) wake).trans fits'

theorem repaired_woken (keyed : a.Keyed) (now : Int) (t : AckTarget) : (a.repaired now t).Woken t := by
  obtain ⟨sub, mem, fits, same⟩ := withSub_found now t keyed
  obtain ⟨wake, mem', fits'⟩ := withWake_found now t keyed (a.withSub now t).2
  exact ⟨sub, mem, fits, wake, mem', same ▸ fits'⟩

theorem repairedAll_keyed (keyed : a.Keyed) (now : Int) (targets : List AckTarget) :
    (a.repairedAll now targets).Keyed := by
  induction targets generalizing a with
  | nil => exact keyed
  | cons t rest ih => exact ih (repaired_keyed keyed now t)

theorem repairedAll_grows (keyed : a.Keyed) (now : Int) (targets : List AckTarget) :
    Grows a (a.repairedAll now targets) := by
  induction targets generalizing a with
  | nil => exact Grows.refl a
  | cons t rest ih => exact (repaired_grows keyed now t).trans (ih (repaired_keyed keyed now t))

theorem repairedAll_woken (keyed : a.Keyed) (now : Int) {targets : List AckTarget} (mem : t ∈ targets) :
    (a.repairedAll now targets).Woken t := by
  induction targets generalizing a with
  | nil => cases mem
  | cons first rest ih =>
    rcases List.mem_cons.mp mem with rfl | mem
    · exact (repairedAll_grows (repaired_keyed keyed now t) now rest).woken t (repaired_woken keyed now t)
    · exact ih (repaired_keyed keyed now first) mem

end AckTables

/-- A repair by one of the programs that make them. -/
inductive RepairCall
  | anchor (taskId : String) (flags : OriginFlags)
  | graph (T : PyText) (board taskId : String) (flags : OriginFlags)
  | cards (targets : List (String × String)) (taskId : String)

namespace RepairCall

def targets : RepairCall → List AckTarget
  | anchor taskId flags => [anchorTarget taskId flags]
  | graph T board taskId flags => [graphTarget T board taskId flags]
  | cards targets taskId => targets.map (cardTarget taskId)

/-- What the program does on its connection, and whether it has repaired the rows. -/
def program (now : Int) : RepairCall → Db BoardTables Bool
  | anchor taskId flags => do
    let answer ← ensureAckRows taskId flags now
    return successful answer
  | graph T board taskId flags => activeWakeAck T board taskId flags now
  | cards targets taskId => cardAckRows targets taskId now

theorem anchor_program (now : Int) (taskId : String) (flags : OriginFlags) :
    (anchor taskId flags).program now = repairWhere ["kanban_notify_subs", "ack_subscription", "ack_active_wake"]
      (upsertTargets now [anchorTarget taskId flags]) := by
  show (ensureAckRows taskId flags now >>= fun answer => pure (successful answer)) = _
  rw [ensureAckRows_eq, bind_assoc']
  refine Eq.trans ?_ (bind_pure' _)
  congr 1
  funext all
  cases all with
  | false => rfl
  | true => rfl

/-- The three programs repair their targets in one transaction. -/
theorem program_where {a : AckTables} (keyed : a.Keyed) (now : Int) (call : RepairCall) :
    ∃ needed body, call.program now = repairWhere needed body ∧ Uncommitted body ∧
      Triple (Holds a) body fun _ db => Holds (a.repairedAll now call.targets) db := by
  cases call with
  | anchor taskId flags =>
    exact ⟨_, _, anchor_program now taskId flags, upsertTargets_uncommitted now _,
      upsertTargets_triple keyed.subs now _⟩
  | graph T board taskId flags =>
    exact ⟨_, _, rfl, repairTargets_uncommitted (findNotifyRow_step now) keepsId_intId _,
      repairTargets_triple (findNotifyRow_step now) keepsId_intId _ a keyed.subs⟩
  | cards targets taskId => exact ⟨_, _, rfl, upsertTargets_uncommitted now _, upsertTargets_triple keyed.subs now _⟩

end RepairCall

/-- What comes to a board: a repair, of which only so many statements are executed, or anything else that is done to it. -/
inductive AckEvent
  | repair (call : RepairCall) (now : Int) (patience : Option Nat)
  | others (change : BoardTables → BoardTables)

namespace AckEvent

def step (db : BoardTables) : AckEvent → Option Bool × BoardTables
  | repair call now patience =>
    let (answer, session) := call.program now { committed := db, patience }
    (answer, session.committed)
  | others change => (none, change db)

def run (events : List AckEvent) (db : BoardTables) : BoardTables := events.foldl (fun db event => (event.step db).2) db

end AckEvent

/-- Others make no second row for a key and take no wake back. -/
def Spares (change : BoardTables → BoardTables) : Prop :=
  ∀ a db, Holds a db → a.Keyed → ∃ a', Holds a' (change db) ∧ a'.Keyed ∧ AckTables.Grows a a'

section

variable {a : AckTables} {db : BoardTables}

/-- One repair: granted, it leaves the tables repaired, and otherwise the database as it was. -/
theorem repair_step (call : RepairCall) (now : Int) (patience : Option Nat) (holds : Holds a db) (keyed : a.Keyed) :
    if ((AckEvent.repair call now patience).step db).1 = some true then
      Holds (a.repairedAll now call.targets) ((AckEvent.repair call now patience).step db).2
    else ((AckEvent.repair call now patience).step db).2 = db := by
  obtain ⟨needed, body, is, kept, right⟩ := call.program_where keyed now
  have committed := @repairWhere_committed needed body _ _ right kept { committed := db, patience } rfl holds
  rw [← is] at committed
  exact committed

theorem Holds.unique {b : AckTables} (first : Holds a db) (second : Holds b db) : a = b := by
  have subs := Option.some.inj (first.subs.symm.trans second.subs)
  have wakes := Option.some.inj (first.wakes.symm.trans second.wakes)
  cases a
  cases b
  cases subs
  cases wakes
  rfl

end

/-- What the consumer of the wakes writes to them. -/
def markWakes (status : String) (db : BoardTables) : BoardTables :=
  match db "ack_active_wake" with
  | some t => setTable db "ack_active_wake" { t with rows := t.rows.map (BoardRow.write [("status", .text status)]) }
  | none => db

theorem markWakes_spares (status : String) : Spares (markWakes status) := by
  intro a db holds keyed
  have apart (t : AckTarget) (id : Int) : ∀ cell ∈ t.wakeKey (.integer id),
    [("status", Value.text status)].lookup cell.1 = none := by
    simp [AckTarget.wakeKey, List.lookup_cons, List.lookup_nil]
  refine ⟨{ a with wakes := { a.wakes with rows := a.wakes.rows.map (BoardRow.write [("status", .text status)]) } }, ?_,
    ⟨keyed.subs, keyed.wakes, keyed.distinct⟩, fun _ => le_max_right _ _, fun t id => ?_, fun t woken => ?_⟩
  · unfold markWakes
    rw [holds.wakes]
    exact holds.setWakes
  · refine le_of_eq_of_le ?_ (le_max_right _ _)
    show (a.wakes.rows.map _).countP (a.wakes.fits _) = _
    rw [List.countP_map]
    refine List.countP_congr fun row _ => ?_
    show a.wakes.fits _ (row.write _) = true ↔ _
    rw [BoardTable.fits_write (apart t id)]
  · obtain ⟨sub, mem, fits, wake, mem', fits'⟩ := woken
    refine ⟨sub, mem, fits, wake.write [("status", .text status)], List.mem_map_of_mem mem', ?_⟩
    exact (BoardTable.fits_write (t := a.wakes) (apart t sub.rowId)).trans fits'

def ackBoard : BoardTables := fun name =>
  match name with
  | "kanban_notify_subs" => some {
      columns := ["task_id", "platform", "chat_id", "thread_id", "notifier_profile", "created_at"] }
  | "ack_subscription" => some {
      columns := ["id", "task_id", "platform", "chat_id", "thread_id", "notifier_profile", "desired_delivery_mode",
        "active_wake_required", "operator_receipt_required", "created_at"]
      key := some "id" }
  | "ack_active_wake" => some {
      columns := ["id", "task_id", "subscription_id", "triggered_agent", "correlation_id", "status", "created_at"]
      key := some "id" }
  | _ => none

end AgentflowHermes.Boards
