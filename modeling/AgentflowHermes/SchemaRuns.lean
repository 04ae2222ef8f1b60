import AgentflowHermes.SchemaSteps
import Mathlib.Data.List.Induction
import Mathlib.Data.List.Forall2
import Mathlib.Data.List.Nodup

namespace AgentflowHermes.Schema

open ScriptRuns

/-- The tables, columns and indexes of a database, without its rows. -/
structure Outline where
  tables : List TableDef := []
  indexes : List Index := []
  deriving DecidableEq

def Outline.table? (o : Outline) (name : String) : Option TableDef := o.tables.find? (·.name = name)

def Database.outline (db : Database) : Outline := { tables := db.tables.map Table.definition, indexes := db.indexes }

/-- What a statement does to the tables, columns and indexes. -/
def Statement.redraw : Statement → Outline → Except SqlError Outline
  | .createTable t, o => if (o.table? t.name).isSome then .ok o else .ok { o with tables := o.tables ++ [t] }
  | .createIndex i, o =>
    if o.indexes.any (·.name = i.name) then .ok o
    else
      match o.table? i.table with
      | none => .error (.noSuchTable i.table)
      | some t =>
        if i.columns.any fun c => !t.columnNames.contains c then .error .noSuchColumn
        else .ok { o with indexes := o.indexes ++ [i] }
  | .addColumn name c, o =>
    match o.table? name with
    | none => .error (.noSuchTable name)
    | some t =>
      if t.columnNames.contains c.name then .error (.duplicateColumn c.name)
      else .ok { o with tables := o.tables.map fun t => if t.name = name then { t with columns := t.columns ++ [c] } else t }
  | .backfillSeq, o =>
    match o.table? "job_events" with
    | none => .error (.noSuchTable "job_events")
    | some t => if t.columnNames.contains "seq" then .ok o else .error .noSuchColumn

namespace Database

variable {db : Database} {name : String}

theorem table?_outline : db.outline.table? name = (db.table? name).map Table.definition := by
  unfold Outline.table? Database.table? Database.outline
  rw [List.find?_map]
  rfl

theorem table?_name {t : Table} (h : db.table? name = some t) : t.name = name := by
  have found := List.find?_some h
  exact of_decide_eq_true found

theorem table?_mapTable {f : Table → Table} (named : ∀ t, (f t).name = t.name) (other : String) :
    (db.mapTable name f).table? other = (db.table? other).map fun t => if other = name then f t else t := by
  unfold Database.table? Database.mapTable
  rw [List.find?_map]
  have same : ((fun t : Table => decide (t.name = other)) ∘ fun t => if t.name = name then f t else t) =
      fun t => decide (t.name = other) := by
    funext t
    by_cases at' : t.name = name <;> simp [at', named]
  rw [same]
  cases found : db.tables.find? fun t => decide (t.name = other) with
  | none => rfl
  | some t =>
    have found' := List.find?_some found
    have is : t.name = other := of_decide_eq_true found'
    simp [is]

end Database

/-- What can have become of a table when a statement has been executed. -/
inductive TableStep (s : Statement) (name : String) : Option Table → Option Table → Prop
  | same (t : Option Table) : TableStep s name t t
  | created (definition : TableDef) : TableStep s name none (some { definition })
  | added (t : Table) (c : Column) (statement : s = .addColumn name c) (new : c.name ∉ t.columnNames) :
      TableStep s name (some t) (some (t.addColumn c))
  | filled (t : Table) (statement : s = .backfillSeq) (events : name = "job_events") (sequenced : "seq" ∈ t.columnNames) :
      TableStep s name (some t) (some t.backfill)

theorem execute_table {s : Statement} {db db' : Database} (h : execute s db = .ok db') (name : String) :
    TableStep s name (db.table? name) (db'.table? name) := by
  cases s with
  | createTable t =>
    rw [execute] at h
    split at h
    · cases h
      exact .same _
    next absent =>
      cases h
      rw [Option.not_isSome_iff_eq_none] at absent
      have looked : Database.table? { db with tables := db.tables ++ [{ definition := t }] } name =
          (db.table? name).or (if t.name = name then some { definition := t } else none) := by
        unfold Database.table?
        rw [List.find?_append]
        congr 1
        by_cases at' : t.name = name
        · rw [if_pos at', List.find?_cons_of_pos]
          exact decide_eq_true at'
        · rw [if_neg at', List.find?_cons_of_neg]
          · rfl
          · rw [decide_eq_true_eq]
            exact at'
      rw [looked]
      by_cases at' : t.name = name
      · rw [← at', absent, if_pos rfl]
        exact .created t
      · rw [if_neg at', Option.or_none]
        exact .same _
  | createIndex i =>
    rw [execute] at h
    split at h
    · cases h
      exact .same _
    · split at h
      · cases h
      · split at h
        · cases h
        · split at h
          · cases h
          · cases h
            exact .same _
  | addColumn table c =>
    rw [execute] at h
    split at h
    · cases h
    next t found =>
      split at h
      · cases h
      next new =>
        cases h
        have looked := @Database.table?_mapTable db table (·.addColumn c) (fun t => rfl) name
        rw [looked]
        by_cases at' : name = table
        · subst at'
          rw [found, Option.map_some, if_pos rfl]
          exact .added t c rfl (by simpa using new)
        · simp only [if_neg at', Option.map_id']
          exact .same _
  | backfillSeq =>
    rw [execute] at h
    split at h
    · cases h
    next t found =>
      split at h
      next sequenced =>
        cases h
        have looked := @Database.table?_mapTable db "job_events" Table.backfill (fun t => rfl) name
        rw [looked]
        by_cases at' : name = "job_events"
        · subst at'
          rw [found, Option.map_some, if_pos rfl]
          exact .filled t rfl rfl (by simpa using sequenced)
        · simp only [if_neg at', Option.map_id']
          exact .same _
      · cases h

/-- A statement that is fit for the outline is executed, unless its index finds two rows with one key. -/
theorem execute_redraws {s : Statement} {db : Database} {o : Outline} (h : s.redraw db.outline = .ok o)
    (unique : ∀ i t, s = .createIndex i → i.unique = true → db.table? i.table = some t → t.collides i = false) :
    ∃ db', execute s db = .ok db' ∧ db'.outline = o := by
  cases s with
  | createTable t =>
    rw [Statement.redraw] at h
    rw [execute]
    rw [Database.table?_outline, Option.isSome_map] at h
    split at h
    next there => exact ⟨db, if_pos there, by cases h; rfl⟩
    next absent =>
      refine ⟨_, if_neg absent, ?_⟩
      cases h
      simp [Database.outline]
  | createIndex i =>
    rw [Statement.redraw] at h
    rw [execute]
    rw [Database.table?_outline] at h
    split at h
    next there => exact ⟨db, if_pos there, by cases h; rfl⟩
    next absent =>
      cases found : db.table? i.table with
      | none =>
        rw [found] at h
        cases h
      | some t =>
        rw [found] at h
        dsimp only [Option.map_some] at h
        split at h
        · cases h
        next known =>
          have apart : (i.unique && t.collides i) = false := by
            cases hu : i.unique with
            | false => rfl
            | true => rw [unique i t rfl hu found, Bool.true_and]
          refine ⟨{ db with indexes := db.indexes ++ [i] }, ?_, ?_⟩
          · refine Eq.trans (if_neg absent) (Eq.trans (if_neg known) (if_neg ?_))
            rw [apart]
            exact Bool.false_ne_true
          · cases h
            rfl
  | addColumn name c =>
    rw [Statement.redraw] at h
    rw [execute]
    rw [Database.table?_outline] at h
    cases found : db.table? name with
    | none =>
      rw [found] at h
      cases h
    | some t =>
      rw [found] at h
      dsimp only [Option.map_some] at h ⊢
      split at h
      · cases h
      next new =>
        refine ⟨_, if_neg new, ?_⟩
        cases h
        unfold Database.outline Database.mapTable
        simp only [List.map_map]
        congr 1
        refine List.map_congr_left fun t _ => ?_
        by_cases at' : t.name = name
        · have defined : t.definition.name = name := at'
          simp [at', defined, Table.addColumn]
        · have defined : t.definition.name ≠ name := at'
          simp [at', defined]
  | backfillSeq =>
    rw [Statement.redraw] at h
    rw [execute]
    rw [Database.table?_outline] at h
    cases found : db.table? "job_events" with
    | none =>
      rw [found] at h
      cases h
    | some t =>
      rw [found] at h
      dsimp only [Option.map_some] at h ⊢
      split at h
      next sequenced =>
        refine ⟨_, if_pos sequenced, ?_⟩
        cases h
        unfold Database.outline Database.mapTable
        simp only [List.map_map]
        congr 1
        refine List.map_congr_left fun t _ => ?_
        by_cases at' : t.name = "job_events" <;> simp [at', Table.backfill]
      · cases h

end AgentflowHermes.Schema
