import AgentflowHermes.SchemaRuns

namespace AgentflowHermes.Schema

open ScriptRuns

theorem Row.set_other {row : Row} {column c : String} {value : Cell} (h : c ≠ column) : row.set column value c = row c :=
  if_neg h

theorem Row.set_same {row : Row} {column : String} {value : Cell} : row.set column value column = value := if_pos rfl

/-- Rows that have the same values, one by one, in some columns. -/
def AgreeOn (columns : List String) : List Row → List Row → Prop :=
  List.Forall₂ fun row row' => ∀ c ∈ columns, row' c = row c

namespace AgreeOn

variable {columns columns' : List String} {rows rows' rows'' : List Row}

theorem refl (columns : List String) (rows : List Row) : AgreeOn columns rows rows :=
  List.forall₂_same.mpr fun _ _ _ _ => rfl

theorem trans (sub : columns ⊆ columns') (h : AgreeOn columns rows rows') (h' : AgreeOn columns' rows' rows'') :
    AgreeOn columns rows rows'' := by
  induction h generalizing rows'' with
  | nil =>
    cases h'
    exact .nil
  | cons head _ ih =>
    cases h' with
    | cons head' rest' => exact .cons (fun c mem => (head' c (sub mem)).trans (head c mem)) (ih rest')

theorem map {f : Row → Row} (same : ∀ row, ∀ c ∈ columns, f row c = row c) (h : AgreeOn columns rows rows') :
    AgreeOn columns rows (rows'.map f) := by
  refine List.forall₂_map_right_iff.mpr (h.imp fun row row' agree c mem => ?_)
  exact (same row' c mem).trans (agree c mem)

/-- What is read in these columns alone is read in both. -/
theorem read {β : Type} {f : Row → β} (only : ∀ row row' : Row, (∀ c ∈ columns, row' c = row c) → f row' = f row)
    (h : AgreeOn columns rows rows') : rows'.map f = rows.map f := by
  induction h with
  | nil => rfl
  | cons head _ ih => rw [List.map_cons, List.map_cons, only _ _ head, ih]

end AgreeOn

/-- What is left of an earlier state: its tables with every value they had, and nothing in a table it did not have. -/
structure Keeps (start db : Database) : Prop where
  kept : ∀ name t, start.table? name = some t →
    ∃ t', db.table? name = some t' ∧ t.columnNames ⊆ t'.columnNames ∧ AgreeOn t.columnNames t.rows t'.rows
  fresh : ∀ name t, start.table? name = none → db.table? name = some t → t.rows = []

theorem Keeps.refl (db : Database) : Keeps db db where
  kept := fun _ t found => ⟨t, found, List.Subset.refl _, .refl _ _⟩
  fresh := by
    intro name t none found
    rw [none] at found
    cases found

theorem Keeps.trans {a b c : Database} (hab : Keeps a b) (hbc : Keeps b c) : Keeps a c where
  kept := by
    intro name t found
    obtain ⟨t', found', columns, rows⟩ := hab.kept name t found
    obtain ⟨t'', found'', columns', rows'⟩ := hbc.kept name t' found'
    exact ⟨t'', found'', fun x mem => columns' (columns mem), rows.trans columns rows'⟩
  fresh := by
    intro name t none found
    cases between : b.table? name with
    | none => exact hbc.fresh name t between found
    | some t' =>
      have empty := hab.fresh name t' none between
      obtain ⟨t'', found'', _, rows⟩ := hbc.kept name t' between
      rw [found] at found''
      cases found''
      rw [empty] at rows
      exact List.forall₂_nil_left_iff.mp rows

/-- No statement touches a value that was there, but the backfill those of its own column. -/
theorem Keeps.step {start db db' : Database} {s : Statement} (h : execute s db = .ok db') (k : Keeps start db)
    (free : s = .backfillSeq → ∀ t, start.table? "job_events" = some t → "seq" ∉ t.columnNames) : Keeps start db' where
  kept := by
    intro name t found
    obtain ⟨before, found', columns, rows⟩ := k.kept name t found
    have step := execute_table h name
    rw [found'] at step
    generalize looked : db'.table? name = after at step
    cases step with
    | same => exact ⟨before, rfl, columns, rows⟩
    | added _ c _ new =>
      refine ⟨_, rfl, fun x mem => ?_, rows.map fun row x mem => ?_⟩
      · unfold Table.columnNames TableDef.columnNames Table.addColumn
        rw [List.map_append]
        exact List.mem_append_left _ (columns mem)
      · refine Row.set_other fun same => new ?_
        rw [← same]
        exact columns mem
    | filled _ fills events _ =>
      refine ⟨_, rfl, columns, rows.map fun row x mem => ?_⟩
      split
      · refine Row.set_other fun same => free fills t (events ▸ found) ?_
        rw [← same]
        exact mem
      · rfl
  fresh := by
    intro name t none found
    have step := execute_table h name
    rw [found] at step
    cases looked : db.table? name with
    | none =>
      rw [looked] at step
      cases step
      rfl
    | some before =>
      have empty := k.fresh name before none looked
      rw [looked] at step
      cases step with
      | same => exact empty
      | added => simp [Table.addColumn, empty]
      | filled => simp [Table.backfill, empty]

/-- A column that is there holds one value in every row. -/
def Constant (db : Database) (name column : String) (value : Cell) : Prop :=
  ∀ t, db.table? name = some t → column ∈ t.columnNames → ∀ row ∈ t.rows, row column = value

/-- A column is added with one value in every row, and stays so until it is filled. -/
theorem Constant.step {db db' : Database} {s : Statement} {name column : String} {value : Cell}
    (h : execute s db = .ok db') (c : Constant db name column value) (unfilled : s ≠ .backfillSeq)
    (default : ∀ x, s = .addColumn name x → x.name = column → x.default = value) : Constant db' name column value := by
  intro t found mem row inside
  have step := execute_table h name
  rw [found] at step
  generalize looked : db.table? name = before at step
  cases step with
  | same => exact c t looked mem row inside
  | created => cases inside
  | filled _ fills => exact absurd fills unfilled
  | added t x statement new =>
    obtain ⟨old, was, rfl⟩ := List.mem_map.mp inside
    by_cases at' : x.name = column
    · rw [at', Row.set_same]
      exact default x statement at'
    · rw [Row.set_other (Ne.symm at')]
      refine c t looked ?_ old was
      unfold Table.columnNames TableDef.columnNames Table.addColumn at mem
      rw [List.map_append] at mem
      rcases List.mem_append.mp mem with there | added
      · exact there
      · rw [List.map_cons, List.map_nil, List.mem_singleton] at added
        exact absurd added.symm at'

/-- The events of a job, in the order of their ids. -/
def jobEvents (rows : List Row) (job : Cell) : List Row := rows.filter fun row => row "job_id" = job

/-- The events of every job are numbered from one. -/
def Numbered (rows : List Row) : Prop :=
  ∀ job, (jobEvents rows job).map (· "seq") = (List.range' 1 (jobEvents rows job).length).map fun k => .integer k

def Sorted (rows : List Row) : Prop := (rows.map Row.rowId).Pairwise (· < ·)

theorem AgreeOn.sorted {columns : List String} {rows rows' : List Row} (h : AgreeOn columns rows rows')
    (id : "id" ∈ columns) (sorted : Sorted rows) : Sorted rows' := by
  unfold Sorted
  have same : rows'.map Row.rowId = rows.map Row.rowId := by
    refine h.read fun row row' agree => ?_
    unfold Row.rowId
    rw [agree "id" id]
  rw [same]
  exact sorted

theorem AgreeOn.numbered {columns : List String} {rows rows' : List Row} (h : AgreeOn columns rows rows')
    (job : "job_id" ∈ columns) (seq : "seq" ∈ columns) (numbered : Numbered rows) : Numbered rows' := by
  have same : rows'.map (fun row => (row "job_id", row "seq")) = rows.map fun row => (row "job_id", row "seq") := by
    refine h.read fun row row' agree => ?_
    rw [agree "job_id" job, agree "seq" seq]
  have seqs (rows : List Row) (j : Cell) : (jobEvents rows j).map (· "seq") =
      ((rows.map fun row => (row "job_id", row "seq")).filter fun pair => pair.1 = j).map Prod.snd := by
    unfold jobEvents
    rw [List.filter_map, List.map_map]
    rfl
  intro j
  have lengths : (jobEvents rows' j).length = (jobEvents rows j).length := by
    have mapped := congrArg List.length (seqs rows' j)
    rw [same, ← seqs, List.length_map, List.length_map] at mapped
    exact mapped
  rw [seqs, same, ← seqs, lengths]
  exact numbered j

theorem rank_positions {rows : List Row} (sorted : Sorted rows) :
    rows.map (fun row => (rows.filter fun other => decide (other.rowId ≤ row.rowId)).length) =
      List.range' 1 rows.length := by
  induction rows using List.reverseRecOn with
  | nil => rfl
  | append_singleton before last ih =>
    unfold Sorted at sorted
    rw [List.map_append, List.pairwise_append] at sorted
    obtain ⟨earlier, _, later⟩ := sorted
    have below : ∀ row ∈ before, row.rowId < last.rowId := fun row mem =>
      later _ (List.mem_map_of_mem mem) _ (List.mem_map_of_mem List.mem_cons_self)
    have firsts : before.map (fun row => ((before ++ [last]).filter fun other => decide (other.rowId ≤ row.rowId)).length) =
        List.range' 1 before.length := by
      rw [← ih earlier]
      refine List.map_congr_left fun row mem => ?_
      have above := below row mem
      have out : decide (last.rowId ≤ row.rowId) = false := by simpa using above
      rw [List.filter_append, List.filter_cons_of_neg (by simp [out])]
      simp
    have whole : ((before ++ [last]).filter fun other => decide (other.rowId ≤ last.rowId)).length = before.length + 1 := by
      rw [List.filter_eq_self.mpr]
      · simp
      · intro row mem
        rw [decide_eq_true_eq]
        rcases List.mem_append.mp mem with old | own
        · exact Int.le_of_lt (below row old)
        · exact Int.le_of_eq (congrArg Row.rowId (List.mem_singleton.mp own))
    rw [List.map_append, firsts, List.map_cons, List.map_nil, whole, List.length_append, List.length_singleton,
      List.range'_concat, Nat.add_comm 1]
    simp

/-- The backfill numbers the events of every job from one, if none is numbered. -/
theorem backfill_numbered {t : Table} (sorted : Sorted t.rows) (zero : ∀ row ∈ t.rows, row "seq" = .integer 0) :
    Numbered t.backfill.rows := by
  intro job
  have filled : t.backfill.rows = t.rows.map fun row => row.set "seq" (.integer (Table.rank t.rows row)) :=
    List.map_congr_left fun row mem => if_pos (zero row mem)
  have own : jobEvents t.backfill.rows job =
      (jobEvents t.rows job).map fun row => row.set "seq" (.integer (Table.rank t.rows row)) := by
    unfold jobEvents
    rw [filled, List.filter_map]
    congr 1
  have ranks : (jobEvents t.rows job).map (fun row => Table.rank t.rows row) =
      List.range' 1 (jobEvents t.rows job).length := by
    have sub : Sorted (jobEvents t.rows job) := sorted.sublist (List.filter_sublist.map _)
    rw [← rank_positions sub]
    refine List.map_congr_left fun row mem => ?_
    have of : row "job_id" = job := of_decide_eq_true (List.mem_filter.mp mem).2
    unfold Table.rank jobEvents
    rw [List.filter_filter, of]
    congr 2
    funext other
    rw [Bool.and_comm]
  rw [own, List.length_map, List.map_map, ← ranks, List.map_map]
  refine List.map_congr_left fun row _ => ?_
  exact Row.set_same

end AgentflowHermes.Schema
