import AgentflowHermes.MigrationLogs

namespace AgentflowHermes

open RowTable
open Keyed (rowId)
open Renumbered (withId)

/-- A table that hangs off the instances: the column that names the continuation, and the rest of its unique key. -/
structure Owned (α β : Type) [Renumbered α] where
  cid : α → Nat
  loc : α → β
  put : Nat → α → α
  cid_put : ∀ n a, cid (put n a) = n
  loc_put : ∀ n a, loc (put n a) = loc a
  cid_withId : ∀ n a, cid (withId n a) = cid a
  loc_withId : ∀ n a, loc (withId n a) = loc a

def receiptTable : Owned OwnerReceipt Nat where
  cid := OwnerReceipt.continuationId
  loc := OwnerReceipt.version
  put n r := { r with continuationId := n }
  cid_put _ _ := rfl
  loc_put _ _ := rfl
  cid_withId _ _ := rfl
  loc_withId _ _ := rfl

/-- The instance that the canonical store already has for a legacy continuation. -/
def sharedId (legacy canonical : Ledger) (id : Nat) : Option Nat :=
  (legacy.getInstance id).bind fun l => (canonical.instances.find? fun c => c.tuple == l.tuple).map Instance.id

namespace Owned

section

variable {α β : Type} [Renumbered α] (T : Owned α β)

def key (a : α) : Nat × β := (T.cid a, T.loc a)

/-- The row under its canonical continuation. -/
def copy (m : IdMap) (a : α) : Option α := (m.lookup (T.cid a)).map fun n => T.put n a

theorem key_withId (n : Nat) (a : α) : T.key (withId n a) = T.key a :=
  Prod.ext (T.cid_withId n a) (T.loc_withId n a)

theorem key_put (n : Nat) (a : α) : T.key (T.put n a) = (n, T.loc a) := Prod.ext (T.cid_put n a) (T.loc_put n a)

variable [DecidableEq β] (legacy canonical : Ledger) (t : Table α)

/-- The row that the canonical store already has for a legacy row. -/
def known (a : α) : Option α :=
  (sharedId legacy canonical (T.cid a)).bind fun n => t.find? fun r => T.key r == (n, T.loc a)

/-- What the ledger invariant says of a table of this kind. -/
structure Sound (old : Table α) : Prop where
  inLegacy : ∀ a ∈ old.rows, ∃ i, legacy.getInstance (T.cid a) = some i
  inCanonical : ∀ r ∈ t.rows, ∃ i, canonical.getInstance (T.cid r) = some i
  unique : UniqueBy old T.key
  unique' : UniqueBy t T.key

end

end Owned

section

variable {legacy canonical : Ledger}

/-- A legacy continuation is mapped to its shared instance, or to an id beyond the canonical ones. -/
theorem lookup_shared (hc : LedgerInvariant canonical) {id n : Nat} (found : (idMapOf legacy canonical).lookup id = some n) :
    sharedId legacy canonical id = some n ∨ sharedId legacy canonical id = none ∧ canonical.instances.next ≤ n := by
  obtain ⟨l, hl, rfl, c, hmem, same, rfl⟩ := lookup_idMap_some found
  have here : legacy.getInstance l.id = some l := get?_eq_some.mpr ⟨hl, rfl⟩
  have unique : UniqueBy (copyLedger legacy canonical).instances instanceKey := by
    rw [copyLedger_instances]
    exact merge_unique instanceKey_withId hc.log.uniqueTuple
  have rows := (merge_rows instanceKey_withId canonical.instances legacy.instances.rows).1
  unfold sharedId
  rw [here, Option.bind_some]
  cases hf : canonical.instances.find? fun c => c.tuple == l.tuple with
  | some c' =>
    have tuple : c'.tuple = l.tuple := by simpa using pred_of_find? hf
    have mem : c' ∈ (copyLedger legacy canonical).instances.rows := by
      rw [copyLedger_instances, rows]
      exact List.mem_append_left _ (mem_of_find? hf)
    obtain rfl : c' = c := unique.eq mem hmem (tuple.trans same.symm)
    exact .inl rfl
  | none =>
    refine .inr ⟨rfl, ?_⟩
    rw [copyLedger_instances, rows] at hmem
    rcases List.mem_append.mp hmem with old | new
    · have differs := find?_none hf c old
      simp only [beq_eq_false_iff_ne] at differs
      exact absurd same differs
    · obtain ⟨k, a, _, rfl⟩ := mem_number new
      exact Nat.le_add_right _ _

namespace Owned

variable {α β : Type} [Renumbered α] [DecidableEq β] {T : Owned α β} {t old : Table α} {a r : α} {n : Nat}

theorem known_some (hc : LedgerInvariant canonical) (found : (idMapOf legacy canonical).lookup (T.cid a) = some n)
    (h : T.known legacy canonical t a = some r) : r ∈ t.rows ∧ T.key r = (n, T.loc a) := by
  unfold known at h
  rcases lookup_shared hc found with shared | ⟨none, _⟩
  · rw [shared, Option.bind_some] at h
    exact ⟨mem_of_find? h, by simpa using pred_of_find? h⟩
  · rw [none] at h
    cases h

/-- A legacy row is known exactly when its key under the map is there. -/
theorem known_none (hc : LedgerInvariant canonical) (inCanonical : ∀ r ∈ t.rows, ∃ i, canonical.getInstance (T.cid r) = some i)
    (found : (idMapOf legacy canonical).lookup (T.cid a) = some n) :
    T.known legacy canonical t a = none ↔ (n, T.loc a) ∉ t.rows.map T.key := by
  constructor
  · intro h mem
    obtain ⟨r, hr, same⟩ := List.mem_map.mp mem
    unfold known at h
    rcases lookup_shared hc found with shared | ⟨_, above⟩
    · rw [shared, Option.bind_some] at h
      have differs := find?_none h r hr
      simp only [beq_eq_false_iff_ne] at differs
      exact differs same
    · have below := owned_below (inCanonical r hr)
      have here : T.cid r = n := (Prod.ext_iff.mp same).1
      omega
  · intro new
    cases h : T.known legacy canonical t a with
    | none => rfl
    | some r =>
      obtain ⟨hr, same⟩ := known_some hc found h
      exact absurd (List.mem_map.mpr ⟨r, hr, same⟩) new

/-- The table after the migration. -/
def merged (T : Owned α β) (legacy canonical : Ledger) (t old : Table α) : Table α :=
  t.merge T.key (old.rows.filterMap (T.copy (idMapOf legacy canonical)))

omit [DecidableEq β] in
theorem Sound.copies (S : T.Sound legacy canonical t old) (ha : a ∈ old.rows) :
    ∃ n, (idMapOf legacy canonical).lookup (T.cid a) = some n ∧ T.copy (idMapOf legacy canonical) a = some (T.put n a) := by
  obtain ⟨n, hn⟩ := mapped_of_owned canonical (S.inLegacy a ha)
  exact ⟨n, hn, congrArg (Option.map _) hn⟩

omit [DecidableEq β] in
theorem Sound.distinct (S : T.Sound legacy canonical t old) (tuples : UniqueBy legacy.instances fun i => i.tuple) :
    ((old.rows.filterMap (T.copy (idMapOf legacy canonical))).map T.key).Nodup := by
  refine List.pairwise_map.mpr (List.pairwise_filterMap.mpr ?_)
  refine (List.pairwise_map.mp S.unique).imp fun {a a'} apart b hb b' hb' same => apart ?_
  obtain ⟨n, hn, rfl⟩ := Option.map_eq_some_iff.mp hb
  obtain ⟨n', hn', rfl⟩ := Option.map_eq_some_iff.mp hb'
  rw [T.key_put, T.key_put] at same
  obtain ⟨sameId, sameLoc⟩ := Prod.ext_iff.mp same
  have ids : n = n' := sameId
  subst ids
  exact Prod.ext (lookup_idMap_inj tuples hn hn') sameLoc

/-- The rows a migration adds: the copies of the legacy rows that are not known, in their order. -/
theorem Sound.merged_rows (S : T.Sound legacy canonical t old) (tuples : UniqueBy legacy.instances fun i => i.tuple) :
    (T.merged legacy canonical t old).rows = t.rows ++ number t.next
      ((old.rows.filterMap (T.copy (idMapOf legacy canonical))).filter fun b => decide (T.key b ∉ t.rows.map T.key)) := by
  unfold merged
  rw [(merge_rows T.key_withId t _).1, fresh_eq_filter (S.distinct tuples)]
  exact congrArg (fun new => t.rows ++ number t.next new) (List.filter_congr fun _ _ => decide_eq_decide.mpr Iff.rfl)

/-- What is added is the copy of a legacy row that was not known. -/
theorem Sound.source (S : T.Sound legacy canonical t old) (hl : LedgerInvariant legacy) (hc : LedgerInvariant canonical)
    {c : α} (mem : c ∈ (T.merged legacy canonical t old).rows) (added : c ∉ t.rows) :
    ∃ a ∈ old.rows, ∃ n, (idMapOf legacy canonical).lookup (T.cid a) = some n ∧
      T.known legacy canonical t a = none ∧ c = withId (rowId c) (T.put n a) := by
  rw [S.merged_rows hl.log.uniqueTuple] at mem
  obtain ⟨k, b, hb, rfl⟩ := mem_number ((List.mem_append.mp mem).resolve_left added)
  obtain ⟨hcopy, new⟩ := List.mem_filter.mp (List.mem_of_getElem? hb)
  obtain ⟨a, ha, copied⟩ := List.mem_filterMap.mp hcopy
  obtain ⟨n, found, rfl⟩ := Option.map_eq_some_iff.mp copied
  refine ⟨a, ha, n, found, (known_none hc S.inCanonical found).mpr ?_, ?_⟩
  · simpa only [T.key_put, decide_eq_true_eq] using new
  · rw [Renumbered.rowId_withId]

end Owned

end

end AgentflowHermes
