import AgentflowHermes.ResolverErrors
import AgentflowHermes.StoreInvariant
import AgentflowHermes.TableMerge

namespace AgentflowHermes

open RowTable

structure StandingPolicyRow extends StandingPolicy where
  id : Nat
  sourceMessageRef : String
  createdAt : Nat

/-- A row of `inbound_reply_receipts`, which has no unique index. -/
structure InboundReplyReceipt where
  id : Nat
  caseId : String
  messageRef : String
  contentSha256 : String
  compileResult : Json
  createdAt : Nat

structure IdempotencyKey where
  key : String
  jobId : String
  channel : String
  target : String
  deliveryRef : String
  createdAt : Nat

instance : Keyed StandingPolicyRow := ⟨StandingPolicyRow.id⟩
instance : Keyed InboundReplyReceipt := ⟨InboundReplyReceipt.id⟩

instance : Renumbered Instance := ⟨fun n i => { i with id := n }, fun _ _ => rfl⟩
instance : Renumbered Step := ⟨fun n p => { p with id := n }, fun _ _ => rfl⟩
instance : Renumbered OwnerReceipt := ⟨fun n r => { r with id := n }, fun _ _ => rfl⟩
instance : Renumbered Event := ⟨fun n e => { e with id := n }, fun _ _ => rfl⟩
instance : Renumbered OutboxRow := ⟨fun n o => { o with id := n }, fun _ _ => rfl⟩
instance : Renumbered Satisfaction := ⟨fun n r => { r with id := n }, fun _ _ => rfl⟩
instance : Renumbered InteractionMember := ⟨fun n m => { m with id := n }, fun _ _ => rfl⟩
instance : Renumbered StandingPolicyRow := ⟨fun n p => { p with id := n }, fun _ _ => rfl⟩
instance : Renumbered InboundReplyReceipt := ⟨fun n r => { r with id := n }, fun _ _ => rfl⟩

/-- All ledger tables of a continuation store. -/
@[ext] structure Ledger extends Store where
  policies : Table StandingPolicyRow
  replies : Table InboundReplyReceipt
  idempotencyKeys : List IdempotencyKey

namespace Ledger

def empty : Ledger := ⟨Store.empty, .empty, .empty, []⟩

end Ledger

/-- `id_map`: the canonical id of each legacy instance. -/
abbrev IdMap := List (Nat × Nat)

/-- The loop over `continuation_instances`. -/
def copyInstances : List Instance → Table Instance → IdMap × Table Instance
  | [], t => ([], t)
  | row :: rest, t =>
    match t.find? fun i => i.tuple == row.tuple with
    | some existing =>
      let later := copyInstances rest t
      ((row.id, existing.id) :: later.1, later.2)
    | none =>
      let later := copyInstances rest (t.insert fun id => { row with id := id })
      ((row.id, t.next) :: later.1, later.2)

namespace IdMap

variable (m : IdMap)

/-- A row whose continuation has no canonical instance is skipped. -/
def step (p : Step) : Option Step := (m.lookup p.continuationId).map fun id => { p with continuationId := id }

def receipt (r : OwnerReceipt) : Option OwnerReceipt :=
  (m.lookup r.continuationId).map fun id => { r with continuationId := id }

def event (e : Event) : Option Event := (m.lookup e.continuationId).map fun id => { e with continuationId := id }

/-- The retry columns are not among the copied ones and take their defaults. -/
def outboxRow (o : OutboxRow) : Option OutboxRow :=
  (m.lookup o.continuationId).map fun id => { o with continuationId := id, nextAttemptAt := 0, lastError := "" }

def satisfaction (r : Satisfaction) : Option Satisfaction :=
  (m.lookup r.continuationId).map fun id => { r with continuationId := id }

def member (r : InteractionMember) : Option InteractionMember :=
  (m.lookup r.continuationId).map fun id => { r with continuationId := id }

end IdMap

def stepKey (p : Step) : Nat × String := (p.continuationId, p.idempotencyKey)

def receiptKey (r : OwnerReceipt) : Nat × Nat := (r.continuationId, r.version)

def eventKey (e : Event) : Nat × Nat := (e.continuationId, e.seq)

def satisfactionKey (r : Satisfaction) : Nat × String := (r.continuationId, r.fieldName)

def policyKey (p : StandingPolicyRow) : String × Int := (p.policyId, p.version)

def memberKey (m : InteractionMember) : String × Nat := (m.caseId, m.continuationId)

/-- What `migrate_legacy_store` looks a reply receipt up by. -/
def replyKey (r : InboundReplyReceipt) : String × String × String := (r.caseId, r.messageRef, r.contentSha256)

/-- The guarded upsert of one legacy cursor. -/
def copyCursor (current legacy : Option Int) : Option Int :=
  match legacy with
  | none => current
  | some last =>
    let value := max (current.getD 0) last
    match current with
    | some old => if old < value then some value else some old
    | none => some value

/-- `order by created_at, id`. -/
def caseOrder (a b : InteractionCaseRow) : Bool :=
  decide (a.createdAt < b.createdAt) || (a.createdAt == b.createdAt && decide (a.id ≤ b.id))

/-- The copying transaction of `migrate_legacy_store`. -/
def copyLedger (legacy canonical : Ledger) : Ledger :=
  let (idMap, instances) := copyInstances legacy.instances.rows canonical.instances
  let idMap : IdMap := idMap
  { canonical with
    instances := instances
    steps := canonical.steps.merge stepKey (legacy.steps.rows.filterMap idMap.step)
    receipts := canonical.receipts.merge receiptKey (legacy.receipts.rows.filterMap idMap.receipt)
    events := canonical.events.merge eventKey (legacy.events.rows.filterMap idMap.event)
    cursors := fun key => copyCursor (canonical.cursors key) (legacy.cursors key)
    outbox := canonical.outbox.merge OutboxRow.idempotencyKey (legacy.outbox.rows.filterMap idMap.outboxRow)
    satisfactions := canonical.satisfactions.merge satisfactionKey (legacy.satisfactions.rows.filterMap idMap.satisfaction)
    policies := canonical.policies.merge policyKey legacy.policies.rows
    cases := canonical.cases ++ fresh InteractionCaseRow.id (canonical.cases.map InteractionCaseRow.id)
      (legacy.cases.mergeSort caseOrder)
    members := canonical.members.merge memberKey (legacy.members.rows.filterMap idMap.member)
    replies := canonical.replies.merge replyKey legacy.replies.rows
    idempotencyKeys := canonical.idempotencyKeys ++ fresh IdempotencyKey.key
      (canonical.idempotencyKeys.map IdempotencyKey.key) (legacy.idempotencyKeys.mergeSort fun a b => decide (a.key ≤ b.key)) }

structure MigrationVerification where
  legacyInstances : Nat
  mappedInstances : Nat
  missingInstanceIds : List Nat
  duplicateSourceTuples : Nat

def MigrationVerification.ok (v : MigrationVerification) : Bool :=
  v.missingInstanceIds.isEmpty && v.duplicateSourceTuples == 0

/-- `_verify_migration`; duplicates are counted by source tuple. -/
def verifyMigration (legacy canonical : Ledger) (idMap : IdMap) : MigrationVerification where
  legacyInstances := legacy.instances.rows.length
  mappedInstances := idMap.length
  missingInstanceIds := (legacy.instances.rows.map Instance.id).filter fun id => (idMap.lookup id).isNone
  duplicateSourceTuples :=
    let tuples := canonical.instances.rows.map fun i => i.tuple
    (tuples.eraseDups.filter fun x => decide (1 < tuples.count x)).length

/-- What is found at the legacy path. -/
inductive LegacyPath
  | missing
  | isCanonical
  | noContinuationTables
  | ledger (l : Ledger)

structure MigrationReport where
  success : Bool
  migrated : Bool
  reason : String := ""
  verification : Option MigrationVerification := none

/-- A store file: its ledger tables, and one verification for each migration receipt. -/
structure ControlPlane where
  ledger : Ledger
  migrationReceipts : List MigrationVerification

def migrateLegacyStore (legacyPath : LegacyPath) (canonical : ControlPlane) : MigrationReport × ControlPlane :=
  match legacyPath with
  | .missing => (⟨true, false, "legacy_path_missing", none⟩, canonical)
  | .isCanonical => (⟨true, false, "legacy_path_is_canonical", none⟩, canonical)
  | .noContinuationTables => (⟨true, false, "no_continuation_tables", none⟩, canonical)
  | .ledger legacy =>
    let merged := copyLedger legacy canonical.ledger
    let verification := verifyMigration legacy merged (copyInstances legacy.instances.rows canonical.ledger.instances).1
    (⟨verification.ok, true, "", some verification⟩, ⟨merged, canonical.migrationReceipts ++ [verification]⟩)

/-- The key the instances are merged by. -/
def instanceKey (i : Instance) : String × String × String × String := i.tuple

theorem merge_find? {α κ : Type} [Renumbered α] [DecidableEq κ] {key : α → κ}
    (keeps : ∀ n a, key (Renumbered.withId n a) = key a) {t : Table α} {as : List α} {p : α → Bool} {r : α}
    (h : t.find? p = some r) : (t.merge key as).find? p = some r := by
  have first : t.rows.find? p = some r := h
  unfold Table.find?
  rw [(merge_rows keeps t as).1, List.find?_append, first]
  rfl

/-- The canonical row of a source tuple. -/
def canonicalId (t : Table Instance) (row : Instance) : Nat :=
  ((t.find? fun i => i.tuple == row.tuple).map Instance.id).getD 0

theorem instanceKey_withId (n : Nat) (i : Instance) : instanceKey (Renumbered.withId n i) = instanceKey i := rfl

theorem find?_tuple_isSome {t : Table Instance} {row : Instance} :
    (t.find? fun i => i.tuple == row.tuple) = none ↔ instanceKey row ∉ t.rows.map instanceKey := by
  constructor
  · intro absent mem
    obtain ⟨i, hi, same⟩ := List.mem_map.mp mem
    have differs := find?_none absent i hi
    simp only [beq_eq_false_iff_ne] at differs
    exact differs same
  · intro new
    refine List.find?_eq_none.mpr fun i hi same => new ?_
    have tuple : i.tuple = row.tuple := by simpa using same
    exact List.mem_map.mpr ⟨i, hi, tuple⟩

/-- The loop merges by source tuple, and maps each row to the row of its tuple. -/
theorem copyInstances_eq (rows : List Instance) (t : Table Instance) :
    (copyInstances rows t).2 = t.merge instanceKey rows ∧
      (copyInstances rows t).1 = rows.map fun row => (row.id, canonicalId (t.merge instanceKey rows) row) := by
  induction rows generalizing t with
  | nil => exact ⟨rfl, rfl⟩
  | cons row rest ih =>
    unfold copyInstances Table.merge Table.insertOrIgnore
    cases hf : t.find? fun i => i.tuple == row.tuple with
    | some existing =>
      have known : instanceKey row ∈ t.rows.map instanceKey := by
        have same : existing.tuple = row.tuple := by simpa using pred_of_find? hf
        exact List.mem_map.mpr ⟨existing, mem_of_find? hf, same⟩
      obtain ⟨tables, maps⟩ := ih t
      have here : canonicalId (t.merge instanceKey rest) row = existing.id := by
        unfold canonicalId
        rw [merge_find? instanceKey_withId hf]
        rfl
      simp only [if_pos known]
      exact ⟨tables, by rw [maps, List.map_cons, here]⟩
    | none =>
      have new := find?_tuple_isSome.mp hf
      obtain ⟨tables, maps⟩ := ih (t.insert fun id => { row with id := id })
      have found : (t.insert fun id => { row with id := id }).find? (fun i => i.tuple == row.tuple) =
          some { row with id := t.next } := by
        unfold Table.find? at hf ⊢
        rw [rows_insert, List.find?_append, hf]
        simp
      have here : canonicalId ((t.insert fun id => { row with id := id }).merge instanceKey rest) row = t.next := by
        unfold canonicalId
        rw [merge_find? instanceKey_withId found]
        rfl
      simp only [if_neg new]
      exact ⟨tables, by rw [maps, List.map_cons]; exact congrArg (fun n => (row.id, n) :: _) here.symm⟩

section

variable {legacy canonical : Ledger}

/-- `id_map` of a migration. -/
def idMapOf (legacy canonical : Ledger) : IdMap := (copyInstances legacy.instances.rows canonical.instances).1

theorem copyLedger_instances (legacy canonical : Ledger) :
    (copyLedger legacy canonical).instances = canonical.instances.merge instanceKey legacy.instances.rows :=
  (copyInstances_eq _ _).1

theorem idMapOf_eq (legacy canonical : Ledger) : idMapOf legacy canonical =
    legacy.instances.rows.map fun row => (row.id, canonicalId (copyLedger legacy canonical).instances row) := by
  rw [copyLedger_instances]
  exact (copyInstances_eq _ _).2

theorem lookup_map_id {f : Instance → Nat} {rows : List Instance} (distinct : (rows.map Instance.id).Nodup) {l : Instance}
    (hl : l ∈ rows) : (rows.map fun row => (row.id, f row)).lookup l.id = some (f l) := by
  induction rows with
  | nil => cases hl
  | cons row rest ih =>
    rw [List.map_cons, List.nodup_cons] at distinct
    rw [List.map_cons, List.lookup_cons]
    rcases List.mem_cons.mp hl with rfl | hl
    · simp
    · have apart : l.id ≠ row.id := fun same => distinct.1 (same ▸ List.mem_map_of_mem hl)
      simp only [beq_eq_false_iff_ne.mpr apart]
      exact ih distinct.2 hl

theorem lookup_map_none {f : Instance → Nat} {rows : List Instance} {id : Nat} (absent : ∀ l ∈ rows, l.id ≠ id) :
    (rows.map fun row => (row.id, f row)).lookup id = none := by
  induction rows with
  | nil => rfl
  | cons row rest ih =>
    rw [List.map_cons, List.lookup_cons]
    simp only [beq_eq_false_iff_ne.mpr (absent row List.mem_cons_self).symm]
    exact ih fun l hl => absent l (List.mem_cons_of_mem _ hl)

/-- A legacy instance is mapped to the canonical row of its source tuple. -/
theorem lookup_idMap (canonical : Ledger) {l : Instance} (hl : l ∈ legacy.instances.rows) :
    ∃ c ∈ (copyLedger legacy canonical).instances.rows, c.tuple = l.tuple ∧
      (idMapOf legacy canonical).lookup l.id = some c.id := by
  have distinct : (legacy.instances.rows.map Instance.id).Nodup := legacy.instances.sorted.imp Nat.ne_of_lt
  have covered := merge_covers instanceKey_withId (t := canonical.instances) hl
  rw [← copyLedger_instances] at covered
  cases hf : (copyLedger legacy canonical).instances.find? fun i => i.tuple == l.tuple with
  | none => exact absurd covered (find?_tuple_isSome.mp hf)
  | some c =>
    have same : c.tuple = l.tuple := by simpa using pred_of_find? hf
    refine ⟨c, mem_of_find? hf, same, ?_⟩
    rw [idMapOf_eq, lookup_map_id distinct hl]
    unfold canonicalId
    rw [hf]
    rfl

theorem lookup_idMap_none {id : Nat} (absent : legacy.getInstance id = none) :
    (idMapOf legacy canonical).lookup id = none := by
  rw [idMapOf_eq]
  refine lookup_map_none fun l hl same => ?_
  rw [show legacy.getInstance id = some l from get?_eq_some.mpr ⟨hl, same⟩] at absent
  cases absent

/-- A mapped id is one of a legacy instance. -/
theorem lookup_idMap_some {id n : Nat} (h : (idMapOf legacy canonical).lookup id = some n) :
    ∃ l ∈ legacy.instances.rows, l.id = id ∧
      ∃ c ∈ (copyLedger legacy canonical).instances.rows, c.tuple = l.tuple ∧ c.id = n := by
  cases hl : legacy.getInstance id with
  | none =>
    rw [lookup_idMap_none hl] at h
    cases h
  | some l =>
    obtain ⟨mem, rfl⟩ := get?_eq_some.mp hl
    obtain ⟨c, hc, same, found⟩ := lookup_idMap canonical mem
    exact ⟨l, mem, rfl, c, hc, same, Option.some.inj (found.symm.trans h)⟩

/-- With unique source tuples no two legacy instances are mapped to one row. -/
theorem lookup_idMap_inj (unique : UniqueBy legacy.instances fun i => i.tuple) {id id' n : Nat}
    (h : (idMapOf legacy canonical).lookup id = some n) (h' : (idMapOf legacy canonical).lookup id' = some n) : id = id' := by
  obtain ⟨l, hl, rfl, c, hc, same, rfl⟩ := lookup_idMap_some h
  obtain ⟨l', hl', rfl, c', hc', same', eq⟩ := lookup_idMap_some h'
  obtain rfl : c' = c := rowId_inj hc' hc eq
  exact congrArg Instance.id (unique.eq hl hl' (same.symm.trans same'))

end

end AgentflowHermes
