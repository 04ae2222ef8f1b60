import AgentflowHermes.LegacyMigration

namespace AgentflowHermes

open RowTable

/-- What holds of the ledger tables of every store: the log, the unique indexes and the references by id. -/
structure LedgerInvariant (l : Ledger) : Prop where
  log : LogInvariant l.toStore
  uniqueReceipt : UniqueBy l.receipts receiptKey
  uniqueEvent : UniqueBy l.events eventKey
  uniqueSatisfaction : UniqueBy l.satisfactions satisfactionKey
  uniquePolicy : UniqueBy l.policies policyKey
  uniqueMember : UniqueBy l.members memberKey
  uniqueCase : (l.cases.map InteractionCaseRow.id).Nodup
  uniqueKey : (l.idempotencyKeys.map IdempotencyKey.key).Nodup
  cursors : ∀ key c, l.cursors key = some c → 0 ≤ c
  steps : ∀ p ∈ l.steps.rows, ∃ i, l.getInstance p.continuationId = some i
  receipts : ∀ r ∈ l.receipts.rows, ∃ i, l.getInstance r.continuationId = some i
  events : ∀ e ∈ l.events.rows, ∃ i, l.getInstance e.continuationId = some i
  outbox : ∀ o ∈ l.outbox.rows, ∃ i, l.getInstance o.continuationId = some i
  satisfactions : ∀ r ∈ l.satisfactions.rows, ∃ i, l.getInstance r.continuationId = some i
  members : ∀ m ∈ l.members.rows, ∃ i, l.getInstance m.continuationId = some i
  replies : ∀ r ∈ l.replies.rows, ∃ c ∈ l.cases, c.id = r.caseId

/-- The stores share no continuation, policy version, case or key. -/
structure NothingShared (legacy canonical : Ledger) : Prop where
  instances : ∀ l ∈ legacy.instances.rows, ∀ c ∈ canonical.instances.rows, l.tuple ≠ c.tuple
  policies : ∀ l ∈ legacy.policies.rows, ∀ c ∈ canonical.policies.rows, policyKey l ≠ policyKey c
  cases : ∀ l ∈ legacy.cases, ∀ c ∈ canonical.cases, l.id ≠ c.id
  outbox : ∀ l ∈ legacy.outbox.rows, ∀ c ∈ canonical.outbox.rows, l.idempotencyKey ≠ c.idempotencyKey
  keys : ∀ l ∈ legacy.idempotencyKeys, ∀ c ∈ canonical.idempotencyKeys, l.key ≠ c.key

/-- The old rows stay as they are, and every source row gets one of its own after them. -/
def Copied {α : Type} (R : α → α → Prop) (old new source : List α) : Prop :=
  ∃ added, new = old ++ added ∧ List.Forall₂ R source added

/-- The same for a table without row ids, whose copies come in another order. -/
def CopiedAs {α : Type} (old new source : List α) : Prop := ∃ added, new = old ++ added ∧ added.Perm source

section

variable {α κ : Type} [Renumbered α] [DecidableEq κ] {key : α → κ} {t : Table α} {as : List α} {f : α → Option α}
  {R : α → α → Prop}

theorem filterMap_forall₂ (total : ∀ a ∈ as, ∃ b, f a = some b) (content : ∀ a b n, f a = some b → R a (Renumbered.withId n b))
    (n : Nat) : List.Forall₂ R as (number n (as.filterMap f)) := by
  induction as generalizing n with
  | nil => exact .nil
  | cons a as ih =>
    obtain ⟨b, hb⟩ := total a List.mem_cons_self
    rw [List.filterMap_cons_some hb]
    exact .cons (content a b n hb) (ih (fun x hx => total x (List.mem_cons_of_mem _ hx)) (n + 1))

/-- Rows with distinct new keys are all copied. -/
theorem copied_of_merge (keeps : ∀ n a, key (Renumbered.withId n a) = key a) (total : ∀ a ∈ as, ∃ b, f a = some b)
    (content : ∀ a b n, f a = some b → R a (Renumbered.withId n b)) (unique : (as.map key).Nodup)
    (inj : ∀ a a' b b', f a = some b → f a' = some b' → key b = key b' → key a = key a')
    (new : ∀ a ∈ as, ∀ b, f a = some b → key b ∉ t.rows.map key) :
    Copied R t.rows (t.merge key (as.filterMap f)).rows as := by
  have distinct : ((as.filterMap f).map key).Nodup := by
    refine List.pairwise_map.mpr (List.pairwise_filterMap.mpr ?_)
    refine (List.pairwise_map.mp unique).imp fun {a a'} apart b hb b' hb' same => ?_
    exact apart (inj a a' b b' hb hb' same)
  have unseen : ∀ b ∈ as.filterMap f, key b ∉ t.rows.map key := by
    intro b hb
    obtain ⟨a, ha, hab⟩ := List.mem_filterMap.mp hb
    exact new a ha b hab
  refine ⟨number t.next (as.filterMap f), ?_, filterMap_forall₂ total content _⟩
  rw [(merge_rows keeps t _).1, fresh_all distinct unseen]

/-- A row with a key is one of its own only if no other one has the key. -/
theorem unique_of_copied (keeps : ∀ n a, key (Renumbered.withId n a) = key a)
    (copied : Copied R t.rows (t.merge key as).rows as) : (as.map key).Nodup := by
  obtain ⟨added, rows, each⟩ := copied
  rw [(merge_rows keeps t as).1] at rows
  have length : (fresh key (t.rows.map key) as).length = as.length := by
    rw [each.length_eq, ← List.append_cancel_left rows, number_length]
  have same := (fresh_sublist key (t.rows.map key) as).eq_of_length length
  have nodup := fresh_nodup key (t.rows.map key) as
  rwa [same] at nodup

end

/-- The cursor of a board that one or both stores have. -/
def maxCursor : Option Int → Option Int → Option Int
  | none, l => l
  | some c, none => some c
  | some c, some l => some (max c l)

namespace IdMap

/-- Same content under the map; the row's own id, its references to rows and its retry columns are left aside. -/
def SameInstance (m : IdMap) (l c : Instance) : Prop := m.lookup l.id = some c.id ∧ c = { l with id := c.id }

def SameStep (m : IdMap) (l c : Step) : Prop := m.lookup l.continuationId = some c.continuationId ∧
  c = { l with id := c.id, continuationId := c.continuationId, parentStepId := c.parentStepId }

def SameReceipt (m : IdMap) (l c : OwnerReceipt) : Prop := m.lookup l.continuationId = some c.continuationId ∧
  c = { l with id := c.id, continuationId := c.continuationId, supersedesReceiptId := c.supersedesReceiptId }

def SameEvent (m : IdMap) (l c : Event) : Prop := m.lookup l.continuationId = some c.continuationId ∧
  c = { l with id := c.id, continuationId := c.continuationId }

def SameOutboxRow (m : IdMap) (l c : OutboxRow) : Prop := m.lookup l.continuationId = some c.continuationId ∧
  c = { l with id := c.id, continuationId := c.continuationId, stepId := c.stepId, nextAttemptAt := c.nextAttemptAt,
                lastError := c.lastError }

def SameSatisfaction (m : IdMap) (l c : Satisfaction) : Prop := m.lookup l.continuationId = some c.continuationId ∧
  c = { l with id := c.id, continuationId := c.continuationId }

def SameMember (m : IdMap) (l c : InteractionMember) : Prop := m.lookup l.continuationId = some c.continuationId ∧
  c = { l with id := c.id, continuationId := c.continuationId }

end IdMap

/-- One run gives every legacy row its own copy and takes nothing away, and a second one changes no ledger table. -/
structure LosslessMigration (legacy canonical : Ledger) : Prop where
  instances : Copied (idMapOf legacy canonical).SameInstance canonical.instances.rows
    (copyLedger legacy canonical).instances.rows legacy.instances.rows
  steps : Copied (idMapOf legacy canonical).SameStep canonical.steps.rows
    (copyLedger legacy canonical).steps.rows legacy.steps.rows
  receipts : Copied (idMapOf legacy canonical).SameReceipt canonical.receipts.rows
    (copyLedger legacy canonical).receipts.rows legacy.receipts.rows
  events : Copied (idMapOf legacy canonical).SameEvent canonical.events.rows
    (copyLedger legacy canonical).events.rows legacy.events.rows
  outbox : Copied (idMapOf legacy canonical).SameOutboxRow canonical.outbox.rows
    (copyLedger legacy canonical).outbox.rows legacy.outbox.rows
  satisfactions : Copied (idMapOf legacy canonical).SameSatisfaction canonical.satisfactions.rows
    (copyLedger legacy canonical).satisfactions.rows legacy.satisfactions.rows
  policies : Copied (fun l c => c = { l with id := c.id }) canonical.policies.rows
    (copyLedger legacy canonical).policies.rows legacy.policies.rows
  cases : CopiedAs canonical.cases (copyLedger legacy canonical).cases legacy.cases
  members : Copied (idMapOf legacy canonical).SameMember canonical.members.rows
    (copyLedger legacy canonical).members.rows legacy.members.rows
  replies : Copied (fun l c => c = { l with id := c.id }) canonical.replies.rows
    (copyLedger legacy canonical).replies.rows legacy.replies.rows
  idempotencyKeys : CopiedAs canonical.idempotencyKeys (copyLedger legacy canonical).idempotencyKeys
    legacy.idempotencyKeys
  cursors : ∀ key, (copyLedger legacy canonical).cursors key = maxCursor (canonical.cursors key) (legacy.cursors key)
  again : copyLedger legacy (copyLedger legacy canonical) = copyLedger legacy canonical

section

variable {legacy canonical : Ledger}

/-- The second run maps the instances as the first one did. -/
theorem idMapOf_again (legacy canonical : Ledger) :
    idMapOf legacy (copyLedger legacy canonical) = idMapOf legacy canonical := by
  have same : (copyLedger legacy (copyLedger legacy canonical)).instances = (copyLedger legacy canonical).instances := by
    rw [copyLedger_instances, copyLedger_instances]
    exact merge_idempotent instanceKey_withId _ _
  rw [idMapOf_eq legacy (copyLedger legacy canonical), same, ← idMapOf_eq]

theorem copyCursor_again (c l : Option Int) : copyCursor (copyCursor c l) l = copyCursor c l := by
  cases l with
  | none => rfl
  | some l =>
    unfold copyCursor
    cases c with
    | none =>
      simp only [Option.getD_none, Option.getD_some]
      rw [if_neg (by omega)]
    | some c =>
      by_cases up : c < max c l
      · simp only [Option.getD_some, if_pos up]
        rw [if_neg (by omega)]
      · simp only [Option.getD_some, if_neg up]

theorem fresh_again {α κ : Type} [DecidableEq κ] (key : α → κ) (old source : List α) :
    (old ++ fresh key (old.map key) source) ++ fresh key ((old ++ fresh key (old.map key) source).map key) source =
      old ++ fresh key (old.map key) source := by
  have none : fresh key ((old ++ fresh key (old.map key) source).map key) source = [] := by
    refine fresh_none fun a ha => ?_
    rw [List.map_append]
    rcases @fresh_covers α κ _ key _ _ (old.map key) ha with seen | ⟨b, hb, same⟩
    · exact List.mem_append_left _ seen
    · exact List.mem_append_right _ (same ▸ List.mem_map_of_mem hb)
  rw [none, List.append_nil]

theorem merge_again {α κ : Type} [Renumbered α] [DecidableEq κ] {key : α → κ}
    (keeps : ∀ n a, key (Renumbered.withId n a) = key a) {t : Table α} {rows : List α} {f g : α → Option α} (same : g = f) :
    (t.merge key (rows.filterMap f)).merge key (rows.filterMap g) = t.merge key (rows.filterMap f) := by
  rw [same]
  exact merge_idempotent keeps _ _

/-- A second run over the same legacy ledger changes no table. -/
theorem copyLedger_again (legacy canonical : Ledger) :
    copyLedger legacy (copyLedger legacy canonical) = copyLedger legacy canonical := by
  have map := idMapOf_again legacy canonical
  ext1
  case instances =>
    rw [copyLedger_instances, copyLedger_instances]
    exact merge_idempotent instanceKey_withId _ _
  case steps => exact merge_again (fun _ _ => rfl) (congrArg IdMap.step map)
  case receipts => exact merge_again (fun _ _ => rfl) (congrArg IdMap.receipt map)
  case events => exact merge_again (fun _ _ => rfl) (congrArg IdMap.event map)
  case cursors => exact funext fun key => copyCursor_again _ _
  case outbox => exact merge_again (fun _ _ => rfl) (congrArg IdMap.outboxRow map)
  case satisfactions => exact merge_again (fun _ _ => rfl) (congrArg IdMap.satisfaction map)
  case waits => rfl
  case cases => exact fresh_again InteractionCaseRow.id canonical.cases _
  case members => exact merge_again (fun _ _ => rfl) (congrArg IdMap.member map)
  case policies => exact merge_idempotent (fun _ _ => rfl) _ _
  case replies => exact merge_idempotent (fun _ _ => rfl) _ _
  case idempotencyKeys => exact fresh_again IdempotencyKey.key canonical.idempotencyKeys _

end

end AgentflowHermes
