import AgentflowHermes.MigrationLanding
import AgentflowHermes.OutboxRules

namespace AgentflowHermes

open CrashProgram RowTable

section

variable (legacy canonical : Ledger)

end

/-- The steps by id and continuation, which no retry changes. -/
def Store.stepOwners (s : Store) : List (Nat × Nat) := s.steps.rows.map fun p => (p.id, p.continuationId)

section

variable {s u : Store} {row : OutboxRow}

/-- A step changes only where the row names it. -/
structure MarksOnly (named : Option Nat) (s t : Store) : Prop where
  owners : t.stepOwners = s.stepOwners
  changed : ∀ p ∈ s.steps.rows, p ∉ t.steps.rows → named = some p.id

theorem MarksOnly.trans {named : Option Nat} {s t u : Store} (h : MarksOnly named s t) (h' : MarksOnly named t u) :
    MarksOnly named s u := by
  refine ⟨h'.owners.trans h.owners, fun p hp gone => ?_⟩
  by_cases kept : p ∈ t.steps.rows
  · exact h'.changed p kept gone
  · exact h.changed p hp kept

end

section

open Keyed (rowId)

variable {legacy canonical : Ledger}

namespace Owned

variable {α β : Type} [Renumbered α] [DecidableEq β] {T : Owned α β} {t old : Table α} {q : α}

end Owned

theorem outbox_rows (hl : LedgerInvariant legacy) :
    (copyLedger legacy canonical).outbox.rows = canonical.outbox.rows ++ number canonical.outbox.next
      ((legacy.outbox.rows.filterMap (idMapOf legacy canonical).outboxRow).filter fun o =>
        decide (o.idempotencyKey ∉ canonical.outbox.rows.map OutboxRow.idempotencyKey)) := by
  have distinct : ((legacy.outbox.rows.filterMap (idMapOf legacy canonical).outboxRow).map
      OutboxRow.idempotencyKey).Nodup := by
    refine List.pairwise_map.mpr (List.pairwise_filterMap.mpr ?_)
    refine (List.pairwise_map.mp hl.log.uniqueOutbox).imp fun {o o'} apart b hb b' hb' same => apart ?_
    obtain ⟨n, _, rfl⟩ := Option.map_eq_some_iff.mp hb
    obtain ⟨n', _, rfl⟩ := Option.map_eq_some_iff.mp hb'
    exact same
  have keeps : ∀ n o, OutboxRow.idempotencyKey (Renumbered.withId n o) = o.idempotencyKey := fun _ _ => rfl
  have rows := (merge_rows keeps canonical.outbox
    (legacy.outbox.rows.filterMap (idMapOf legacy canonical).outboxRow)).1
  rw [fresh_eq_filter distinct] at rows
  exact rows

end

section Samples

end Samples

end AgentflowHermes
