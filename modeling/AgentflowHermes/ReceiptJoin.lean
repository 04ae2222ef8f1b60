import AgentflowHermes.DiscordPostState
import AgentflowHermes.MergeTrees
import Mathlib.Order.Lattice.Nat

namespace AgentflowHermes.Origins

open MergeTrees

/-- The merged row, as the next merge reads it. -/
def Merged.facts (m : Merged) : Facts where
  notifyDeliveryStatus := .text m.notifyDeliveryStatus
  activeWakeStatus := .text m.activeWakeStatus
  consumerAckStatus := .text m.consumerAckStatus
  notifyDeliveryAt := .integer m.notifyDeliveryAt
  activeWakeAt := .integer m.activeWakeAt
  consumerAckAt := .integer m.consumerAckAt
  updatedAt := .integer m.updatedAt

/-- The two ranks of a row and its four times. -/
abbrev Strength := Nat × Nat × Int × Int × Int × Int

section

variable (parseInt : String → Option Int) (taskId threadId : String)

def strengthOf (f : Facts) : Strength :=
  (notifyRank f.notifyDeliveryStatus.shown, wakeRank f.activeWakeStatus.shown, f.notifyDeliveryAt.asInt parseInt,
    f.activeWakeAt.asInt parseInt, f.consumerAckAt.asInt parseInt, f.updatedAt.asInt parseInt)

/-- The acknowledgement of a row, where it has one. -/
def ackTag (f : Facts) : Option String := if f.consumerAckStatus.shown = "" then none else some f.consumerAckStatus.shown

def mergeRows (source target : Facts) : Except MigrationError Facts :=
  (mergeReceiptFacts parseInt taskId threadId source target).map Merged.facts

end

section

variable {parseInt : String → Option Int} {taskId threadId : String}

theorem strongest_max (rank : String → Nat) (s t : Value) :
    rank (strongest rank s t) = max (rank s.shown) (rank t.shown) := by
  unfold strongest
  split
  · omega
  · omega

theorem strongest_from (rank : String → Nat) (s t : Value) : strongest rank s t = s.shown ∨ strongest rank s t = t.shown := by
  unfold strongest
  split
  · exact .inl rfl
  · exact .inr rfl

theorem clash_iff {a b : Facts} : Clash ackTag a b ↔
    a.consumerAckStatus.shown ≠ "" ∧ b.consumerAckStatus.shown ≠ "" ∧ a.consumerAckStatus.shown ≠ b.consumerAckStatus.shown := by
  unfold Clash ackTag
  constructor
  · rintro ⟨x, y, hx, hy, apart⟩
    split at hx
    · cases hx
    · split at hy
      · cases hy
      · cases hx
        cases hy
        exact ⟨by assumption, by assumption, apart⟩
  · rintro ⟨ha, hb, apart⟩
    exact ⟨_, _, if_neg ha, if_neg hb, apart⟩

theorem merge_error_iff {a b : Facts} :
    (∃ e, mergeReceiptFacts parseInt taskId threadId a b = .error e) ↔ Clash ackTag a b := by
  rw [clash_iff]
  unfold mergeReceiptFacts
  dsimp only
  split
  next apart => exact ⟨fun _ => apart, fun _ => ⟨_, rfl⟩⟩
  next apart => exact ⟨nofun, fun clash => absurd clash apart⟩

theorem mergeRows_ok {a b c : Facts} (h : mergeRows parseInt taskId threadId a b = .ok c) :
    ∃ m, mergeReceiptFacts parseInt taskId threadId a b = .ok m ∧ c = m.facts := by
  unfold mergeRows at h
  cases merged : mergeReceiptFacts parseInt taskId threadId a b with
  | error e =>
    rw [merged] at h
    cases h
  | ok m =>
    rw [merged] at h
    exact ⟨m, rfl, (Except.ok.inj h).symm⟩

/-- What a merge takes of two rows: of each rank, each time and the acknowledgement the strongest. -/
structure Joined (parseInt : String → Option Int) (a b : Facts) (m : Merged) : Prop where
  notify : m.notifyDeliveryStatus = strongest notifyRank a.notifyDeliveryStatus b.notifyDeliveryStatus
  wake : m.activeWakeStatus = strongest wakeRank a.activeWakeStatus b.activeWakeStatus
  ack : m.consumerAckStatus = if b.consumerAckStatus.shown = "" then a.consumerAckStatus.shown else b.consumerAckStatus.shown
  notifyAt : m.notifyDeliveryAt = max (a.notifyDeliveryAt.asInt parseInt) (b.notifyDeliveryAt.asInt parseInt)
  wakeAt : m.activeWakeAt = max (a.activeWakeAt.asInt parseInt) (b.activeWakeAt.asInt parseInt)
  ackAt : m.consumerAckAt = max (a.consumerAckAt.asInt parseInt) (b.consumerAckAt.asInt parseInt)
  updatedAt : m.updatedAt = max (a.updatedAt.asInt parseInt) (b.updatedAt.asInt parseInt)

theorem merge_joined {a b : Facts} {m : Merged} (h : mergeReceiptFacts parseInt taskId threadId a b = .ok m) :
    Joined parseInt a b m := by
  unfold mergeReceiptFacts at h
  dsimp only at h
  split at h
  next => cases h
  next =>
    cases h
    exact ⟨rfl, rfl, rfl, rfl, rfl, rfl, rfl⟩

theorem Joined.strength {a b : Facts} {m : Merged} (joined : Joined parseInt a b m) :
    strengthOf parseInt m.facts = strengthOf parseInt a ⊔ strengthOf parseInt b := by
  have notify := strongest_max notifyRank a.notifyDeliveryStatus b.notifyDeliveryStatus
  have wake := strongest_max wakeRank a.activeWakeStatus b.activeWakeStatus
  rw [← joined.notify] at notify
  rw [← joined.wake] at wake
  unfold strengthOf Merged.facts
  simp only [Prod.mk_sup_mk, Prod.mk.injEq]
  exact ⟨notify, wake, joined.notifyAt, joined.wakeAt, joined.ackAt, joined.updatedAt⟩

theorem Joined.tag {a b : Facts} {m : Merged} (joined : Joined parseInt a b m) (apart : ¬ Clash ackTag a b) (x : String) :
    ackTag m.facts = some x ↔ ackTag a = some x ∨ ackTag b = some x := by
  have same : ackTag m.facts = if b.consumerAckStatus.shown = "" then ackTag a else ackTag b := by
    have shown : m.facts.consumerAckStatus.shown = m.consumerAckStatus := rfl
    unfold ackTag
    rw [shown, joined.ack]
    split <;> rfl
  rw [same]
  by_cases none' : b.consumerAckStatus.shown = ""
  · have absent : ackTag b = none := if_pos none'
    rw [if_pos none', absent]
    simp
  · have present : ackTag b = some b.consumerAckStatus.shown := if_neg none'
    rw [if_neg none', present]
    constructor
    · exact .inr
    · rintro (given | given)
      · by_contra other
        exact apart ⟨x, _, given, present, fun is => other (by rw [is])⟩
      · exact given

theorem mergeRows_join : PartialJoin (mergeRows parseInt taskId threadId) (strengthOf parseInt) ackTag where
  refuses a b := by
    rw [← @merge_error_iff parseInt taskId threadId]
    unfold mergeRows
    cases mergeReceiptFacts parseInt taskId threadId a b with
    | error e => exact ⟨fun _ => ⟨e, rfl⟩, fun _ => ⟨e, rfl⟩⟩
    | ok m => exact ⟨nofun, nofun⟩
  worth_ok {a b c} h := by
    obtain ⟨m, merged, rfl⟩ := mergeRows_ok h
    exact (merge_joined merged).strength
  tag_ok {a b c} h := by
    obtain ⟨m, merged, rfl⟩ := mergeRows_ok h
    refine (merge_joined merged).tag fun clash => ?_
    obtain ⟨e, refused⟩ := merge_error_iff.mpr clash
    rw [merged] at refused
    cases refused

end

/-! The fold of the board transaction, which writes each merge into the columns there are and reads it back. -/

section

variable (parseInt : String → Option Int) (taskId threadId : String) (cols : List MergeCol)

/-- One receipt of a source channel, merged into the receipt it collides with. -/
def mergeInto (source target : Facts) : Except MigrationError Facts :=
  (mergeReceiptFacts parseInt taskId threadId (source.within cols) (target.within cols)).map fun m => target.set cols m

/-- The receipts of the source channels, one after the other. -/
def foldReceipts : List Facts → Facts → Except MigrationError Facts
  | [], target => .ok target
  | source :: sources, target => do
    let target ← mergeInto parseInt taskId threadId cols source target
    foldReceipts sources target

/-- The merges of a fold. -/
def foldTree : List Facts → MergeTree Facts → MergeTree Facts
  | [], target => target
  | source :: sources, target => foldTree sources (.merge (.row source) target)

end

section

variable {parseInt : String → Option Int} {taskId threadId : String} {cols : List MergeCol}

theorem column_rank (rank : String → Nat) (present : Bool) (a b : Value) :
    rank (column present (.text (strongest rank (column present a) (column present b)))).shown =
      max (rank (column present a).shown) (rank (column present b).shown) := by
  cases present with
  | true => exact strongest_max rank a b
  | false => exact (Nat.max_self _).symm

theorem column_time (present : Bool) (a b : Value) :
    (column present (.integer (max ((column present a).asInt parseInt) ((column present b).asInt parseInt)))).asInt parseInt =
      max ((column present a).asInt parseInt) ((column present b).asInt parseInt) := by
  cases present with
  | true => rfl
  | false => exact (max_self _).symm

theorem mergeInto_ok {a b c : Facts} (h : mergeInto parseInt taskId threadId cols a b = .ok c) :
    ∃ m, mergeReceiptFacts parseInt taskId threadId (a.within cols) (b.within cols) = .ok m ∧ c.within cols = m.facts.within cols := by
  unfold mergeInto at h
  cases merged : mergeReceiptFacts parseInt taskId threadId (a.within cols) (b.within cols) with
  | error e =>
    rw [merged] at h
    cases h
  | ok m =>
    rw [merged] at h
    cases h
    exact ⟨m, rfl, within_set b m⟩

theorem Joined.strength_within {a b : Facts} {m : Merged} (joined : Joined parseInt (a.within cols) (b.within cols) m) :
    strengthOf parseInt (m.facts.within cols) = strengthOf parseInt (a.within cols) ⊔ strengthOf parseInt (b.within cols) := by
  have notify := column_rank notifyRank (cols.contains .notifyDeliveryStatus) a.notifyDeliveryStatus b.notifyDeliveryStatus
  have wake := column_rank wakeRank (cols.contains .activeWakeStatus) a.activeWakeStatus b.activeWakeStatus
  have notifyAt := @column_time parseInt (cols.contains .notifyDeliveryAt) a.notifyDeliveryAt b.notifyDeliveryAt
  have wakeAt := @column_time parseInt (cols.contains .activeWakeAt) a.activeWakeAt b.activeWakeAt
  have ackAt := @column_time parseInt (cols.contains .consumerAckAt) a.consumerAckAt b.consumerAckAt
  have updatedAt := @column_time parseInt (cols.contains .updatedAt) a.updatedAt b.updatedAt
  unfold strengthOf Merged.facts
  rw [joined.notify, joined.wake, joined.notifyAt, joined.wakeAt, joined.ackAt, joined.updatedAt]
  simp only [Prod.mk_sup_mk, Prod.mk.injEq]
  exact ⟨notify, wake, notifyAt, wakeAt, ackAt, updatedAt⟩

theorem Joined.tag_within {a b : Facts} {m : Merged} (joined : Joined parseInt (a.within cols) (b.within cols) m) :
    ackTag (m.facts.within cols) = ackTag m.facts := by
  have shown : (m.facts.within cols).consumerAckStatus.shown = m.facts.consumerAckStatus.shown := by
    have given : m.facts.consumerAckStatus = .text m.consumerAckStatus := rfl
    cases present : cols.contains .consumerAckStatus with
    | true =>
      unfold Facts.within
      rw [present]
      rfl
    | false =>
      have ack := joined.ack
      unfold Facts.within at ack ⊢
      rw [present] at ack ⊢
      rw [given]
      exact ack.symm
  unfold ackTag
  rw [shown]

theorem mergeInto_join : PartialJoin (mergeInto parseInt taskId threadId cols) (fun f => strengthOf parseInt (f.within cols))
    fun f => ackTag (f.within cols) where
  refuses a b := by
    have same : Clash (fun f : Facts => ackTag (f.within cols)) a b ↔ Clash ackTag (a.within cols) (b.within cols) := Iff.rfl
    rw [same, ← @merge_error_iff parseInt taskId threadId]
    unfold mergeInto
    cases mergeReceiptFacts parseInt taskId threadId (a.within cols) (b.within cols) with
    | error e => exact ⟨fun _ => ⟨e, rfl⟩, fun _ => ⟨e, rfl⟩⟩
    | ok m => exact ⟨nofun, nofun⟩
  worth_ok {a b c} h := by
    obtain ⟨m, merged, read⟩ := mergeInto_ok h
    rw [read]
    exact (merge_joined merged).strength_within
  tag_ok {a b c} h := by
    obtain ⟨m, merged, read⟩ := mergeInto_ok h
    rw [read, (merge_joined merged).tag_within]
    refine (merge_joined merged).tag fun clash => ?_
    obtain ⟨e, refused⟩ := merge_error_iff.mpr clash
    rw [merged] at refused
    cases refused

theorem foldTree_eval (sources : List Facts) (t : MergeTree Facts) :
    (foldTree sources t).eval (mergeInto parseInt taskId threadId cols) =
      (t.eval (mergeInto parseInt taskId threadId cols)).bind (foldReceipts parseInt taskId threadId cols sources) := by
  induction sources generalizing t with
  | nil =>
    rw [foldTree]
    cases t.eval (mergeInto parseInt taskId threadId cols) with
    | error e => rfl
    | ok d => rfl
  | cons source sources ih =>
    rw [foldTree, ih, MergeTree.eval]
    cases t.eval (mergeInto parseInt taskId threadId cols) with
    | error e => rfl
    | ok d => rfl

theorem foldTree_rows (sources : List Facts) (t : MergeTree Facts) (f : Facts) :
    f ∈ (foldTree sources t).rows ↔ f ∈ sources ∨ f ∈ t.rows := by
  induction sources generalizing t with
  | nil => simp [foldTree]
  | cons source sources ih =>
    rw [foldTree, ih]
    simp only [MergeTree.rows, List.mem_append, List.mem_cons, List.not_mem_nil, or_false]
    tauto

end

/-- What a merged row has of both rows: of each fact what one of them says, and no less than either. -/
structure Covering (parseInt : String → Option Int) (a b : Facts) (m : Merged) : Prop where
  source : strengthOf parseInt a ≤ strengthOf parseInt m.facts
  target : strengthOf parseInt b ≤ strengthOf parseInt m.facts
  notify : m.notifyDeliveryStatus = a.notifyDeliveryStatus.shown ∨ m.notifyDeliveryStatus = b.notifyDeliveryStatus.shown
  wake : m.activeWakeStatus = a.activeWakeStatus.shown ∨ m.activeWakeStatus = b.activeWakeStatus.shown
  notifyAt : m.notifyDeliveryAt = a.notifyDeliveryAt.asInt parseInt ∨ m.notifyDeliveryAt = b.notifyDeliveryAt.asInt parseInt
  wakeAt : m.activeWakeAt = a.activeWakeAt.asInt parseInt ∨ m.activeWakeAt = b.activeWakeAt.asInt parseInt
  ackAt : m.consumerAckAt = a.consumerAckAt.asInt parseInt ∨ m.consumerAckAt = b.consumerAckAt.asInt parseInt
  updatedAt : m.updatedAt = a.updatedAt.asInt parseInt ∨ m.updatedAt = b.updatedAt.asInt parseInt
  ack : ∀ x, ackTag m.facts = some x ↔ ackTag a = some x ∨ ackTag b = some x

/-- Both are refused, or both come to the same ranks, times and acknowledgement. -/
def Agree (parseInt : String → Option Int) (view : Facts → Facts) (r r' : Except MigrationError Facts) : Prop :=
  ((∃ e, r = .error e) ↔ ∃ e, r' = .error e) ∧ ∀ c d, r = .ok c → r' = .ok d →
    strengthOf parseInt (view c) = strengthOf parseInt (view d) ∧ ackTag (view c) = ackTag (view d)

section

variable {parseInt : String → Option Int} {taskId threadId : String}

theorem max_from (x y : Int) : max x y = x ∨ max x y = y := by omega

theorem Joined.covering {a b : Facts} {m : Merged} (joined : Joined parseInt a b m) (apart : ¬ Clash ackTag a b) :
    Covering parseInt a b m where
  source := joined.strength ▸ le_sup_left
  target := joined.strength ▸ le_sup_right
  notify := joined.notify ▸ strongest_from notifyRank _ _
  wake := joined.wake ▸ strongest_from wakeRank _ _
  notifyAt := joined.notifyAt ▸ max_from _ _
  wakeAt := joined.wakeAt ▸ max_from _ _
  ackAt := joined.ackAt ▸ max_from _ _
  updatedAt := joined.updatedAt ▸ max_from _ _
  ack := joined.tag apart

theorem merge_unrefused {a b : Facts} (apart : ¬ Clash ackTag a b) :
    ∃ m, mergeReceiptFacts parseInt taskId threadId a b = .ok m := by
  cases merged : mergeReceiptFacts parseInt taskId threadId a b with
  | error e => exact absurd (merge_error_iff.mp ⟨e, merged⟩) apart
  | ok m => exact ⟨m, rfl⟩

theorem not_clash_self (a : Facts) : ¬ Clash ackTag a a := by
  rintro ⟨x, y, hx, hy, apart⟩
  rw [hx] at hy
  exact apart (Option.some.inj hy)

end

/-- Merging receipts is a join: two rows are refused exactly if their acknowledgements differ, else the merge covers both,
merging a row with itself adds nothing, and neither order nor grouping nor the fold of the transaction matters. -/
theorem mergeReceiptFacts_join (parseInt : String → Option Int) (taskId threadId : String) (cols : List MergeCol) :
    (∀ a b, (∃ e, mergeReceiptFacts parseInt taskId threadId a b = .error e) ↔ Clash ackTag a b) ∧
    (∀ a b, Clash ackTag a b ∨ ∃ m, mergeReceiptFacts parseInt taskId threadId a b = .ok m ∧ Covering parseInt a b m) ∧
    (∀ a, ∃ m, mergeReceiptFacts parseInt taskId threadId a a = .ok m ∧ strengthOf parseInt m.facts = strengthOf parseInt a) ∧
    (∀ t : MergeTree Facts, (∃ e, t.eval (mergeRows parseInt taskId threadId) = .error e) ↔
      ∃ a ∈ t.rows, ∃ b ∈ t.rows, Clash ackTag a b) ∧
    (∀ s t : MergeTree Facts, (∀ f, f ∈ s.rows ↔ f ∈ t.rows) →
      Agree parseInt id (s.eval (mergeRows parseInt taskId threadId)) (t.eval (mergeRows parseInt taskId threadId))) ∧
    ∀ sources sources' target, (∀ f, f ∈ sources ↔ f ∈ sources') →
      Agree parseInt (Facts.within cols) (foldReceipts parseInt taskId threadId cols sources target)
        (foldReceipts parseInt taskId threadId cols sources' target) := by
  refine ⟨fun a b => merge_error_iff, fun a b => ?_, fun a => ?_, mergeRows_join.eval_refuses, fun s t same => ?_,
    fun sources sources' target same => ?_⟩
  · by_cases clash : Clash ackTag a b
    · exact .inl clash
    · obtain ⟨m, merged⟩ := @merge_unrefused parseInt taskId threadId _ _ clash
      exact .inr ⟨m, merged, (merge_joined merged).covering clash⟩
  · obtain ⟨m, merged⟩ := @merge_unrefused parseInt taskId threadId _ _ (not_clash_self a)
    have strength := (merge_joined merged).strength
    rw [sup_idem] at strength
    exact ⟨m, merged, strength⟩
  · obtain ⟨refused, alike⟩ := mergeRows_join.eval_rows same
    exact ⟨refused, fun c d hc hd => alike hc hd⟩
  · have rows : ∀ f, f ∈ (foldTree sources (.row target)).rows ↔ f ∈ (foldTree sources' (.row target)).rows := by
      intro f
      rw [foldTree_rows, foldTree_rows, same]
    obtain ⟨refused, alike⟩ := (@mergeInto_join parseInt taskId threadId cols).eval_rows rows
    simp only [foldTree_eval, MergeTree.eval, Except.bind] at refused alike
    exact ⟨refused, fun c d hc hd => alike hc hd⟩

end AgentflowHermes.Origins
