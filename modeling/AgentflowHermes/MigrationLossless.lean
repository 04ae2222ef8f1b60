import AgentflowHermes.MigrationCopies

namespace AgentflowHermes

open RowTable

section

variable {legacy canonical : Ledger}

theorem owned_below {id : Nat} (h : ∃ i, canonical.getInstance id = some i) : id < canonical.instances.next := by
  obtain ⟨i, hi⟩ := h
  obtain ⟨mem, rfl⟩ := get?_eq_some.mp hi
  exact canonical.instances.below i mem

/-- Between stores that share no continuation every legacy instance gets a new id. -/
theorem mapped_above (apart : NothingShared legacy canonical) {id n : Nat} (h : (idMapOf legacy canonical).lookup id = some n) :
    canonical.instances.next ≤ n := by
  obtain ⟨l, hl, _, c, hc, same, rfl⟩ := lookup_idMap_some h
  rw [copyLedger_instances, (merge_rows instanceKey_withId _ _).1] at hc
  rcases List.mem_append.mp hc with old | new
  · exact absurd same.symm (apart.instances l hl c old)
  · obtain ⟨k, a, _, rfl⟩ := mem_number new
    exact Nat.le_add_right _ _

theorem mapped_of_owned (canonical : Ledger) {id : Nat} (h : ∃ i, legacy.getInstance id = some i) :
    ∃ n, (idMapOf legacy canonical).lookup id = some n := by
  obtain ⟨i, hi⟩ := h
  obtain ⟨mem, rfl⟩ := get?_eq_some.mp hi
  obtain ⟨c, _, _, found⟩ := lookup_idMap canonical mem
  exact ⟨c.id, found⟩

/-- The tables that hang off the instances: their key is the continuation and one more column. -/
theorem copied_owned {α β κ : Type} [Renumbered α] [DecidableEq κ] {key : α → κ} {cid : α → Nat} {loc : α → β}
    (put : Nat → α → α) {R : α → α → Prop} {t : Table α} {as : List α}
    (keyed : ∀ a a', key a = key a' ↔ cid a = cid a' ∧ loc a = loc a')
    (keeps : ∀ n a, key (Renumbered.withId n a) = key a) (puts : ∀ n a, cid (put n a) = n ∧ loc (put n a) = loc a)
    (content : ∀ a n k, (idMapOf legacy canonical).lookup (cid a) = some n → R a (Renumbered.withId k (put n a)))
    (inLegacy : ∀ a ∈ as, ∃ i, legacy.getInstance (cid a) = some i)
    (inCanonical : ∀ r ∈ t.rows, ∃ i, canonical.getInstance (cid r) = some i) (unique : (as.map key).Nodup)
    (tuples : UniqueBy legacy.instances fun i => i.tuple) (apart : NothingShared legacy canonical) :
    Copied R t.rows (t.merge key (as.filterMap fun a =>
      ((idMapOf legacy canonical).lookup (cid a)).map fun n => put n a)).rows as := by
  refine copied_of_merge keeps ?_ ?_ unique ?_ ?_
  · intro a ha
    obtain ⟨n, hn⟩ := mapped_of_owned canonical (inLegacy a ha)
    exact ⟨put n a, by rw [hn]; rfl⟩
  · intro a b k hb
    obtain ⟨n, hn, rfl⟩ := Option.map_eq_some_iff.mp hb
    exact content a n k hn
  · intro a a' b b' hb hb' same
    obtain ⟨n, hn, rfl⟩ := Option.map_eq_some_iff.mp hb
    obtain ⟨n', hn', rfl⟩ := Option.map_eq_some_iff.mp hb'
    obtain ⟨sameId, sameLoc⟩ := (keyed _ _).mp same
    rw [(puts n a).1, (puts n' a').1] at sameId
    rw [(puts n a).2, (puts n' a').2] at sameLoc
    subst sameId
    exact (keyed a a').mpr ⟨lookup_idMap_inj tuples hn hn', sameLoc⟩
  · intro a ha b hb mem
    obtain ⟨n, hn, rfl⟩ := Option.map_eq_some_iff.mp hb
    obtain ⟨r, hr, same⟩ := List.mem_map.mp mem
    have here : cid r = n := ((keyed _ _).mp same).1.trans (puts n a).1
    have below := owned_below (inCanonical r hr)
    have above := mapped_above apart hn
    omega

theorem forall₂_upgrade {α β : Type} {R S : α → β → Prop} {xs : List α} {ys : List β} (h : List.Forall₂ R xs ys)
    (up : ∀ x ∈ xs, ∀ y ∈ ys, R x y → S x y) : List.Forall₂ S xs ys := by
  induction h with
  | nil => exact .nil
  | cons hr _ ih =>
    exact .cons (up _ List.mem_cons_self _ List.mem_cons_self hr) (ih fun x hx y hy =>
      up x (List.mem_cons_of_mem _ hx) y (List.mem_cons_of_mem _ hy))

/-- A table whose rows are copied as they are. -/
theorem copied_plain {α κ : Type} [Renumbered α] [DecidableEq κ] {key : α → κ} {R : α → α → Prop} {t : Table α}
    {as : List α} (keeps : ∀ n a, key (Renumbered.withId n a) = key a) (content : ∀ a n, R a (Renumbered.withId n a))
    (unique : (as.map key).Nodup) (new : ∀ a ∈ as, key a ∉ t.rows.map key) : Copied R t.rows (t.merge key as).rows as := by
  refine ⟨number t.next as, ?_, number_forall₂ (fun n a => content a n) _ _⟩
  rw [(merge_rows keeps t as).1, fresh_all unique new]

theorem copied_instances (tuples : UniqueBy legacy.instances fun i => i.tuple)
    (tuples' : UniqueBy canonical.instances fun i => i.tuple) (apart : NothingShared legacy canonical) :
    Copied (idMapOf legacy canonical).SameInstance canonical.instances.rows (copyLedger legacy canonical).instances.rows
      legacy.instances.rows := by
  have plain : Copied (fun l c : Instance => c = { l with id := c.id }) canonical.instances.rows
      (copyLedger legacy canonical).instances.rows legacy.instances.rows := by
    rw [copyLedger_instances]
    refine copied_plain instanceKey_withId (fun _ _ => rfl) tuples fun l hl mem => ?_
    obtain ⟨c, hc, same⟩ := List.mem_map.mp mem
    exact apart.instances l hl c hc same.symm
  obtain ⟨added, rows, each⟩ := plain
  refine ⟨added, rows, forall₂_upgrade each fun l hl c hc copy => ⟨?_, copy⟩⟩
  obtain ⟨c', hc', same, found⟩ := lookup_idMap canonical hl
  have unique : UniqueBy (copyLedger legacy canonical).instances instanceKey := by
    rw [copyLedger_instances]
    exact merge_unique instanceKey_withId tuples'
  have mem : c ∈ (copyLedger legacy canonical).instances.rows := rows ▸ List.mem_append_right _ hc
  have tuple : instanceKey c = instanceKey l := by rw [copy]; rfl
  rw [unique.eq mem hc' (tuple.trans same.symm)]
  exact found

theorem copiedAs_fresh {α κ : Type} [DecidableEq κ] {key : α → κ} {old source sorted : List α} (perm : sorted.Perm source)
    (unique : (source.map key).Nodup) (new : ∀ l ∈ source, ∀ c ∈ old, key l ≠ key c) :
    CopiedAs old (old ++ fresh key (old.map key) sorted) source := by
  have distinct : (sorted.map key).Nodup := (perm.map key).nodup_iff.mpr unique
  rw [fresh_all distinct fun a ha mem => ?_]
  · exact ⟨sorted, rfl, perm⟩
  · obtain ⟨c, hc, same⟩ := List.mem_map.mp mem
    exact new a (perm.mem_iff.mp ha) c hc same.symm

theorem copyCursor_max {c l : Option Int} (hl : ∀ x, l = some x → 0 ≤ x) : copyCursor c l = maxCursor c l := by
  cases l with
  | none => cases c <;> rfl
  | some l =>
    have positive := hl l rfl
    unfold copyCursor maxCursor
    cases c with
    | none => simp only [Option.getD_none, Int.max_eq_right positive]
    | some c =>
      simp only [Option.getD_some]
      split
      · rfl
      · congr 1
        omega

/-- Nothing is lost exactly when no two legacy reply receipts share case, message and content hash. -/
theorem lossless_iff (hl : LedgerInvariant legacy) (hc : LedgerInvariant canonical) (apart : NothingShared legacy canonical) :
    LosslessMigration legacy canonical ↔ UniqueBy legacy.replies replyKey := by
  have tuples := hl.log.uniqueTuple
  constructor
  · intro lossless
    exact unique_of_copied (fun _ _ => rfl) lossless.replies
  · intro distinct
    refine ⟨copied_instances tuples hc.log.uniqueTuple apart, ?_, ?_, ?_, ?_, ?_, ?_, ?_, ?_, ?_, ?_, fun key => ?_,
      copyLedger_again legacy canonical⟩
    · exact copied_owned (fun n (p : Step) => { p with continuationId := n }) (fun _ _ => Prod.ext_iff)
        (fun _ _ => rfl) (fun _ _ => ⟨rfl, rfl⟩) (fun _ _ _ h => ⟨h, rfl⟩) hl.steps hc.steps hl.log.uniqueStep tuples apart
    · exact copied_owned (fun n (r : OwnerReceipt) => { r with continuationId := n }) (fun _ _ => Prod.ext_iff)
        (fun _ _ => rfl) (fun _ _ => ⟨rfl, rfl⟩) (fun _ _ _ h => ⟨h, rfl⟩) hl.receipts hc.receipts hl.uniqueReceipt tuples
        apart
    · exact copied_owned (fun n (e : Event) => { e with continuationId := n }) (fun _ _ => Prod.ext_iff)
        (fun _ _ => rfl) (fun _ _ => ⟨rfl, rfl⟩) (fun _ _ _ h => ⟨h, rfl⟩) hl.events hc.events hl.uniqueEvent tuples apart
    · refine copied_of_merge (fun _ _ => rfl) (fun o ho => ?_) (fun o b k hb => ?_) hl.log.uniqueOutbox
        (fun o o' b b' hb hb' same => ?_) fun o ho b hb mem => ?_
      · obtain ⟨n, hn⟩ := mapped_of_owned canonical (hl.outbox o ho)
        exact ⟨_, congrArg (Option.map _) hn⟩
      · obtain ⟨n, hn, rfl⟩ := Option.map_eq_some_iff.mp hb
        exact ⟨hn, rfl⟩
      · obtain ⟨n, _, rfl⟩ := Option.map_eq_some_iff.mp hb
        obtain ⟨n', _, rfl⟩ := Option.map_eq_some_iff.mp hb'
        exact same
      · obtain ⟨n, _, rfl⟩ := Option.map_eq_some_iff.mp hb
        obtain ⟨c, hmem, same⟩ := List.mem_map.mp mem
        exact apart.outbox o ho c hmem same.symm
    · exact copied_owned (fun n (r : Satisfaction) => { r with continuationId := n }) (fun _ _ => Prod.ext_iff)
        (fun _ _ => rfl) (fun _ _ => ⟨rfl, rfl⟩) (fun _ _ _ h => ⟨h, rfl⟩) hl.satisfactions hc.satisfactions
        hl.uniqueSatisfaction tuples apart
    · refine copied_plain (fun _ _ => rfl) (fun _ _ => rfl) hl.uniquePolicy fun p hp mem => ?_
      obtain ⟨c, hmem, same⟩ := List.mem_map.mp mem
      exact apart.policies p hp c hmem same.symm
    · exact copiedAs_fresh (List.mergeSort_perm _ _) hl.uniqueCase apart.cases
    · exact copied_owned (fun n (r : InteractionMember) => { r with continuationId := n })
        (fun _ _ => Prod.ext_iff.trans and_comm) (fun _ _ => rfl) (fun _ _ => ⟨rfl, rfl⟩) (fun _ _ _ h => ⟨h, rfl⟩)
        hl.members hc.members hl.uniqueMember tuples apart
    · refine copied_plain (fun _ _ => rfl) (fun _ _ => rfl) distinct fun r hr mem => ?_
      obtain ⟨c, hmem, same⟩ := List.mem_map.mp mem
      obtain ⟨mine, hmine, owns⟩ := hl.replies r hr
      obtain ⟨theirs, htheirs, owns'⟩ := hc.replies c hmem
      have sameCase : c.caseId = r.caseId := (Prod.ext_iff.mp same).1
      exact apart.cases mine hmine theirs htheirs (owns.trans (sameCase.symm.trans owns'.symm))
    · exact copiedAs_fresh (List.mergeSort_perm _ _) hl.uniqueKey apart.keys
    · exact copyCursor_max (hl.cursors key)

end

section Samples

/-- A continuation that waits for its owner, with its anchor and one interaction case. -/
def waitingLedger (replies : Table InboundReplyReceipt) : Ledger :=
  { StoreOp.runAll [.createInstance { board := "a", sourceTaskId := "t1", sourceEventId := "e1" },
      .transition 1 .waitingOwner "needs_input", .addStep 1 .ownerAnchor "anchor:1" "bt_1" none,
      .outboxEnqueue 1 ⟨some 1, .createTask, [], "ob:1"⟩] .empty with
    cases := [⟨"ic_1", "discord:#research", "batch", .collecting, 0⟩]
    policies := .empty
    replies := replies
    idempotencyKeys := [] }

def noReplies : Table InboundReplyReceipt := .empty

/-- The same message recorded twice, with different compile results. -/
def repliedTwice : Table InboundReplyReceipt :=
  (Table.empty.insert fun n => ⟨n, "ic_1", "m1", "abc123", .obj [], 0⟩).insert fun n =>
    ⟨n, "ic_1", "m1", "abc123", .obj [("result_url", .str "https://example.com/x")], 1⟩

theorem waitingLedger_invariant (replies : Table InboundReplyReceipt) (owned : ∀ r ∈ replies.rows, r.caseId = "ic_1") :
    LedgerInvariant (waitingLedger replies) where
  log := (LogInvariant.empty.runAll _).congr rfl rfl rfl rfl rfl
  uniqueReceipt := .nil
  uniqueEvent := (by decide : ((waitingLedger noReplies).events.rows.map eventKey).Nodup)
  uniqueSatisfaction := .nil
  uniquePolicy := .nil
  uniqueMember := .nil
  uniqueCase := List.nodup_singleton "ic_1"
  uniqueKey := .nil
  cursors _ _ h := by cases h
  steps p hp := Option.isSome_iff_exists.mp ((by decide : ∀ p ∈ (waitingLedger noReplies).steps.rows,
    ((waitingLedger noReplies).getInstance p.continuationId).isSome) p hp)
  receipts _ h := by cases h
  events e he := Option.isSome_iff_exists.mp ((by decide : ∀ e ∈ (waitingLedger noReplies).events.rows,
    ((waitingLedger noReplies).getInstance e.continuationId).isSome) e he)
  outbox o ho := Option.isSome_iff_exists.mp ((by decide : ∀ o ∈ (waitingLedger noReplies).outbox.rows,
    ((waitingLedger noReplies).getInstance o.continuationId).isSome) o ho)
  satisfactions _ h := by cases h
  members _ h := by cases h
  replies r hr := ⟨⟨"ic_1", "discord:#research", "batch", .collecting, 0⟩, List.mem_singleton.mpr rfl, (owned r hr).symm⟩

/-- The ledger that store operations leave, without the tables that they do not write. -/
def bareLedger (ops : List StoreOp) : Ledger :=
  { StoreOp.runAll ops .empty with
    policies := .empty
    replies := .empty
    idempotencyKeys := [] }

theorem bareLedger_invariant {ops : List StoreOp} (unique : ((bareLedger ops).events.rows.map eventKey).Nodup)
    (steps : ∀ p ∈ (bareLedger ops).steps.rows, ((bareLedger ops).getInstance p.continuationId).isSome)
    (events : ∀ e ∈ (bareLedger ops).events.rows, ((bareLedger ops).getInstance e.continuationId).isSome)
    (outbox : ∀ o ∈ (bareLedger ops).outbox.rows, ((bareLedger ops).getInstance o.continuationId).isSome)
    (receipts : (bareLedger ops).receipts.rows = []) (satisfactions : (bareLedger ops).satisfactions.rows = [])
    (members : (bareLedger ops).members.rows = []) (cases : (bareLedger ops).cases = [])
    (cursors : (bareLedger ops).cursors = fun _ => none) : LedgerInvariant (bareLedger ops) where
  log := (LogInvariant.empty.runAll ops).congr rfl rfl rfl rfl rfl
  uniqueReceipt := by unfold UniqueBy; rw [receipts]; exact .nil
  uniqueEvent := unique
  uniqueSatisfaction := by unfold UniqueBy; rw [satisfactions]; exact .nil
  uniquePolicy := .nil
  uniqueMember := by unfold UniqueBy; rw [members]; exact .nil
  uniqueCase := by rw [cases]; exact .nil
  uniqueKey := .nil
  cursors key c h := by
    rw [cursors] at h
    cases h
  steps p hp := Option.isSome_iff_exists.mp (steps p hp)
  receipts r hr := absurd (receipts ▸ hr) List.not_mem_nil
  events e he := Option.isSome_iff_exists.mp (events e he)
  outbox o ho := Option.isSome_iff_exists.mp (outbox o ho)
  satisfactions r hr := absurd (satisfactions ▸ hr) List.not_mem_nil
  members m hm := absurd (members ▸ hm) List.not_mem_nil
  replies _ h := by cases h

theorem emptyLedger_invariant : LedgerInvariant .empty where
  log := LogInvariant.empty
  uniqueReceipt := .nil
  uniqueEvent := .nil
  uniqueSatisfaction := .nil
  uniquePolicy := .nil
  uniqueMember := .nil
  uniqueCase := .nil
  uniqueKey := .nil
  cursors _ _ h := by cases h
  steps _ h := by cases h
  receipts _ h := by cases h
  events _ h := by cases h
  outbox _ h := by cases h
  satisfactions _ h := by cases h
  members _ h := by cases h
  replies _ h := by cases h

theorem apart_empty (legacy : Ledger) : NothingShared legacy .empty where
  instances _ _ _ h := by cases h
  policies _ _ _ h := by cases h
  cases _ _ _ h := by cases h
  outbox _ _ _ h := by cases h
  keys _ _ _ h := by cases h

theorem lossless_iff_noReplies : LosslessMigration (waitingLedger noReplies) .empty :=
  (lossless_iff (waitingLedger_invariant _ fun _ h => by cases h) emptyLedger_invariant (apart_empty _)).mpr .nil

theorem repliedTwice_owned : ∀ r ∈ repliedTwice.rows, r.caseId = "ic_1" := by decide

/-- Of two receipts of one message only the first one is copied. -/
theorem repliedTwice_loses : LedgerInvariant (waitingLedger repliedTwice) ∧ LedgerInvariant .empty ∧
    NothingShared (waitingLedger repliedTwice) .empty ∧ ¬LosslessMigration (waitingLedger repliedTwice) .empty := by
  refine ⟨waitingLedger_invariant _ repliedTwice_owned, emptyLedger_invariant, apart_empty _, fun lossless => ?_⟩
  have distinct := unique_of_copied (fun _ _ => rfl) lossless.replies
  exact absurd distinct (by decide : ¬(repliedTwice.rows.map replyKey).Nodup)

end Samples

end AgentflowHermes
