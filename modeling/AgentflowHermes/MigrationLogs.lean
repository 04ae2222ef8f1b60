import AgentflowHermes.MigrationLossless

namespace AgentflowHermes

open RowTable

/-- The log of every continuation has no gap, its moves are legal and end in the state column. -/
structure LogConsistent (s : Store) : Prop where
  seqs : ∀ i ∈ s.instances.rows, (s.eventsOf i.id).map Event.seq = List.range' 1 (s.eventsOf i.id).length
  paths : ∀ i ∈ s.instances.rows, LegalPath .detected (s.transitionsOf i.id) i.state

def Event.move? (e : Event) : Option (ContinuationState × ContinuationState) := e.kind.transition?

/-- The events of the legacy log that are beyond the canonical one. -/
def eventsBeyond (legacy canonical : Ledger) (l c : Instance) : List Event :=
  (legacy.eventsOf l.id).drop (canonical.eventsOf c.id).length

/-- Where the legacy log is the longer one, the rest of it leads from the canonical state back to it. -/
def LogsAgree (legacy canonical : Ledger) : Prop :=
  ∀ l ∈ legacy.instances.rows, ∀ c ∈ canonical.instances.rows, l.tuple = c.tuple →
    LegalPath c.state ((eventsBeyond legacy canonical l c).filterMap Event.move?) c.state

/-- In a list numbered without gaps the first rows are those with the small numbers. -/
theorem filter_numbered {α : Type} {f : α → Nat} {xs : List α} {start m : Nat}
    (h : xs.map f = List.range' start xs.length) : (xs.filter fun x => decide (start + m ≤ f x)) = xs.drop m := by
  induction xs generalizing start m with
  | nil => cases m <;> rfl
  | cons x xs ih =>
    rw [List.map_cons, List.length_cons, List.range'_succ] at h
    obtain ⟨here, later⟩ := List.cons.inj h
    cases m with
    | zero =>
      refine List.filter_eq_self.mpr fun y hy => decide_eq_true ?_
      have mem : f y ∈ (x :: xs).map f := List.mem_map_of_mem hy
      rw [List.map_cons, here, later] at mem
      rcases List.mem_cons.mp mem with same | mem
      · omega
      · have := (List.mem_range'_1.mp mem).1
        omega
    | succ m =>
      rw [List.filter_cons_of_neg (by simp only [here, decide_eq_true_eq]; omega), List.drop_succ_cons, ← ih later]
      refine List.filter_congr fun y _ => decide_eq_decide.mpr ?_
      omega

theorem number_filter_map {α β : Type} [Renumbered α] {p : α → Bool} {f : α → β}
    (hp : ∀ n a, p (Renumbered.withId n a) = p a) (hf : ∀ n a, f (Renumbered.withId n a) = f a) (n : Nat) (as : List α) :
    ((number n as).filter p).map f = (as.filter p).map f := by
  induction as generalizing n with
  | nil => rfl
  | cons a as ih =>
    rw [number, List.filter_cons, List.filter_cons, hp]
    split
    · rw [List.map_cons, List.map_cons, hf, ih]
    · exact ih (n + 1)

section

variable {legacy canonical : Ledger}

/-- The legacy rows of one instance under its canonical id. -/
theorem mapped_events_of {l : Instance} {n : Nat} (tuples : UniqueBy legacy.instances fun i => i.tuple)
    (found : (idMapOf legacy canonical).lookup l.id = some n) (rows : List Event) :
    (rows.filterMap (idMapOf legacy canonical).event).filter (fun e => e.continuationId == n) =
      (rows.filter fun e => e.continuationId == l.id).map fun e => { e with continuationId := n } := by
  induction rows with
  | nil => rfl
  | cons e rows ih =>
    cases he : (idMapOf legacy canonical).lookup e.continuationId with
    | none =>
      have other : e.continuationId ≠ l.id := by
        intro same
        rw [same, found] at he
        cases he
      have skipped : (idMapOf legacy canonical).event e = none := congrArg (Option.map _) he
      rw [List.filterMap_cons_none skipped, ih, List.filter_cons_of_neg (by simpa using other)]
    | some k =>
      have mapped : (idMapOf legacy canonical).event e = some { e with continuationId := k } := congrArg (Option.map _) he
      rw [List.filterMap_cons_some mapped, List.filter_cons, List.filter_cons, ih]
      by_cases same : e.continuationId = l.id
      · rw [same, found] at he
        cases he
        simp only [same, beq_self_eq_true, if_true, List.map_cons]
      · have apart : k ≠ n := fun eq => same (lookup_idMap_inj tuples he (eq ▸ found))
        simp only [beq_eq_false_iff_ne.mpr apart, beq_eq_false_iff_ne.mpr same, Bool.false_eq_true, if_false]

/-- No legacy row gets the id of an instance that the legacy store does not have. -/
theorem mapped_events_none {n : Nat} (absent : ∀ id, (idMapOf legacy canonical).lookup id ≠ some n) (rows : List Event) :
    (rows.filterMap (idMapOf legacy canonical).event).filter (fun e => e.continuationId == n) = [] := by
  refine List.filter_eq_nil_iff.mpr fun e he same => ?_
  obtain ⟨o, _, ho⟩ := List.mem_filterMap.mp he
  obtain ⟨k, hk, rfl⟩ := Option.map_eq_some_iff.mp ho
  exact absent _ (hk.trans (congrArg some (by simpa using same)))

theorem mapped_events_distinct (hl : LedgerInvariant legacy) :
    ((legacy.events.rows.filterMap (idMapOf legacy canonical).event).map eventKey).Nodup := by
  refine List.pairwise_map.mpr (List.pairwise_filterMap.mpr ?_)
  refine (List.pairwise_map.mp hl.uniqueEvent).imp fun {e e'} apart b hb b' hb' same => apart ?_
  obtain ⟨n, hn, rfl⟩ := Option.map_eq_some_iff.mp hb
  obtain ⟨n', hn', rfl⟩ := Option.map_eq_some_iff.mp hb'
  obtain ⟨sameId, sameSeq⟩ := Prod.ext_iff.mp same
  have ids : n = n' := sameId
  subst ids
  exact Prod.ext (lookup_idMap_inj hl.log.uniqueTuple hn hn') sameSeq

def Event.entry (e : Event) : Nat × EventKind := (e.seq, e.kind)

/-- The canonical log is kept, and the rows of numbers that it does not have are added. -/
theorem copied_log (hl : LedgerInvariant legacy) (id : Nat) :
    ((copyLedger legacy canonical).eventsOf id).map Event.entry = (canonical.eventsOf id).map Event.entry ++
      (((legacy.events.rows.filterMap (idMapOf legacy canonical).event).filter fun e => e.continuationId == id).filter
        fun e => decide (e.seq ∉ (canonical.eventsOf id).map Event.seq)).map Event.entry := by
  have rows : (copyLedger legacy canonical).events.rows = canonical.events.rows ++ number canonical.events.next
      (fresh eventKey (canonical.events.rows.map eventKey)
        (legacy.events.rows.filterMap (idMapOf legacy canonical).event)) := (merge_rows (fun _ _ => rfl) _ _).1
  unfold Store.eventsOf Table.filter
  rw [rows, List.filter_append, List.map_append, number_filter_map (fun _ _ => rfl) (fun _ _ => rfl),
    fresh_eq_filter (mapped_events_distinct hl), List.filter_filter, List.filter_filter]
  congr 1
  refine congrArg (List.map Event.entry) (List.filter_congr fun e _ => ?_)
  rw [Bool.and_comm]
  by_cases here : e.continuationId = id
  · subst here
    refine congrArg (· && _) (decide_eq_decide.mpr (not_congr ?_))
    simp only [List.mem_map, List.mem_filter, beq_iff_eq, eventKey, Prod.mk.injEq]
    constructor
    · rintro ⟨o, ho, own, seq⟩
      exact ⟨o, ⟨ho, own⟩, seq⟩
    · rintro ⟨o, ⟨ho, own⟩, seq⟩
      exact ⟨o, ho, own, seq⟩
  · simp only [beq_eq_false_iff_ne.mpr here, Bool.and_false]

theorem eventsBeyond_eq (hl : LedgerInvariant legacy) (hc : LedgerInvariant canonical) (l c : Instance) :
    ((legacy.eventsOf l.id).filter fun e => decide (e.seq ∉ (canonical.eventsOf c.id).map Event.seq)) =
      eventsBeyond legacy canonical l c := by
  have numbered := hl.log.eventSeqs l.id
  unfold eventsBeyond
  rw [← filter_numbered numbered, hc.log.eventSeqs c.id]
  refine List.filter_congr fun e he => decide_eq_decide.mpr ?_
  have positive : e.seq ∈ (legacy.eventsOf l.id).map Event.seq := List.mem_map_of_mem he
  rw [numbered] at positive
  have := (List.mem_range'_1.mp positive).1
  rw [List.mem_range'_1]
  omega

/-- Every instance keeps its canonical log, and gets what the legacy log of its source tuple has beyond it. -/
theorem copied_log_cases (hl : LedgerInvariant legacy) (hc : LedgerInvariant canonical) {c : Instance}
    (mem : c ∈ (copyLedger legacy canonical).instances.rows) :
    ∃ more, ((copyLedger legacy canonical).eventsOf c.id).map Event.entry =
        (canonical.eventsOf c.id ++ more).map Event.entry ∧
      ((∃ l ∈ legacy.instances.rows, l.tuple = c.tuple ∧ more = eventsBeyond legacy canonical l c) ∨
        (∀ l ∈ legacy.instances.rows, l.tuple ≠ c.tuple) ∧ more = []) := by
  have tuples := hl.log.uniqueTuple
  have unique : UniqueBy (copyLedger legacy canonical).instances instanceKey := by
    rw [copyLedger_instances]
    exact merge_unique instanceKey_withId hc.log.uniqueTuple
  by_cases shared : ∃ l ∈ legacy.instances.rows, l.tuple = c.tuple
  · obtain ⟨l, hmem, same⟩ := shared
    obtain ⟨c', hc', same', found⟩ := lookup_idMap canonical hmem
    have here : c'.id = c.id := congrArg Instance.id (unique.eq hc' mem (same'.trans same))
    rw [here] at found
    refine ⟨eventsBeyond legacy canonical l c, ?_, .inl ⟨l, hmem, same, rfl⟩⟩
    rw [copied_log hl, mapped_events_of tuples found, List.filter_map, List.map_append, ← eventsBeyond_eq hl hc,
      List.map_map]
    rfl
  · have none : ∀ l ∈ legacy.instances.rows, l.tuple ≠ c.tuple := fun l hmem same => shared ⟨l, hmem, same⟩
    refine ⟨[], ?_, .inr ⟨none, rfl⟩⟩
    rw [copied_log hl, mapped_events_none fun id found => ?_, List.append_nil]
    · exact List.append_nil _
    · obtain ⟨l, hmem, _, c', hc', same, here⟩ := lookup_idMap_some found
      obtain rfl : c' = c := rowId_inj hc' mem here
      exact none l hmem same.symm

/-- A copied instance is an old one, or a legacy one under an id without canonical events. -/
theorem copied_instance_cases (hc : LedgerInvariant canonical) {c : Instance}
    (mem : c ∈ (copyLedger legacy canonical).instances.rows) :
    c ∈ canonical.instances.rows ∨
      canonical.eventsOf c.id = [] ∧ ∃ l ∈ legacy.instances.rows, l.tuple = c.tuple ∧ l.state = c.state := by
  rw [copyLedger_instances, (merge_rows instanceKey_withId _ _).1] at mem
  rcases List.mem_append.mp mem with old | new
  · exact .inl old
  · obtain ⟨k, a, ha, rfl⟩ := mem_number new
    have copied := (fresh_sublist instanceKey _ _).mem (List.mem_of_getElem? ha)
    refine .inr ⟨List.filter_eq_nil_iff.mpr fun e he own => ?_, a, copied, rfl, rfl⟩
    have below := owned_below (hc.events e he)
    have here : e.continuationId = canonical.instances.next + k :=
      LawfulBEq.eq_of_beq own
    omega

theorem entry_seqs (es : List Event) : es.map Event.seq = (es.map Event.entry).map Prod.fst := by
  rw [List.map_map]
  rfl

theorem entry_moves (es : List Event) :
    es.filterMap Event.move? = (es.map Event.entry).filterMap fun x => x.2.transition? := by
  rw [List.filterMap_map]
  rfl

theorem entry_congr {es es' : List Event} (h : es.map Event.entry = es'.map Event.entry) :
    es.map Event.seq = es'.map Event.seq ∧ es.filterMap Event.move? = es'.filterMap Event.move? := by
  rw [entry_seqs, entry_seqs, entry_moves, entry_moves, h]
  exact ⟨rfl, rfl⟩

theorem length_of_entries {es es' : List Event} (h : es.map Event.entry = es'.map Event.entry) :
    es.length = es'.length := by
  have := congrArg List.length h
  simpa only [List.length_map] using this

/-- A longer log continues the numbers of a shorter one. -/
theorem range'_beyond (m n : Nat) :
    List.range' 1 m ++ (List.range' 1 n).drop m = List.range' 1 (m + (n - m)) := by
  rw [List.drop_range', Nat.mul_one, List.range'_append_1]

theorem copied_seqs (hl : LedgerInvariant legacy) (hc : LedgerInvariant canonical) {c : Instance}
    (mem : c ∈ (copyLedger legacy canonical).instances.rows) :
    ((copyLedger legacy canonical).eventsOf c.id).map Event.seq =
      List.range' 1 ((copyLedger legacy canonical).eventsOf c.id).length := by
  obtain ⟨more, entries, cases⟩ := copied_log_cases hl hc mem
  rw [(entry_congr entries).1, length_of_entries entries, List.map_append, List.length_append, hc.log.eventSeqs]
  rcases cases with ⟨l, _, _, rfl⟩ | ⟨_, rfl⟩
  · unfold eventsBeyond
    rw [List.map_drop, hl.log.eventSeqs, range'_beyond, List.length_drop]
  · exact List.append_nil _

theorem transitionsOf_eq (s : Store) (id : Nat) : s.transitionsOf id = (s.eventsOf id).filterMap Event.move? := rfl

/-- The merged logs are consistent exactly when no legacy log leads a shared continuation away from its state. -/
theorem logConsistent_iff (hl : LedgerInvariant legacy) (hc : LedgerInvariant canonical) :
    LogConsistent (copyLedger legacy canonical).toStore ↔ LogsAgree legacy canonical := by
  constructor
  · intro merged l hmem c old same
    have mem : c ∈ (copyLedger legacy canonical).instances.rows := by
      rw [copyLedger_instances, (merge_rows instanceKey_withId _ _).1]
      exact List.mem_append_left _ old
    have path := merged.paths c mem
    obtain ⟨more, entries, cases⟩ := copied_log_cases hl hc mem
    rw [transitionsOf_eq, (entry_congr entries).2, List.filterMap_append, legalPath_append] at path
    obtain ⟨state, before, after⟩ := path
    obtain rfl : state = c.state := before.unique (hc.log.paths c old)
    rcases cases with ⟨l', hmem', same', rfl⟩ | ⟨none, rfl⟩
    · obtain rfl : l' = l := hl.log.uniqueTuple.eq hmem' hmem (same'.trans same.symm)
      exact after
    · exact absurd same (none l hmem)
  · intro agree
    refine ⟨fun c mem => copied_seqs hl hc mem, fun c mem => ?_⟩
    obtain ⟨more, entries, cases⟩ := copied_log_cases hl hc mem
    rw [transitionsOf_eq, (entry_congr entries).2, List.filterMap_append, legalPath_append]
    rcases copied_instance_cases hc mem with old | ⟨empty, l, hmem, same, state⟩
    · refine ⟨c.state, hc.log.paths c old, ?_⟩
      rcases cases with ⟨l, hmem, same, rfl⟩ | ⟨_, rfl⟩
      · exact agree l hmem c old same
      · exact rfl
    · rw [empty]
      refine ⟨.detected, rfl, ?_⟩
      rcases cases with ⟨l', hmem', same', rfl⟩ | ⟨none, rfl⟩
      · obtain rfl : l' = l := hl.log.uniqueTuple.eq hmem' hmem (same'.trans same.symm)
        have path := hl.log.paths l' hmem
        rw [transitionsOf_eq, state] at path
        unfold eventsBeyond
        rw [empty]
        exact path
      · exact absurd same (none l hmem)

end

section Samples

/-- The continuation of `waitingLedger` before it waits for its owner. -/
def detectedLedger : Ledger :=
  bareLedger [.createInstance { board := "a", sourceTaskId := "t1", sourceEventId := "e1" }]

theorem detectedLedger_invariant : LedgerInvariant detectedLedger :=
  bareLedger_invariant (by decide) (by decide) (by decide) (by decide) rfl rfl rfl rfl rfl

theorem waitingOwner_invariant : LedgerInvariant (waitingLedger noReplies) :=
  waitingLedger_invariant _ fun _ h => by cases h

instance decidableLegalPath : (a : ContinuationState) → (moves : List (ContinuationState × ContinuationState)) →
    (b : ContinuationState) → Decidable (LegalPath a moves b)
  | a, [], b => inferInstanceAs (Decidable (a = b))
  | a, (source, target) :: rest, b =>
    have := decidableLegalPath target rest b
    inferInstanceAs (Decidable (source = a ∧ legal source target ∧ LegalPath target rest b))

/-- A canonical store that is ahead takes nothing from the shorter log. -/
theorem logConsistent_iff_ahead : LogConsistent (copyLedger detectedLedger (waitingLedger noReplies)).toStore :=
  (logConsistent_iff detectedLedger_invariant waitingOwner_invariant).mpr (by unfold LogsAgree; decide)

/-- A legacy store that is ahead adds its moves, and the state column stays behind. -/
theorem waitingLedger_overtakes : LedgerInvariant (waitingLedger noReplies) ∧ LedgerInvariant detectedLedger ∧
    LogConsistent (waitingLedger noReplies).toStore ∧ LogConsistent detectedLedger.toStore ∧
    ¬LogConsistent (copyLedger (waitingLedger noReplies) detectedLedger).toStore := by
  have waiting := waitingOwner_invariant
  have detected := detectedLedger_invariant
  refine ⟨waiting, detected, ⟨fun i _ => waiting.log.eventSeqs i.id, waiting.log.paths⟩,
    ⟨fun i _ => detected.log.eventSeqs i.id, detected.log.paths⟩, fun merged => ?_⟩
  have path := (by decide : ∃ i ∈ (copyLedger (waitingLedger noReplies) detectedLedger).instances.rows,
    ¬LegalPath .detected ((copyLedger (waitingLedger noReplies) detectedLedger).transitionsOf i.id) i.state)
  obtain ⟨i, hi, broken⟩ := path
  exact broken (merged.paths i hi)

end Samples

end AgentflowHermes
