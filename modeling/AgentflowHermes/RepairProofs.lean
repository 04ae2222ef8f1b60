import AgentflowHermes.DiscordPlans

namespace AgentflowHermes.Origins

open RowTable

/-- What the adapter confirms of a row that is repaired. -/
def confirmation (T : PyText) (toId : String) (entry : DeadletterEntry) : Confirmed where
  outboxId := entry.outboxId
  operation := .recordConsumerAck
  taskId := entry.taskId
  endpoint := numericDiscordEndpoint T entry.endpoint toId
  status := entry.status

def repairedRow (o : OutboxRow) : OutboxRow := Store.markRow .applied "" none none o

section

variable {σ : Type} {T : PyText} {adapter : RepairAdapter σ} {toId : String} {r r' : Repair σ} {b : Bool}
  {entry : DeadletterEntry} {entries : List DeadletterEntry}

theorem repairOne_cases (h : repairOne T adapter toId entry r = (b, r')) :
    (r'.store = r.store ∧ r'.confirmed = r.confirmed) ∨
      (r'.store = (r.store.outboxMark entry.outboxId .applied "" none none).2 ∧
        r'.confirmed = r.confirmed ++ [confirmation T toId entry]) := by
  unfold repairOne at h
  split at h
  · cases h
    exact .inl ⟨rfl, rfl⟩
  · cases h
    exact .inr ⟨rfl, rfl⟩
  · cases h
    exact .inl ⟨rfl, rfl⟩

theorem get?_outboxMark {s : Store} {id i : Nat} {o : OutboxRow} (was : s.outbox.get? i = some o) :
    (s.outboxMark id .applied "" none none).2.outbox.get? i = some (if i = id then repairedRow o else o) := by
  unfold Store.outboxMark
  dsimp only
  rw [get?_modify, was]
  split <;> rfl

/-- A turn for another row leaves this one alone. -/
theorem repairOne_other {i : Nat} {o : OutboxRow} (h : repairOne T adapter toId entry r = (b, r'))
    (was : r.store.outbox.get? i = some o) (apart : i ≠ entry.outboxId) : r'.store.outbox.get? i = some o := by
  rcases repairOne_cases h with ⟨store, _⟩ | ⟨store, _⟩
  · rw [store, was]
  · rw [store, get?_outboxMark was, if_neg apart]

theorem repairEach_other {i : Nat} {o : OutboxRow} (h : repairEach T adapter toId entries r = (b, r'))
    (was : r.store.outbox.get? i = some o) (apart : i ∉ entries.map DeadletterEntry.outboxId) :
    r'.store.outbox.get? i = some o := by
  induction entries generalizing r with
  | nil =>
    cases h
    exact was
  | cons entry rest ih =>
    rw [List.map_cons, List.mem_cons, not_or] at apart
    unfold repairEach at h
    split at h
    next u first =>
      cases h
      exact repairOne_other first was apart.1
    next u first =>
      exact ih h (repairOne_other first was apart.1) apart.2

theorem repairEach_confirmed (h : repairEach T adapter toId entries r = (b, r')) :
    r.confirmed ⊆ r'.confirmed ∧
      ∀ c ∈ r'.confirmed, c ∈ r.confirmed ∨ ∃ entry ∈ entries, c = confirmation T toId entry := by
  induction entries generalizing r with
  | nil =>
    cases h
    exact ⟨List.Subset.refl _, fun c mem => .inl mem⟩
  | cons entry rest ih =>
    have one {u : Repair σ} {done : Bool} (first : repairOne T adapter toId entry r = (done, u)) :
        r.confirmed ⊆ u.confirmed ∧ ∀ c ∈ u.confirmed, c ∈ r.confirmed ∨ c = confirmation T toId entry := by
      rcases repairOne_cases first with ⟨_, confirmed⟩ | ⟨_, confirmed⟩
      · rw [confirmed]
        exact ⟨List.Subset.refl _, fun c mem => .inl mem⟩
      · rw [confirmed]
        exact ⟨List.subset_append_left _ _, fun c mem => by simpa using mem⟩
    unfold repairEach at h
    split at h
    next u first =>
      cases h
      obtain ⟨grows, only⟩ := one first
      refine ⟨grows, fun c mem => (only c mem).imp_right fun is => ?_⟩
      exact ⟨entry, List.mem_cons_self, is⟩
    next u first =>
      obtain ⟨grows, only⟩ := one first
      obtain ⟨later, others⟩ := ih h
      refine ⟨List.Subset.trans grows later, fun c mem => ?_⟩
      rcases others c mem with before | ⟨other, inside, is⟩
      · refine (only c before).imp_right fun is => ?_
        exact ⟨entry, List.mem_cons_self, is⟩
      · exact .inr ⟨other, List.mem_cons_of_mem _ inside, is⟩

theorem repairEach_store (h : repairEach T adapter toId entries r = (b, r')) :
    r'.store = { r.store with outbox := r'.store.outbox } := by
  induction entries generalizing r with
  | nil =>
    cases h
    rfl
  | cons entry rest ih =>
    have one {u : Repair σ} {done : Bool} (first : repairOne T adapter toId entry r = (done, u)) :
        u.store = { r.store with outbox := u.store.outbox } := by
      rcases repairOne_cases first with ⟨store, _⟩ | ⟨store, _⟩
      · rw [store]
      · rw [store]
        rfl
    unfold repairEach at h
    split at h
    next u first =>
      cases h
      exact one first
    next u first =>
      rw [ih h, one first]

/-- A row is left as it is, or it is marked, and then its own entry has been confirmed. -/
theorem repairEach_marks {i : Nat} {o : OutboxRow} (single : (entries.map DeadletterEntry.outboxId).Nodup)
    (h : repairEach T adapter toId entries r = (b, r')) (was : r.store.outbox.get? i = some o) :
    r'.store.outbox.get? i = some o ∨
      (r'.store.outbox.get? i = some (repairedRow o) ∧
        ∃ entry ∈ entries, entry.outboxId = i ∧ confirmation T toId entry ∈ r'.confirmed) := by
  induction entries generalizing r with
  | nil =>
    cases h
    exact .inl was
  | cons entry rest ih =>
    rw [List.map_cons, List.nodup_cons] at single
    have one {u : Repair σ} {done : Bool} (first : repairOne T adapter toId entry r = (done, u)) :
        u.store.outbox.get? i = some o ∨ (i = entry.outboxId ∧ u.store.outbox.get? i = some (repairedRow o) ∧
          confirmation T toId entry ∈ u.confirmed) := by
      rcases repairOne_cases first with ⟨store, _⟩ | ⟨store, confirmed⟩
      · rw [store]
        exact .inl was
      · rw [store, get?_outboxMark was, confirmed]
        by_cases own : i = entry.outboxId
        · rw [if_pos own]
          exact .inr ⟨own, rfl, List.mem_append_right _ List.mem_cons_self⟩
        · rw [if_neg own]
          exact .inl rfl
    unfold repairEach at h
    split at h
    next u first =>
      cases h
      refine (one first).imp_right fun ⟨own, marked, confirmed⟩ => ⟨marked, ?_⟩
      exact ⟨entry, List.mem_cons_self, own.symm, confirmed⟩
    next u first =>
      rcases one first with kept | ⟨own, marked, confirmed⟩
      · refine (ih single.2 h kept).imp_right fun ⟨marked, other, mem, rest⟩ => ⟨marked, ?_⟩
        exact ⟨other, List.mem_cons_of_mem _ mem, rest⟩
      · refine .inr ⟨repairEach_other h marked (own ▸ single.1), entry, List.mem_cons_self, own.symm, ?_⟩
        exact (repairEach_confirmed h).1 confirmed

/-- An adapter that confirms whatever it is asked. -/
def agreeable : RepairAdapter Unit where
  recordConsumerAck _ _ _ w := (.answered true "", w)

theorem repairEach_agreeable {i : Nat} {o : OutboxRow} {r r' : Repair Unit}
    (single : (entries.map DeadletterEntry.outboxId).Nodup) (h : repairEach T agreeable toId entries r = (b, r'))
    (was : r.store.outbox.get? i = some o) (mem : i ∈ entries.map DeadletterEntry.outboxId) :
    r'.store.outbox.get? i = some (repairedRow o) := by
  induction entries generalizing r with
  | nil => cases mem
  | cons entry rest ih =>
    rw [List.map_cons, List.nodup_cons] at single
    unfold repairEach repairOne proveAck agreeable at h
    dsimp only at h
    have first := @get?_outboxMark r.store entry.outboxId i o was
    by_cases own : i = entry.outboxId
    · rw [if_pos own] at first
      exact repairEach_other h first (own ▸ single.1)
    · rw [if_neg own] at first
      rw [List.map_cons, List.mem_cons] at mem
      exact ih single.2 h first (mem.resolve_left own)

theorem outboxBoards_inj {s : Store} {row row' : OutboxRow × String} (mem : row ∈ outboxBoards s)
    (mem' : row' ∈ outboxBoards s) (same : row.1.id = row'.1.id) : row = row' := by
  obtain ⟨o, inside, found⟩ := List.mem_filterMap.mp mem
  obtain ⟨o', inside', found'⟩ := List.mem_filterMap.mp mem'
  obtain ⟨i, instance', rfl⟩ := Option.map_eq_some_iff.mp found
  obtain ⟨i', instance'', rfl⟩ := Option.map_eq_some_iff.mp found'
  cases rowId_inj inside inside' same
  cases instance'.symm.trans instance''
  rfl

/-- The rows that are selected are different deadletters of the channel. -/
theorem selectDeadletters_rows {board : String} {tokens : List String} {ids : List Int} {refs : List String} {s : Store}
    (h : selectDeadletters T board tokens toId ids refs (some s) = .ok entries) :
    ∃ rows : List OutboxRow, rows.Sublist s.outbox.rows ∧ entries = rows.map deadletterEntry ∧
      ∀ o ∈ rows, o.state = .callbackDeadletter ∧ ownChannel T tokens toId o = true := by
  have accepted {row : OutboxRow × String} (h : targetRefused T board tokens toId row = none) :
      row.1.state = .callbackDeadletter ∧ ownChannel T tokens toId row.1 = true := by
    unfold targetRefused at h
    dsimp only at h
    split at h
    · cases h
    split at h
    · cases h
    next state =>
    split at h
    · cases h
    next channel => exact ⟨Decidable.byContradiction state, by simpa using channel⟩
  have fromRows (p : OutboxRow × String → Bool)
      (holds : ∀ row ∈ outboxBoards s, p row = true → targetRefused T board tokens toId row = none) :
      ∃ rows : List OutboxRow, rows.Sublist s.outbox.rows ∧
        ((outboxBoards s).filter p).map (fun row => deadletterEntry row.1) = rows.map deadletterEntry ∧
        ∀ o ∈ rows, o.state = .callbackDeadletter ∧ ownChannel T tokens toId o = true := by
    refine ⟨((outboxBoards s).filter p).map Prod.fst, ?_, by rw [List.map_map]; rfl, fun o mem => ?_⟩
    · have boards : ((outboxBoards s).map Prod.fst).Sublist s.outbox.rows := by
        unfold outboxBoards
        rw [List.map_filterMap]
        have whole : ∀ l : List OutboxRow, (l.filterMap fun row =>
            ((s.getInstance row.continuationId).map fun i => (row, i.board)).map Prod.fst).Sublist l := by
          intro l
          induction l with
          | nil => exact .slnil
          | cons row rest ih =>
            rw [List.filterMap_cons]
            cases s.getInstance row.continuationId with
            | none => exact ih.cons _
            | some i => exact ih.cons_cons _
        exact whole _
      exact (List.filter_sublist.map _).trans boards
    · obtain ⟨row, inside, rfl⟩ := List.mem_map.mp mem
      obtain ⟨inside, taken⟩ := List.mem_filter.mp inside
      exact accepted (holds row inside taken)
  unfold selectDeadletters at h
  dsimp only at h
  split at h
  · split at h
    · cases h
    next agreed =>
      cases h
      refine fromRows _ fun row mem taken => ?_
      obtain ⟨target, inside, same⟩ := List.any_eq_true.mp taken
      have there : target ∈ outboxBoards s := by
        rcases List.mem_append.mp inside with byId' | byRef'
        · obtain ⟨id, _, found⟩ := List.mem_filterMap.mp byId'
          exact List.mem_of_find?_eq_some found
        · obtain ⟨ref, _, found⟩ := List.mem_filterMap.mp byRef'
          exact List.mem_reverse.mp (List.mem_of_find?_eq_some found)
      rw [← outboxBoards_inj there mem (by simpa using same)]
      exact List.findSome?_eq_none_iff.mp (Option.or_eq_none_iff.mp agreed).2 target inside
  · cases h
    exact fromRows _ fun row _ taken => Option.isNone_iff_eq_none.mp taken

end

/-- An endpoint that says the same as another but for its channel. -/
def Renumbered (T : PyText) (toId endpoint sent : String) : Prop :=
  mapOriginToFlags T sent = (mapOriginToFlags T endpoint).map fun flags => { flags with chatId := toId }

/-- What is claimed of a repair, whether it returns or raises. -/
structure RepairedByProof {σ : Type} (T : PyText) (toId : String) (s : Store) (r : Repair σ) : Prop where
  others : r.store = { s with outbox := r.store.outbox }
  rows : ∀ o ∈ s.outbox.rows, r.store.outbox.get? o.id = some o ∨
    (o.state = .callbackDeadletter ∧ r.store.outbox.get? o.id = some (repairedRow o) ∧
      ∃ c ∈ r.confirmed, c.outboxId = o.id ∧ c.operation = o.operation ∧ c.taskId = o.payload.text "task_id" ∧
        c.status = o.payload.text "status" ∧ Renumbered T toId (o.payload.text "endpoint") c.endpoint)

section

variable {T : PyText}

/-- A deadletter of the channel has the flags of a Discord address. -/
theorem ownChannel_flags {fromId toId : String} (valid : validateMigrationInputs T fromId toId = none) {o : OutboxRow}
    (own : ownChannel T (sourceMatchTokens T fromId) (target T toId) o = true) :
    ∃ flags, mapOriginToFlags T (o.payload.text "endpoint") = some flags ∧ flags.platform = "discord" := by
  have channel : (classifyDiscordEndpoint T (o.payload.text "endpoint")).chatId ≠ "" := by
    intro none
    unfold ownChannel at own
    rw [none, List.contains_iff_mem, List.mem_cons] at own
    unfold validateMigrationInputs at valid
    dsimp only at valid
    split at valid
    · cases valid
    next digits =>
    split at valid
    · cases valid
    next some' =>
    rcases own with is | mem
    · rw [← is] at digits
      exact digits rfl
    · unfold sourceMatchTokens at mem
      dsimp only at mem
      split at mem
      · simp [researchSourceAliases] at mem
      · split at mem
        · cases mem
        next filled => exact filled (List.mem_singleton.mp mem).symm
  unfold classifyDiscordEndpoint at channel
  split at channel
  · exact absurd rfl channel
  next flags found =>
    split at channel
    · exact absurd rfl channel
    next discord => exact ⟨flags, found, Decidable.not_not.mp discord⟩

/-- The address that is sent says the same, exactly where the flags can be spelled. -/
theorem numericDiscordEndpoint_renumbered (classes : WordClasses T) {toId endpoint : String}
    (digits : isDigits T toId = true) {flags : OriginFlags} (found : mapOriginToFlags T endpoint = some flags)
    (discord : flags.platform = "discord") :
    Renumbered T toId endpoint (numericDiscordEndpoint T endpoint toId) ↔ Spelled T flags := by
  have sent : numericDiscordEndpoint T endpoint toId = discordAddress toId flags.threadId flags.userId := by
    unfold numericDiscordEndpoint
    rw [found]
    exact if_neg (not_not.mpr discord)
  have meant : { flags with chatId := toId } = ({
      platform := "discord", chatId := toId, threadId := flags.threadId, userId := flags.userId } : OriginFlags) := by
    rw [← discord]
  unfold Renumbered
  rw [sent, found, Option.map_some, meant]
  exact ⟨discordAddress_spelled classes digits, discordAddress_read classes digits⟩

end

/-- Whatever the adapter does, only what it has confirmed is repaired, exactly where every row that is selected waits for
an acknowledgement and its thread and user can be spelled in a compact address. -/
theorem deadletters_repaired_by_proof_iff {T : PyText} (classes : WordClasses T) {board fromId toId : String}
    (valid : validateMigrationInputs T fromId toId = none) {ids : List Int} {refs : List String} {s : Store}
    {entries : List DeadletterEntry}
    (selected : selectDeadletters T board (sourceMatchTokens T fromId) (target T toId) ids refs (some s) = .ok entries) :
    (∀ (σ : Type) (adapter : Option (RepairAdapter σ)) (w : σ),
      RepairedByProof T (target T toId) s (repairCallbackDeadletters T (target T toId) adapter entries s w).2) ↔
    ∀ entry ∈ entries, entry.operation = .recordConsumerAck ∧
      ∀ flags, mapOriginToFlags T entry.endpoint = some flags → Spelled T flags := by
  have digits : isDigits T (target T toId) = true := by
    unfold validateMigrationInputs at valid
    dsimp only at valid
    split at valid
    · cases valid
    next digits => simpa using digits
  obtain ⟨rows, sublist, rfl, taken⟩ := selectDeadletters_rows selected
  have single : ((rows.map deadletterEntry).map DeadletterEntry.outboxId).Nodup := by
    rw [List.map_map]
    have all : (s.outbox.rows.map OutboxRow.id).Nodup := s.outbox.sorted.imp Nat.ne_of_lt
    exact all.sublist (sublist.map _)
  have member {o : OutboxRow} (mem : o ∈ s.outbox.rows) : s.outbox.get? o.id = some o := get?_eq_some.mpr ⟨mem, rfl⟩
  constructor
  · intro holds entry mem
    obtain ⟨o, inside, rfl⟩ := List.mem_map.mp mem
    obtain ⟨dead, own⟩ := taken o inside
    obtain ⟨flags, found, discord⟩ := ownChannel_flags valid own
    have proof := holds Unit (some agreeable) ()
    unfold repairCallbackDeadletters at proof
    rw [if_neg fun empty => by rw [List.isEmpty_iff.mp empty] at mem; cases mem] at proof
    dsimp only at proof
    cases run : repairEach T agreeable (target T toId) (rows.map deadletterEntry) { store := s, world := () } with
    | mk b r =>
      rw [run] at proof
      have marked := repairEach_agreeable (o := o) single run (member (sublist.subset inside)) (List.mem_map_of_mem mem)
      change r.store.outbox.get? o.id = _ at marked
      rcases proof.rows o (sublist.subset inside) with kept | ⟨_, _, c, confirmed, own', operation, _, _, renumbered⟩
      · rw [marked, Option.some.injEq] at kept
        have state := congrArg OutboxRow.state kept
        rw [dead] at state
        cases state
      · obtain ⟨entry, among, rfl⟩ := ((repairEach_confirmed run).2 c confirmed).resolve_left List.not_mem_nil
        have same : entry = deadletterEntry o := List.inj_on_of_nodup_map single among mem own'
        subst same
        refine ⟨operation.symm, fun flags' found' => ?_⟩
        cases found.symm.trans found'
        exact (numericDiscordEndpoint_renumbered classes digits found discord).mp renumbered
  · intro met σ adapter w
    have idle : RepairedByProof T (target T toId) s ({ store := s, world := w } : Repair σ) :=
      ⟨rfl, fun o mem => .inl (member mem)⟩
    unfold repairCallbackDeadletters
    split
    · exact idle
    · cases adapter with
      | none => exact idle
      | some adapter =>
        dsimp only
        cases run : repairEach T adapter (target T toId) (rows.map deadletterEntry) { store := s, world := w } with
        | mk b r =>
          refine ⟨repairEach_store run, fun o mem => (repairEach_marks single run (member mem)).imp_right ?_⟩
          rintro ⟨marked, entry, among, own, confirmed⟩
          obtain ⟨o', inside, rfl⟩ := List.mem_map.mp among
          have same : o' = o := rowId_inj (sublist.subset inside) mem own
          subst same
          obtain ⟨dead, channel⟩ := taken o' inside
          obtain ⟨operation, spelled⟩ := met _ among
          obtain ⟨flags, found, discord⟩ := ownChannel_flags valid channel
          refine ⟨dead, marked, _, confirmed, rfl, operation.symm, rfl, rfl, ?_⟩
          exact (numericDiscordEndpoint_renumbered classes digits found discord).mpr (spelled flags found)

theorem asciiText_classes : WordClasses asciiText where
  digit c h := by
    simp only [asciiText, Char.isAlphanum] at h ⊢
    rw [h]
    simp
  space c h := by
    have control : ∀ n < 33, asciiText.isWord (Char.ofNat n) = false := by decide
    rw [← Bool.not_eq_true]
    intro blank
    simp only [asciiText, Bool.or_eq_true, Bool.and_eq_true, beq_iff_eq, decide_eq_true_eq] at blank
    have low : c.toNat < 33 := by
      rcases blank with rfl | ⟨_, upper⟩
      · decide
      · rw [Char.le_def, UInt32.le_iff_toNat_le] at upper
        exact Nat.lt_of_le_of_lt upper (by decide)
    rw [← Char.ofNat_toNat c, control _ low] at h
    cases h
  colon := rfl
  hash := rfl
  letter := rfl

/-- A board with one deadletter. -/
def deadletterStore (operation : Operation) (endpoint : String) : Store :=
  let s := (Store.empty.createInstance { board := "main", sourceTaskId := "t1", sourceEventId := "e1" }).2
  let row : Store.NewOutbox :=
    ⟨none, operation, [("task_id", .str "t1"), ("status", .str "resumed"), ("endpoint", .str endpoint)], "k"⟩
  ((s.outboxEnqueue 1 row).2.outboxMark 1 .callbackDeadletter "" none none).2

theorem deadletters_repaired_by_proof_ack :
    (∀ (σ : Type) (adapter : Option (RepairAdapter σ)) (w : σ),
      RepairedByProof asciiText (target asciiText "123") (deadletterStore .recordConsumerAck "discord:#research:7")
        (repairCallbackDeadletters asciiText (target asciiText "123") adapter
          [{ outboxId := 1, idempotencyKey := "k", operation := .recordConsumerAck, taskId := "t1", status := "resumed"
             endpoint := "discord:#research:7" }] (deadletterStore .recordConsumerAck "discord:#research:7") w).2) ↔
    ∀ entry ∈ [({ outboxId := 1, idempotencyKey := "k", operation := .recordConsumerAck, taskId := "t1"
                  status := "resumed", endpoint := "discord:#research:7" } : DeadletterEntry)],
      entry.operation = .recordConsumerAck ∧
        ∀ flags, mapOriginToFlags asciiText entry.endpoint = some flags → Spelled asciiText flags :=
  @deadletters_repaired_by_proof_iff asciiText asciiText_classes "main" "#research" "123" (by decide) [] [] _ _ (by rfl)

/-- A wake that was never delivered is settled by an acknowledgement. -/
theorem wake_repaired_by_acknowledgement : ¬∀ (T : PyText), WordClasses T → ∀ (board fromId toId : String),
    validateMigrationInputs T fromId toId = none → ∀ (ids : List Int) (refs : List String) (s : Store)
    (entries : List DeadletterEntry),
    selectDeadletters T board (sourceMatchTokens T fromId) (target T toId) ids refs (some s) = .ok entries →
    ∀ (σ : Type) (adapter : Option (RepairAdapter σ)) (w : σ),
      RepairedByProof T (target T toId) s (repairCallbackDeadletters T (target T toId) adapter entries s w).2 := by
  intro claim
  let s := deadletterStore .scheduleOriginWake "discord:#research"
  have proof := claim asciiText asciiText_classes "main" "#research" "123" (by decide) [] [] s _ (by rfl) Unit
    (some agreeable) ()
  have row : s.outbox.get? 1 = some (Store.markRow .callbackDeadletter "" none none
    ⟨1, 1, none, .scheduleOriginWake, [("task_id", .str "t1"), ("status", .str "resumed"),
      ("endpoint", .str "discord:#research")], "k", .pending, "", 0, 0, ""⟩) := rfl
  obtain ⟨mem, _⟩ := get?_eq_some.mp row
  rcases proof.rows _ mem with kept | ⟨_, _, c, confirmed, _, operation, _⟩
  · have state := congrArg (Option.map OutboxRow.state) kept
    cases state
  · rcases List.mem_singleton.mp confirmed with rfl
    cases operation

end AgentflowHermes.Origins
