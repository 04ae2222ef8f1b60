import AgentflowHermes.BoardEntries
import AgentflowHermes.MaintenanceStore
import AgentflowHermes.RefusalRuns
import AgentflowHermes.ShortTexts
import AgentflowHermes.TextLines
import Mathlib.Data.Set.Function

namespace AgentflowHermes

open RowTable JoinedParts

/-- `sha256(text).hexdigest()[:16]`. -/
def shortDigest (text : String) : String := String.ofList ((Sha256.hexdigest text.toUTF8.toList).toList.take 16)

/-- The keys under which the mutations of a source are filed. -/
inductive SourceKey (digest : String) : String → Prop
  | handler {key : String} (h : HandlerKey digest key) : SourceKey digest key
  | ownerReview : SourceKey digest (ownerReviewKey digest)
  | rerun : SourceKey digest (rerunKey digest)

/-- What a mutation of a source is filed under in a store: one of its keys, or that of the receipt of its owner. -/
def Files (s : Store) (x : NewInstance) (key : String) : Prop :=
  SourceKey (digestOf x) key ∨ ∃ taskId, ∃ r ∈ s.receipts.rows, ∃ i ∈ s.instances.rows,
    i.id = r.continuationId ∧ i.toNewInstance.tuple = x.tuple ∧ key = completeKey taskId r.id

/-- The parts of a source, cut at their colons. -/
def NewInstance.pieces (n : NewInstance) : List (List Char) :=
  JoinedParts.pieces ':' ([n.board, n.sourceTaskId, n.sourceEventId, n.contractRef].map String.toList)

/-- No mutation of one source has a key of the other. -/
def MutationsApart (x y : NewInstance) : Prop := ∀ key, SourceKey (digestOf x) key → ¬SourceKey (digestOf y) key

/-- In no store do mutations of the two sources get the same row. -/
def RowsApart (x y : NewInstance) : Prop :=
  ∀ (s : Store) (i j : Nat) (n m : Store.NewOutbox), Files s x n.idempotencyKey → Files s y m.idempotencyKey →
    (s.outboxEnqueue i n).1.2.id ≠ ((s.outboxEnqueue i n).2.outboxEnqueue j m).1.2.id

section

variable {x y : NewInstance} {d d' key : String}

theorem idempotencyKey_toList (n : NewInstance) : n.idempotencyKey.toList = "continuation:".toList ++
    [':'].intercalate ([n.board, n.sourceTaskId, n.sourceEventId, n.contractRef].map String.toList) := by
  unfold NewInstance.idempotencyKey
  simp [String.toList_append, List.intercalate]

theorem idempotencyKey_iff : x.idempotencyKey = y.idempotencyKey ↔ x.pieces = y.pieces := by
  unfold NewInstance.pieces
  rw [← String.toList_inj, idempotencyKey_toList, idempotencyKey_toList, List.append_cancel_left_eq,
    join_inj_iff (by simp) (by simp)]

/-- Sources without a colon in their parts have the same pieces only if they are the same. -/
theorem pieces_tuple (plain : ∀ p ∈ [x.board, x.sourceTaskId, x.sourceEventId, x.contractRef], ':' ∉ p.toList)
    (plain' : ∀ p ∈ [y.board, y.sourceTaskId, y.sourceEventId, y.contractRef], ':' ∉ p.toList) :
    x.pieces = y.pieces ↔ x.tuple = y.tuple := by
  unfold NewInstance.pieces NewInstance.tuple
  rw [JoinedParts.pieces_plain (by simpa using plain), JoinedParts.pieces_plain (by simpa using plain')]
  simp [String.toList_inj]

theorem hexDigits_length (n : Nat) (w : UInt32) : (Sha256.hexDigits n w).length = n := by
  simp [Sha256.hexDigits]

theorem shortDigest_length (text : String) : (shortDigest text).toList.length = 16 := by
  unfold shortDigest Sha256.hexdigest
  simp [hexDigits_length]

def sourcePrefixes : List String :=
  ["code_fix_fix:", "code_fix_review:", "code_fix_subscribe:" ++ "code_fix_review:",
    "code_fix_consumer_ack:" ++ "code_fix_review:", "semantic_refusal_wake:", "semantic_refusal_consumer_ack:",
    "owner_anchor:", "subscribe:" ++ "owner_anchor:", "materialize:", "review:", "packet_rerun:"]

theorem SourceKey.split (h : SourceKey d key) : ∃ pre ∈ sourcePrefixes, ∃ rest, key = pre ++ (d ++ rest) := by
  have at' (pre rest : String) (mem : pre ∈ sourcePrefixes) (is : key = pre ++ (d ++ rest)) :
      ∃ pre ∈ sourcePrefixes, ∃ rest, key = pre ++ (d ++ rest) := ⟨pre, mem, rest, is⟩
  have bare (pre : String) (mem : pre ∈ sourcePrefixes) (is : key = pre ++ d) :
      ∃ pre ∈ sourcePrefixes, ∃ rest, key = pre ++ (d ++ rest) := by
    refine at' pre "" mem ?_
    rw [is, String.append_empty]
  cases h with
  | handler h =>
    cases h with
    | fix => exact bare "code_fix_fix:" (by decide) rfl
    | review => exact bare "code_fix_review:" (by decide) rfl
    | subscribe endpoint =>
      refine at' ("code_fix_subscribe:" ++ "code_fix_review:") (":" ++ endpoint) (by decide) ?_
      unfold subscribeKey reviewKey
      rw [String.append_assoc, String.append_assoc, String.append_assoc, String.append_assoc]
    | ack endpoint =>
      refine at' ("code_fix_consumer_ack:" ++ "code_fix_review:") (":" ++ endpoint) (by decide) ?_
      unfold consumerAckKey reviewKey
      rw [String.append_assoc, String.append_assoc, String.append_assoc, String.append_assoc]
    | wake endpoint =>
      refine at' "semantic_refusal_wake:" (":" ++ endpoint) (by decide) ?_
      unfold wakeKey
      rw [String.append_assoc, String.append_assoc]
    | refusalAck endpoint =>
      refine at' "semantic_refusal_consumer_ack:" (":" ++ endpoint) (by decide) ?_
      unfold refusalAckKey
      rw [String.append_assoc, String.append_assoc]
    | anchor => exact bare "owner_anchor:" (by decide) rfl
    | anchorSubscribe origin =>
      refine at' ("subscribe:" ++ "owner_anchor:") (":" ++ origin) (by decide) ?_
      unfold anchorSubscribeKey anchorKey
      rw [String.append_assoc, String.append_assoc, String.append_assoc, String.append_assoc]
    | materialize => exact bare "materialize:" (by decide) rfl
  | ownerReview => exact bare "review:" (by decide) rfl
  | rerun => exact bare "packet_rerun:" (by decide) rfl

/-- None of the prefixes opens another, nor the key of a receipt. -/
theorem sourcePrefixes_apart : ∀ pre ∈ "complete_owner_anchor:" :: sourcePrefixes,
    ∀ pre' ∈ "complete_owner_anchor:" :: sourcePrefixes,
      pre = pre' ∨ ((pre.toList.zip pre'.toList).any fun p => p.1 != p.2) = true := by decide

theorem prefixed_eq {pre pre' a b : String} (mem : pre ∈ "complete_owner_anchor:" :: sourcePrefixes)
    (mem' : pre' ∈ "complete_owner_anchor:" :: sourcePrefixes) (same : pre ++ a = pre' ++ b) : pre = pre' ∧ a = b := by
  rcases sourcePrefixes_apart pre mem pre' mem' with rfl | apart
  · exact ⟨rfl, String.append_right_inj pre |>.mp same⟩
  · exact absurd same (append_ne a b apart)

/-- A key of two digests of one length says that they are the same. -/
theorem SourceKey.digest_eq (length : d.toList.length = d'.toList.length) (h : SourceKey d key) (h' : SourceKey d' key) :
    d = d' := by
  obtain ⟨pre, mem, rest, rfl⟩ := h.split
  obtain ⟨pre', mem', rest', same⟩ := h'.split
  obtain ⟨_, same⟩ := prefixed_eq (List.mem_cons_of_mem _ mem) (List.mem_cons_of_mem _ mem') same
  have texts := congrArg String.toList same
  rw [String.toList_append, String.toList_append] at texts
  exact String.toList_inj.mp (List.append_inj texts length).1

theorem digits_plain (n : Nat) : ':' ∉ (toString n).toList := by
  intro mem
  have digit := Nat.isDigit_of_mem_toDigits (by decide) (by decide) (show ':' ∈ Nat.toDigits 10 n by simpa using mem)
  exact absurd digit (by decide)

theorem toString_toList_inj {n m : Nat} (same : (toString n).toList = (toString m).toList) : n = m := by
  have texts (k : Nat) : (toString k).toList = Nat.toDigits 10 k := by simp
  rw [texts, texts] at same
  have value (k : Nat) := @Nat.ofDigitChars_toDigits 10 k (by decide) (by decide)
  rw [← value n, same, value]

theorem completeKey_receipt {taskId taskId' : String} {n m : Nat} (same : completeKey taskId n = completeKey taskId' m) :
    n = m := by
  have texts (taskId : String) (n : Nat) : (completeKey taskId n).toList =
      [':'].intercalate (["complete_owner_anchor".toList, taskId.toList, "receipt".toList] ++ [(toString n).toList]) := by
    unfold completeKey
    simp [String.toList_append, List.intercalate]
  have joined := congrArg String.toList same
  rw [texts, texts, join_inj_iff (by simp) (by simp)] at joined
  exact toString_toList_inj (last_piece (digits_plain n) (digits_plain m) joined)

theorem completeKey_source {taskId : String} {n : Nat} : ¬SourceKey d (completeKey taskId n) := by
  intro h
  obtain ⟨pre, mem, rest, same⟩ := h.split
  unfold completeKey at same
  rw [String.append_assoc, String.append_assoc] at same
  obtain ⟨rfl, _⟩ := prefixed_eq List.mem_cons_self (List.mem_cons_of_mem _ mem) same
  exact absurd mem (by decide)

theorem digestOf_eq (n : NewInstance) : digestOf n = shortDigest n.idempotencyKey := rfl

theorem digestOf_length (n : NewInstance) : (digestOf n).toList.length = 16 := by
  rw [digestOf_eq]
  exact shortDigest_length _

/-- With a hash that does not confuse their keys, sources have one digest exactly if they have the same pieces. -/
theorem digestOf_iff (injective : Set.InjOn shortDigest {x.idempotencyKey, y.idempotencyKey}) :
    digestOf x = digestOf y ↔ x.pieces = y.pieces := by
  rw [digestOf_eq, digestOf_eq, injective.eq_iff (by simp) (by simp), idempotencyKey_iff]

theorem mutations_apart_iff (injective : Set.InjOn shortDigest {x.idempotencyKey, y.idempotencyKey}) :
    MutationsApart x y ↔ x.pieces ≠ y.pieces := by
  rw [Ne, ← digestOf_iff injective]
  constructor
  · intro apart same
    refine apart (fixKey (digestOf x)) (.handler .fix) ?_
    rw [same]
    exact .handler .fix
  · intro differ key h h'
    exact differ (h.digest_eq ((digestOf_length x).trans (digestOf_length y).symm) h')

theorem outboxOf_enqueued (s : Store) (i : Nat) (n : Store.NewOutbox) :
    (s.outboxEnqueue i n).2.outboxOf n.idempotencyKey = some (s.outboxEnqueue i n).1.2 := by
  rcases s.outboxEnqueue_cases i n with ⟨row, found, answer⟩ | ⟨absent, answer⟩
  · rw [answer]
    exact found
  · rw [answer]
    unfold Store.outboxOf at absent ⊢
    dsimp only
    refine find?_insert.trans ?_
    rw [absent]
    simp [Store.NewOutbox.row]

/-- Mutations get one row exactly if they are filed under one key. -/
theorem shared_row_iff (s : Store) (i j : Nat) (n m : Store.NewOutbox) :
    (s.outboxEnqueue i n).1.2.id = ((s.outboxEnqueue i n).2.outboxEnqueue j m).1.2.id ↔
      n.idempotencyKey = m.idempotencyKey := by
  obtain ⟨mem, own⟩ := outboxEnqueue_row s i n
  have filed := outboxOf_enqueued s i n
  rcases (s.outboxEnqueue i n).2.outboxEnqueue_cases j m with ⟨row, found, answer⟩ | ⟨absent, answer⟩
  · rw [answer]
    have key : row.idempotencyKey = m.idempotencyKey := by simpa using pred_of_find? found
    constructor
    · intro same
      rw [← own, ← key, rowId_inj mem (mem_of_find? found) same]
    · intro same
      rw [same, found] at filed
      rw [← Option.some.inj filed]
  · rw [answer]
    constructor
    · intro same
      have older := (s.outboxEnqueue i n).2.outbox.below _ mem
      exact absurd same (Nat.ne_of_lt older)
    · intro same
      rw [same, absent] at filed
      cases filed

theorem rows_apart_iff (injective : Set.InjOn shortDigest {x.idempotencyKey, y.idempotencyKey}) :
    RowsApart x y ↔ x.pieces ≠ y.pieces := by
  rw [Ne, ← digestOf_iff injective]
  unfold RowsApart
  simp only [Ne, shared_row_iff]
  constructor
  · intro apart same
    refine apart .empty 0 0 ⟨none, .createTask, [], fixKey (digestOf x)⟩ ⟨none, .createTask, [], fixKey (digestOf y)⟩
      (.inl (.handler .fix)) (.inl (.handler .fix)) ?_
    dsimp only
    rw [same]
  · intro differ s _ _ n m filed filed' same
    rw [same] at filed
    rcases filed with own | ⟨taskId, r, mem, i, inside, owner, tuple, is⟩
    · rcases filed' with own' | ⟨taskId', r', _, _, _, _, _, is'⟩
      · exact differ (own.digest_eq ((digestOf_length x).trans (digestOf_length y).symm) own')
      · rw [is'] at own
        exact completeKey_source own
    · rcases filed' with own' | ⟨taskId', r', mem', i', inside', owner', tuple', is'⟩
      · rw [is] at own'
        exact completeKey_source own'
      · have number := completeKey_receipt (is.symm.trans is')
        obtain rfl : r = r' := rowId_inj mem mem' number
        obtain rfl : i = i' := rowId_inj inside inside' (owner.trans owner'.symm)
        exact differ (digestOf_tuple (tuple.symm.trans tuple'))

end

open Maintenance

/-- What a maintenance cycle is of. -/
structure CycleSource where
  repoId : String
  cycleRef : String
  targetUnit : String
  deriving DecidableEq

namespace CycleSource

def key (T : PyText) (c : CycleSource) : String := buildCycleKey T c.repoId c.targetUnit c.cycleRef

/-- The text that a cycle key is made of: its parts, or what stands for the empty ones. -/
def text (c : CycleSource) : String :=
  "maint:cycle:" ++ orElse c.repoId "default" ++ ":" ++ orElse c.cycleRef "nocycle" ++ ":" ++ orElse c.targetUnit "observe"

/-- The text with its white space condensed, up to its 240th character. -/
def condensed (T : PyText) (c : CycleSource) : String := shortText T c.text

end CycleSource

section

variable {T : PyText} {x y : NewInstance} {a b : CycleSource}

theorem shortText_head {s : String} {n : Nat} {c : Char} {cs : List Char} (solid : T.isSpace c = false)
    (hs : s.toList = c :: cs) (hn : 0 < n) : ∃ rest, (shortText T s n).toList = c :: rest := by
  obtain ⟨w, ws, rest⟩ := List.exists_cons_of_ne_nil (List.splitOnP_ne_nil T.isSpace cs)
  obtain ⟨m, rfl⟩ := Nat.exists_eq_succ_of_ne_zero (Nat.ne_of_gt hn)
  have words : s.toList.splitOnP T.isSpace = (c :: w) :: ws := by
    rw [hs, List.splitOnP_cons_eq_if_modifyHead, rest]
    simp [solid]
  rw [shortText_eq, String.toList_ofList]
  unfold wordsOf
  rw [words]
  cases hw : ws.filter fun w => !w.isEmpty <;> simp [hw]

theorem condensed_head (plain : T.Plain) (c : CycleSource) : ∃ rest, (c.condensed T).toList = 'm' :: rest := by
  obtain ⟨rest, opens⟩ : ∃ rest, c.text.toList = 'm' :: rest := by
    unfold CycleSource.text
    simp only [String.toList_append]
    exact ⟨_, rfl⟩
  exact shortText_head (plain 'm' (by decide)) opens (by decide)

theorem hashedRef_inj {s t : String} (injective : Set.InjOn shortDigest {s, t}) : hashedRef s = hashedRef t ↔ s = t := by
  have texts (s : String) : (hashedRef s).toList = "ref:sha256:".toList ++ (shortDigest s).toList := by
    have digest : (shortDigest s).toList = (sha256Hex s).toList.take 16 := by
      unfold shortDigest sha256Hex
      exact String.toList_ofList
    rw [digest]
    unfold hashedRef
    exact String.toList_ofList
  rw [← String.toList_inj, texts, texts, List.append_cancel_left_eq, String.toList_inj]
  exact injective.eq_iff (by simp) (by simp)

theorem safeDurableRef_spelled {v : String} (some : shortText T v ≠ "") : safeDurableRef T v =
    if containsSensitiveText T (shortText T v) || !safeRefText (shortText T v).toList then hashedRef (shortText T v ++ ":")
    else shortText T v := by
  unfold safeDurableRef
  dsimp only
  rw [if_neg some]

theorem cycleKey_eq (c : CycleSource) : c.key T = safeDurableRef T c.text := by
  unfold CycleSource.key buildCycleKey CycleSource.text
  rfl

/-- Cycles have one key exactly if their texts are the same once they are condensed. -/
theorem cycleKey_iff (plain : T.Plain) (injective : Set.InjOn shortDigest {a.condensed T ++ ":", b.condensed T ++ ":"}) :
    a.key T = b.key T ↔ a.condensed T = b.condensed T := by
  have spelled (c : CycleSource) : c.key T =
      if containsSensitiveText T (c.condensed T) || !safeRefText (c.condensed T).toList then
        hashedRef (c.condensed T ++ ":") else c.condensed T := by
    obtain ⟨rest, opens⟩ := condensed_head plain c
    have some : c.condensed T ≠ "" := fun empty => by
      rw [empty] at opens
      cases opens
    rw [cycleKey_eq]
    exact safeDurableRef_spelled some
  have unlike (c d : CycleSource) : hashedRef (c.condensed T ++ ":") ≠ d.condensed T := by
    obtain ⟨rest, opens⟩ := condensed_head plain d
    intro same
    have texts := congrArg String.toList same
    rw [hashedRef_eq, opens] at texts
    cases texts
  rw [spelled, spelled]
  split
  next hidden =>
    split
    next => rw [hashedRef_inj injective, String.append_left_inj]
    next plain' =>
      refine ⟨fun same => absurd same (unlike a b), fun same => ?_⟩
      rw [same] at hidden
      exact absurd hidden plain'
  next shown =>
    split
    next hidden =>
      refine ⟨fun same => absurd same.symm (unlike b a), fun same => ?_⟩
      rw [← same] at hidden
      exact absurd hidden shown
    next => rfl

/-- Sources are told apart by their keys exactly if their parts are cut into different pieces, and cycles exactly if their
condensed texts differ. -/
theorem keys_identify_iff (plain : T.Plain) (injective : Set.InjOn shortDigest {x.idempotencyKey, y.idempotencyKey})
    (injective' : Set.InjOn shortDigest {a.condensed T ++ ":", b.condensed T ++ ":"}) :
    (x.idempotencyKey ≠ y.idempotencyKey ↔ x.pieces ≠ y.pieces) ∧ (MutationsApart x y ↔ x.pieces ≠ y.pieces) ∧
      (RowsApart x y ↔ x.pieces ≠ y.pieces) ∧ (a.key T ≠ b.key T ↔ a.condensed T ≠ b.condensed T) :=
  ⟨not_congr idempotencyKey_iff, mutations_apart_iff injective, rows_apart_iff injective,
    not_congr (cycleKey_iff plain injective')⟩

theorem injOn_pair {s t : String} (differ : shortDigest s ≠ shortDigest t) : Set.InjOn shortDigest {s, t} := by
  rintro u (rfl | rfl) v (rfl | rfl) same
  · rfl
  · exact absurd same differ
  · exact absurd same.symm differ
  · rfl

theorem keys_identify_plain :
    let x : NewInstance := { board := "main", sourceTaskId := "t1", sourceEventId := "1" }
    let y : NewInstance := { board := "main", sourceTaskId := "t2", sourceEventId := "1" }
    let a : CycleSource := ⟨"repo", "c1", "unit"⟩
    let b : CycleSource := ⟨"repo", "c2", "unit"⟩
    (x.idempotencyKey ≠ y.idempotencyKey ↔ x.pieces ≠ y.pieces) ∧ (MutationsApart x y ↔ x.pieces ≠ y.pieces) ∧
      (RowsApart x y ↔ x.pieces ≠ y.pieces) ∧
      (a.key asciiText ≠ b.key asciiText ↔ a.condensed asciiText ≠ b.condensed asciiText) := by
  intro x y a b
  have sources : shortDigest x.idempotencyKey ≠ shortDigest y.idempotencyKey := by decide +kernel
  have cycles : shortDigest (a.condensed asciiText ++ ":") ≠ shortDigest (b.condensed asciiText ++ ":") := by
    decide +kernel
  exact keys_identify_iff asciiText_plain (injOn_pair sources) (injOn_pair cycles)

/-- A colon may stand in a board or in a task, and a repository without a name is called `default`. -/
theorem colon_confuses_keys : ¬∀ (T : PyText), T.Plain → ∀ (x y : NewInstance) (a b : CycleSource), x.tuple ≠ y.tuple → a ≠ b →
    Set.InjOn shortDigest {x.idempotencyKey, y.idempotencyKey} →
    Set.InjOn shortDigest {a.condensed T ++ ":", b.condensed T ++ ":"} →
      x.idempotencyKey ≠ y.idempotencyKey ∧ MutationsApart x y ∧ RowsApart x y ∧ a.key T ≠ b.key T := by
  intro claim
  let x : NewInstance := { board := "a:b", sourceTaskId := "c", sourceEventId := "1" }
  let y : NewInstance := { board := "a", sourceTaskId := "b:c", sourceEventId := "1" }
  let a : CycleSource := ⟨"repo", "c1", "unit"⟩
  let b : CycleSource := ⟨"repo", "c1:", "unit"⟩
  have same : x.idempotencyKey = y.idempotencyKey := by decide
  have cycles : shortDigest (a.condensed asciiText ++ ":") ≠ shortDigest (b.condensed asciiText ++ ":") := by
    decide +kernel
  have one : Set.InjOn shortDigest {x.idempotencyKey, y.idempotencyKey} := by
    rw [same, Set.pair_eq_singleton]
    exact Set.injOn_singleton _ _
  exact (claim asciiText asciiText_plain x y a b (by decide) (by decide) one (injOn_pair cycles)).1 same

end

end AgentflowHermes
