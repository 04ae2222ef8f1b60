import AgentflowHermes.DiscordOrigins
import Mathlib.Data.List.Find
import Mathlib.Data.List.Nodup

namespace AgentflowHermes.Origins

open ScriptRuns

/-- The columns of the primary key. -/
def ReceiptRow.key (r : ReceiptRow) : String × String × String × Option String :=
  (r.taskId, r.platform, r.chatId, r.threadId)

/-- The primary key of `kanban_notify_receipts`. -/
def BoardDb.Keyed (db : BoardDb) : Prop := (db.receipts.map ReceiptRow.key).Nodup

/-- What is known under a task, a Discord channel and a thread. -/
def BoardDb.factsAt (db : BoardDb) (lane : String × String) (chatId : String) : Option Facts :=
  (db.receipts.find? (·.hasKey lane.1 chatId lane.2)).map ReceiptRow.facts

section

variable {db : BoardDb} {lane other : String × String} {chat token dst : String}

theorem hasKey_iff {r : ReceiptRow} :
    r.hasKey lane.1 chat lane.2 = true ↔ r.key = (lane.1, "discord", chat, some lane.2) := by
  unfold ReceiptRow.hasKey ReceiptRow.discord ReceiptRow.key
  simp only [Bool.and_eq_true, decide_eq_true_eq, Prod.mk.injEq]
  tauto

theorem hasKey_unique {r : ReceiptRow} {chat' : String} (h : r.hasKey lane.1 chat lane.2 = true)
    (h' : r.hasKey other.1 chat' other.2 = true) : other = lane ∧ chat' = chat := by
  have same := (hasKey_iff.mp h').symm.trans (hasKey_iff.mp h)
  simp only [Prod.mk.injEq, true_and, Option.some.injEq] at same
  exact ⟨Prod.ext same.1 same.2.2, same.2.1⟩

theorem receiptRowDict_eq :
    db.receiptRowDict lane.1 chat lane.2 = (db.factsAt lane chat).map (Facts.within db.receiptCols) := by
  unfold BoardDb.receiptRowDict BoardDb.factsAt
  rw [Option.map_map]
  rfl

theorem factsAt_none (h : db.factsAt lane chat = none) {r : ReceiptRow} (mem : r ∈ db.receipts) :
    r.hasKey lane.1 chat lane.2 = false := by
  unfold BoardDb.factsAt at h
  have absent := List.find?_eq_none.mp (Option.map_eq_none_iff.mp h) r mem
  simpa using absent

/-- Under the primary key, a row is found under its own key. -/
theorem factsAt_of_mem (keyed : db.Keyed) {r : ReceiptRow} (mem : r ∈ db.receipts)
    (h : r.hasKey lane.1 chat lane.2 = true) : db.receipts.find? (·.hasKey lane.1 chat lane.2) = some r := by
  cases found : db.receipts.find? (·.hasKey lane.1 chat lane.2) with
  | none =>
    have absent := List.find?_eq_none.mp found r mem
    exact absurd h absent
  | some s =>
    have has := List.find?_some found
    have inside := List.mem_of_find?_eq_some found
    have same := (hasKey_iff.mp has).trans (hasKey_iff.mp h).symm
    rw [List.inj_on_of_nodup_map keyed inside mem same]

/-- The receipt is put in the place of the channel's own, which is empty. -/
theorem factsAt_rekey (apart : token ≠ dst) (empty : db.factsAt lane dst = none) :
    ((BoardWrite.rekey dst lane.1 token lane.2).apply db).factsAt other chat =
      if other = lane ∧ chat = token then none
      else if other = lane ∧ chat = dst then db.factsAt lane token
      else db.factsAt other chat := by
  unfold BoardDb.factsAt BoardWrite.apply
  dsimp only
  rw [List.find?_map, Option.map_map]
  have facts : (ReceiptRow.facts ∘ fun r => if r.hasKey lane.1 token lane.2 then { r with chatId := dst } else r) =
      ReceiptRow.facts := by
    funext r
    dsimp only [Function.comp]
    split <;> rfl
  rw [facts]
  have moved {r : ReceiptRow} (h : r.hasKey lane.1 token lane.2 = true) :
      ReceiptRow.hasKey lane.1 dst lane.2 { r with chatId := dst } = true := by
    rw [hasKey_iff] at h ⊢
    simp only [ReceiptRow.key, Prod.mk.injEq] at h ⊢
    exact ⟨h.1, h.2.1, trivial, h.2.2.2⟩
  by_cases source : other = lane ∧ chat = token
  · obtain ⟨rfl, rfl⟩ := source
    rw [if_pos ⟨rfl, rfl⟩, Option.map_eq_none_iff, List.find?_eq_none]
    intro r _
    dsimp only [Function.comp]
    split
    next has =>
      intro both
      exact apart (hasKey_unique (moved has) both).2
    next has => exact has
  · rw [if_neg source]
    by_cases goal : other = lane ∧ chat = dst
    · obtain ⟨rfl, rfl⟩ := goal
      rw [if_pos ⟨rfl, rfl⟩]
      congr 1
      refine List.find?_congr fun r mem => ?_
      dsimp only [Function.comp]
      split
      next has => rw [moved has, has]
      next has =>
        rw [factsAt_none empty mem]
        simpa using has
    · rw [if_neg goal]
      congr 1
      refine List.find?_congr fun r mem => ?_
      dsimp only [Function.comp]
      split
      next has =>
        have before : r.hasKey other.1 chat other.2 = false := by
          rw [Bool.eq_false_iff]
          intro there
          exact source (hasKey_unique has there)
        rw [before, Bool.eq_false_iff]
        intro there
        exact goal (hasKey_unique (moved has) there)
      next => rfl

theorem factsAt_setFacts {merged : Merged} :
    ((BoardWrite.setFacts lane.1 dst lane.2 merged).apply db).factsAt other chat =
      if other = lane ∧ chat = dst then (db.factsAt lane dst).map (Facts.set db.receiptCols merged)
      else db.factsAt other chat := by
  unfold BoardDb.factsAt BoardWrite.apply
  dsimp only
  rw [List.find?_map]
  have keys : ((fun r : ReceiptRow => r.hasKey other.1 chat other.2) ∘ fun r : ReceiptRow =>
      if r.hasKey lane.1 dst lane.2 then { r with facts := r.facts.set db.receiptCols merged } else r) =
      fun r => r.hasKey other.1 chat other.2 := by
    funext r
    dsimp only [Function.comp]
    split <;> rfl
  rw [keys]
  by_cases goal : other = lane ∧ chat = dst
  · obtain ⟨rfl, rfl⟩ := goal
    rw [if_pos ⟨rfl, rfl⟩]
    cases found : db.receipts.find? fun r => r.hasKey other.1 chat other.2 with
    | none => rfl
    | some r =>
      have has := List.find?_some found
      simp [has]
  · rw [if_neg goal]
    cases found : db.receipts.find? fun r => r.hasKey other.1 chat other.2 with
    | none => rfl
    | some r =>
      have has := List.find?_some found
      have apart : ¬r.hasKey lane.1 dst lane.2 = true := fun there => goal (hasKey_unique there has)
      simp [apart]

theorem factsAt_deleteReceipt :
    ((BoardWrite.deleteReceipt lane.1 token lane.2).apply db).factsAt other chat =
      if other = lane ∧ chat = token then none else db.factsAt other chat := by
  unfold BoardDb.factsAt BoardWrite.apply
  dsimp only
  rw [List.find?_filter]
  by_cases goal : other = lane ∧ chat = token
  · obtain ⟨rfl, rfl⟩ := goal
    rw [if_pos ⟨rfl, rfl⟩, Option.map_eq_none_iff, List.find?_eq_none]
    intro r _
    simp
  · rw [if_neg goal]
    congr 1
    refine List.find?_congr fun r mem => ?_
    cases has : r.hasKey other.1 chat other.2 with
    | false => simp
    | true =>
      have apart : r.hasKey lane.1 token lane.2 = false := by
        rw [Bool.eq_false_iff]
        exact fun there => goal (hasKey_unique there has)
      simp [apart]

end

/-- What is to be done with a receipt that stands under a source channel and maybe under the target. -/
def planAction (parseInt : String → Option Int) (cols : List MergeCol) (lane : String × String)
    (source target : Option Facts) : Except MigrationError Action :=
  match target with
  | none => .ok .rekey
  | some d =>
    (mergeReceiptFacts parseInt lane.1 lane.2 ((source.map (Facts.within cols)).getD {}) (d.within cols)).map .merge

/-- What an action leaves under the target. -/
def Action.result (cols : List MergeCol) (a : Action) (source target : Option Facts) : Option Facts :=
  match a with
  | .rekey => source
  | .merge merged => target.map (Facts.set cols merged)

/-- What one turn of the loop over the receipts of a source channel does. -/
structure ReceiptMoved (parseInt : String → Option Int) (dst token : String) (lane : String × String) (a : Action)
    (t t' : Txn) : Prop where
  planned : planAction parseInt t.db.receiptCols lane (t.db.factsAt lane token) (t.db.factsAt lane dst) = .ok a
  acted : t'.actions = t.actions ++ [{ taskId := lane.1, fromChatId := token, threadId := lane.2, action := a }]
  result : t'.db.factsAt lane dst = a.result t.db.receiptCols (t.db.factsAt lane token) (t.db.factsAt lane dst)
  source : t'.db.factsAt lane token = none
  frame : ∀ other chat, ¬(other = lane ∧ (chat = token ∨ chat = dst)) →
    t'.db.factsAt other chat = t.db.factsAt other chat
  keeps : t'.db.origins = t.db.origins ∧ t'.db.receiptCols = t.db.receiptCols ∧ t'.db.subs = t.db.subs
  kept : ∀ p : ReceiptRow → Bool,
    (∀ r, p r = true → r.hasKey lane.1 token lane.2 = false ∧ r.hasKey lane.1 dst lane.2 = false) →
      t'.db.receipts.filter p = t.db.receipts.filter p
  keyed : t.db.Keyed → t'.db.Keyed

section

variable {parseInt : String → Option Int} {env : BoardEnv} {db db' : BoardDb} {token dst : String} {lane : String × String}

theorem execute_ok {w : BoardWrite} (h : execute env w db = .ok db') : db' = w.apply db := by
  unfold execute at h
  split at h
  · cases h
  · cases h
    rfl

theorem filter_map_kept {α : Type} {p : α → Bool} {g : α → α} {l : List α} (same : ∀ x, p x = true → g x = x)
    (out : ∀ x, p x = false → p (g x) = false) : (l.map g).filter p = l.filter p := by
  induction l with
  | nil => rfl
  | cons x rest ih =>
    rw [List.map_cons]
    cases hx : p x with
    | true => rw [same x hx, List.filter_cons_of_pos hx, List.filter_cons_of_pos hx, ih]
    | false =>
      have off : ¬p x = true := by simp [hx]
      have off' : ¬p (g x) = true := by simp [out x hx]
      rw [List.filter_cons_of_neg off, List.filter_cons_of_neg off', ih]

theorem rekey_kept {p : ReceiptRow → Bool}
    (h : ∀ r, p r = true → r.hasKey lane.1 token lane.2 = false ∧ r.hasKey lane.1 dst lane.2 = false) :
    ((BoardWrite.rekey dst lane.1 token lane.2).apply db).receipts.filter p = db.receipts.filter p := by
  refine filter_map_kept (fun r inside => ?_) fun r outside => ?_
  · have apart := (h r inside).1
    exact if_neg (by simp [apart])
  · split
    next has =>
      rw [Bool.eq_false_iff]
      intro inside
      have apart := (h _ inside).2
      rw [Bool.eq_false_iff] at apart
      refine apart (hasKey_iff.mpr ?_)
      rw [hasKey_iff] at has
      simp only [ReceiptRow.key, Prod.mk.injEq] at has ⊢
      exact ⟨has.1, has.2.1, trivial, has.2.2.2⟩
    · exact outside

theorem setFacts_kept {p : ReceiptRow → Bool} {merged : Merged} (h : ∀ r, p r = true → r.hasKey lane.1 dst lane.2 = false) :
    ((BoardWrite.setFacts lane.1 dst lane.2 merged).apply db).receipts.filter p = db.receipts.filter p := by
  refine filter_map_kept (fun r inside => ?_) fun r outside => ?_
  · have apart := h r inside
    exact if_neg (by simp [apart])
  · split
    next has =>
      rw [Bool.eq_false_iff]
      intro inside
      have apart := h _ inside
      rw [Bool.eq_false_iff] at apart
      exact apart has
    · exact outside

theorem deleteReceipt_kept {p : ReceiptRow → Bool} (h : ∀ r, p r = true → r.hasKey lane.1 token lane.2 = false) :
    ((BoardWrite.deleteReceipt lane.1 token lane.2).apply db).receipts.filter p = db.receipts.filter p := by
  unfold BoardWrite.apply
  dsimp only
  rw [List.filter_filter]
  refine List.filter_congr fun r _ => ?_
  cases inside : p r with
  | false => rfl
  | true => rw [h r inside, Bool.not_false, Bool.and_self]

theorem rekey_keyed (empty : db.factsAt lane dst = none) (keyed : db.Keyed) :
    ((BoardWrite.rekey dst lane.1 token lane.2).apply db).Keyed := by
  unfold BoardDb.Keyed BoardWrite.apply
  rw [List.map_map]
  have own : db.receipts.Nodup := List.Nodup.of_map _ keyed
  refine List.Nodup.map_on (fun r hr s hs same => ?_) own
  have back (x : ReceiptRow) (mem : x ∈ db.receipts) : x.key ≠ (lane.1, "discord", dst, some lane.2) := by
    intro is
    have none := factsAt_none empty mem
    rw [hasKey_iff.mpr is] at none
    cases none
  have moved {x : ReceiptRow} (has : x.hasKey lane.1 token lane.2 = true) :
      ReceiptRow.key { x with chatId := dst } = (lane.1, "discord", dst, some lane.2) := by
    rw [hasKey_iff] at has
    simp only [ReceiptRow.key, Prod.mk.injEq] at has ⊢
    exact ⟨has.1, has.2.1, trivial, has.2.2.2⟩
  dsimp only [Function.comp] at same
  by_cases hr' : r.hasKey lane.1 token lane.2 = true
  · by_cases hs' : s.hasKey lane.1 token lane.2 = true
    · exact List.inj_on_of_nodup_map keyed hr hs ((hasKey_iff.mp hr').trans (hasKey_iff.mp hs').symm)
    · rw [if_pos hr', if_neg hs', moved hr'] at same
      exact absurd same.symm (back s hs)
  · by_cases hs' : s.hasKey lane.1 token lane.2 = true
    · rw [if_neg hr', if_pos hs', moved hs'] at same
      exact absurd same (back r hr)
    · rw [if_neg hr', if_neg hs'] at same
      exact List.inj_on_of_nodup_map keyed hr hs same

theorem setFacts_keyed {merged : Merged} (keyed : db.Keyed) :
    ((BoardWrite.setFacts lane.1 dst lane.2 merged).apply db).Keyed := by
  unfold BoardDb.Keyed BoardWrite.apply at *
  rw [List.map_map]
  have same : (ReceiptRow.key ∘ fun r : ReceiptRow =>
      if r.hasKey lane.1 dst lane.2 then { r with facts := r.facts.set db.receiptCols merged } else r) =
      ReceiptRow.key := by
    funext r
    dsimp only [Function.comp]
    split <;> rfl
  rw [same]
  exact keyed

theorem deleteReceipt_keyed (keyed : db.Keyed) : ((BoardWrite.deleteReceipt lane.1 token lane.2).apply db).Keyed :=
  keyed.sublist (List.filter_sublist.map _)

theorem migrateReceipt_moves {t t' : Txn} {key : String × Option String} (apart : token ≠ dst)
    (h : migrateReceipt parseInt env dst token key t = .ok t') :
    ∃ a, ReceiptMoved parseInt dst token (key.1, threadText key.2) a t t' := by
  unfold migrateReceipt at h
  dsimp only at h
  have dict (chat : String) := @receiptRowDict_eq t.db (key.1, threadText key.2) chat
  dsimp only at dict
  rw [dict, dict] at h
  generalize hl : (key.1, threadText key.2) = lane at *
  have one : key.1 = lane.1 := by rw [← hl]
  have two : threadText key.2 = lane.2 := by rw [← hl]
  rw [one, two] at h
  cases target : t.db.factsAt lane dst with
  | none =>
    rw [target, Option.map_none] at h
    dsimp only at h
    cases written : execute env (.rekey dst lane.1 token lane.2) t.db with
    | error e =>
      rw [written] at h
      cases h
    | ok db =>
      rw [written] at h
      cases h
      have same := execute_ok written
      subst same
      refine ⟨.rekey, ?_, rfl, ?_, ?_, fun other chat off => ?_, ⟨rfl, rfl, rfl⟩, fun p out => rekey_kept out,
        rekey_keyed target⟩
      · unfold planAction
        rw [target]
      · rw [factsAt_rekey apart target, if_neg (fun both => apart both.2.symm), if_pos ⟨rfl, rfl⟩]
        rfl
      · rw [factsAt_rekey apart target, if_pos ⟨rfl, rfl⟩]
      · rw [factsAt_rekey apart target, if_neg (fun both => off ⟨both.1, .inl both.2⟩),
          if_neg (fun both => off ⟨both.1, .inr both.2⟩)]
  | some d =>
    rw [target, Option.map_some] at h
    dsimp only at h
    cases merging : mergeReceiptFacts parseInt lane.1 lane.2
        (((t.db.factsAt lane token).map (Facts.within t.db.receiptCols)).getD {}) (d.within t.db.receiptCols) with
    | error e =>
      rw [merging] at h
      cases h
    | ok merged =>
      rw [merging] at h
      dsimp only [bind, Except.bind] at h
      cases first : execute env (.setFacts lane.1 dst lane.2 merged) t.db with
      | error e =>
        rw [first] at h
        cases h
      | ok db =>
        rw [first] at h
        dsimp only at h
        cases second : execute env (.deleteReceipt lane.1 token lane.2) db with
        | error e =>
          rw [second] at h
          cases h
        | ok db' =>
          rw [second] at h
          cases h
          have same := execute_ok second
          subst same
          have same := execute_ok first
          subst same
          refine ⟨.merge merged, ?_, rfl, ?_, ?_, fun other chat off => ?_, ⟨rfl, rfl, rfl⟩, fun p out => ?_,
            fun keyed => deleteReceipt_keyed (setFacts_keyed keyed)⟩
          · unfold planAction
            rw [target]
            dsimp only
            rw [merging]
            rfl
          · rw [factsAt_deleteReceipt, if_neg (fun both => apart both.2.symm), factsAt_setFacts, if_pos ⟨rfl, rfl⟩, target]
            rfl
          · rw [factsAt_deleteReceipt, if_pos ⟨rfl, rfl⟩]
          · rw [factsAt_deleteReceipt, if_neg (fun both => off ⟨both.1, .inl both.2⟩), factsAt_setFacts,
              if_neg (fun both => off ⟨both.1, .inr both.2⟩)]
          · rw [deleteReceipt_kept fun r inside => (out r inside).1, setFacts_kept fun r inside => (out r inside).2]

end

end AgentflowHermes.Origins
