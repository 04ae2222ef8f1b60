import AgentflowHermes.ReplyMembers

namespace AgentflowHermes

open CrashProgram RowTable

section

variable {T : ReplyText} {args : ReplyArgs} {ok : ∀ q, Response q → Prop} {s t : Store}

/-- The value that is recorded for a field of a continuation. -/
def Store.satisfiedValue (s : Store) (x : Nat) (name : String) : Option Json :=
  (s.satisfactions.find? fun r => r.continuationId == x && r.fieldName == name).map Satisfaction.value

theorem satisfiedValue_record (x y : Nat) (name n : String) (value : Json) (kind ref policy : String) :
    (s.recordSatisfaction x name value kind ref policy).satisfiedValue y n =
      if y = x ∧ n = name then some value else s.satisfiedValue y n := by
  unfold Store.satisfiedValue Store.recordSatisfaction
  dsimp only
  split
  next old hold =>
    have howns := pred_of_find? hold
    simp only [Bool.and_eq_true, beq_iff_eq] at howns
    let rewritten (r : Satisfaction) : Satisfaction :=
      { r with value := value, sourceKind := kind, sourceRef := ref, policyId := policy }
    have found : (s.satisfactions.modify old.id rewritten (fun _ => rfl)).find?
        (fun r => r.continuationId == y && r.fieldName == n) =
        (s.satisfactions.find? fun r => r.continuationId == y && r.fieldName == n).map fun r =>
          if Keyed.rowId r = old.id then rewritten r else r := find?_modify fun _ _ => rfl
    refine (congrArg (Option.map Satisfaction.value) found).trans ?_
    by_cases hkey : y = x ∧ n = name
    · obtain ⟨rfl, rfl⟩ := hkey
      rw [if_pos ⟨rfl, rfl⟩, hold]
      simp [rewritten]
    · rw [if_neg hkey]
      cases hf : s.satisfactions.find? fun r => r.continuationId == y && r.fieldName == n with
      | none => rfl
      | some r =>
        have own := pred_of_find? hf
        simp only [Bool.and_eq_true, beq_iff_eq] at own
        have hne : ¬Keyed.rowId r = old.id := by
          intro hid
          obtain rfl : r = old := rowId_inj (mem_of_find? hf) (mem_of_find? hold) hid
          exact hkey ⟨own.1.symm.trans howns.1, own.2.symm.trans howns.2⟩
        simp only [Option.map_some, if_neg hne]
  next hnone =>
    refine (congrArg (Option.map Satisfaction.value) find?_insert).trans ?_
    by_cases hkey : y = x ∧ n = name
    · obtain ⟨rfl, rfl⟩ := hkey
      rw [hnone]
      simp
    · have other : ¬(x == y && name == n) = true := by
        simp only [Bool.and_eq_true, beq_iff_eq]
        exact fun both => hkey ⟨both.1.symm, both.2.symm⟩
      rw [if_neg hkey, if_neg other, Option.or_none]

/-- The values of a reply are recorded for its member, and nothing else is. -/
structure Recorded (r : MemberReply) (s t : Store) : Prop where
  values : ∀ f ∈ r.fields, t.satisfiedValue r.continuationId f.1 = some f.2
  others : ∀ name, name ∉ r.fields.map Prod.fst →
    t.satisfiedValue r.continuationId name = s.satisfiedValue r.continuationId name

/-- Writing values leaves the continuations and the cases alone, and the values of other continuations. -/
structure ValuesWritten (ids : List Nat) (s t : Store) : Prop where
  gate : ∀ x, t.gate x = s.gate x
  cases : t.cases = s.cases
  others : ∀ y, y ∉ ids → ∀ name, t.satisfiedValue y name = s.satisfiedValue y name

theorem wp_recordFields {x : Nat} {fields : List (String × Json)} (distinct : (fields.map Prod.fst).Nodup) :
    wp (quietTerms ok fun _ _ => True)
      (Prog.forEach (fun v : String × Json => SemanticRefusalHandler.recordSatisfaction x v.1 v.2 "current_owner_reply" "" "") fields)
      (fun _ t => ValuesWritten [x] s t ∧ (∀ f ∈ fields, t.satisfiedValue x f.1 = some f.2) ∧
        ∀ name, name ∉ fields.map Prod.fst → t.satisfiedValue x name = s.satisfiedValue x name) s := by
  induction fields generalizing s with
  | nil =>
    exact ⟨trivial, ⟨fun _ => rfl, rfl, fun _ _ _ => rfl⟩, fun _ hf => absurd hf List.not_mem_nil, fun _ _ => rfl⟩
  | cons f rest ih =>
    obtain ⟨fresh, distinct⟩ := List.nodup_cons.mp distinct
    have first := satisfiedValue_record (s := s) x
    refine wp_bind.mpr ⟨trivial, trivial, trivial, wp_bind.mpr (wp_mono (ih distinct) fun _ t _ post => ⟨trivial, ?_⟩)⟩
    obtain ⟨written, values, others⟩ := post
    refine ⟨⟨fun y => (written.gate y).trans rfl, written.cases.trans rfl, fun y hy name => ?_⟩, fun g hg => ?_,
      fun name hname => ?_⟩
    · rw [written.others y hy name, first, if_neg]
      exact fun both => hy (by simp [both.1])
    · rcases List.mem_cons.mp hg with rfl | hg
      · rw [others _ fresh, first, if_pos ⟨rfl, rfl⟩]
      · exact values g hg
    · rw [List.map_cons, List.mem_cons, not_or] at hname
      rw [others name hname.2, first, if_neg fun both => hname.1 both.2]

theorem wp_applyAll {replies : List MemberReply} (distinct : (replies.map MemberReply.continuationId).Nodup)
    (names : ∀ r ∈ replies, (r.fields.map Prod.fst).Nodup) :
    wp (quietTerms ok fun _ _ => True) (Prog.forEach applyFields replies)
      (fun _ t => ValuesWritten (replies.map MemberReply.continuationId) s t ∧ ∀ r ∈ replies, Recorded r s t) s := by
  induction replies generalizing s with
  | nil => exact ⟨trivial, ⟨fun _ => rfl, rfl, fun _ _ _ => rfl⟩, fun _ hr => absurd hr List.not_mem_nil⟩
  | cons r rest ih =>
    obtain ⟨fresh, distinct⟩ := List.nodup_cons.mp distinct
    refine wp_bind.mpr (wp_mono (wp_recordFields (names r (by simp))) fun _ u _ first => ?_)
    obtain ⟨before, values, others⟩ := first
    refine wp_bind.mpr (wp_mono (ih distinct fun x hx => names x (List.mem_cons_of_mem _ hx)) fun _ t _ post => ⟨trivial, ?_⟩)
    obtain ⟨written, recorded⟩ := post
    refine ⟨⟨fun y => (written.gate y).trans (before.gate y), written.cases.trans before.cases, fun y hy name => ?_⟩,
      fun x hx => ?_⟩
    · rw [List.map_cons, List.mem_cons, not_or] at hy
      rw [written.others y hy.2, before.others y (by simpa using hy.1)]
    · rcases List.mem_cons.mp hx with rfl | hx
      · refine ⟨fun f hf => ?_, fun name hname => ?_⟩
        · rw [written.others _ fresh, values f hf]
        · rw [written.others _ fresh, others name hname]
      · have hne : x.continuationId ∉ [r.continuationId] := fun h => fresh (by
          rw [← List.mem_singleton.mp h]
          exact List.mem_map_of_mem hx)
        exact ⟨(recorded x hx).values, fun name hname => ((recorded x hx).others name hname).trans (before.others _ hne name)⟩

theorem wp_complete {replies : List MemberReply} (distinct : (replies.map MemberReply.continuationId).Nodup)
    (accepted : ∀ r ∈ replies, r.contract.Accepted r.fields) (names : ∀ r ∈ replies, (r.fields.map Prod.fst).Nodup) :
    wp (quietTerms ok fun _ _ => True) ((ReplyReading.complete replies).perform args) (fun result t =>
      (∃ ids, result = .resumed ids) ∧ ∀ r ∈ replies, MemberAnswered r s t ∧ Recorded r s t) s := by
  refine wp_bind.mpr (wp_mono (wp_submitMembers args distinct accepted) fun resumed u _ submitted => ?_)
  refine wp_bind.mpr (wp_mono (wp_applyAll distinct names) fun _ v _ post => ?_)
  obtain ⟨written, recorded⟩ := post
  refine ⟨trivial, trivial, trivial, trivial, trivial, ⟨_, rfl⟩, fun r hr => ⟨?_, ?_⟩⟩
  · exact (submitted.members r hr).congr rfl ((written.gate _).trans rfl)
  · have before : ∀ name, u.satisfiedValue r.continuationId name = s.satisfiedValue r.continuationId name := fun name => by
      unfold Store.satisfiedValue
      rw [submitted.satisfactions]
    exact ⟨(recorded r hr).values, fun name hname => ((recorded r hr).others name hname).trans (before name)⟩

/-- The member has a receipt with the fields of the reply and waits no longer, and just these values are recorded. -/
structure ResumedWith (r : MemberReply) (s t : Store) : Prop where
  resumed : ∃ i, t.getInstance r.continuationId = some i ∧ i.state ≠ .waitingOwner
  receipt : ∃ ρ ∈ t.receiptsOf r.continuationId, ρ.fields = r.fields
  recorded : Recorded r s t

/-- The call closes no case and moves no continuation. -/
structure LeftOpen (args : ReplyArgs) (s t : Store) : Prop where
  cases : ∀ c ∈ t.cases, c.id = args.caseId → c.state = .answered ∨ c.state = .applied → c ∈ s.cases
  instances : t.instances = s.instances

/-- What the answer of the tool promises; a case that was applied before promises nothing. -/
def AnswerKept (T : ReplyText) (args : ReplyArgs) (s t : Store) : Except String ReplyResult → Prop
  | .ok (.resumed _) => ∃ replies, readReply T args s = .complete replies ∧
      ∀ m ∈ s.listInteractionMembers args.caseId, ∃ r ∈ replies, r.continuationId = m.continuationId ∧ ResumedWith r s t
  | .ok .alreadyApplied => True
  | _ => LeftOpen args s t

/-- The member was answered with the very same fields before. -/
def AnsweredAlike (r : MemberReply) (s : Store) : Prop :=
  (∃ i, s.getInstance r.continuationId = some i) ∧ ∃ ρ ∈ s.receiptsOf r.continuationId, ρ.fields = r.fields

/-- Every member that a complete reply answers is there to be answered. -/
def MembersWait (T : ReplyText) (args : ReplyArgs) (s : Store) : Prop :=
  ∀ replies, readReply T args s = .complete replies → ∀ r ∈ replies, Waits r.continuationId s ∨ AnsweredAlike r s

theorem resumedWith_iff {r : MemberReply} (answered : MemberAnswered r s t) (recorded : Recorded r s t) :
    ResumedWith r s t ↔ Waits r.continuationId s ∨ AnsweredAlike r s := by
  by_cases waits : Waits r.continuationId s
  · obtain ⟨left, ⟨i, hi⟩, ρ, receipts, fields⟩ := answered.accepted waits
    refine iff_of_true ⟨⟨i, hi, fun state => left ⟨i, hi, state⟩⟩, ⟨ρ, ?_, fields⟩, recorded⟩ (.inl waits)
    rw [receipts]
    exact List.mem_append_right _ (List.mem_singleton_self _)
  · have same := answered.refused waits
    have instance? : t.getInstance r.continuationId = s.getInstance r.continuationId := congrArg Gate.instance? same
    have receipts : t.receiptsOf r.continuationId = s.receiptsOf r.continuationId := congrArg Gate.receipts same
    constructor
    · rintro ⟨⟨i, hi, _⟩, receipt, _⟩
      exact .inr ⟨⟨i, instance? ▸ hi⟩, receipts ▸ receipt⟩
    · rintro (h | ⟨⟨i, hi⟩, receipt⟩)
      · exact absurd h waits
      · exact ⟨⟨i, instance?.trans hi, fun state => waits ⟨i, hi, state⟩⟩, receipts ▸ receipt, recorded⟩

theorem mapM_ok_map {α β γ ε : Type} {f : α → Except ε β} {g : α → γ} {g' : β → γ} {xs : List α} {ys : List β}
    (h : xs.mapM f = .ok ys) (same : ∀ x y, f x = .ok y → g' y = g x) : ys.map g' = xs.map g := by
  induction xs generalizing ys with
  | nil =>
    cases h
    rfl
  | cons x xs ih =>
    rw [List.mapM_cons] at h
    cases hx : f x with
    | error e =>
      rw [hx] at h
      cases h
    | ok y =>
      cases hxs : xs.mapM f with
      | error e =>
        rw [hx, hxs] at h
        cases h
      | ok zs =>
        rw [hx, hxs] at h
        cases h
        rw [List.map_cons, List.map_cons, same x y hx, ih hxs]

/-- A complete reply answers the members of the case, each within its contract. -/
theorem complete_replies {replies : List MemberReply} (h : readReply T args s = .complete replies) :
    replies.map MemberReply.continuationId = (s.listInteractionMembers args.caseId).map InteractionMember.continuationId ∧
    (replies.map MemberReply.continuationId).Nodup ∧ (∀ r ∈ replies, r.contract.Accepted r.fields) ∧
    ∀ r ∈ replies, (r.fields.map Prod.fst).Nodup := by
  obtain ⟨ordered, _, hreplies, distinct, clean⟩ := readReply_complete h
  have each : ∀ r ∈ replies, ∃ m, memberReply T (compileReplyText T args.text ordered) m = .ok r := by
    intro r hr
    obtain ⟨m, _, hm⟩ := mapM_ok_mem hreplies r hr
    exact ⟨m, hm⟩
  refine ⟨mapM_ok_map hreplies fun m r hm => (memberReply_ok hm).1, distinct, fun r hr => ?_, fun r hr => ?_⟩
  · obtain ⟨m, hm⟩ := each r hr
    exact (memberReply_accepted hm (clean r hr)).2.2.2
  · obtain ⟨m, hm⟩ := each r hr
    rw [(memberReply_accepted hm (clean r hr)).2.2.1]
    exact (compileReplyText_distinct args.text ordered).sublist ((List.filter_sublist).map _)

/-- A reply that is reported as resumed has resumed everyone just when every member was there to be answered. -/
theorem answerKept_iff {tr : List (Act Request Store)} {o : Except String ReplyResult}
    (exec : Exec ok (handleSubmitInputText T args) s tr (some o) t) : AnswerKept T args s t o ↔ MembersWait T args s := by
  have e := exec_reading exec
  cases hr : readReply T args s with
  | complete replies =>
    rw [hr] at e
    obtain ⟨ids, distinct, accepted, names⟩ := complete_replies hr
    have sound := wp_sound (K := quietTerms ok fun _ _ => True) (wp_complete distinct accepted names) e
    cases o with
    | error error => exact (sound.2.2.2 error rfl).elim
    | ok result =>
      obtain ⟨⟨resumed, rfl⟩, members⟩ := sound.2.2.1 result rfl
      have iff : ∀ r ∈ replies, (ResumedWith r s t ↔ Waits r.continuationId s ∨ AnsweredAlike r s) := fun r hr =>
        resumedWith_iff (members r hr).1 (members r hr).2
      constructor
      · rintro ⟨replies', hr', all⟩ replies'' hr'' r hr₂
        rw [hr] at hr' hr''
        cases hr'
        cases hr''
        have mem : r.continuationId ∈ (s.listInteractionMembers args.caseId).map InteractionMember.continuationId :=
          ids ▸ List.mem_map_of_mem hr₂
        obtain ⟨m, hm, hid⟩ := List.mem_map.mp mem
        obtain ⟨r', hr', hid', resumed⟩ := all m hm
        obtain rfl : r' = r := List.inj_on_of_nodup_map distinct hr' hr₂ (hid'.trans hid)
        exact (iff r' hr').mp resumed
      · intro wait
        refine ⟨replies, hr, fun m hm => ?_⟩
        have mem : m.continuationId ∈ replies.map MemberReply.continuationId := ids ▸ List.mem_map_of_mem hm
        obtain ⟨r, hr₂, hid⟩ := List.mem_map.mp mem
        exact ⟨r, hr₂, hid, (iff r hr₂).mpr (wait replies hr r hr₂)⟩
  | refused error =>
    rw [hr] at e
    cases e
    exact iff_of_true ⟨fun c hc _ _ => hc, rfl⟩ (fun replies complete => by rw [hr] at complete; cases complete)
  | raises error =>
    rw [hr] at e
    cases e
    exact iff_of_true ⟨fun c hc _ _ => hc, rfl⟩ (fun replies complete => by rw [hr] at complete; cases complete)
  | alreadyApplied =>
    rw [hr] at e
    cases e
    exact iff_of_true trivial (fun replies complete => by rw [hr] at complete; cases complete)
  | waiting missing =>
    rw [hr] at e
    cases e with
    | write e =>
      cases e
      refine iff_of_true ⟨fun c hc hid closed => ?_, rfl⟩ (fun replies complete => by rw [hr] at complete; cases complete)
      obtain ⟨c', hc', rfl⟩ := List.mem_map.mp hc
      by_cases own : c'.id = args.caseId
      · rw [if_pos own] at closed
        rcases closed with closed | closed <;> cases closed
      · rw [if_neg own]
        exact hc'

end

section Samples

def scopeRequirement : Requirement := { name := "scope", kind := .fact, authority := "owner", question := "Which scope?" }

/-- The owner has been asked for the scope. -/
def askedForScope : Store :=
  called (.plan ownerEvent none accessContract (some 10000000) [scopeRequirement] "" "") .empty

/-- The owner has answered elsewhere. -/
def answeredElsewhere : Store :=
  called (.receipt 1 ⟨"alice", [("scope", .str "read")], "cli"⟩ none accessContract) askedForScope

def scopeReply : ReplyArgs where
  caseId := "case"
  endpoint := "hermes:session:4"
  text := "write"

def replied (s : Store) : Except String ReplyResult × Unit × Store :=
  run (steadyEnv 0 { success := true, taskId := "t9" } true) (handleSubmitInputText asciiReply scopeReply) () s

theorem replied_exec (s : Store) : ∃ tr, Exec (fun _ _ => True) (handleSubmitInputText asciiReply scopeReply) s tr
    (some (replied s).1) (replied s).2.2 := run_exec (fun _ _ => trivial) _ () s

theorem answerKept_iff_scope : AnswerKept asciiReply scopeReply askedForScope (replied askedForScope).2.2
    (replied askedForScope).1 ↔ MembersWait asciiReply scopeReply askedForScope := by
  obtain ⟨tr, exec⟩ := replied_exec askedForScope
  exact answerKept_iff exec

/-- A reply to an answered continuation is reported as resumed, and its value is no field of the receipt. -/
theorem resumed_without_receipt : ¬∀ (T : ReplyText) (args : ReplyArgs) (s t : Store) (ok : ∀ q, Response q → Prop) tr o,
    Exec ok (handleSubmitInputText T args) s tr (some o) t → AnswerKept T args s t o := by
  intro claim
  obtain ⟨tr, exec⟩ := replied_exec answeredElsewhere
  have kept := claim _ _ _ _ _ _ _ exec
  have result : (replied answeredElsewhere).1 = .ok (.resumed []) := by decide +kernel
  rw [result] at kept
  obtain ⟨replies, _, all⟩ := kept
  have one : ((answeredElsewhere.listInteractionMembers "case").map InteractionMember.continuationId) = [1] := by decide +kernel
  obtain ⟨m, hm, hid⟩ := List.mem_map.mp (show 1 ∈ (answeredElsewhere.listInteractionMembers "case").map
    InteractionMember.continuationId by rw [one]; exact List.mem_singleton_self 1)
  obtain ⟨r, _, rid, resumed⟩ := all m hm
  have own : r.continuationId = 1 := rid.trans hid
  obtain ⟨ρ, hρ, fields⟩ := resumed.receipt
  have recorded := resumed.recorded.values
  rw [own] at hρ recorded
  have names : ∀ ρ ∈ (replied answeredElsewhere).2.2.receiptsOf 1, ρ.fields.map Prod.fst = ["scope"] := by decide +kernel
  have texts : ∀ ρ ∈ (replied answeredElsewhere).2.2.receiptsOf 1, Payload.text ρ.fields "scope" = "read" := by decide +kernel
  have value : ((replied answeredElsewhere).2.2.satisfiedValue 1 "scope").map (fun v => Payload.text [("scope", v)] "scope") =
      some "write" := by decide +kernel
  obtain ⟨⟨name, v⟩, rest, hf, rfl, none⟩ := List.map_eq_cons_iff.mp (names ρ hρ)
  obtain rfl := List.map_eq_nil_iff.mp none
  have text := texts ρ hρ
  rw [← fields, hf] at recorded
  rw [recorded ("scope", v) (List.mem_singleton_self _), Option.map_some, ← hf, text] at value
  exact absurd value (by decide)

end Samples

end AgentflowHermes
