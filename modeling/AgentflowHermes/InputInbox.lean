import AgentflowHermes.InboxBatching
import AgentflowHermes.ReplyReading

namespace AgentflowHermes

open CrashProgram RowTable

def CaseState.unresolved : CaseState → Bool
  | .answered | .applied => false
  | _ => true

/-- A case with its members and what they ask. -/
structure CaseView where
  id : String
  originEndpoint : String
  continuationIds : List Nat
  unresolvedFields : List Requirement
  state : CaseState

structure RenderedCase where
  caseId : String
  endpoint : String
  state : CaseState
  question : String
  continuationIds : List Nat

def questionText (r : Requirement) : String :=
  orText r.question (r.name.map fun c => if c = '_' then ' ' else c)

def numberedQuestions (fields : List Requirement) : List String :=
  fields.zipIdx.map fun f => toString (f.2 + 1) ++ ") " ++ questionText f.1

def composeQuestion (fields : List Requirement) (resolvedSummary : List String) : String :=
  let remaining := match fields with
    | [] => "the missing input"
    | [field] => questionText field
    | fields => "; ".intercalate (numberedQuestions fields)
  let resolved := if resolvedSummary = [] then []
    else ["Already resolved automatically: " ++ "; ".intercalate resolvedSummary ++ "."]
  " ".intercalate (["Blocked on: " ++ remaining ++ "."] ++ resolved ++
    ["Reply with: " ++ remaining ++ ".", "I'll resume automatically once you reply."])

def resolvedSummary (s : Store) (c : CaseView) : List String :=
  let count := (c.continuationIds.flatMap fun x => s.satisfactions.filter fun r => r.continuationId == x).length
  if count = 0 then [] else [toString count ++ " other value(s) already confirmed automatically"]

section

variable (T : PyText)

/-- `InteractionInbox.get_case`; a stored requirement that does not read back is an exception. -/
def getCase (s : Store) (row : InteractionCaseRow) : Except String CaseView := do
  let members := s.listInteractionMembers row.id
  let unresolved ← (members.flatMap InteractionMember.requirements).mapM (requirementFromDict T)
  return ⟨row.id, row.endpoint, members.map InteractionMember.continuationId, unresolved, row.state⟩

/-- The cases the tool reads: one by its id, or those of the endpoint by age. -/
def listedCases (endpoint caseId : String) (s : Store) : List InteractionCaseRow :=
  if caseId ≠ "" then (s.cases.find? fun c => c.id == caseId).toList
  else (s.cases.filter fun c => endpoint = "" ∨ c.endpoint = endpoint).mergeSort fun c d =>
    decide (c.createdAt ≤ d.createdAt)

def caseById (caseId : String) : Run CaseView := .read fun s =>
  match s.cases.find? fun c => c.id == caseId with
  | none => .raise "AssertionError"
  | some row =>
    match getCase T s row with
    | .error e => .raise e
    | .ok c => .pure c

def markAsked (caseId : String) : Run CaseView := .read fun s =>
  if s.cases.any fun c => c.id == caseId then
    .write (Store.updateInteractionCase caseId .asked) fun _ => caseById T caseId
  else .raise "AssertionError"

def renderInteractionCase (c : CaseView) : Run RenderedCase := do
  let c ← if c.state = .collecting ∨ c.state = .needsClarification then markAsked T c.id else pure c
  let summary ← Prog.get fun s => resolvedSummary s c
  return ⟨c.id, c.originEndpoint, c.state, composeQuestion c.unresolvedFields summary, c.continuationIds⟩

/-- `_handle_input_inbox`: a case of another endpoint is not shown, and asking is what ends the collecting. -/
def handleInputInbox (endpoint caseId : String) : Run (List RenderedCase) := do
  let listed ← Prog.get fun s => (listedCases endpoint caseId s).mapM (getCase T s)
  match listed with
  | .error e => Prog.raise e
  | .ok cases =>
    let shown := cases.filter fun c => (endpoint = "" ∨ c.originEndpoint = endpoint) ∧ c.state.unresolved
    Prog.forEach (renderInteractionCase T) shown

end

section

variable {T : PyText} {ok : ∀ q, Response q → Prop} {s t u : Store}

/-- The cases are those of before, with what identifies them, and none has been reopened. -/
structure Progressed (s t : Store) : Prop where
  members : t.members = s.members
  cases : ∃ f : InteractionCaseRow → InteractionCaseRow, t.cases = s.cases.map f ∧ ∀ c ∈ s.cases,
    (f c).id = c.id ∧ (f c).endpoint = c.endpoint ∧ (f c).batchKey = c.batchKey ∧
      ((f c).state.unresolved → c.state.unresolved) ∧ ((f c).state = .answered → c.state = .answered)

theorem Progressed.of_eq (cases : t.cases = s.cases) (members : t.members = s.members) : Progressed s t :=
  ⟨members, id, cases.trans (List.map_id _).symm, fun _ _ => ⟨rfl, rfl, rfl, fun h => h, fun h => h⟩⟩

theorem Progressed.refl (s : Store) : Progressed s s := .of_eq rfl rfl

theorem ofInbox_progressed : OfInbox (Progressed s) where
  frame h cases members _ := by
    obtain ⟨f, hf, later⟩ := h.cases
    exact ⟨members.trans h.members, f, cases.trans hf, later⟩

/-- A case that nobody has answered is asked, clarified or closed. -/
theorem Progressed.update (h : Progressed s t) {caseId : String} {state : CaseState} (hs : state ≠ .answered)
    (unresolved : ∀ c ∈ s.cases, c.id = caseId → c.state.unresolved) :
    Progressed s (t.updateInteractionCase caseId state) := by
  obtain ⟨f, hf, later⟩ := h.cases
  refine ⟨h.members, fun c => if c.id = caseId then { f c with state := state } else f c, ?_, fun c hc => ?_⟩
  · unfold Store.updateInteractionCase
    dsimp only
    rw [hf, List.map_map]
    refine List.map_congr_left fun c hc => ?_
    simp only [Function.comp_apply, (later c hc).1]
  · obtain ⟨hid, endpoint, key, back, answered⟩ := later c hc
    by_cases own : c.id = caseId
    · simp only [if_pos own]
      exact ⟨hid, endpoint, key, fun _ => unresolved c hc own, fun h => absurd h hs⟩
    · simp only [if_neg own]
      exact ⟨hid, endpoint, key, back, answered⟩

theorem getCase_ok {row : InteractionCaseRow} {c : CaseView} (h : getCase T s row = .ok c) :
    c.id = row.id ∧ c.state = row.state := by
  unfold getCase at h
  dsimp only at h
  cases read : ((s.listInteractionMembers row.id).flatMap InteractionMember.requirements).mapM (requirementFromDict T) with
  | error e =>
    rw [read] at h
    cases h
  | ok unresolved =>
    rw [read] at h
    cases h
    exact ⟨rfl, rfl⟩

theorem mem_listedCases {endpoint caseId : String} {row : InteractionCaseRow} (h : row ∈ listedCases endpoint caseId s) :
    row ∈ s.cases := by
  unfold listedCases at h
  split at h
  · exact List.mem_of_find?_eq_some (Option.mem_toList.mp h)
  · exact (List.mem_filter.mp (List.mem_mergeSort.mp h)).1

theorem safe_markAsked {caseId : String} (unresolved : ∀ c ∈ s.cases, c.id = caseId → c.state.unresolved) :
    Safe (inboxTerms ok s (Progressed s)) (fun _ => True) (markAsked T caseId) := by
  have back : Safe (inboxTerms ok s (Progressed s)) (fun _ => True) (caseById T caseId) := by
    refine ⟨fun u hu _ => ?_⟩
    unfold caseById
    rw [wp_read]
    split
    · exact ⟨hu, trivial⟩
    · split
      · exact ⟨hu, trivial⟩
      · exact ⟨hu, trivial⟩
  refine ⟨fun u hu _ => ?_⟩
  unfold markAsked
  rw [wp_read]
  split
  · have asked : (inboxTerms ok s (Progressed s)).inv (u.updateInteractionCase caseId .asked) :=
      ⟨hu.1.update (by decide) unresolved, hu.2⟩
    exact ⟨hu, trivial, back.wp _ asked trivial⟩
  · exact ⟨hu, trivial⟩

/-- Whatever the tool shows, it reopens no case. -/
theorem ask_progressed {endpoint caseId : String} {tr : List (Act Request Store)}
    {o : Option (Except String (List RenderedCase))} (distinct : (s.cases.map InteractionCaseRow.id).Nodup)
    (exec : Exec ok (handleInputInbox T endpoint caseId) s tr o t) : Progressed s t ∧ Kept s t := by
  have start : (inboxTerms ok s (Progressed s)).inv s := ⟨Progressed.refl s, Kept.refl s⟩
  have shown : wp (inboxTerms ok s (Progressed s)) (handleInputInbox T endpoint caseId) (fun _ _ => True) s := by
    refine wp_get_bind.mpr ?_
    split
    next => exact ⟨start, trivial⟩
    next views hviews =>
      refine (safe_forEach stable_true fun c hc => ?_).wp s start trivial
      obtain ⟨hc, open'⟩ := List.mem_filter.mp hc
      have unanswered : c.state.unresolved := (of_decide_eq_true open').2
      obtain ⟨row, listed, read⟩ := mapM_ok_mem hviews c hc
      obtain ⟨hid, hstate⟩ := getCase_ok read
      have unresolved : ∀ d ∈ s.cases, d.id = c.id → d.state.unresolved := by
        intro d hd same
        obtain rfl : d = row := List.inj_on_of_nodup_map distinct hd (mem_listedCases listed) (same.trans hid)
        exact hstate ▸ unanswered
      have rendered : ∀ c : CaseView, Safe (inboxTerms ok s (Progressed s)) (fun _ => True) (do
          let summary ← Prog.get fun s => resolvedSummary s c
          return (⟨c.id, c.originEndpoint, c.state, composeQuestion c.unresolvedFields summary, c.continuationIds⟩ :
            RenderedCase)) := fun c => safe_bind stable_true (safe_get _) fun _ => safe_pure _
      exact safe_ite (safe_bind stable_true (safe_markAsked unresolved) rendered) (safe_bind stable_true (safe_pure _) rendered)
  exact (wp_sound shown exec).2.1

end

section

variable {T : ReplyText} {args : ReplyArgs} {ok : ∀ q, Response q → Prop} {s t : Store}

def ReplyReading.Writes : ReplyReading → Prop
  | .waiting _ | .complete _ => True
  | _ => False

/-- A reply that is written down is one to a case that is there and has not been applied. -/
theorem readReply_open (h : (readReply T args s).Writes) :
    ∃ c, s.cases.find? (fun c => c.id == args.caseId) = some c ∧ c.state ≠ .applied := by
  unfold readReply at h
  split at h
  next => exact h.elim
  next =>
    split at h
    next => exact h.elim
    next =>
      split at h
      next => exact h.elim
      next c found =>
        refine ⟨c, found, fun applied => ?_⟩
        simp only [applied, if_true] at h
        split at h
        next => exact h.elim
        next => split at h <;> exact h.elim

theorem updateInteractionCase_twice (caseId : String) (state state' : CaseState) (s : Store) :
    (s.updateInteractionCase caseId state).updateInteractionCase caseId state' = s.updateInteractionCase caseId state' := by
  unfold Store.updateInteractionCase
  rw [List.map_map]
  congr 1
  refine List.map_congr_left fun c _ => ?_
  by_cases own : c.id = caseId
  · simp [own]
  · simp [own]

theorem safe_submitMember_inbox {B : Store → Prop} (inbox : OfInbox B) (r : MemberReply) :
    Safe (inboxTerms ok s B) (fun _ => True) (submitMember args r) := by
  refine safe_bind stable_true (safe_get _) fun instance? => ?_
  cases instance? with
  | none => exact safe_pure _
  | some i => exact safe_bind stable_true (safe_onReceipt_inbox inbox ..) fun _ => safe_pure _

/-- A reply, accepted or not, reopens no case, when none was left between answered and applied. -/
theorem reply_progressed {tr : List (Act Request Store)} {o : Except String ReplyResult}
    (distinct : (s.cases.map InteractionCaseRow.id).Nodup) (settled : ∀ c ∈ s.cases, c.state ≠ .answered)
    (exec : Exec ok (handleSubmitInputText T args) s tr (some o) t) : Progressed s t ∧ Kept s t := by
  have start : Progressed s s ∧ Kept s s := ⟨Progressed.refl s, Kept.refl s⟩
  have opened : (readReply T args s).Writes → ∀ c ∈ s.cases, c.id = args.caseId → c.state.unresolved := by
    intro written c hc own
    obtain ⟨d, found, unapplied⟩ := readReply_open written
    have hd := List.mem_of_find?_eq_some found
    have named : (d.id == args.caseId) = true := List.find?_some (p := fun c : InteractionCaseRow => c.id == args.caseId) found
    obtain rfl : c = d := List.inj_on_of_nodup_map distinct hc hd (own.trans (beq_iff_eq.mp named).symm)
    have unanswered := settled c hc
    cases hstate : c.state <;> simp_all [CaseState.unresolved]
  have exec := exec_reading exec
  cases reading : readReply T args s with
  | refused error =>
    rw [reading] at exec
    cases exec
    exact start
  | raises error =>
    rw [reading] at exec
    cases exec
    exact start
  | alreadyApplied =>
    rw [reading] at exec
    cases exec
    exact start
  | waiting missing =>
    rw [reading] at exec
    have unresolved := opened (by rw [reading]; trivial)
    cases exec with
    | write exec =>
      cases exec
      exact ⟨start.1.update (by decide) unresolved, kept_of_eq rfl⟩
  | complete replies =>
    rw [reading] at exec
    have unresolved := opened (by rw [reading]; trivial)
    have inbox := @ofInbox_progressed s
    have submitted : Safe (inboxTerms ok s (Progressed s)) (fun _ => True) (Prog.forEach (submitMember args) replies) :=
      safe_forEach stable_true fun r _ => safe_submitMember_inbox inbox r
    have applied : Safe (inboxTerms ok s (Progressed s)) (fun _ => True) (Prog.forEach applyFields replies) :=
      safe_forEach stable_true fun r _ => safe_forEach stable_true fun v _ => safe_record_inbox inbox ..
    rcases exec_bind exec with ⟨_, _, _, e⟩ | ⟨resumed, u, _, _, first, exec⟩
    · exact (submitted.exec start trivial e).2
    have hu := (submitted.exec start trivial first).2
    rcases exec_bind exec with ⟨_, _, _, e⟩ | ⟨_, v, _, _, second, exec⟩
    · exact (applied.exec hu trivial e).2
    have hv := (applied.exec hu trivial second).2
    cases exec with
    | write exec =>
      cases exec with
      | write exec =>
        cases exec
        rw [updateInteractionCase_twice]
        exact ⟨hv.1.update (by decide) unresolved, hv.2⟩

end

end AgentflowHermes
