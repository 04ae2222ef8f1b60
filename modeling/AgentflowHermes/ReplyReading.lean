import AgentflowHermes.ContractTranslation
import AgentflowHermes.CrashRules
import AgentflowHermes.ReplyTool

namespace AgentflowHermes

open CrashProgram RowTable

theorem mapM_ok_mem {α β ε : Type} {f : α → Except ε β} {xs : List α} {ys : List β} (h : xs.mapM f = .ok ys) :
    ∀ y ∈ ys, ∃ x ∈ xs, f x = .ok y := by
  induction xs generalizing ys with
  | nil =>
    cases h
    exact fun y hy => absurd hy List.not_mem_nil
  | cons x xs ih =>
    rw [List.mapM_cons] at h
    cases hx : f x with
    | error e =>
      rw [hx] at h
      cases h
    | ok z =>
      cases hxs : xs.mapM f with
      | error e =>
        rw [hx, hxs] at h
        cases h
      | ok zs =>
        rw [hx, hxs] at h
        cases h
        intro y hy
        rcases List.mem_cons.mp hy with rfl | hy
        · exact ⟨x, List.mem_cons_self, hx⟩
        · obtain ⟨x', hx', hy'⟩ := ih hxs y hy
          exact ⟨x', List.mem_cons_of_mem _ hx', hy'⟩

theorem memberReply_ok {T : ReplyText} {candidate : List (String × Json)} {m : InteractionMember} {r : MemberReply}
    (h : memberReply T candidate m = .ok r) :
    r.continuationId = m.continuationId ∧ replyContract T m.requirements = .ok r.contract := by
  unfold memberReply at h
  cases hk : replyContract T m.requirements with
  | error e =>
    rw [hk] at h
    cases h
  | ok k =>
    rw [hk] at h
    cases h
    exact ⟨rfl, rfl⟩

/-- What the tool makes of a reply before it writes anything. -/
inductive ReplyReading
  | refused (error : String)
  | raises (error : String)
  | alreadyApplied
  | waiting (missing : List String)
  | complete (replies : List MemberReply)

def missingOf (replies : List MemberReply) : List String :=
  replies.flatMap fun r => r.errors.map fun e => toString r.continuationId ++ ":" ++ e

def readReply (T : ReplyText) (args : ReplyArgs) (s : Store) : ReplyReading :=
  if args.caseId = "" ∨ args.text = "" then .refused "case_id_and_text_required"
  else if args.endpoint = "" then .refused "endpoint_required"
  else match s.cases.find? fun c => c.id == args.caseId with
  | none => .refused "unknown_case"
  | some c =>
    let members := s.listInteractionMembers args.caseId
    match (members.flatMap InteractionMember.requirements).mapM (requirementFromDict T.toPyText) with
    | .error e => .raises e
    | .ok ordered =>
      if c.endpoint ≠ args.endpoint then .refused "origin_mismatch"
      else if c.state = .applied then .alreadyApplied
      else match members.mapM (memberReply T (compileReplyText T args.text ordered)) with
      | .error e => .raises e
      | .ok replies =>
        if missingOf replies ≠ [] ∨ ¬(replies.map MemberReply.continuationId).Nodup then
          .waiting (if missingOf replies = [] then ["incomplete_reply"] else missingOf replies)
        else .complete replies

/-- The writes that follow. -/
def ReplyReading.perform (args : ReplyArgs) : ReplyReading → Run ReplyResult
  | refused error => return .refused error
  | raises error => Prog.raise error
  | alreadyApplied => return .alreadyApplied
  | waiting missing => .write (Store.updateInteractionCase args.caseId .needsClarification) fun _ => return .waiting missing
  | complete replies => do
    let resumed ← Prog.forEach (submitMember args) replies
    let _ ← Prog.forEach applyFields replies
    .write (Store.updateInteractionCase args.caseId .answered) fun _ =>
      .write (Store.updateInteractionCase args.caseId .applied) fun _ => return .resumed (resumed.filterMap id)

section

variable {T : ReplyText} {args : ReplyArgs} {ok : ∀ q, Response q → Prop} {s t : Store}

/-- The tool reads the reply first, and writes after that. -/
theorem exec_reading {tr : List (Act Request Store)} {o : Option (Except String ReplyResult)}
    (e : Exec ok (handleSubmitInputText T args) s tr o t) : Exec ok ((readReply T args s).perform args) s tr o t := by
  unfold handleSubmitInputText at e
  unfold readReply
  dsimp only at e
  split
  next given => rwa [if_pos given] at e
  next given =>
    rw [if_neg given] at e
    split
    next bound => rwa [if_pos bound] at e
    next bound =>
      rw [if_neg bound] at e
      have e := exec_get_bind e
      split
      next hc =>
        rw [hc] at e
        exact e
      next c hc =>
        rw [hc] at e
        have e := exec_get_bind e
        dsimp only
        split
        next error hread =>
          rw [hread] at e
          exact e
        next ordered hread =>
          rw [hread] at e
          dsimp only at e
          split
          next foreign => rwa [if_pos foreign] at e
          next foreign =>
            rw [if_neg foreign] at e
            split
            next applied => rwa [if_pos applied] at e
            next applied =>
              rw [if_neg applied] at e
              split
              next error hreplies =>
                rw [hreplies] at e
                exact e
              next replies hreplies =>
                rw [hreplies] at e
                dsimp only at e
                split
                next missing =>
                  unfold missingOf at missing
                  rwa [if_pos missing] at e
                next missing =>
                  unfold missingOf at missing
                  rwa [if_neg missing] at e

/-- The members of a complete reply are those of the case, and each keeps to its contract. -/
theorem readReply_complete {replies : List MemberReply} (h : readReply T args s = .complete replies) :
    ∃ ordered, ((s.listInteractionMembers args.caseId).flatMap InteractionMember.requirements).mapM
        (requirementFromDict T.toPyText) = .ok ordered ∧
      (s.listInteractionMembers args.caseId).mapM (memberReply T (compileReplyText T args.text ordered)) = .ok replies ∧
      (replies.map MemberReply.continuationId).Nodup ∧ ∀ r ∈ replies, r.errors = [] := by
  unfold readReply at h
  split at h
  · cases h
  split at h
  · cases h
  split at h
  · cases h
  dsimp only at h
  split at h
  · cases h
  next ordered hordered =>
    split at h
    · cases h
    split at h
    · cases h
    split at h
    · cases h
    next replies' hreplies =>
      split at h
      · cases h
      next whole =>
        cases h
        obtain ⟨none, distinct⟩ := not_or.mp whole
        refine ⟨ordered, hordered, hreplies, not_not.mp distinct, fun r hr => ?_⟩
        have empty := List.flatMap_eq_nil_iff.mp (not_not.mp none) r hr
        exact List.map_eq_nil_iff.mp empty

theorem dictOf_distinct (entries : List (String × Json)) : ((dictOf entries).map Prod.fst).Nodup := by
  induction entries with
  | nil => exact .nil
  | cons entry rest ih =>
    unfold dictOf
    refine List.nodup_cons.mpr ⟨fun mem => ?_, ih.sublist ((List.filter_sublist).map _)⟩
    obtain ⟨f, hf, hkey⟩ := List.mem_map.mp mem
    have differs := (List.mem_filter.mp hf).2
    simp [hkey] at differs

theorem compileReplyText_distinct (text : String) (ordered : List Requirement) :
    ((compileReplyText T text ordered).map Prod.fst).Nodup := by
  unfold compileReplyText
  dsimp only
  split
  · exact .nil
  · split
    · exact .nil
    · exact List.nodup_singleton _
    · exact dictOf_distinct _

/-- A member without an error takes what its contract knows of the reply, and its contract accepts it. -/
theorem memberReply_accepted {candidate : List (String × Json)} {m : InteractionMember} {r : MemberReply}
    (h : memberReply T candidate m = .ok r) (clean : r.errors = []) :
    replyContract T m.requirements = .ok r.contract ∧ r.continuationId = m.continuationId ∧
      r.fields = candidate.filter (fun v => (r.contract.known v.1).isSome) ∧ r.contract.Accepted r.fields := by
  unfold memberReply at h
  cases hk : replyContract T m.requirements with
  | error e =>
    rw [hk] at h
    cases h
  | ok k =>
    rw [hk] at h
    cases h
    have accepted : k.Accepted (candidate.filter fun v => (k.known v.1).isSome) := clean
    refine ⟨rfl, rfl, accepted.fields, ?_⟩
    show k.Accepted (k.validateOwnerSubmission _).1
    rw [accepted.fields]
    exact accepted

end

end AgentflowHermes
