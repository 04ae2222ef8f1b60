import AgentflowHermes.OwnerInputHandler
import AgentflowHermes.SemanticRefusalHandler
import AgentflowHermes.BoardIngest

namespace AgentflowHermes

open CrashProgram BacktrackRegex BacktrackRegex.Pattern

/-- The text runtime with `str.lower` and the values of the characters of `\d`. -/
structure ReplyText extends PyText where
  lower : String → String
  digit : Char → Nat

def asciiReply : ReplyText where
  toPyText := asciiText
  lower s := s.map Char.toLower
  digit c := c.toNat - '0'.toNat

/-- `requirement_from_dict`; the error is the exception. -/
def requirementFromDict (T : PyText) (payload : Json) : Except String Requirement := do
  let name ← (payload.get? "name").elim (.error "KeyError") .ok
  let kind ← (RequirementKind.ofString? (T.strOr (payload.get? "kind") "fact")).elim (.error "ValueError") .ok
  let allowed := ((payload.get? "allowed_values").filter Json.truthy).getD (.arr [])
  let values ← allowed.iter?.elim (.error "TypeError") .ok
  return {
    name := T.str name
    kind := kind
    authority := T.strOr (payload.get? "authority") "owner"
    question := T.strOr (payload.get? "question") ""
    answerHint := T.strOr (payload.get? "answer_hint") ""
    allowedValues := values.map T.str
    required := ((payload.get? "required").map Json.truthy).getD true
    description := T.strOr (payload.get? "description") "" }

theorem strOr_str (T : PyText) (s fallback : String) (h : s ≠ "" ∨ fallback = "") :
    T.strOr (some (.str s)) fallback = s := by
  unfold PyText.strOr
  by_cases empty : s = ""
  · obtain rfl := empty
    obtain rfl := h.resolve_left (fun ne => ne rfl)
    rfl
  · simp [Json.truthy, empty, T.str_str]

/-- A requirement as the inbox stores it. -/
def Requirement.stored (r : Requirement) : Requirement := { r with authority := orText r.authority "owner" }

/-- What the inbox stores of a requirement reads back; an empty authority is the owner's. -/
theorem requirementFromDict_toDict (T : PyText) (r : Requirement) :
    requirementFromDict T (requirementToDict r) = .ok r.stored := by
  have kind : RequirementKind.ofString? (T.strOr (some (.str r.kind.value)) "fact") = some r.kind := by
    cases hk : r.kind <;> rw [strOr_str T _ _ (.inl (by decide))] <;> decide
  have authority : T.strOr (some (.str r.authority)) "owner" = orText r.authority "owner" := by
    unfold PyText.strOr orText
    by_cases empty : r.authority = "" <;> simp [Json.truthy, empty, T.str_str]
  have iter : (((some (Json.arr (r.allowedValues.map .str))).filter Json.truthy).getD (.arr [])).iter? =
      some (r.allowedValues.map .str) := by
    cases r.allowedValues with
    | nil => rfl
    | cons v vs => rfl
  have texts : (r.allowedValues.map Json.str).map T.str = r.allowedValues := by
    simp [Function.comp_def, T.str_str]
  simp [requirementFromDict, requirementToDict, Requirement.stored, Json.get?, List.lookup_cons, kind, authority, iter, texts,
    T.str_str, strOr_str T r.question "" (.inr rfl), strOr_str T r.answerHint "" (.inr rfl),
    strOr_str T r.description "" (.inr rfl), Json.truthy, bind, Except.bind, Option.elim, pure, Except.pure]

theorem mapM_requirements (T : PyText) (requirements : List Requirement) :
    (requirements.map requirementToDict).mapM (requirementFromDict T) = .ok (requirements.map Requirement.stored) := by
  induction requirements with
  | nil => rfl
  | cons r rest ih =>
    rw [List.map_cons, List.mapM_cons, requirementFromDict_toDict, ih]
    rfl

section

variable (T : ReplyText)

/-- `https?://\S+`. -/
def urlRe : Pattern :=
  .group (.all [.one 'h', .one 't', .one 't', .one 'p', .opt (.one 's'), .one ':', .one '/', .one '/',
    .plus (.char fun c => !T.isSpace c)])

/-- `(\d+)\)?\s*[:.]?\s*([^,;]+)`. -/
def numberedItemRe : Pattern :=
  .all [.plus (.char T.isDigit), .opt (.one ')'), T.spaces, .opt (oneOf [':', '.']), T.spaces,
    .group (.plus (.char fun c => c != ',' && c != ';'))]

/-- `needle in text`. -/
def textContains (needle : List Char) : List Char → Bool
  | [] => needle.isEmpty
  | c :: cs => needle.isPrefixOf (c :: cs) || textContains needle cs

/-- The first allowed value the text names, or its first URL, or all of it. -/
def extractSingleValue (text : String) (r : Requirement) : String :=
  let whole := PyText.strip T.isSpace text
  if r.allowedValues ≠ [] then
    (r.allowedValues.find? fun candidate => textContains (T.lower candidate).toList (T.lower text).toList).getD whole
  else ((searchGroup (urlRe T) text.toList).map String.ofList).getD whole

/-- The number and the text of one item: the number is what the match starts with. -/
def numberedItem (m : Cursor × List Char × Cursor) : Nat × String :=
  ((m.1.after.takeWhile T.isDigit |>.take (m.1.after.length - m.2.2.after.length - m.2.1.length)).foldl
    (fun n c => 10 * n + T.digit c) 0, PyText.strip T.isSpace (String.ofList m.2.1))

def compileReplyText (text : String) (ordered : List Requirement) : List (String × Json) :=
  let text := PyText.strip T.isSpace text
  if text = "" then []
  else match ordered with
    | [] => []
    | [r] => [(r.name, .str (extractSingleValue T text r))]
    | _ => dictOf (((findIter (numberedItemRe T) text.toList).map (numberedItem T)).filterMap fun item =>
        if item.1 = 0 then none
        else ordered[item.1 - 1]?.map fun r => (r.name, .str (extractSingleValue T item.2 r)))

/-- The contract the tool makes of the requirements stored for a member. -/
def replyContract (stored : List Json) : Except String InputContract := do
  let requirements ← stored.mapM (requirementFromDict T.toPyText)
  (InputContract.dynamicOwnerInput genericOwnerInputContract "owner" requirements).elim (.error "ValueError") .ok

theorem replyContract_stored {requirements : List Requirement} {k : InputContract}
    (h : replyContract T (requirements.map requirementToDict) = .ok k) :
    InputContract.dynamicOwnerInput genericOwnerInputContract "owner" (requirements.map Requirement.stored) = some k := by
  unfold replyContract at h
  rw [mapM_requirements] at h
  cases made : InputContract.dynamicOwnerInput genericOwnerInputContract "owner" (requirements.map Requirement.stored) with
  | none =>
    simp [bind, Except.bind, made, Option.elim] at h
  | some k' =>
    simp only [bind, Except.bind, made, Option.elim, Except.ok.injEq] at h
    rw [h]

/-- What a member takes of the reply: its contract with the accepted fields and the errors. -/
structure MemberReply where
  continuationId : Nat
  contract : InputContract
  fields : List (String × Json)
  errors : List String

def memberReply (candidate : List (String × Json)) (m : InteractionMember) : Except String MemberReply := do
  let contract ← replyContract T m.requirements
  let checked := contract.validateOwnerSubmission (candidate.filter fun v => (contract.known v.1).isSome)
  return ⟨m.continuationId, contract, checked.1, checked.2⟩

end

structure ReplyArgs where
  caseId : String
  endpoint : String
  text : String
  ownerRef : String := ""
  sourceRef : String := ""

inductive ReplyResult
  | refused (error : String)
  | waiting (missing : List String)
  | alreadyApplied
  | resumed (ids : List Nat)
  deriving DecidableEq, Repr

namespace Store

def listInteractionMembers (s : Store) (caseId : String) : List InteractionMember :=
  s.members.filter fun m => m.caseId == caseId

def updateInteractionCase (caseId : String) (state : CaseState) (s : Store) : Store :=
  { s with cases := s.cases.map fun c => if c.id = caseId then { c with state := state } else c }

end Store

/-- The accepted fields of one member, as the owner's receipt; without an adapter. -/
def submitMember (args : ReplyArgs) (r : MemberReply) : Run (Option Nat) := do
  let instance? ← Prog.get fun s => s.getInstance r.continuationId
  match instance? with
  | none => return none
  | some i =>
    let result ← OwnerInputHandler.onReceipt i ⟨args.ownerRef, r.fields, args.sourceRef⟩ none r.contract
    return if result.success then some r.continuationId else none

/-- `InteractionInbox.apply_fields` on one member. -/
def applyFields (r : MemberReply) : Run (List Unit) :=
  Prog.forEach (fun v => SemanticRefusalHandler.recordSatisfaction r.continuationId v.1 v.2 "current_owner_reply" "" "")
    r.fields

/-- `_handle_submit_input_text`. A raised exception is that of a stored requirement that does not read back. -/
def handleSubmitInputText (T : ReplyText) (args : ReplyArgs) : Run ReplyResult := do
  if args.caseId = "" ∨ args.text = "" then return .refused "case_id_and_text_required"
  if args.endpoint = "" then return .refused "endpoint_required"
  let case? ← Prog.get fun s => s.cases.find? fun c => c.id == args.caseId
  match case? with
  | none => return .refused "unknown_case"
  | some c =>
    let members ← Prog.get fun s => s.listInteractionMembers args.caseId
    match (members.flatMap InteractionMember.requirements).mapM (requirementFromDict T.toPyText) with
    | .error e => Prog.raise e
    | .ok ordered =>
      if c.endpoint ≠ args.endpoint then return .refused "origin_mismatch"
      if c.state = .applied then return .alreadyApplied
      match members.mapM (memberReply T (compileReplyText T args.text ordered)) with
      | .error e => Prog.raise e
      | .ok replies =>
        let missing := replies.flatMap fun r => r.errors.map fun e => toString r.continuationId ++ ":" ++ e
        -- the fields are kept by continuation: one that is there twice counts once
        if missing ≠ [] ∨ ¬(replies.map MemberReply.continuationId).Nodup then
          .write (Store.updateInteractionCase args.caseId .needsClarification) fun _ =>
            return .waiting (if missing = [] then ["incomplete_reply"] else missing)
        else do
          let resumed ← Prog.forEach (submitMember args) replies
          let _ ← Prog.forEach applyFields replies
          .write (Store.updateInteractionCase args.caseId .answered) fun _ =>
            .write (Store.updateInteractionCase args.caseId .applied) fun _ => return .resumed (resumed.filterMap id)

end AgentflowHermes
