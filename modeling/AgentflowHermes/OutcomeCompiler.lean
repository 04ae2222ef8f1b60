import AgentflowHermes.OutcomeEnvelope

namespace AgentflowHermes

open BacktrackRegex BacktrackRegex.Pattern

inductive RequirementKind
  | fact
  | evidence
  | preference
  | authorization
  | correction
  deriving DecidableEq, Repr

def RequirementKind.value : RequirementKind → String
  | .fact => "fact"
  | .evidence => "evidence"
  | .preference => "preference"
  | .authorization => "authorization"
  | .correction => "correction"

def RequirementKind.ofString? (s : String) : Option RequirementKind :=
  [.fact, .evidence, .preference, .authorization, .correction].find? fun k => k.value == s

structure Requirement where
  name : String
  kind : RequirementKind
  authority : String := "owner"
  question : String := ""
  answerHint : String := ""
  allowedValues : List String := []
  required : Bool := true
  description : String := ""

inductive CompileStage
  | structured
  | flat
  | deterministic
  | model
  | unresolved
  deriving DecidableEq, Repr

structure CompiledOutcome where
  envelope : OutcomeEnvelope
  stage : CompileStage
  requirements : List Requirement := []
  blockers : List String := []
  refusalCategories : List String := []

/-- The narrow input a stage-3 model sees. -/
structure ModelInput where
  title : String
  summary : String
  eventKind : String
  assignee : String
  knownContractRefs : List String

abbrev ModelCompiler := ModelInput → Option Json

section

variable (T : PyText)

def bareVerdictRe : Pattern :=
  .all [.test fun c => c.before.isEmpty, T.spaces,
    .opt (.all [lit "Verdict", T.spaces, .one ':', T.spaces]), verdictWords, T.boundary]

def fieldChar (c : Char) : Bool := foldedLetter c || ('0' ≤ c && c ≤ '9') || c == ' ' || c == '_' || c == '-'

def pendingOwnerRe : Pattern :=
  .all [lit "pending", T.spaces1, .opt (.seq (lit "the") T.spaces1), lit "owner", .opt (.one '\''),
    .opt (lit "s"), T.spaces1, .group (.seq (.char foldedLetter) (.lazyStar (.char fieldChar))),
    .test fun c => c.after.head?.all fun x => x == '.' || x == ',' || x == ';' || x == '\n']

/-- `(.+?)\s*$` after its left context. -/
def trimmedLine : Pattern := .all [.group (.lazyPlus anyChar), T.spaces, lineEnd]

def blockerFieldRe : Pattern :=
  .all [lineStart, T.spaces,
    .any [.seq (lit "Blocker") (.opt (lit "s")), .seq (lit "Blocking finding") (.opt (lit "s")),
      lit "Failure", lit "Issue", lit "Reason"],
    T.spaces, .one ':', T.spaces, trimmedLine T]

def bulletRe : Pattern := .all [lineStart, T.spaces, oneOf ['-', '*'], T.spaces1, trimmedLine T]

def bareBlockersRe : Pattern :=
  .all [lineStart, T.spaces, lit "Blocker", .opt (lit "s"), T.spaces, .one ':', T.spaces, lineEnd]

def ownerExternalRe : Pattern :=
  T.bounded (.any [lit "owner", lit "operator", lit "human", lit "approval", lit "approve", lit "confirm",
    lit "input", .seq (lit "credential") (.opt (lit "s")),
    .all [lit "external", .opt (oneOf ['_', ' ', '-']), lit "wait"],
    .all [lit "waiting", T.spaces1, lit "for"], .all [lit "pending", T.spaces1, lit "owner"]])

def noBlockerRe : Pattern :=
  T.bounded (.any [lit "none", .seq (lit "no blocker") (.opt (lit "s")),
    .all [lit "n", .opt (.one '/'), lit "a"], lit "not applicable"])

def keyWord (name : String) : Pattern := .all [lit name, .opt (oneOf ['_', ' ', '-']), lit "key"]

def credentialsRe : Pattern :=
  T.bounded (.any [.seq (lit "credential") (.opt (lit "s")), lit "secret", lit "secrets", keyWord "api",
    keyWord "access", keyWord "private", keyWord "ssh", lit "password", lit "passphrase", lit "token",
    lit "oauth", .seq (lit ".env") T.boundary,
    .all [lit "env", T.spaces1, lit "var", .opt (lit "iable"), .opt (lit "s")]])

def destructiveRe : Pattern :=
  T.bounded (.any [lit "destructive", .all [lit "data", .opt (oneOf ['_', ' ', '-']), lit "loss"],
    lit "irreversible", lit "unrecoverable", lit "delete", lit "deletion", lit "drop", lit "truncate",
    lit "wipe", lit "purge", lit "destroy", .all [lit "rm", T.spaces1, lit "-rf"],
    .all [lit "drop", T.spaces1, lit "table"]])

def signOff : Pattern := .all [lit "sign", .opt (oneOf ['-', ' ']), lit "off"]

def ownerProofRe : Pattern :=
  .any [
    .all [T.bounded (.any [lit "owner", lit "operator", lit "human", lit "user"]), .lazyStar anyChar,
      T.bounded (.any [.seq (lit "approv") T.words, signOff, lit "proof", .seq (lit "attest") T.words,
        lit "input", .seq (lit "confirm") T.words, lit "decision", .seq (lit "authoriz") T.words,
        lit "permission"])],
    T.bounded (.all [lit "owner", .opt (oneOf ['-', ' ']), lit "only"]),
    T.bounded (.any [signOff, lit "attestation"])]

def liveMoneyRe : Pattern :=
  .any [
    T.bounded (.any [lit "money", lit "monetary", lit "financial", lit "finance",
      .seq (lit "fund") (.opt (lit "s")), lit "payment", lit "payout",
      .all [lit "pay", .opt (oneOf ['-', ' ']), lit "out"], lit "invoice", lit "billing", lit "charge",
      lit "refund", .all [lit "wire", .opt (oneOf ['-', ' ']), lit "transfer"],
      .all [lit "live", .opt (oneOf ['-', ' ']), lit "money"], lit "purchase", lit "transaction"]),
    .seq (.one '$') (.char T.isDigit)]

/-- The categories a reviewer BLOCK must never be auto-remediated for. -/
def unsafeCategories : List (String × Pattern) := [
  ("credentials_secrets", credentialsRe T), ("destructive_data_loss", destructiveRe T),
  ("owner_user_proof", ownerProofRe T), ("live_money_financial", liveMoneyRe T)]

def unsafeText (phrase : String) : Bool := (unsafeCategories T).any fun c => search c.2 phrase.toList

/-- Sorted by name, as `tuple(sorted(found))`. -/
def unsafeBlockerCategories (candidates : List String) : List String :=
  (((unsafeCategories T).filter fun c => candidates.any fun p => search c.2 p.toList).map (·.1)).mergeSort
    fun a b => decide (a ≤ b)

def slugifyFieldName (phrase : String) : String :=
  let folded := (PyText.strip T.isSpace phrase).toList.flatMap lowerChars
  let plain := fun c : Char => ('a' ≤ c && c ≤ 'z') || ('0' ≤ c && c ≤ '9')
  let pieces := (folded.splitBy fun a b => plain a == plain b).map fun p => if p.all plain then p else ['_']
  PyText.strip (· == '_') (String.ofList pieces.flatten)

/-- A captured phrase counts unless it is blank or says that there is no blocker. -/
def candidateOf (g : List Char) : Option String :=
  let candidate := PyText.strip T.isSpace (String.ofList g)
  if candidate ≠ "" ∧ !(fullMatch (noBlockerRe T) candidate.toList || search (noBlockerRe T) candidate.toList)
  then some candidate else none

def blockerCandidatesFromText (text : String) : List String :=
  let fields := (findIter (blockerFieldRe T) text.toList).filterMap fun m => candidateOf T m.2.1
  if fields.isEmpty ∧ search (bareBlockersRe T) text.toList then
    ((findIter (bulletRe T) text.toList).filterMap fun m => candidateOf T m.2.1).eraseDups
  else fields.eraseDups

def isConcreteCodeBlocker (candidate : String) : Bool :=
  let c := PyText.strip (fun x => x == '.' || x == ';') (PyText.strip T.isSpace candidate)
  8 ≤ c.length && !(fullMatch (noBlockerRe T) c.toList || search (noBlockerRe T) c.toList) &&
    !search (ownerExternalRe T) c.toList

def genericBlockersFromText (text : String) : List String :=
  (blockerCandidatesFromText T text).filter (isConcreteCodeBlocker T)

/-- `_extract_flat_blockers`; `none` when the metadata is not flat reviewer metadata. -/
def extractFlatBlockers (runMetadata : Json) : Option (List String) :=
  if !runMetadata.isDict then none
  else if (runMetadata.get? "verdict").isNone ∨ ((runMetadata.get? "agentflow_outcome").any (·.isDict)) then none
  else match runMetadata.get? "blockers" with
  | some (.arr items) =>
    some ((items.map fun b => PyText.strip T.isSpace (T.str b)).filter (· ≠ ""))
  | some (.str s) => some (if PyText.strip T.isSpace s ≠ "" then [PyText.strip T.isSpace s] else [])
  | _ => some []

def flatVerdict (runMetadata : Json) : Option Verdict :=
  Verdict.ofString? (asciiUpper (T.strOr (runMetadata.get? "verdict") ""))

/-- `_compile_flat_reviewer`: `none` lets the summary grammar decide. -/
def compileFlatReviewer (c : SourceRef) (runMetadata : Json) :
    Except PyError (Option (OutcomeEnvelope × List String)) :=
  match extractFlatBlockers T runMetadata, flatVerdict T runMetadata with
  | some blockers, some verdict =>
    if verdict.blocking ∧ blockers ≠ [] then
      let kind := if unsafeBlockerCategories T blockers ≠ [] then .semanticRefusal else .codeFix
      catchEnvelope
        ((fun e => some (e, blockers)) <$> OutcomeEnvelope.make c
          { verdict := verdict, continuationKind := kind, confidence := .flatMetadata })
        (.ok none)
    else if verdict = .go then
      catchEnvelope
        ((fun e => some (e, [])) <$> OutcomeEnvelope.make c
          { verdict := verdict, continuationKind := .complete, confidence := .flatMetadata })
        (.ok none)
    else .ok none
  | _, _ => .ok none

/-- The kind of a requirement named in structured metadata; an unknown word is a fact. -/
def requirementKindOf (v : Option Json) : RequirementKind :=
  (RequirementKind.ofString? (T.strOr v "fact")).getD .fact

/-- The last `required_inputs` dict with this name, as the lookup dicts keep it. -/
def namedItem (items : List Json) (name : String) : Option Json :=
  items.reverse.find? fun item =>
    item.isDict && (item.get? "name").any fun n => n.truthy && T.str n == name

def requirementsFromEnvelope (e : OutcomeEnvelope) (structured : Option Json) :
    Except PyError (List Requirement) := do
  let items ← match structured with
    | some block => loopItems block "required_inputs"
    | none => .ok []
  pure (e.requirements.map fun r =>
    let item := namedItem T items r.name
    { name := r.name
      kind := (item.map fun i => requirementKindOf T (i.get? "kind")).getD .fact
      authority := r.authority
      question := (item.map fun i => T.strOr (i.get? "question") "").getD "" })

def compileGenericBlockerProse (c : SourceRef) (text : String) :
    Except PyError (Option (OutcomeEnvelope × List Requirement)) :=
  match Verdict.ofString? (parseVerdictSummary T text).verdict with
  | none => .ok none
  | some verdict =>
    if !verdict.blocking then .ok none
    else
      let candidates := blockerCandidatesFromText T text
      if unsafeBlockerCategories T candidates ≠ [] then
        catchEnvelope
          ((fun e => some (e, [])) <$> OutcomeEnvelope.make c
            { verdict := verdict, continuationKind := .semanticRefusal, confidence := .deterministicGrammar })
          (.ok none)
      else if candidates.filter (isConcreteCodeBlocker T) = [] then .ok none
      else
        catchEnvelope
          ((fun e => some (e, [])) <$> OutcomeEnvelope.make c
            { verdict := verdict, continuationKind := .codeFix, confidence := .deterministicGrammar })
          (.ok none)

def compileNaturalProse (c : SourceRef) (text : String) :
    Except PyError (Option (OutcomeEnvelope × List Requirement)) :=
  match (searchGroup (bareVerdictRe T) text.toList).bind fun g => Verdict.ofString? (asciiUpper (String.ofList g)),
      searchGroup (pendingOwnerRe T) text.toList with
  | some verdict, some phrase =>
    let fieldName := slugifyFieldName T (String.ofList phrase)
    if !verdict.blocking ∨ fieldName = "" then .ok none
    else
      let question := String.ofList (fieldName.toList.map fun x => if x = '_' then ' ' else x) ++ "?"
      catchEnvelope
        ((fun e => some (e, [{ name := fieldName, kind := .fact, authority := "owner", question := question }])) <$>
          OutcomeEnvelope.make c {
            verdict := verdict
            continuationKind := .needsInput
            contractRef := genericOwnerInputContract
            requirements := [⟨fieldName, "owner"⟩]
            confidence := .deterministicGrammar })
        (.ok none)
  | _, _ => .ok none

def compileDeterministic (c : SourceRef) (text : String) :
    Except PyError (Option (OutcomeEnvelope × List Requirement)) := do
  let fallback ← fromTextFallback T c text
  if fallback.continuationKind ≠ .unknown then
    let requirements ← requirementsFromEnvelope T fallback none
    pure (some (fallback, requirements))
  else
    match ← compileGenericBlockerProse T c text with
    | some r => pure (some r)
    | none => compileNaturalProse T c text

def modelRequirement (item : Json) : Option Requirement :=
  if item.isDict ∧ (item.get? "name").any (·.truthy) then
    some {
      name := T.strOr (item.get? "name") ""
      kind := requirementKindOf T (item.get? "kind")
      authority := T.strOr (item.get? "authority") "owner"
      question := T.strOr (item.get? "question") "" }
  else none

/-- A stage-3 candidate may only ever land on `needs_input`. -/
def compileModelCandidate (c : SourceRef) (candidate : Json) :
    Except PyError (Option (OutcomeEnvelope × List Requirement)) :=
  match Verdict.ofString? (T.strOr (candidate.get? "verdict") ""),
      ContinuationKind.ofString? (T.strOr (candidate.get? "continuation_kind") "") with
  | some verdict, some .needsInput => do
    let items ← loopItems candidate "required_inputs"
    let requirements := items.filterMap (modelRequirement T)
    let contract := T.strOr (candidate.get? "contract_ref") ""
    catchEnvelope
      ((fun e => some (e, requirements)) <$> OutcomeEnvelope.make c {
        verdict := verdict
        continuationKind := .needsInput
        contractRef := if contract = "" then genericOwnerInputContract else contract
        requirements := requirements.map fun r => ⟨r.name, r.authority⟩
        nextTransition := T.strOr (candidate.get? "resume_transition") ""
        confidence := .modelCompiled })
      (.ok none)
  | _, _ => .ok none

/-- The blockers and refusal categories a deterministic outcome carries along. -/
def deterministicOutcome (text : String) (e : OutcomeEnvelope) (requirements : List Requirement) :
    CompiledOutcome :=
  if e.continuationKind = .codeFix then
    let named := (parseVerdictSummary T text).blockers
    { envelope := e, stage := .deterministic, requirements := requirements
      blockers := if named = [] then genericBlockersFromText T text else named }
  else if e.continuationKind = .semanticRefusal then
    let candidates := blockerCandidatesFromText T text
    { envelope := e, stage := .deterministic, requirements := requirements
      blockers := candidates.filter fun p => unsafeBlockerCategories T [p] ≠ []
      refusalCategories := unsafeBlockerCategories T candidates }
  else { envelope := e, stage := .deterministic, requirements := requirements }

/-- An accepted model candidate, or the fail-closed end of the pipeline. -/
def settleCandidate (c : SourceRef) : Option (OutcomeEnvelope × List Requirement) → Except PyError CompiledOutcome
  | some (e, requirements) => pure { envelope := e, stage := .model, requirements := requirements }
  | none => do
    let e ← unknownEnvelope c .unknown
    pure { envelope := e, stage := .unresolved }

def compileByModel (model : ModelCompiler) (input : ModelInput) (c : SourceRef) :
    Except PyError CompiledOutcome := do
  let candidate ← match model input with
    | some j => compileModelCandidate T c j
    | none => .ok none
  settleCandidate c candidate

def compileOutcome (model : ModelCompiler) (runMetadata : Json) (input : ModelInput) (c : SourceRef) :
    Except PyError CompiledOutcome :=
  match extractStructured runMetadata with
  | some block => do
    match ← fromStructured T c block with
    | some e =>
      let requirements ← requirementsFromEnvelope T e (some block)
      pure { envelope := e, stage := .structured, requirements := requirements }
    | none =>
      let e ← unknownEnvelope c .unknown
      pure { envelope := e, stage := .unresolved }
  | none => do
    match ← compileFlatReviewer T c runMetadata with
    | some (e, blockers) =>
      pure {
        envelope := e
        stage := .flat
        blockers := blockers
        refusalCategories := if e.continuationKind = .semanticRefusal then unsafeBlockerCategories T blockers else [] }
    | none =>
      match ← compileDeterministic T c input.summary with
      | some (e, requirements) => pure (deterministicOutcome T input.summary e requirements)
      | none => compileByModel T model input c

end

inductive FieldAuthority
  | system
  | owner
  | verifier
  deriving DecidableEq, Repr

def FieldAuthority.value : FieldAuthority → String
  | .system => "system"
  | .owner => "owner"
  | .verifier => "verifier"

/-- `FieldAuthority(text)`; `none` is the `ValueError`. -/
def FieldAuthority.ofString? (s : String) : Option FieldAuthority :=
  [.system, .owner, .verifier].find? fun a => a.value == s

structure InputField where
  name : String
  authority : FieldAuthority
  required : Bool := true
  allowedValues : List String := []
  kind : RequirementKind := .fact
  question : String := ""

structure InputContract where
  contractRef : String
  ownerRole : String
  fields : List InputField
  artifactIds : List String := []

namespace InputContract

def ownerFields (c : InputContract) : List InputField := c.fields.filter fun f => f.authority == .owner

def fieldFromRequirement (r : Requirement) : Option InputField :=
  (FieldAuthority.ofString? r.authority).map fun authority =>
    { name := r.name, authority := authority, required := r.required, allowedValues := r.allowedValues,
      kind := r.kind, question := r.question }

/-- `dynamic_owner_input`; `none` where a requirement names an unknown authority. -/
def dynamicOwnerInput (contractRef ownerRole : String) (requirements : List Requirement) : Option InputContract :=
  (requirements.mapM fieldFromRequirement).map fun fields => ⟨contractRef, ownerRole, fields, []⟩

/-- The dict comprehension keeps the last definition of a name. -/
def known (c : InputContract) (name : String) : Option InputField := c.fields.reverse.find? fun f => f.name == name

/-- `value in allowed_values`, a tuple of texts. -/
def allows (f : InputField) (value : Json) : Bool :=
  f.allowedValues.isEmpty || match value with
    | .str s => f.allowedValues.contains s
    | _ => false

def valueError (c : InputContract) (name : String) (value : Json) : Option String :=
  match c.known name with
  | none => some ("unknown_field:" ++ name)
  | some f =>
    if f.authority ≠ .owner then some ("field_not_owner_authority:" ++ name)
    else if !allows f value then some ("value_not_allowed:" ++ name)
    else none

/-- The accepted values, or none of them together with the errors. -/
def validateOwnerSubmission (c : InputContract) (values : List (String × Json)) :
    List (String × Json) × List String :=
  let wrong := values.filterMap fun v => c.valueError v.1 v.2
  let missing := ((c.ownerFields.map InputField.name).eraseDups.filter fun name =>
    (c.known name).any (fun f => f.required) && !values.any fun v => v.1 == name).map
    ("missing_required_owner_field:" ++ ·)
  if wrong ++ missing = [] then (values, []) else ([], wrong ++ missing)

end InputContract

structure SatisfiedRequirement where
  requirement : Requirement
  value : Json
  source : String
  sourceRef : String := ""
  policyId : String := ""

/-- What the requirement resolver answers; an interaction is needed when something is unresolved. -/
structure Resolution where
  satisfied : List SatisfiedRequirement
  unresolved : List Requirement

end AgentflowHermes
