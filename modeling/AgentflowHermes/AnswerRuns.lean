import AgentflowHermes.AnswerRules
import AgentflowHermes.ReplyReading
import AgentflowHermes.ResolverErrors

namespace AgentflowHermes

open CrashProgram RowTable InputContract Relation

/-- What a route of the owner branch asks, or answers itself. -/
def OwnerRoute.asking (T : ReplyText) (e : OutcomeEnvelope) : OwnerRoute → Option Asking
  | .auto k r => some ⟨e.toInstance.source, autoContractRef e, k, r.satisfied.map fun x => x.requirement.name⟩
  | .ask _ r => (replyContract T (r.unresolved.map requirementToDict)).toOption.map fun k =>
      ⟨e.toInstance.source, autoContractRef e, k, r.satisfied.map fun x => x.requirement.name⟩
  | _ => none

/-- The contract of the asking carries the registered one. -/
def Asking.CarriesRegistered (contracts : String → Option InputContract) (a : Asking) : Prop :=
  ∀ c, contracts a.contractRef = some c → Carries c a.contract a.resolved

/-- The requirements that are resolved for an event. -/
def ownerRequirements (c : InputContract) (requirements : List Requirement) : List Requirement :=
  if requirements = [] then c.ownerFields.map fieldRequirement else requirements

/-- What the resolver makes of the event leaves nothing of the contract out: the owner is asked by requirements that
carry it, and so is the resolver under the generic contract, which has none of its own when it allows any value. -/
structure AsksInFull (e : OutcomeEnvelope) (c : InputContract) (requirements : List Requirement) (r : Resolution) : Prop where
  bare : r.unresolved = [] → autoContractRef e = genericOwnerInputContract → requirements = [] → c.AnyValue
  named : r.unresolved = [] → autoContractRef e = genericOwnerInputContract → requirements ≠ [] →
    CarriesList c requirements (r.satisfied.map fun x => x.requirement.name)
  asked : r.unresolved ≠ [] →
    CarriesList c (r.unresolved.map Requirement.stored) (r.satisfied.map fun x => x.requirement.name)

/-- The event is ingested without the contract it refers to losing anything. -/
def KeepsContract (cfg : IngestConfig) (e : OutcomeEnvelope) (requirements : List Requirement) (md : Json) : Prop :=
  ∀ c r, cfg.contracts (autoContractRef e) = some c →
    cfg.resolve (autoContractRef e) (ownerRequirements c requirements) md = .ok r → AsksInFull e c requirements r

/-- Owner events are ingested and owners reply, each as far as it gets; everything else leaves receipts and
open questions alone. -/
inductive AnswerStep (T : ReplyText) (contracts : String → Option InputContract)
    (guard : IngestConfig → OutcomeEnvelope → List Requirement → Json → Prop) :
    Store × List Asking → Store × List Asking → Prop
  | ingest {ok : ∀ q, Response q → Prop} {s t : Store} {log tr o} (cfg : IngestConfig) (registered : cfg.contracts = contracts)
      (e : OutcomeEnvelope) (requirements : List Requirement) (md : Json) (meets : guard cfg e requirements md)
      (exec : Exec ok (ownerInputLike cfg e requirements md) s tr o t) :
      AnswerStep T contracts guard (s, log) (t, ((ownerRoute cfg e requirements md).asking T e).toList ++ log)
  | reply {ok : ∀ q, Response q → Prop} {s t : Store} {log tr o} (args : ReplyArgs)
      (exec : Exec ok (handleSubmitInputText T args) s tr o t) : AnswerStep T contracts guard (s, log) (t, log)
  | other {s t : Store} {log} (kept : Kept s t) (receipts : t.receipts = s.receipts) (members : t.members = s.members) :
      AnswerStep T contracts guard (s, log) (t, log)

section

variable {T : ReplyText} {ok : ∀ q, Response q → Prop} {contracts : String → Option InputContract} {log : List Asking}
  {s t : Store}

theorem registeredRef_of_tuple {n n' : NewInstance} (h : n.tuple = n'.tuple) :
    n.source = n'.source ∧ registeredRef n = registeredRef n' := by
  unfold NewInstance.tuple at h
  simp only [Prod.mk.injEq] at h
  obtain ⟨board, task, event, ref⟩ := h
  unfold NewInstance.source registeredRef
  exact ⟨by rw [board, task, event], by rw [ref]⟩

theorem registeredRef_auto (e : OutcomeEnvelope) : registeredRef (autoInstance e) = autoContractRef e := by
  show orText (orText e.contractRef genericOwnerInputContract) genericOwnerInputContract = orText e.contractRef _
  by_cases empty : e.contractRef = ""
  · simp [orText, empty]
  · simp [orText, empty]

/-- An asking of the log carries the contract of every instance of its event. -/
theorem carried_of_asking {a : Asking} (ha : a ∈ log) (carries : a.CarriesRegistered contracts) {n n' : NewInstance}
    (same : n.tuple = n'.tuple) (source : a.source = n'.source) (ref : a.contractRef = registeredRef n') :
    Carried contracts log n a.contract := by
  obtain ⟨source', ref'⟩ := registeredRef_of_tuple same
  refine ⟨a, ha, ⟨source.trans source'.symm, ref.trans ref'.symm⟩, rfl, fun c hc => carries c ?_⟩
  rw [ref, ← ref']
  exact hc

theorem wp_ingest (cfg : IngestConfig) (e : OutcomeEnvelope) (route : OwnerRoute) (hs : WellAnswered T contracts log s)
    (logged : ∀ a, route.asking T e = some a → a ∈ log ∧ a.CarriesRegistered contracts) :
    wp (answerTerms T ok contracts log) (route.perform cfg e) (fun _ _ => True) s := by
  cases route with
  | noop => exact ⟨hs, trivial⟩
  | raises error => exact ⟨hs, trivial⟩
  | auto k r =>
    obtain ⟨mem, carries⟩ := logged _ rfl
    refine wp_bind.mpr (wp_mono (wp_detect_present (autoInstance e) _ hs) fun d u hu post => ?_)
    obtain ⟨present, same⟩ := post
    have carried := carried_of_asking mem carries same rfl (registeredRef_auto e).symm
    have recorded : Safe (answerTerms T ok contracts log) (StillThere d.2) (Prog.forEach (recordSatisfied d.2.id) r.satisfied) :=
      safe_forEach (stable_stillThere d.2) fun x _ => ownerTerms_answer.safe_recordSatisfaction ..
    have submitted : Safe (answerTerms T ok contracts log) (StillThere d.2)
        (OwnerInputHandler.onReceipt d.2 (autoSubmission r) cfg.adapter k) := safe_onReceipt _ _ _ _ carried
    exact (safe_bind (stable_stillThere d.2) recorded fun _ => safe_bind (stable_stillThere d.2) submitted fun _ =>
      safe_pure _).wp u hu present
  | ask k r =>
    refine wp_bind.mpr (wp_bind.mpr (wp_mono (wp_detect_present e.toInstance _ hs) fun d u hu post => ?_))
    obtain ⟨present, same⟩ := post
    have carried : ∀ k, replyContract T (r.unresolved.map requirementToDict) = .ok k →
        Carried contracts log d.2.toNewInstance k := by
      intro k' hk
      obtain ⟨mem, carries⟩ := logged _ (by rw [OwnerRoute.asking, hk]; rfl)
      exact carried_of_asking mem carries same rfl rfl
    have asked : Safe (answerTerms T ok contracts log) (StillThere d.2)
        (OwnerInputHandler.interactionFor d.2 cfg.inbox r.unresolved "" "") := safe_interactionFor _ _ _ _ _ carried
    refine wp_bind.mpr (wp_mono (asked.wp u hu present) fun interaction v hv _ => ?_)
    have anchor := ownerTerms_answer.moves.safe_planAnchor (K := answerTerms T ok contracts log) stable_true d.2 cfg.adapter
      (ownerAnchorIntent d.2 k (anchorKey (stableDigest d.2)) interaction) fun s hs _ => answer_addStep _ _ _ hs
    refine wp_bind.mpr (wp_mono (anchor.wp v hv trivial) fun _ w hw _ => ?_)
    exact wp_bind.mpr (wp_mono ((ownerTerms_answer.moves.safe_readState d.2.id).wp w hw trivial) fun _ x hx _ =>
      ⟨hx, hx, trivial⟩)

/-- The member's instance is there, and its contract carries the registered one. -/
def Answerable (contracts : String → Option InputContract) (log : List Asking) (r : MemberReply) (s : Store) : Prop :=
  ∃ j ∈ s.instances.rows, j.id = r.continuationId ∧ Carried contracts log j.toNewInstance r.contract

theorem stable_answerable (replies : List MemberReply) :
    Stable (answerTerms T ok contracts log) fun s => ∀ r ∈ replies, Answerable contracts log r s := by
  refine ⟨fun s t _ kept _ answerable r hr => ?_⟩
  obtain ⟨j, hj, owns, carried⟩ := answerable r hr
  obtain ⟨k, hk, same, columns⟩ := kept j hj
  exact ⟨k, hk, same.trans owns, columns ▸ carried⟩

theorem safe_submitMember (args : ReplyArgs) (r : MemberReply) :
    Safe (answerTerms T ok contracts log) (Answerable contracts log r) (submitMember args r) := by
  refine ⟨fun s hs answerable => wp_get_bind.mpr ?_⟩
  cases hi : s.getInstance r.continuationId with
  | none => exact ⟨hs, trivial⟩
  | some i =>
    obtain ⟨mem, same⟩ := get?_eq_some.mp hi
    obtain ⟨j, hj, owns, carried⟩ := answerable
    obtain rfl : i = j := rowId_inj mem hj (same.trans owns.symm)
    exact (safe_bind (stable_stillThere i) (safe_onReceipt i _ none r.contract carried) fun _ => safe_pure _).wp s hs
      ⟨i, mem, rfl, rfl⟩

theorem safe_updateCase {α : Type} (caseId : String) (state : CaseState) {k : Store → Run α} {P : Store → Prop}
    (stable : Stable (answerTerms T ok contracts log) P) (next : ∀ s, Safe (answerTerms T ok contracts log) P (k s)) :
    Safe (answerTerms T ok contracts log) P (.write (Store.updateInteractionCase caseId state) k) :=
  safe_write stable (fun s hs _ => WellAnswered.frame (t := s.updateInteractionCase caseId state) hs (kept_of_eq rfl) rfl rfl) next

theorem safe_handleSubmitInputText (args : ReplyArgs) :
    Safe (answerTerms T ok contracts log) (fun _ => True) (handleSubmitInputText T args) := by
  unfold handleSubmitInputText
  refine safe_ite (safe_pure _) (safe_ite (safe_pure _) (safe_bind stable_true (safe_get _) fun case? => ?_))
  cases case? with
  | none => exact safe_pure _
  | some c =>
    refine ⟨fun s hs _ => wp_get_bind.mpr ?_⟩
    dsimp only
    split
    next => exact ⟨hs, trivial⟩
    next ordered _ =>
      refine (safe_ite (P := fun t => t = s) (safe_pure _) (safe_ite (safe_pure _) ⟨?_⟩)).wp s hs rfl
      rintro u hu rfl
      split
      next => exact ⟨hu, trivial⟩
      next replies hreplies =>
        have answerable : ∀ r ∈ replies, Answerable contracts log r u := by
          intro r hr
          obtain ⟨m, hm, made⟩ := mapM_ok_mem hreplies r hr
          obtain ⟨id, contract⟩ := memberReply_ok made
          obtain ⟨i, hi, owns, carried⟩ := hu.members m (List.mem_filter.mp hm).1
          exact ⟨i, hi, owns.trans id.symm, carried _ contract⟩
        have stable := @stable_answerable T ok contracts log replies
        refine Safe.wp (P := fun s => ∀ r ∈ replies, Answerable contracts log r s) ?_ u hu answerable
        refine safe_ite (safe_updateCase _ _ stable fun _ => safe_pure _) ?_
        refine safe_bind stable (safe_forEach stable fun r hr => (safe_submitMember args r).weaken fun _ h => h r hr)
          fun resumed => ?_
        refine safe_bind stable (safe_forEach stable fun r _ => safe_forEach stable fun v _ =>
          ownerTerms_answer.safe_recordSatisfaction ..)
          fun _ => ?_
        exact safe_updateCase _ _ stable fun _ => safe_updateCase _ _ stable fun _ => safe_pure _

/-- The contract an auto-resolution is checked against. -/
def checkedBy (ref : String) (c : InputContract) (requirements : List Requirement) : Option InputContract :=
  if ref = genericOwnerInputContract ∧ ownerRequirements c requirements ≠ [] then
    dynamicOwnerInput c.contractRef c.ownerRole (ownerRequirements c requirements)
  else some c

theorem ownerContract_eq {ref : String} {c : InputContract} (hc : contracts ref = some c) (requirements : List Requirement) :
    ownerContract contracts ref requirements = some (checkedBy ref c requirements, ownerRequirements c requirements) := by
  unfold ownerContract checkedBy
  rw [hc, Option.map_some]
  change some (if ref = genericOwnerInputContract ∧ ownerRequirements c requirements ≠ [] then
    (dynamicOwnerInput c.contractRef c.ownerRole (ownerRequirements c requirements), ownerRequirements c requirements)
    else (some c, ownerRequirements c requirements)) = _
  split <;> rfl

/-- Where nothing is lost, the contract that the answers are checked against carries the registered one. -/
theorem carries_of_keepsContract {cfg : IngestConfig} {e : OutcomeEnvelope} {requirements : List Requirement} {md : Json}
    (keeps : KeepsContract cfg e requirements md) {a : Asking} (ha : (ownerRoute cfg e requirements md).asking T e = some a) :
    a.CarriesRegistered cfg.contracts := by
  intro c hc
  have ref : a.contractRef = autoContractRef e := by
    cases hroute : ownerRoute cfg e requirements md with
    | noop => rw [hroute] at ha; cases ha
    | raises => rw [hroute] at ha; cases ha
    | auto k r =>
      rw [hroute] at ha
      cases ha
      rfl
    | ask k r =>
      rw [hroute] at ha
      obtain ⟨k', _, rfl⟩ := Option.map_eq_some_iff.mp ha
      rfl
  rw [ref] at hc
  unfold ownerRoute at ha
  rw [ownerContract_eq hc] at ha
  cases hk? : checkedBy (autoContractRef e) c requirements with
  | none =>
    rw [hk?] at ha
    cases ha
  | some k =>
    rw [hk?] at ha
    dsimp only at ha
    cases hr : cfg.resolve (autoContractRef e) (ownerRequirements c requirements) md with
    | error err =>
      rw [hr] at ha
      cases ha
    | ok r =>
      have full := keeps c r hc hr
      rw [hr] at ha
      dsimp only at ha
      by_cases resolved : r.unresolved = []
      · rw [if_pos resolved] at ha
        cases ha
        unfold checkedBy at hk?
        by_cases dynamic : autoContractRef e = genericOwnerInputContract ∧ ownerRequirements c requirements ≠ []
        · rw [if_pos dynamic] at hk?
          refine (carries_dynamic_iff hk?).mpr ?_
          unfold ownerRequirements
          split
          next bare => exact carriesList_fields_iff.mpr (full.bare resolved dynamic.1 bare)
          next named => exact full.named resolved dynamic.1 named
        · rw [if_neg dynamic] at hk?
          cases hk?
          exact Carries.refl _ _
      · rw [if_neg resolved] at ha
        obtain ⟨k', hk', rfl⟩ := Option.map_eq_some_iff.mp ha
        cases hreply : replyContract T (r.unresolved.map requirementToDict) with
        | error err =>
          rw [hreply] at hk'
          cases hk'
        | ok k'' =>
          rw [hreply] at hk'
          cases hk'
          exact (carries_dynamic_iff (replyContract_stored T hreply)).mpr (full.asked resolved)

theorem AnswerStep.answered {c c' : Store × List Asking} (step : AnswerStep T contracts KeepsContract c c') (h : WellAnswered T contracts c.2 c.1) :
    WellAnswered T contracts c'.2 c'.1 := by
  cases step with
  | ingest cfg registered e requirements md keeps exec =>
    rw [ownerInputLike_perform] at exec
    obtain rfl := registered
    have more := h.more fun a ha => List.mem_append_right ((ownerRoute cfg e requirements md).asking T e).toList ha
    refine (wp_sound (wp_ingest cfg e _ more fun a ha => ⟨?_, carries_of_keepsContract keeps ha⟩) exec).2.1
    exact List.mem_append_left _ (by rw [ha]; exact List.mem_singleton_self a)
  | reply args exec => exact ((safe_handleSubmitInputText args).exec h trivial exec).2
  | other kept receipts members => exact (h.frame kept receipts members).2

/-- Every receipt respects the contract that is registered for its instance, when no event was
ingested with a loss. -/
theorem answers_respect_contract
    (run : ReflTransGen (AnswerStep T contracts KeepsContract) (Store.empty, []) (s, log)) :
    ∀ r ∈ s.receipts.rows, ∃ i ∈ s.instances.rows, i.id = r.continuationId ∧
      AnswerRespects contracts log i.toNewInstance r.fields := by
  suffices answered : ∀ c, ReflTransGen (AnswerStep T contracts KeepsContract) (Store.empty, []) c →
      WellAnswered T contracts c.2 c.1 from (answered _ run).receipts
  intro c run
  induction run with
  | refl => exact ⟨fun r hr => absurd hr List.not_mem_nil, fun m hm => absurd hm List.not_mem_nil⟩
  | tail _ step ih => exact step.answered ih

end

section Samples

def decisionFields : List InputField := [
  { name := "owner_decision", authority := .owner, allowedValues := ["approve", "reject", "revise"] },
  { name := "owner_confirmation", authority := .owner }]

/-- The registry with the generic contract and one of a domain. -/
def decisionContracts (ref : String) : Option InputContract :=
  if ref = genericOwnerInputContract then some ⟨genericOwnerInputContract, "board-owner", decisionFields, []⟩
  else if ref = "release.v1" then some ⟨"release.v1", "release-owner", decisionFields, []⟩
  else none

def decisionBoard : IngestConfig where
  board := "main"
  dbIdentity := "main.db"
  contracts := decisionContracts
  resolve := humanEffortResolver asciiText [] "main"
  adapter := some { board := "main" }

/-- A bare request for a decision. -/
def decisionRequest (contractRef : String) : OutcomeEnvelope where
  eventId := "12"
  board := "main"
  sourceTaskId := "t4"
  sourceGraphId := "g4"
  originRef := "chat:1"
  returnToRef := ""
  workspaceRef := ""
  verdict := .block
  continuationKind := .approvalRequired
  contractRef := contractRef
  confidence := .flatMetadata
  complete := by decide
  coherent := ⟨nofun, nofun, nofun⟩

/-- Run metadata that derives the decision. -/
def derivedDecision (decision : String) : Json :=
  .obj [("system_derived", .obj [("owner_decision", .str decision), ("owner_confirmation", .bool true)])]

def decided (contractRef decision : String) : Store :=
  (run (steadyEnv 0 { success := true, taskId := "t9" } true)
    (ownerInputLike decisionBoard (decisionRequest contractRef) [] (derivedDecision decision)) () .empty).2.2

def decisionRoute (contractRef decision : String) : OwnerRoute :=
  ownerRoute decisionBoard (decisionRequest contractRef) [] (derivedDecision decision)

theorem decided_step {guard : IngestConfig → OutcomeEnvelope → List Requirement → Json → Prop} {contractRef decision : String}
    (meets : guard decisionBoard (decisionRequest contractRef) [] (derivedDecision decision)) :
    AnswerStep asciiReply decisionContracts guard (Store.empty, [])
      (decided contractRef decision,
        ((decisionRoute contractRef decision).asking asciiReply (decisionRequest contractRef)).toList ++ []) := by
  obtain ⟨tr, exec⟩ := @run_exec _ _ _ _ _ (steadyEnv 0 { success := true, taskId := "t9" } true) (fun _ _ => True)
    (fun _ _ => trivial) (ownerInputLike decisionBoard (decisionRequest contractRef) [] (derivedDecision decision)) ()
    Store.empty
  exact .ingest decisionBoard rfl _ _ _ meets exec

/-- Under a contract of its own, the decision is one that the contract allows. -/
theorem answers_respect_contract_approved : ∃ r ∈ (decided "release.v1" "approve").receipts.rows,
    ∃ i ∈ (decided "release.v1" "approve").instances.rows, i.id = r.continuationId ∧ ∃ log,
      AnswerRespects decisionContracts log i.toNewInstance r.fields := by
  have resolves : ∀ c r, decisionContracts "release.v1" = some c →
      decisionBoard.resolve "release.v1" (ownerRequirements c []) (derivedDecision "approve") = .ok r → r.unresolved = [] := by
    intro c r hc hr
    cases hc
    cases hr
    rfl
  have keeps : KeepsContract decisionBoard (decisionRequest "release.v1") [] (derivedDecision "approve") := by
    intro c r hc hr
    have own : autoContractRef (decisionRequest "release.v1") ≠ genericOwnerInputContract := by decide
    exact ⟨fun _ generic => absurd generic own, fun _ generic => absurd generic own,
      fun open_ => absurd (resolves c r hc hr) open_⟩
  have recorded : ((decided "release.v1" "approve").receipts.rows.any fun _ => true) = true := by decide +kernel
  obtain ⟨r, hr, _⟩ := List.any_eq_true.mp recorded
  obtain ⟨i, hi, owns, respects⟩ := answers_respect_contract (.single (decided_step keeps)) r hr
  exact ⟨r, hr, i, hi, owns, _, respects⟩

/-- Under the generic contract a decision is accepted that the contract does not allow. -/
theorem decision_not_allowed : ¬∀ c, ReflTransGen (AnswerStep asciiReply decisionContracts fun _ _ _ _ => True) (Store.empty, []) c →
    ∀ r ∈ c.1.receipts.rows, ∃ i ∈ c.1.instances.rows, i.id = r.continuationId ∧
      AnswerRespects decisionContracts c.2 i.toNewInstance r.fields := by
  intro claim
  have accepted : ((decided "" "maybe").receipts.rows.any fun r => r.fields.any fun v =>
      ((decisionContracts genericOwnerInputContract).bind fun c => c.known v.1).any fun g => !allows g v.2) = true := by
    decide +kernel
  have generic : ((decided "" "maybe").instances.rows.all fun i => registeredRef i.toNewInstance == genericOwnerInputContract) =
      true := by decide +kernel
  obtain ⟨r, hr, wrong⟩ := List.any_eq_true.mp accepted
  obtain ⟨v, hv, wrong⟩ := List.any_eq_true.mp wrong
  obtain ⟨i, hi, _, respects⟩ := claim _ (.single (@decided_step _ "" "maybe" trivial)) r hr
  have ref := beq_iff_eq.mp (List.all_eq_true.mp generic i hi)
  cases hc : decisionContracts genericOwnerInputContract with
  | none =>
    rw [hc] at wrong
    cases wrong
  | some c =>
    rw [hc] at wrong
    obtain ⟨g, hg, wrong⟩ := Option.any_eq_true _ _ |>.mp wrong
    rw [(respects c (ref ▸ hc)).allowed v hv g hg] at wrong
    cases wrong

end Samples

end AgentflowHermes
