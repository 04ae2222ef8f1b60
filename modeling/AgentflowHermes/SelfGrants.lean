import AgentflowHermes.CodeFixProgress
import AgentflowHermes.IngestCursor
import AgentflowHermes.OwnerStalls

namespace AgentflowHermes

open CrashProgram RowTable

/-- Of the records a submission leaves behind, none is new. -/
structure Ungranted (x : Nat) (s t : Store) : Prop where
  receipt : HasReceipt x t → HasReceipt x s
  step : ∀ key, HasStep x .materialization key t → HasStep x .materialization key s
  intent : ∀ digest, HasIntent x (materializeKey digest) t → HasIntent x (materializeKey digest) s

theorem RecordsKept.ungranted {x : Nat} {s t : Store} (h : RecordsKept x s t) : Ungranted x s t :=
  ⟨h.receipt.mp, fun key => (h.step _ key).mp, fun _ => (h.intent _).mp⟩

theorem Ungranted.trans {x : Nat} {s t u : Store} (h : Ungranted x s t) (h' : Ungranted x t u) : Ungranted x s u :=
  ⟨fun hr => h.receipt (h'.receipt hr), fun key hp => h.step key (h'.step key hp),
    fun digest ho => h.intent digest (h'.intent digest ho)⟩

/-- No continuation that may be one of the source has been granted anything since `s₀`. -/
def Withheld (src : String × String × String) (s₀ s : Store) : Prop := ∀ x, ¬Foreign src x s → Ungranted x s₀ s

def grantTerms (ok : ∀ q, Response q → Prop) (src : String × String × String) (s₀ : Store) : Terms where
  ok := ok
  inv := Withheld src s₀
  may _ _ := True
  guar := Kept

/-- What work on the source may do, and what work on other sources may. -/
def grantPermits (src : String × String × String) (mine : Prop) : Permits where
  creates n := mine ∨ n.source ≠ src
  own id s := mine ∨ Foreign src id s
  moves := True
  step kind := mine → kind ≠ .materialization
  enqueue n := mine → ∀ digest, n.idempotencyKey ≠ materializeKey digest
  receipts := ¬mine

section

variable {ok : ∀ q, Response q → Prop} {src : String × String × String} {s₀ s t : Store} {mine : Prop}

theorem withheld_write (hs : Withheld src s₀ s) (kept : Kept s t) (records : ∀ x, ¬Foreign src x s → Ungranted x s t) :
    (grantTerms ok src s₀).guar s t ∧ (grantTerms ok src s₀).inv t := by
  refine ⟨kept, fun x hx => ?_⟩
  have before : ¬Foreign src x s := fun h => hx (h.kept kept)
  exact (hs x before).trans (records x before)

theorem withheld_frame (hs : Withheld src s₀ s) (instances : t.instances = s.instances)
    (records : ∀ x, ¬Foreign src x s → Ungranted x s t) :
    (grantTerms ok src s₀).guar s t ∧ (grantTerms ok src s₀).inv t :=
  withheld_write hs (kept_of_eq instances) records

theorem stable_own (id : Nat) : Stable (grantTerms ok src s₀) ((grantPermits src mine).own id) :=
  ⟨fun _ _ _ kept _ h => h.imp (fun hm => hm) fun hf => hf.kept kept⟩

theorem outboxTerms_grant :
    OutboxTerms (grantTerms ok src s₀) (grantPermits src mine).own (grantPermits src mine).enqueue where
  may _ _ _ _ _ := trivial
  enqueue id n s hn own hs := by
    refine withheld_frame hs rfl fun x hx => ⟨fun h => h, fun _ h => h, fun digest h => ?_⟩
    rcases (hasIntent_enqueue s id n).mp h with h | ⟨hid, _, hk, _⟩
    · exact h
    · rcases own with hm | hf
      · exact absurd hk (hn hm digest)
      · exact absurd (hid ▸ hf) hx
  mark _ _ _ _ _ _ hs := withheld_frame hs rfl fun _ _ => (recordsKept_mark ..).ungranted
  reinterpret _ _ _ _ hs := withheld_frame hs rfl fun _ _ => (recordsKept_reinterpret ..).ungranted

theorem handlerTerms_grant : HandlerTerms (grantTerms ok src s₀) (grantPermits src mine) where
  stable := stable_own
  create n s hn hs := by
    have kept := @withheld_write ok _ _ _ _ hs (kept_createInstance s n) fun _ _ => RecordsKept.ungranted (recordsKept_eq rfl rfl rfl)
    exact ⟨kept.1, kept.2, hn.imp (fun hm => hm) (foreign_created s)⟩
  move id new reason s _ _ hs := withheld_write hs (kept_transition s id new reason) fun _ _ =>
    RecordsKept.ungranted (recordsKept_eq rfl rfl rfl)
  addStep id kind key taskId parent s hk own hs := by
    refine withheld_frame hs rfl fun x hx => ⟨fun h => h, fun key' h => ?_, fun _ h => h⟩
    rcases (hasStep_add s id kind key taskId parent).mp h with h | ⟨hid, hkind, _⟩
    · exact h
    · rcases own with hm | hf
      · exact absurd hkind (hk hm)
      · exact absurd (hid ▸ hf) hx
  markStep _ _ _ _ hs := withheld_frame hs rfl fun _ _ => (recordsKept_markStep ..).ungranted
  receipt id owner fields ref s hr own hs := by
    refine .intro (withheld_frame hs rfl fun x hx => ⟨fun h => ?_, fun _ h => h, fun _ h => h⟩) trivial
    rcases (hasReceipt_add s id owner fields ref none).mp h with h | hid
    · exact h
    · exact absurd (hid ▸ own.resolve_left hr) hx
  other _ _ hs same := withheld_frame hs same.instances fun _ _ => (recordsKept_eq same.receipts same.steps same.outbox).ungranted
  apply id n adapter hn _ := outboxTerms_grant.safe_applyBoardOperation id n adapter hn
  wake id taskId endpoint digest a _ hn _ := outboxTerms_grant.safe_ensureOriginWake stable_own id taskId endpoint digest a hn

theorem grantPermits_other (src : String × String × String) : (grantPermits src False).Open where
  moves := trivial
  step _ hm := hm.elim
  enqueue _ hm := hm.elim
  receipts hm := hm

/-- An operation under a key that no materialization has. -/
theorem unrelated_allowed {pre : String} (h : (pre.toList.zip "materialize:".toList).any fun c => c.1 != c.2)
    (step : Option Nat) (op : Operation) (payload : Payload) (rest : String) :
    (grantPermits src True).enqueue ⟨step, op, payload, pre ++ rest⟩ := fun _ digest => append_ne rest digest h

theorem ask_withheld : Uses.AskAllowed (grantPermits src True) where
  moves := trivial
  marks := trivial
  anchorStep _ := by decide
  anchor i step payload _ := unrelated_allowed rfl step _ payload (stableDigest i)
  subscribe i step payload origin _ := by
    unfold anchorSubscribeKey
    rw [String.append_assoc, String.append_assoc]
    exact unrelated_allowed (by decide) _ _ _ _

/-- What is not the owner's to answer leaves no materialization. -/
theorem event_withheld {e : OutcomeEnvelope} (other : ¬e.continuationKind.ownerInput) :
    EventAllowed (grantPermits src True) e where
  creates := .inl trivial
  createsAuto := .inl trivial
  routes := trivial
  codeFix := {
    moves := trivial
    marks := trivial
    fixStep := fun _ => by decide
    reviewStep := fun _ => by decide
    fix := fun i step payload _ => unrelated_allowed rfl step _ payload (stableDigest i)
    review := fun i step payload _ => unrelated_allowed rfl step _ payload (stableDigest i)
    subscribe := fun i taskId _ => by
      unfold subscribeOp subscribeKey
      rw [String.append_assoc, String.append_assoc]
      exact unrelated_allowed (by decide) _ _ _ _
    ack := fun i _ => by
      unfold consumerAckOp consumerAckKey
      rw [String.append_assoc, String.append_assoc]
      exact unrelated_allowed (by decide) _ _ _ _ }
  refusal := {
    moves := trivial
    wakes := trivial
    wake := fun i _ => by
      unfold SemanticRefusalHandler.wakeOp wakeKey
      rw [String.append_assoc, String.append_assoc]
      exact unrelated_allowed (by decide) _ _ _ _
    ack := fun i _ => by
      unfold SemanticRefusalHandler.refusalAckOp refusalAckKey
      rw [String.append_assoc, String.append_assoc]
      exact unrelated_allowed (by decide) _ _ _ _ }
  ask := ask_withheld
  receipt owner := absurd owner other

variable {T : PyText} {cfg : IngestConfig} {ev : BoardEvent}

/-- The event's turn grants it: the metadata answers every requirement, the contract accepts the answers,
and the continuation is not past the question. -/
def Grants (T : PyText) (cfg : IngestConfig) (ev : BoardEvent) (s : Store) : Prop :=
  ∃ c contract r, compileEvent T cfg ev = .ok c ∧ eventOwnerRoute T cfg ev = .auto contract r ∧
    Awaits (autoInstance c.envelope) s ∧ (contract.validateOwnerSubmission (autoSubmission r).fields).2 = []

/-- A submission that is not accepted leaves nothing. -/
theorem wp_auto_refused (e : OutcomeEnvelope) (contract : InputContract) (r : Resolution) (hs : Withheld src s₀ s)
    (refused : ¬(Awaits (autoInstance e) s ∧ (contract.validateOwnerSubmission (autoSubmission r).fields).2 = [])) :
    wp (grantTerms ok src s₀) ((OwnerRoute.auto contract r).perform cfg e) (fun _ _ => True) s := by
  have terms := @handlerTerms_grant ok src s₀ True
  have detects := terms.wp_detect trivial (n := autoInstance e) (.inl trivial) "needs_input_detected_h0" hs
  refine wp_bind.mpr (wp_mono (wp_also detects (wp_detect_eq (autoInstance e) _)) ?_)
  rintro d u hu ⟨_, detected⟩
  have declined : ¬Accepts contract (autoSubmission r).fields d.2 := fun h => refused ⟨detected.waits.mp h.1, h.2⟩
  obtain ⟨result, hresult⟩ := onReceipt_refused declined cfg.adapter
  have recorded : Safe (grantTerms ok src s₀) (fun _ => True) (Prog.forEach (recordSatisfied d.2.id) r.satisfied) :=
    terms.whole (.forEach fun _ _ => .recordSatisfaction ..)
  dsimp only
  rw [hresult]
  exact wp_bind.mpr (wp_mono (recorded.wp u hu trivial) fun _ _ hv _ => ⟨hv, trivial⟩)

/-- A turn that does not grant the source leaves it without a grant. -/
theorem wp_routeEvent_withheld (hs : Withheld src s₀ s) (refused : (eventSource cfg ev).source = src → ¬Grants T cfg ev s) :
    wp (grantTerms ok src s₀) (routeEvent T cfg ev) (fun _ _ => True) s := by
  by_cases hsrc : (eventSource cfg ev).source = src
  · have terms := @handlerTerms_grant ok src s₀ True
    cases hc : compileEvent T cfg ev with
    | error err =>
      have raised : Uses (grantPermits src True) none (routeEvent T cfg ev) :=
        .routeEvent (fun _ => trivial) T cfg trivial ev fun c hok => by rw [hc] at hok; cases hok
      exact (terms.whole raised).wp s hs trivial
    | ok c =>
      by_cases owner : c.envelope.continuationKind.ownerInput
      · by_cases handled : handles cfg c.envelope
        · rw [routeEvent_owner hc handled owner]
          suffices branch : wp (grantTerms ok src s₀) ((eventOwnerRoute T cfg ev).perform cfg c.envelope) (fun _ _ => True) s from
            wp_bind.mpr (wp_mono branch fun _ _ ht _ => ⟨ht, trivial⟩)
          cases hroute : eventOwnerRoute T cfg ev with
          | noop => exact ⟨hs, trivial⟩
          | raises error => exact ⟨hs, trivial⟩
          | auto contract r =>
            refine wp_auto_refused c.envelope contract r hs fun ⟨awaits, valid⟩ => refused hsrc ?_
            exact ⟨c, contract, r, hc, hroute, awaits, valid⟩
          | ask contract r =>
            have plan : Uses (grantPermits src True) none
                (OwnerInputHandler.plan c.envelope cfg.adapter contract cfg.inbox r.unresolved "" "") :=
              .plan ask_withheld trivial (.inl trivial) _ trivial ..
            exact (terms.whole (.bind plan fun _ => .pure _)).wp s hs trivial
        · rw [routeEvent_filtered hc handled]
          exact ⟨hs, trivial⟩
      · refine (terms.whole (.routeEvent (fun _ => trivial) T cfg trivial ev fun c' hc' => ?_)).wp s hs trivial
        rw [hc] at hc'
        cases hc'
        exact event_withheld owner
  · have terms := @handlerTerms_grant ok src s₀ False
    refine (terms.whole ((grantPermits_other src).routeEvent T cfg ev fun c hc ref => .inr ?_)).wp s hs trivial
    show c.envelope.toSourceRef.source ≠ src
    rw [compileEvent_source hc]
    exact hsrc

/-- Where a granting turn comes to its end, the receipt is there. -/
theorem routeEvent_grants {ι : Type} {E : Env Response ι} {i : ι} {r : Routed} {c : ι × Store}
    (hr : run E (routeEvent T cfg ev) i s = (.ok r, c)) (grants : Grants T cfg ev s) :
    Answered (eventSource cfg ev).source c.2 := by
  obtain ⟨compiled, contract, answers, hc, hroute, awaits, valid⟩ := grants
  obtain ⟨compiled', hc', handled, owner⟩ := eventOwnerRoute_compiled (.inr hroute)
  obtain rfl : compiled' = compiled := by
    rw [hc] at hc'
    exact (Except.ok.inj hc').symm
  have src : compiled'.envelope.toInstance.source = (eventSource cfg ev).source :=
    congrArg SourceRef.source (compileEvent_source hc)
  have spec : wp (anything fun _ _ => True) (routeEvent T cfg ev) (fun _ t => Answered (eventSource cfg ev).source t) s := by
    rw [routeEvent_owner hc handled owner, hroute]
    refine wp_bind.mpr (wp_mono (wp_auto cfg compiled'.envelope contract answers) ?_)
    rintro o t _ ⟨_, d, u, detected, post⟩
    exact ⟨trivial, src ▸ (answered_auto detected post).mpr (.inr ⟨awaits, valid⟩)⟩
  have after := (@wp_run _ _ _ _ _ _ _ _ E _ (fun _ _ => trivial) spec i).2 r (by rw [hr])
  rwa [hr] at after

/-- No run of passes grants a continuation anything when no turn of its event grants it. -/
theorem passes_grant_nothing
    (passes : IngestPasses T (fun cfg ev u => (eventSource cfg ev).source = src → ¬Grants T cfg ev u) s t) :
    ∀ i ∈ t.instances.rows, i.source = src → Ungranted i.id s t := by
  have withheld : Withheld src s t := by
    refine passes.keeps (fun E cfg ev j u refused hu => ?_) ?_ fun x _ => ?_
    · have spec := @wp_routeEvent_withheld (fun _ _ => True) src s u T cfg ev hu refused
      exact (@wp_run _ _ _ _ _ _ _ _ E _ (fun _ _ => trivial) spec j).1
    · intro board dbIdentity value u hu
      have records : ∀ x, Ungranted x u (u.upsertCursor board dbIdentity value) := fun _ =>
        RecordsKept.ungranted (recordsKept_eq rfl rfl rfl)
      exact (@withheld_frame (fun _ _ => True) _ _ _ (u.upsertCursor board dbIdentity value) hu rfl fun x _ => records x).2
    · exact ⟨fun h => h, fun _ h => h, fun _ h => h⟩
  exact fun i hi hsrc => withheld i.id fun foreign => foreign.ne hi hsrc rfl

end

section Samples

/-- A worker asks for the owner's authorization, and may answer in its own metadata. -/
def goLiveEvent (derived : List (String × Json)) : BoardEvent where
  eventId := "8"
  eventSeq := 8
  sourceTaskId := "t1"
  sourceGraphId := "g1"
  originRef := "chat:1"
  runMetadata := .obj [("agentflow_outcome", .obj [("schema_version", .int 1), ("verdict", .str "BLOCK"),
    ("continuation_kind", .str "approval_required"), ("contract_ref", .str genericOwnerInputContract),
    ("required_inputs", .arr [.obj [("name", .str "go_live"), ("kind", .str "authorization"), ("authority", .str "owner")]])]),
    ("system_derived", .obj derived)]

def goLivePass (derived : List (String × Json)) : Store :=
  (run reportEnv (ingestBoardOnce asciiText reportBoard fun _ => [goLiveEvent derived]) () .empty).2.2

theorem Grants.submits {T : PyText} {cfg : IngestConfig} {ev : BoardEvent} {s : Store} (h : Grants T cfg ev s) :
    (eventOwnerRoute T cfg ev).submits = true := by
  obtain ⟨_, contract, r, _, hroute, _, valid⟩ := h
  rw [hroute]
  exact decide_eq_true valid

/-- Left open, the authorization is only asked for. -/
theorem passes_grant_nothing_open : ∃ i ∈ (goLivePass []).instances.rows, Ungranted i.id .empty (goLivePass []) := by
  have turns : ∀ ev u, Turn asciiText reportBoard reportEnv [goLiveEvent []] ((), .empty) ev u →
      (eventSource reportBoard ev).source = ("main", "t1", "8") → ¬Grants asciiText reportBoard ev u := by
    rintro ev u ⟨before, after, _, _, he, _⟩ _ grants
    have only : ev ∈ [goLiveEvent []] := by
      rw [he]
      simp
    rw [List.mem_singleton.mp only] at grants
    exact absurd grants.submits (by decide +kernel)
  have asked : ((goLivePass []).instances.rows.any fun i => i.source == ("main", "t1", "8")) = true := by decide +kernel
  obtain ⟨i, hi, hsrc⟩ := List.any_eq_true.mp asked
  refine ⟨i, hi, passes_grant_nothing (T := asciiText) ?_ i hi (beq_iff_eq.mp hsrc)⟩
  exact @IngestPasses.pass asciiText _ _ reportEnv reportBoard (fun _ => [goLiveEvent []]) () _ _ turns .done

def RequiresAuthorization (c : CompiledOutcome) : Prop :=
  ∃ r ∈ c.requirements, r.kind = .authorization ∧ r.authority = "owner"

/-- The worker's own metadata is taken for the owner's authorization. -/
theorem authorization_self_granted : ¬∀ (ev : BoardEvent) c, compileEvent asciiText reportBoard ev = .ok c →
    RequiresAuthorization c → ∀ i ∈ (run reportEnv (ingestBoardOnce asciiText reportBoard fun _ => [ev]) () .empty).2.2.instances.rows,
      ¬HasReceipt i.id (run reportEnv (ingestBoardOnce asciiText reportBoard fun _ => [ev]) () .empty).2.2 := by
  intro claim
  have compiles : (compileEvent asciiText reportBoard (goLiveEvent [("go_live", .bool true)])).toOption.any (fun c =>
      c.requirements.any fun r => r.kind == .authorization && r.authority == "owner") = true := by decide +kernel
  have granted : ((goLivePass [("go_live", .bool true)]).instances.rows.any fun i =>
      (goLivePass [("go_live", .bool true)]).receipts.rows.any fun r => r.continuationId == i.id) = true := by
    decide +kernel
  cases hc : compileEvent asciiText reportBoard (goLiveEvent [("go_live", .bool true)]) with
  | error err =>
    rw [hc] at compiles
    cases compiles
  | ok c =>
    rw [hc] at compiles
    obtain ⟨q, hq, required⟩ := List.any_eq_true.mp compiles
    simp only [Bool.and_eq_true, beq_iff_eq] at required
    obtain ⟨i, hi, receipts⟩ := List.any_eq_true.mp granted
    obtain ⟨r, hr, hid⟩ := List.any_eq_true.mp receipts
    exact claim _ c hc ⟨q, hq, required⟩ i hi ⟨r, hr, by simpa using hid⟩

end Samples

end AgentflowHermes
