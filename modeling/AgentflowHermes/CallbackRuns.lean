import AgentflowHermes.CallbackBound

namespace AgentflowHermes

open CrashProgram RowTable SemanticRefusalHandler

/-- Everything that executes outbox rows: the handlers, `reconcile_outbox` and `continuation retry`. -/
inductive Pass
  | codeFix (e : OutcomeEnvelope) (adapter : Option Adapter) (blockers : List String)
  | semanticRefusal (e : OutcomeEnvelope) (adapter : Option Adapter) (blockers categories : List String)
  | ownerInput (cfg : IngestConfig) (e : OutcomeEnvelope) (requirements : List Requirement) (runMetadata : Json)
  | ownerReceipt (i : Instance) (submission : Submission) (adapter : Option Adapter) (contract : InputContract)
  | afterMaterialization (i : Instance) (verdict : String) (adapter : Option Adapter)
  | afterReview (i : Instance) (verdict : String) (adapter : Option Adapter)
  | reconcile (boards : String → Option Adapter)
  | retry (id : Nat) (a : Adapter)

/-- A program whose answer nobody looks at. -/
def discard {α : Type} (p : Run α) : Run Unit := do
  let _ ← p
  return ()

namespace Pass

def program : Pass → Run Unit
  | codeFix e adapter blockers => discard (CodeFixHandler.materialize e adapter blockers)
  | semanticRefusal e adapter blockers categories => discard (materialize e adapter blockers categories)
  | ownerInput cfg e requirements md => discard (ownerInputLike cfg e requirements md)
  | ownerReceipt i submission adapter contract => discard (OwnerInputHandler.onReceipt i submission adapter contract)
  | afterMaterialization i verdict adapter => discard (OwnerInputHandler.advanceAfterMaterialization i verdict adapter)
  | afterReview i verdict adapter => discard (OwnerInputHandler.advanceAfterReview i verdict adapter)
  | reconcile boards => discard (reconcileOutbox boards)
  | retry id a => discard (continuationRetry id a)

/-- Only a refusal replay with an endpoint has to look out: for the state of its wake row. -/
def Meets (ok : ∀ q, Response q → Prop) (delivered : Nat → Prop) (s : Store) : Pass → Prop
  | semanticRefusal e (some a) _ _ =>
    endpointOf e ≠ "" → WakeSafe ok a (delivered (wakeRowOf e s).id) s.outbox (wakeRowOf e s)
  | _ => True

theorem wp_program {ok : ∀ q, Response q → Prop} {delivered : Nat → Prop} {s : Store} (h : Filed s) (p : Pass)
    (meets : p.Meets ok delivered s) (id : Nat) :
    wp (rowTerms ok (delivered id) id) p.program (fun _ _ => True) s := by
  have board := @handlerTerms_row ok (delivered id) id
  have forget : ∀ {α : Type} {p : Run α}, wp (rowTerms ok (delivered id) id) p (fun _ _ => True) s →
      wp (rowTerms ok (delivered id) id) (discard p) (fun _ _ => True) s := fun hp =>
    wp_bind.mpr (wp_mono hp fun _ _ hu _ => ⟨hu, trivial⟩)
  have free : ∀ {α : Type} {p : Run α}, Safe (rowTerms ok (delivered id) id) (fun _ => True) p →
      wp (rowTerms ok (delivered id) id) (discard p) (fun _ _ => True) s := fun hp => forget (hp.wp s h trivial)
  cases p with
  | codeFix e adapter blockers => exact free (board.whole (.codeFix (codeFix_allowed e) trivial adapter trivial blockers))
  | ownerInput cfg e requirements md =>
    exact free (board.whole (.ownerInputLike (fun _ => trivial) ask_allowed receipt_allowed trivial trivial cfg trivial requirements md))
  | ownerReceipt i submission adapter contract => 
    exact free (board.safe (.onReceipt receipt_allowed i trivial submission adapter trivial contract))
  | afterMaterialization i verdict adapter =>
    exact free (board.safe (.advanceAfterMaterialization followUp_allowed i trivial verdict adapter trivial))
  | afterReview i verdict adapter => exact free (board.safe (.advanceAfterReview followUp_allowed i trivial verdict adapter trivial))
  | retry owner a => 
    exact free (board.safe (.continuationRetry trivial trivial owner a trivial fun s seen o ho => seen o (List.mem_filter.mp ho).1))
  | reconcile boards =>
    refine forget (wp_mono (wp_reconcileOutbox boards (P := Filed) (fun _ hu => hu) (board.asks .now s trivial) ?_ h) fun _ _ _ _ => trivial)
    exact fun t a x ht hx hp => reconcileTerms_row ht a hx hp
  | semanticRefusal e adapter blockers categories =>
    cases adapter with
    | none => exact forget (wp_bind.mpr (wp_mono (board.wp_create trivial h) fun _ _ hu _ => ⟨hu, trivial⟩))
    | some a =>
      refine forget (wp_materialize_row h fun hend hid => ?_)
      have safe := meets hend
      rwa [hid] at safe

end Pass

/-- The row has been delivered at some time. -/
def Delivered (s : Store) (tr : List (Act Request Store)) (id : Nat) : Prop :=
  Applied id s ∨ ∃ u, .commit u ∈ tr ∧ Applied id u

/-- Passes one after the other, each cut off anywhere or run to its end under answers of its own, and
each in a state `guard` allows. -/
inductive Passes (guard : (∀ q, Response q → Prop) → (Nat → Prop) → Store → Pass → Prop) (s : Store) :
    List (Act Request Store) → Store → Prop
  | start : Passes guard s [] s
  | pass {tr t tr' o u} {ok : ∀ q, Response q → Prop} (p : Pass) (before : Passes guard s tr t)
      (meets : guard ok (Delivered s tr) t p) (e : Exec ok p.program t tr' o u) : Passes guard s (tr ++ tr') u

theorem Passes.reached_eq {guard : (∀ q, Response q → Prop) → (Nat → Prop) → Store → Pass → Prop} {s t : Store}
    {tr : List (Act Request Store)} (run : Passes guard s tr t) : reached s tr = t := by
  induction run with
  | start => rfl
  | pass _ _ _ e ih => rw [reached_append, ih, exec_reached e]

/-- Nothing is asked for the row, and it stays dead. -/
def Silent (id : Nat) : Act Request Store → Prop
  | .call q _ => ¬q.concerns id
  | .commit u => Dead id u

section

variable {ok : ∀ q, Response q → Prop} {delivered : Prop} {id : Nat} {s t : Store} {tr : List (Act Request Store)}

theorem obeys_silent (h : Obeys (rowTerms ok delivered id) s tr t) (dead : Dead id s) :
    (∀ act ∈ tr, Silent id act) ∧ Dead id t := by
  induction h with
  | nil => exact ⟨by simp, dead⟩
  | call _ may _ ih =>
    obtain ⟨silent, hd⟩ := ih dead
    refine ⟨fun act ha => ?_, hd⟩
    rcases List.mem_cons.mp ha with rfl | ha
    · exact fun hc => may hc dead
    · exact silent act ha
  | commit _ guar _ ih =>
    have next := guar.1 dead
    obtain ⟨silent, hd⟩ := ih next
    refine ⟨fun act ha => ?_, hd⟩
    rcases List.mem_cons.mp ha with rfl | ha
    · exact next
    · exact silent act ha

theorem silent_dead (silent : ∀ act ∈ tr, Silent id act) (dead : Dead id s) : Dead id (reached s tr) := by
  induction tr generalizing s with
  | nil => exact dead
  | cons act tr ih =>
    have rest : ∀ act ∈ tr, Silent id act := fun act ha => silent act (List.mem_cons_of_mem _ ha)
    cases act with
    | call q u => exact ih rest dead
    | commit u => exact ih rest (silent _ (List.mem_cons_self))

theorem obeys_bounded (h : Obeys (rowTerms ok delivered id) s tr t) (undelivered : ¬delivered) (never : ¬Delivered s tr id)
    (bounded : Bounded id s) : Bounded id t := by
  induction h with
  | nil => exact bounded
  | call _ _ _ ih =>
    refine ih (fun hd => never ?_) bounded
    exact hd.imp (fun ha => ha) fun ⟨u, hu, ha⟩ => ⟨u, List.mem_cons_of_mem _ hu, ha⟩
  | commit _ guar _ ih =>
    refine ih (fun hd => never (.inr ?_)) (guar.2 undelivered (fun ha => never (.inl ha)) bounded)
    rcases hd with ha | ⟨u, hu, ha⟩
    · exact ⟨_, List.mem_cons_self, ha⟩
    · exact ⟨u, List.mem_cons_of_mem _ hu, ha⟩

end

/-- The store before the passes: filed, and no callback row over the cap. -/
structure WellFiled (s : Store) : Prop where
  filed : Filed s
  bounded : ∀ id, ¬Applied id s → Bounded id s

theorem Passes.steady {s t : Store} {tr : List (Act Request Store)} (start : WellFiled s) (run : Passes Pass.Meets s tr t)
    (id : Nat) : Filed t ∧ (¬Delivered s tr id → Bounded id t) ∧
      ∀ before after, tr = before ++ after → Dead id (reached s before) → ∀ act ∈ after, Silent id act := by
  induction run with
  | start =>
    refine ⟨start.filed, fun never => start.bounded id fun ha => never (.inl ha), ?_⟩
    intro before after he _ act ha
    have none : after = [] := (List.append_eq_nil_iff.mp he.symm).2
    rw [none] at ha
    cases ha
  | @pass tr t tr' o u ok p prior meets e ih =>
    obtain ⟨filed, bounded, silent⟩ := ih
    have hreach := prior.reached_eq
    obtain ⟨obeys, after, _⟩ := wp_sound (Pass.wp_program filed p meets id) e
    have never_before : ¬Delivered s (tr ++ tr') id → ¬Delivered s tr id := fun never hd =>
      never (hd.imp (fun h => h) fun ⟨v, hv, ha⟩ => ⟨v, List.mem_append_left _ hv, ha⟩)
    have still : ¬Delivered s tr id → ¬Applied id t := by
      intro never ha
      rw [← hreach] at ha
      rcases reached_mem s tr with he | he
      · exact never (.inl (he ▸ ha))
      · exact never (.inr ⟨_, he, ha⟩)
    refine ⟨after, fun never => ?_, ?_⟩
    · refine obeys_bounded obeys (never_before never) ?_ (bounded (never_before never))
      rintro (ha | ⟨v, hv, ha⟩)
      · exact still (never_before never) ha
      · exact never (.inr ⟨v, List.mem_append_right _ hv, ha⟩)
    · intro pre post he dead act hact
      rcases List.append_eq_append_iff.mp he with ⟨mid, hpre, hpost⟩ | ⟨mid, hpre, hpost⟩
      · -- the row died in this pass
        subst hpre
        rw [hpost] at obeys
        rw [reached_append, hreach] at dead
        exact (obeys_silent obeys.split.2 dead).1 act hact
      · -- the row was dead before it
        have quiet := silent pre mid hpre dead
        have dead' := silent_dead quiet dead
        rw [← reached_append, ← hpre, hreach] at dead'
        rw [hpost] at hact
        rcases List.mem_append.mp hact with hact | hact
        · exact quiet act hact
        · exact (obeys_silent obeys dead').1 act hact

/-- What is wanted of a callback row over a run, wherever it stands: never delivered, it has at most
`callbackRetryCap` attempts on record, and from the state on in which it is dead-lettered it stays so and
nothing is asked for it. -/
def RetriesBounded (id : Nat) (s : Store) (tr : List (Act Request Store)) (t : Store) : Prop :=
  (¬Delivered s tr id → ∀ o ∈ t.outbox.rows, o.id = id → callbackOnly o.operation → o.attempts ≤ callbackRetryCap) ∧
    ∀ before after, tr = before ++ after → Dead id (reached s before) → ∀ act ∈ after, Silent id act

/-- Callback retries are bounded in every run whose refusal replays find their wake row in order. -/
theorem callback_retries_bounded {s t : Store} {tr : List (Act Request Store)} (start : WellFiled s)
    (run : Passes Pass.Meets s tr t) (id : Nat) : RetriesBounded id s tr t := by
  obtain ⟨_, bounded, silent⟩ := run.steady start id
  refine ⟨fun never o ho hid hop => ?_, silent⟩
  have within := bounded never o ho hid hop
  cases hs : o.state with
  | pending => exact Nat.le_of_lt (within.1 hs)
  | callbackDeadletter => exact within.2 hs
  | applied =>
    have ha : Applied id t := ⟨o, ho, hid, hs⟩
    rw [← run.reached_eq] at ha
    rcases reached_mem s tr with he | he
    · exact absurd (.inl (he ▸ ha)) never
    · exact absurd (.inr ⟨_, he, ha⟩) never

section Samples

instance (id : Nat) (s : Store) : Decidable (Dead id s) := by unfold Dead; infer_instance

def refusal : Pass := .semanticRefusal {
    eventId := "8", board := "main", sourceTaskId := "t1", sourceGraphId := "g1", originRef := "chat:1"
    returnToRef := "", workspaceRef := "", verdict := .block, continuationKind := .semanticRefusal
    confidence := .structured, complete := by decide, coherent := by decide } (some { board := "main" }) [] []

def daemon : Pass := .reconcile fun board => some { board := board }

/-- One pass against an adapter that turns every call down. -/
def refused (now : Nat) (p : Pass) (s : Store) : Store :=
  (run (steadyEnv now ⟨false, "", "busy", none⟩ false) p.program () s).2.2

/-- A replay and four reconcile passes, five failed attempts on the wake. -/
def givenUp : Store :=
  refused 4000000000 daemon (refused 3000000000 daemon (refused 2000000000 daemon (refused 1000000000 daemon
    (refused 0 refusal Store.empty))))

theorem Passes.refused {guard : (∀ q, Response q → Prop) → (Nat → Prop) → Store → Pass → Prop} {s t : Store}
    {tr : List (Act Request Store)} (run : Passes guard s tr t) (now : Nat) (p : Pass)
    (meets : guard (fun _ _ => True) (Delivered s tr) t p) :
    ∃ tr', Passes guard s (tr ++ tr') (AgentflowHermes.refused now p t) ∧
      reached t tr' = AgentflowHermes.refused now p t := by
  obtain ⟨tr', e⟩ := @run_exec _ _ _ _ _ (steadyEnv now ⟨false, "", "busy", none⟩ false) (fun _ _ => True)
    (fun _ _ => trivial) p.program () t
  exact ⟨tr', .pass p run meets e, exec_reached e⟩

theorem wellFiled_empty : WellFiled Store.empty where
  filed := ⟨List.nodup_nil, fun _ h => nomatch h⟩
  bounded _ _ _ h := nomatch h

theorem callback_retries_bounded_refusal :
    ∃ tr, Passes Pass.Meets Store.empty tr (refused 0 refusal Store.empty) ∧
      RetriesBounded 1 Store.empty tr (refused 0 refusal Store.empty) := by
  have fresh : refusal.Meets (fun _ _ => True) (Delivered Store.empty []) Store.empty := fun _ => {
    dead := fun h => nomatch h
    pending := fun _ _ => .inl (by decide)
    legacy := fun _ h => nomatch h }
  obtain ⟨tr, run, _⟩ := Passes.start.refused 0 refusal fresh
  exact ⟨_, run, callback_retries_bounded wellFiled_empty run 1⟩

/-- A replay of the refusal takes the dead-lettered wake up again. -/
theorem callback_retries_not_bounded :
    ¬∀ tr t, Passes (fun _ _ _ _ => True) Store.empty tr t → ∀ id, RetriesBounded id Store.empty tr t := by
  intro claim
  have none : Passes (fun _ _ _ _ => True) Store.empty [] Store.empty := .start
  obtain ⟨_, run1, _⟩ := none.refused 0 refusal trivial
  obtain ⟨_, run2, _⟩ := run1.refused 1000000000 daemon trivial
  obtain ⟨_, run3, _⟩ := run2.refused 2000000000 daemon trivial
  obtain ⟨_, run4, _⟩ := run3.refused 3000000000 daemon trivial
  obtain ⟨_, run5, _⟩ := run4.refused 4000000000 daemon trivial
  obtain ⟨tr', run6, revived⟩ := run5.refused 5000000000 refusal trivial
  have dead : Dead 1 givenUp := by decide +kernel
  have alive : ¬Dead 1 (refused 5000000000 refusal givenUp) := by decide +kernel
  have silent := (claim _ _ run6 1).2 _ tr' rfl (by rw [run5.reached_eq]; exact dead)
  have still := silent_dead silent dead
  rw [show reached givenUp tr' = _ from revived] at still
  exact alive still

end Samples

end AgentflowHermes
