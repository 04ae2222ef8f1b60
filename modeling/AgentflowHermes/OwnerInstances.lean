import AgentflowHermes.SourceFrames

namespace AgentflowHermes

open CrashProgram RowTable

def NewInstance.ownerInput (n : NewInstance) : Prop := ∃ k : ContinuationKind, k.ownerInput ∧ n.continuationKind = k.value

/-- Whoever asked for it, an instance of the tuple is there afterwards. -/
theorem createInstance_mem (s : Store) (n : NewInstance) : ∃ i ∈ (s.createInstance n).2.instances.rows, i.tuple = n.tuple := by
  rcases s.createInstance_cases n with ⟨i, hi, he⟩ | ⟨_, he⟩
  · rw [he]
    exact ⟨i, mem_of_find? hi, by simpa using pred_of_find? hi⟩
  · rw [he]
    exact ⟨_, List.mem_append_right _ (List.mem_singleton_self _), rfl⟩

/-- Tuples are unique, and the instances of a source are of one kind and under known contract references. -/
structure Sourced (src : String × String × String) (kind : String) (refs : String → Prop) (s : Store) : Prop where
  unique : UniqueBy s.instances fun i => i.tuple
  within : ∀ i ∈ s.instances.rows, i.source = src → i.continuationKind = kind ∧ refs i.contractRef

def sourceTerms (ok : ∀ q, Response q → Prop) (src : String × String × String) (kind : String) (refs : String → Prop) :
    Terms where
  ok := ok
  inv := Sourced src kind refs
  may _ _ := True
  guar := Kept

section

variable {ok : ∀ q, Response q → Prop} {src : String × String × String} {kind : String} {refs : String → Prop}
  {s t : Store}

theorem Sourced.createInstance (h : Sourced src kind refs s) {n : NewInstance}
    (hn : n.source = src → n.continuationKind = kind ∧ refs n.contractRef) :
    Sourced src kind refs (s.createInstance n).2 := by
  rcases s.createInstance_cases n with ⟨_, _, he⟩ | ⟨absent, he⟩
  · rw [he]
    exact h
  · rw [he]
    refine ⟨h.unique.insert (fun i hi heq => ?_) fun _ => rfl, fun i hi hsrc => ?_⟩
    · have differs : (i.tuple == n.tuple) = false := find?_none absent i hi
      exact absurd heq (by simpa using differs)
    · rcases mem_insert hi with hi | rfl
      · exact h.within i hi hsrc
      · exact hn hsrc

theorem Sourced.transition (h : Sourced src kind refs s) (id : Nat) (new : ContinuationState) (reason : String) :
    Sourced src kind refs (s.transition id new reason).2 := by
  rcases s.transition_cases id new reason with ⟨_, he⟩ | ⟨_, _, _, he⟩
  · rw [he]
    exact h
  · rw [he]
    refine ⟨?_, fun i hi hsrc => ?_⟩
    · refine h.unique.modify ?_ fun _ => by rfl
      exact fun _ _ => rfl
    · rcases mem_modify hi with ⟨hold, _⟩ | ⟨j, hj, _, rfl⟩
      · exact h.within i hold hsrc
      · exact h.within j hj hsrc

/-- What is created of the source is of one kind and under permitted references. -/
def sourcePermits (src : String × String × String) (kind : String) (refs : String → Prop) : Permits :=
  .instances fun n => n.source = src → n.continuationKind = kind ∧ refs n.contractRef

theorem handlerTerms_source : HandlerTerms (sourceTerms ok src kind refs) (sourcePermits src kind refs) := by
  refine handlerTerms_instances (fun _ _ => trivial) (fun _ => trivial) (fun s t hs same _ => ⟨kept_of_eq same, ?_⟩) ?_ ?_
  · exact ⟨by rw [same]; exact hs.unique, by rw [same]; exact hs.within⟩
  · exact fun n s hn hs => ⟨kept_createInstance s n, hs.createInstance hn⟩
  · exact fun id new reason s hs => ⟨kept_transition s id new reason, hs.transition ..⟩

end

/-- Board events are ingested one after the other, each to its end, under configurations and answers
that change. -/
inductive Ingestions (T : PyText) : List (IngestConfig × BoardEvent) → Store → Store → Prop
  | nil {s} : Ingestions T [] s s
  | cons {ok : ∀ q, Response q → Prop} {x rest s tr o t u} (e : Exec ok (routeEvent T x.1 x.2) s tr (some o) t)
      (later : Ingestions T rest t u) : Ingestions T (x :: rest) s u

section

variable {T : PyText} {src : String × String × String} {kind : String} {refs : String → Prop} {s t : Store}
  {items : List (IngestConfig × BoardEvent)}

theorem Ingestions.sourced (run : Ingestions T items s t)
    (each : ∀ ok, ∀ x ∈ items, Safe (sourceTerms ok src kind refs) (fun _ => True) (routeEvent T x.1 x.2))
    (hs : Sourced src kind refs s) : Sourced src kind refs t := by
  induction run with
  | nil => exact hs
  | cons e _ ih =>
    have after := ((each _ _ (by simp)).exec hs trivial e).2
    exact ih (fun ok x hx => each ok x (List.mem_cons_of_mem _ hx)) after

/-- Instances are kept, and nothing else is asked for. -/
def keptTerms (ok : ∀ q, Response q → Prop) : Terms where
  ok := ok
  inv _ := True
  may _ _ := True
  guar := Kept

theorem safe_routeEvent_kept (ok : ∀ q, Response q → Prop) (cfg : IngestConfig) (ev : BoardEvent) :
    Safe (keptTerms ok) (fun _ => True) (routeEvent T cfg ev) := by
  have free : HandlerTerms (keptTerms ok) (.instances fun _ => True) := by
    refine handlerTerms_instances (fun _ _ => trivial) (fun _ => trivial) (fun s t _ same _ => ⟨kept_of_eq same, trivial⟩) ?_ ?_
    · exact fun n s _ _ => ⟨kept_createInstance s n, trivial⟩
    · exact fun id new reason s _ => ⟨kept_transition s id new reason, trivial⟩
  exact free.whole ((Permits.instances_open _).routeEvent T cfg ev fun _ _ _ => trivial)

theorem kept_of_wp {α : Type} {ok : ∀ q, Response q → Prop} {p : Run α} {Q : α → Store → Prop} {tr : List (Act Request Store)}
    {o : Option (Except String α)} (h : wp (keptTerms ok) p Q s) (e : Exec ok p s tr o t) : Kept s t :=
  (wp_sound h e).1.relates Kept.refl (fun _ _ _ => Kept.trans) fun _ _ guar => guar

theorem Ingestions.kept (run : Ingestions T items s t) : Kept s t := by
  induction run with
  | nil => exact Kept.refl _
  | cons e _ ih => exact (kept_of_wp ((safe_routeEvent_kept _ _ _).wp _ trivial trivial) e).trans ih

/-- The contract reference of the continuation an owner branch works on. -/
def createdRef (e : OutcomeEnvelope) : OwnerRoute → Option String
  | .auto .. => some (autoContractRef e)
  | .ask .. => some e.contractRef
  | _ => none

theorem createdRef_cases {e : OutcomeEnvelope} {route : OwnerRoute} {ref : String} (h : createdRef e route = some ref) :
    (∃ contract r, route = .auto contract r ∧ ref = autoContractRef e) ∨
      ∃ contract r, route = .ask contract r ∧ ref = e.contractRef := by
  cases route with
  | noop => cases h
  | raises error => cases h
  | auto contract r =>
    cases h
    exact .inl ⟨contract, r, rfl, rfl⟩
  | ask contract r =>
    cases h
    exact .inr ⟨contract, r, rfl, rfl⟩

/-- The branch begins with the creation of its instance. -/
theorem perform_starts {cfg : IngestConfig} {e : OutcomeEnvelope} {route : OwnerRoute} {ref : String}
    (h : createdRef e route = some ref) :
    ∃ k, route.perform cfg e = .write (fun s => (s.createInstance { e.toInstance with contractRef := ref }).2) k := by
  rcases createdRef_cases h with ⟨contract, r, rfl, rfl⟩ | ⟨contract, r, rfl, rfl⟩
  · exact ⟨_, rfl⟩
  · exact ⟨_, rfl⟩

/-- A branch that asks or resolves leaves its instance behind, even where it raises later. -/
theorem routeEvent_creates {ok : ∀ q, Response q → Prop} {cfg : IngestConfig} {ev : BoardEvent} {c : CompiledOutcome}
    {ref : String} {tr : List (Act Request Store)} {o : Except String Routed} (hc : compileEvent T cfg ev = .ok c)
    (handled : handles cfg c.envelope) (owner : c.envelope.continuationKind.ownerInput)
    (created : createdRef c.envelope (eventOwnerRoute T cfg ev) = some ref)
    (e : Exec ok (routeEvent T cfg ev) s tr (some o) t) :
    ∃ i ∈ t.instances.rows, i.source = (eventSource cfg ev).source ∧ i.contractRef = ref := by
  have safe := (@safe_routeEvent_kept T ok cfg ev).wp s trivial trivial
  obtain ⟨k, hk⟩ := @perform_starts cfg _ _ _ created
  rw [routeEvent_owner hc handled owner, hk] at e safe
  cases e with
  | write rest =>
    obtain ⟨i, hi, same⟩ := createInstance_mem s { c.envelope.toInstance with contractRef := ref }
    obtain ⟨j, hj, _, kept⟩ := kept_of_wp safe.2.2 rest i hi
    have tuple : j.tuple = i.tuple := congrArg NewInstance.tuple kept
    rw [same] at tuple
    have src := compileEvent_source hc
    refine ⟨j, hj, ?_, congrArg (fun x => x.2.2.2) tuple⟩
    have parts : j.source = c.envelope.toSourceRef.source := congrArg (fun x => (x.1, x.2.1, x.2.2.1)) tuple
    rw [parts, src]

/-- Another event creates no instance of the source. -/
theorem safe_otherEvent {ok : ∀ q, Response q → Prop} {cfg : IngestConfig} {ev : BoardEvent}
    (other : (eventSource cfg ev).source ≠ src) :
    Safe (sourceTerms ok src kind refs) (fun _ => True) (routeEvent T cfg ev) := by
  refine handlerTerms_source.whole ((Permits.instances_open _).routeEvent T cfg ev fun c hc ref hsrc => ?_)
  have same : c.envelope.toSourceRef.source = src := hsrc
  rw [compileEvent_source hc] at same
  exact absurd same other

/-- Of an owner event only the continuations count that its branch works on. -/
theorem safe_ownerEvent {ok : ∀ q, Response q → Prop} {cfg : IngestConfig} {ev : BoardEvent} {c : CompiledOutcome}
    (hc : compileEvent T cfg ev = .ok c) (owner : c.envelope.continuationKind.ownerInput)
    (hkind : c.envelope.continuationKind.value = kind)
    (hrefs : ∀ ref, createdRef c.envelope (eventOwnerRoute T cfg ev) = some ref → refs ref) :
    Safe (sourceTerms ok src kind refs) (fun _ => True) (routeEvent T cfg ev) := by
  have terms := @handlerTerms_source ok src kind refs
  by_cases handled : handles cfg c.envelope
  · rw [routeEvent_owner hc handled owner]
    refine safe_bind stable_true ?_ fun _ => safe_pure _
    cases hroute : eventOwnerRoute T cfg ev with
    | noop => exact safe_pure _
    | raises error => exact safe_raise trivial
    | auto contract r =>
      have known := hrefs (autoContractRef c.envelope) (by rw [hroute]; rfl)
      have creates : (sourcePermits src kind refs).creates
          { c.envelope.toInstance with contractRef := autoContractRef c.envelope } := fun _ => ⟨hkind, known⟩
      exact terms.whole (.autoResolve (Permits.instances_open _).receiving creates contract r cfg.adapter trivial)
    | ask contract r =>
      have known := hrefs c.envelope.contractRef (by rw [hroute]; rfl)
      have creates : (sourcePermits src kind refs).creates c.envelope.toInstance := fun _ => ⟨hkind, known⟩
      have plan : Uses (sourcePermits src kind refs) none
          (OwnerInputHandler.plan c.envelope cfg.adapter contract cfg.inbox r.unresolved "" "") :=
        .plan (Permits.instances_open _).asking trivial creates _ trivial ..
      exact terms.whole (.bind plan fun _ => .pure _)
  · rw [routeEvent_filtered hc handled]
    exact safe_pure _

end

/-- At most one owner-input continuation comes from the source. -/
def OneOwnerInstance (src : String × String × String) (s : Store) : Prop :=
  ∀ i ∈ s.instances.rows, ∀ j ∈ s.instances.rows, i.source = src → j.source = src → i.ownerInput → j.ownerInput → i = j

/-- The contract reference an event names itself. -/
def eventContractRef (T : PyText) (src : SourceRef) (ev : BoardEvent) : String :=
  match compileFrom T src ev with
  | .ok c => c.envelope.contractRef
  | .error _ => ""

/-- The event is ingested under an answer that leaves a requirement open. -/
def Asks (T : PyText) (src : SourceRef) (ev : BoardEvent) (x : IngestConfig × BoardEvent) : Prop :=
  x.2 = ev ∧ eventSource x.1 ev = src ∧ ∃ contract r, eventOwnerRoute T x.1 ev = .ask contract r

/-- The event is ingested under an answer that resolves every requirement. -/
def Resolves (T : PyText) (src : SourceRef) (ev : BoardEvent) (x : IngestConfig × BoardEvent) : Prop :=
  x.2 = ev ∧ eventSource x.1 ev = src ∧ ∃ contract r, eventOwnerRoute T x.1 ev = .auto contract r

section

variable {T : PyText} {ev : BoardEvent} {src : SourceRef} {items : List (IngestConfig × BoardEvent)} {s t : Store}

theorem ContinuationKind.value_inj {k k' : ContinuationKind} (h : k.value = k'.value) : k = k' := by
  cases k <;> cases k' <;> first | rfl | exact absurd h (by decide)

theorem Sourced.one {kind ref : String} (h : Sourced src.source kind (· = ref) s) : OneOwnerInstance src.source s := by
  intro i hi j hj hisrc hjsrc _ _
  refine h.unique.eq hi hj ?_
  obtain ⟨_, hiref⟩ := h.within i hi hisrc
  obtain ⟨_, hjref⟩ := h.within j hj hjsrc
  have parts : i.source = j.source := hisrc.trans hjsrc.symm
  simp only [NewInstance.source, Prod.mk.injEq] at parts
  simp only [NewInstance.tuple, Prod.mk.injEq]
  exact ⟨parts.1, parts.2.1, parts.2.2, hiref.trans hjref.symm⟩

/-- An ingestion of the event that works on a continuation leaves it behind for good. -/
theorem Ingestions.created (run : Ingestions T items s t) {x : IngestConfig × BoardEvent} (hx : x ∈ items)
    (hev : x.2 = ev) (hsrc : eventSource x.1 ev = src) {c : CompiledOutcome} {ref : String}
    (hc : compileEvent T x.1 ev = .ok c) (handled : handles x.1 c.envelope)
    (owner : c.envelope.continuationKind.ownerInput)
    (made : createdRef c.envelope (eventOwnerRoute T x.1 ev) = some ref) :
    ∃ i ∈ t.instances.rows, i.source = src.source ∧ i.contractRef = ref := by
  induction run with
  | nil => cases hx
  | cons e later ih =>
    rcases List.mem_cons.mp hx with rfl | hx
    · rw [hev] at e
      obtain ⟨i, hi, hisrc, hiref⟩ := routeEvent_creates hc handled owner made e
      obtain ⟨j, hj, _, same⟩ := later.kept i hi
      refine ⟨j, hj, ?_, (congrArg NewInstance.contractRef same).trans hiref⟩
      rw [← hsrc, ← hisrc]
      exact congrArg NewInstance.source same
    · exact ih hx

/-- Only the ingestions of the event itself have to be looked at. -/
theorem Ingestions.sourced_event {kind : String} {refs : String → Prop} (run : Ingestions T items s t)
    (identity : ∀ x ∈ items, (eventSource x.1 x.2).source = src.source → x.2 = ev ∧ eventSource x.1 ev = src)
    (event : ∀ ok, ∀ x ∈ items, x.2 = ev → eventSource x.1 ev = src →
      Safe (sourceTerms ok src.source kind refs) (fun _ => True) (routeEvent T x.1 ev))
    (start : Sourced src.source kind refs s) : Sourced src.source kind refs t := by
  refine run.sourced (fun ok x hx => ?_) start
  by_cases same : (eventSource x.1 x.2).source = src.source
  · obtain ⟨hev, hsrc⟩ := identity x hx same
    rw [hev]
    exact event ok x hx hev hsrc
  · exact safe_otherEvent same

/-- One event has one owner-input continuation unless it names no contract reference and its ingestions
mix: one plans the question and another resolves everything. -/
theorem oneOwnerInstance_iff (unique : UniqueBy s.instances fun i => i.tuple)
    (fresh : ∀ i ∈ s.instances.rows, i.source ≠ src.source)
    (identity : ∀ x ∈ items, (eventSource x.1 x.2).source = src.source → x.2 = ev ∧ eventSource x.1 ev = src)
    (run : Ingestions T items s t) :
    OneOwnerInstance src.source t ↔
      (eventContractRef T src ev = "" → ¬((∃ x ∈ items, Asks T src ev x) ∧ ∃ x ∈ items, Resolves T src ev x)) := by
  have start : ∀ kind refs, Sourced src.source kind refs s := fun kind refs =>
    ⟨unique, fun i hi hsrc => absurd hsrc (fresh i hi)⟩
  have compiles : ∀ x : IngestConfig × BoardEvent, eventSource x.1 ev = src →
      compileEvent T x.1 ev = compileFrom T src ev := fun x hsrc => by rw [← hsrc]; rfl
  have owned : ∀ c, compileFrom T src ev = .ok c → c.envelope.continuationKind.ownerInput → ∀ refs : String → Prop,
      (∀ x ∈ items, x.2 = ev → eventSource x.1 ev = src → ∀ ref,
        createdRef c.envelope (eventOwnerRoute T x.1 ev) = some ref → refs ref) →
      Sourced src.source c.envelope.continuationKind.value refs t := fun c hc owner refs hrefs =>
    run.sourced_event identity (fun ok x hx hev hsrc =>
      safe_ownerEvent ((compiles x hsrc).trans hc) owner rfl (hrefs x hx hev hsrc)) (start _ _)
  constructor
  · rintro one ref ⟨⟨x, hx, hev, hsrc, contract, r, ask⟩, y, hy, hyev, hysrc, contract', r', auto⟩
    obtain ⟨c, hc, handled, owner⟩ := eventOwnerRoute_compiled (.inl ask)
    obtain ⟨c', hc', handled', _⟩ := eventOwnerRoute_compiled (.inr auto)
    have hcompiled := (compiles x hsrc).symm.trans hc
    obtain rfl : c' = c := by
      rw [compiles y hysrc, hcompiled] at hc'
      exact (Except.ok.inj hc').symm
    have empty : c'.envelope.contractRef = "" := by simpa [eventContractRef, hcompiled] using ref
    obtain ⟨i, hi, hisrc, hiref⟩ := run.created hx hev hsrc hc handled owner (by rw [ask]; rfl)
    obtain ⟨j, hj, hjsrc, hjref⟩ := run.created hy hyev hysrc hc' handled' owner (by rw [auto]; rfl)
    have kinds := owned c' hcompiled owner (fun _ => True) fun _ _ _ _ _ _ => trivial
    have same := one i hi j hj hisrc hjsrc ⟨_, owner, (kinds.within i hi hisrc).1⟩ ⟨_, owner, (kinds.within j hj hjsrc).1⟩
    have generic : autoContractRef c'.envelope = genericOwnerInputContract := by simp [autoContractRef, orText, empty]
    rw [same, hjref, generic, empty] at hiref
    exact absurd hiref (by decide)
  · intro unmixed
    cases hc : compileFrom T src ev with
    | error err =>
      have none := run.sourced_event identity (fun ok x _ _ hsrc => ?_) (start "" fun _ => False)
      · exact fun i hi _ _ hisrc => (none.within i hi hisrc).2.elim
      · have raised := (compiles x hsrc).trans hc
        exact handlerTerms_source.whole ((Permits.instances_open _).routeEvent T x.1 ev fun c hok => by rw [raised] at hok; cases hok)
    | ok c =>
      by_cases owner : c.envelope.continuationKind.ownerInput
      · have single : ∃ ref, Sourced src.source c.envelope.continuationKind.value (· = ref) t := by
          refine Exists.imp (fun ref h => owned c hc owner (· = ref) h) ?_
          by_cases hasks : ∃ x ∈ items, Asks T src ev x
          · refine ⟨c.envelope.contractRef, fun x hx hev hsrc ref made => ?_⟩
            rcases createdRef_cases made with ⟨contract, r, auto, rfl⟩ | ⟨_, _, _, rfl⟩
            · have named : c.envelope.contractRef ≠ "" := fun empty =>
                unmixed (by simpa [eventContractRef, hc] using empty) ⟨hasks, x, hx, hev, hsrc, contract, r, auto⟩
              simp [autoContractRef, orText, named]
            · rfl
          · refine ⟨autoContractRef c.envelope, fun x hx hev hsrc ref made => ?_⟩
            rcases createdRef_cases made with ⟨_, _, _, rfl⟩ | ⟨contract, r, ask, rfl⟩
            · rfl
            · exact absurd ⟨x, hx, hev, hsrc, contract, r, ask⟩ hasks
        obtain ⟨ref, h⟩ := single
        exact h.one
      · have kinds := run.sourced_event identity (fun ok x _ _ hsrc => ?_)
          (start c.envelope.continuationKind.value fun _ => True)
        · rintro i hi _ _ hisrc _ ⟨k, hk, hvalue⟩ _
          rw [(kinds.within i hi hisrc).1] at hvalue
          rw [← ContinuationKind.value_inj hvalue] at hk
          exact absurd hk owner
        · have compiled := (compiles x hsrc).trans hc
          refine handlerTerms_source.whole ((Permits.instances_open _).routeEvent T x.1 ev fun c' hc' _ _ => ?_)
          rw [compiled] at hc'
          cases hc'
          exact ⟨rfl, trivial⟩

end

section Samples

/-- An approval request of a worker. -/
def approvalEvent (contractRef : String) : BoardEvent where
  eventId := "8"
  eventSeq := 8
  sourceTaskId := "t1"
  sourceGraphId := "g1"
  originRef := "chat:1"
  runMetadata := .obj [("agentflow_outcome", .obj [("schema_version", .int 1), ("verdict", .str "BLOCK"),
    ("continuation_kind", .str "approval_required"), ("contract_ref", .str contractRef),
    ("required_inputs", .arr [.obj [("name", .str "go_live"), ("kind", .str "authorization")]])])]

def approvalSource : SourceRef := ⟨"8", "main", "t1", "g1", "chat:1", "", ""⟩

/-- The board under a resolver that leaves everything open, or one that answers everything. -/
def approvalBoard (answers : Bool) : IngestConfig where
  board := "main"
  dbIdentity := "main.db"
  contracts := fun ref => some ⟨ref, "owner", [], []⟩
  resolve := fun _ required _ => .ok
    (if answers then ⟨required.map fun r => ⟨r, .bool true, "system_derived", "", ""⟩, []⟩ else ⟨[], required⟩)
  adapter := some { board := "main" }

def ingested (x : IngestConfig × BoardEvent) (s : Store) : Store :=
  (run (steadyEnv 0 { success := true, taskId := "t9" } true) (routeEvent asciiText x.1 x.2) () s).2.2

theorem ingestions_ingested (x : IngestConfig × BoardEvent) {rest : List (IngestConfig × BoardEvent)} {s t : Store}
    (later : Ingestions asciiText rest (ingested x s) t) : Ingestions asciiText (x :: rest) s t := by
  obtain ⟨tr, e⟩ := @run_exec _ _ _ _ _ (steadyEnv 0 { success := true, taskId := "t9" } true) (fun _ _ => True)
    (fun _ _ => trivial) (routeEvent asciiText x.1 x.2) () s
  exact .cons e later

def mixedIngestions (contractRef : String) : List (IngestConfig × BoardEvent) :=
  [(approvalBoard false, approvalEvent contractRef), (approvalBoard true, approvalEvent contractRef)]

def afterBoth (contractRef : String) : Store :=
  ingested (approvalBoard true, approvalEvent contractRef) (ingested (approvalBoard false, approvalEvent contractRef) .empty)

theorem mixedIngestions_run (contractRef : String) :
    Ingestions asciiText (mixedIngestions contractRef) .empty (afterBoth contractRef) :=
  ingestions_ingested _ (ingestions_ingested _ .nil)

theorem mixedIngestions_identity (contractRef : String) : ∀ x ∈ mixedIngestions contractRef,
    (eventSource x.1 x.2).source = approvalSource.source →
      x.2 = approvalEvent contractRef ∧ eventSource x.1 (approvalEvent contractRef) = approvalSource := by
  intro x hx _
  simp only [mixedIngestions, List.mem_cons, List.not_mem_nil, or_false] at hx
  rcases hx with rfl | rfl
  · exact ⟨rfl, rfl⟩
  · exact ⟨rfl, rfl⟩

theorem oneOwnerInstance_iff_named : OneOwnerInstance approvalSource.source (afterBoth "release.v1") :=
  (@oneOwnerInstance_iff asciiText _ _ _ Store.empty _ List.nodup_nil (fun _ h => absurd h List.not_mem_nil)
    (mixedIngestions_identity "release.v1") (mixedIngestions_run "release.v1")).mpr
      fun unnamed => absurd unnamed (by decide +kernel)

/-- Without a contract reference the question and the answer end up on two continuations. -/
theorem two_owner_instances : ¬∀ (ev : BoardEvent) (src : SourceRef) items t,
    (∀ x ∈ items, (eventSource x.1 x.2).source = src.source → x.2 = ev ∧ eventSource x.1 ev = src) →
    Ingestions asciiText items .empty t → OneOwnerInstance src.source t := by
  intro claim
  have one := claim _ _ _ _ (mixedIngestions_identity "") (mixedIngestions_run "")
  have rows : (afterBoth "").instances.rows.map (fun i => (i.source, i.continuationKind, i.contractRef)) =
      [(approvalSource.source, "approval_required", ""),
        (approvalSource.source, "approval_required", genericOwnerInputContract)] := by decide +kernel
  obtain ⟨i, rest, hrows, hi, hrest⟩ := List.map_eq_cons_iff.mp rows
  obtain ⟨j, _, hrest', hj, _⟩ := List.map_eq_cons_iff.mp hrest
  simp only [Prod.mk.injEq] at hi hj
  have owner : ContinuationKind.approvalRequired.ownerInput := rfl
  have same := one i (by simp [hrows]) j (by simp [hrows, hrest']) hi.1 hj.1 ⟨_, owner, hi.2.1⟩ ⟨_, owner, hj.2.1⟩
  rw [same, hj.2.2] at hi
  exact absurd hi.2.2 (by decide)

end Samples

end AgentflowHermes
