import AgentflowHermes.OwnerInstances
import AgentflowHermes.OwnerPosts
import AgentflowHermes.ResolverErrors

namespace AgentflowHermes

open CrashProgram RowTable

/-- The owner has been asked: a continuation of the source waits, and its anchor is in the outbox. -/
def Asked (src : String × String × String) (s : Store) : Prop :=
  ∃ i ∈ s.instances.rows, i.source = src ∧ i.state = .waitingOwner ∧ HasIntent i.id (anchorKey (stableDigest i)) s

/-- The owner has answered: a continuation of the source has left the wait with a receipt. -/
def Answered (src : String × String × String) (s : Store) : Prop :=
  ∃ i ∈ s.instances.rows, i.source = src ∧ i.state ≠ .waitingOwner ∧ HasReceipt i.id s

/-- What is promised of an event whose result entry is `entry`. -/
structure NotStalled (src : String × String × String) (entry : IngestEntry) (t : Store) : Prop where
  settled : Asked src t ∨ Answered src t
  resolved : entry.action = "auto_resolved" → Answered src t

/-- The continuation is still to be created, or it waits. -/
def Awaits (n : NewInstance) (s : Store) : Prop := ∀ i, s.instanceOf n = some i → i.state = .waitingOwner

/-- The anchor of the instance is in the outbox, or nothing stands in its way. -/
def Askable (i : Instance) (s : Store) : Prop := HasIntent i.id (anchorKey (stableDigest i)) s ∨ AnchorFree i s

/-- When the branch leaves nobody unasked, in terms of the store it starts from: a branch that does
nothing finds the question settled, one that resolves submits what the contract accepts to a continuation
that waits, and one that asks finds a continuation that waits and an anchor nobody has taken. -/
def OwnerRoute.Settles (e : OutcomeEnvelope) (s : Store) : OwnerRoute → Prop
  | .noop => Asked e.toInstance.source s ∨ Answered e.toInstance.source s
  | .raises _ => True
  | .auto contract r => Answered e.toInstance.source s ∨
      Awaits (autoInstance e) s ∧ (contract.validateOwnerSubmission (autoSubmission r).fields).2 = []
  | .ask .. => Asked e.toInstance.source s ∨ Answered e.toInstance.source s ∨
      Awaits e.toInstance s ∧ Askable (s.createInstance e.toInstance).1.2 s

section

variable {src : String × String × String} {n : NewInstance} {d : Bool × Instance} {s t u : Store}

theorem Apart.asked (h : Apart src s t) : Asked src t ↔ Asked src s := by
  constructor
  · rintro ⟨i, hi, hsrc, waits, intent⟩
    have old := (h.instances i hsrc).mp hi
    exact ⟨i, old, hsrc, waits, ((h.records i old hsrc).intent _).mp intent⟩
  · rintro ⟨i, hi, hsrc, waits, intent⟩
    exact ⟨i, (h.instances i hsrc).mpr hi, hsrc, waits, ((h.records i hi hsrc).intent _).mpr intent⟩

theorem Apart.answered (h : Apart src s t) : Answered src t ↔ Answered src s := by
  constructor
  · rintro ⟨i, hi, hsrc, left, receipt⟩
    have old := (h.instances i hsrc).mp hi
    exact ⟨i, old, hsrc, left, (h.records i old hsrc).receipt.mp receipt⟩
  · rintro ⟨i, hi, hsrc, left, receipt⟩
    exact ⟨i, (h.instances i hsrc).mpr hi, hsrc, left, (h.records i hi hsrc).receipt.mpr receipt⟩

theorem Apart.notStalled {entry : IngestEntry} (h : Apart src s t) : NotStalled src entry t ↔ NotStalled src entry s := by
  constructor
  · exact fun ⟨settled, resolved⟩ => ⟨settled.imp h.asked.mp h.answered.mp, fun ha => h.answered.mp (resolved ha)⟩
  · exact fun ⟨settled, resolved⟩ => ⟨settled.imp h.asked.mpr h.answered.mpr, fun ha => h.answered.mpr (resolved ha)⟩

theorem Detected.waits (h : Detected s n d u) : d.2.state = .waitingOwner ↔ Awaits n s := by
  cases h with
  | found hi => simp [Awaits, hi]
  | created hi => simp [Awaits, hi]

theorem Detected.source (h : Detected s n d u) : d.2.source = n.source := by
  cases h with
  | found hi =>
    have tuple := pred_of_find? hi
    simp only [beq_iff_eq] at tuple
    exact congrArg (fun x => (x.1, x.2.1, x.2.2.1)) tuple
  | created => rfl

theorem Detected.mem (h : Detected s n d u) : d.2 ∈ u.instances.rows := (get?_eq_some.mp h.get).1

/-- A new continuation waits, so that no answer comes with it. -/
theorem Detected.answered (h : Detected s n d u) : Answered src u ↔ Answered src s := by
  cases h with
  | found => rfl
  | created _ rows receipts =>
    unfold Answered HasReceipt
    rw [rows, receipts]
    constructor
    · rintro ⟨i, hi, hsrc, left, receipt⟩
      rcases mem_insert hi with hi | rfl
      · exact ⟨i, hi, hsrc, left, receipt⟩
      · exact absurd rfl left
    · rintro ⟨i, hi, rest⟩
      exact ⟨i, List.mem_append_left _ hi, rest⟩

theorem SameRecords.answered (h : SameRecords s t) : Answered src t ↔ Answered src s := by
  unfold Answered HasReceipt
  rw [h.instances, h.receipts]

theorem Calm.answered (h : Calm s t) : Answered src t ↔ Answered src s := by
  unfold Answered
  rw [h.instances]
  simp only [h.receipt]

/-- The instance detected is the one a creation answers with, up to its state. -/
theorem Detected.named (h : Detected s n d u) :
    d.2.id = (s.createInstance n).1.2.id ∧ stableDigest d.2 = stableDigest (s.createInstance n).1.2 := by
  rcases s.createInstance_cases n with ⟨i, hi, he⟩ | ⟨hnone, he⟩
  · rw [he]
    cases h with
    | found hj =>
      rw [hi] at hj
      cases hj
      exact ⟨rfl, rfl⟩
    | created hj =>
      rw [hi] at hj
      cases hj
  · rw [he]
    cases h with
    | found hj =>
      rw [hnone] at hj
      cases hj
    | created => exact ⟨rfl, rfl⟩

theorem Detected.outbox (h : Detected s n d u) : u.outbox = s.outbox := by
  cases h with
  | found => rfl
  | created _ _ _ _ outbox => exact outbox

theorem Detected.steps (h : Detected s n d u) : u.steps = s.steps := by
  cases h with
  | found => rfl
  | created _ _ _ steps => exact steps

/-- The resolving branch answers exactly when the submission is accepted or an answer was there. -/
theorem answered_auto {contract : InputContract} {fields : List (String × Json)} (h : Detected s n d u)
    (post : if Accepts contract fields d.2 then LeftWith d.2 t else SameRecords u t) :
    Answered n.source t ↔ Answered n.source s ∨ Awaits n s ∧ (contract.validateOwnerSubmission fields).2 = [] := by
  by_cases accepts : Accepts contract fields d.2
  · rw [if_pos accepts] at post
    obtain ⟨j, hj, src, left⟩ := post.left
    obtain ⟨mem, hid⟩ := get?_eq_some.mp hj
    have receipt := post.receipt
    rw [← show j.id = d.2.id from hid] at receipt
    have answered : Answered n.source t := ⟨j, mem, src.trans h.source, left, receipt⟩
    exact ⟨fun _ => .inr ⟨h.waits.mp accepts.1, accepts.2⟩, fun _ => answered⟩
  · rw [if_neg accepts] at post
    have refused : ¬(Awaits n s ∧ (contract.validateOwnerSubmission fields).2 = []) := fun hw =>
      accepts ⟨h.waits.mpr hw.1, hw.2⟩
    rw [post.answered, h.answered, or_iff_left refused]

theorem asked_detected (h : Detected s n d u) : Asked n.source u ↔
    Asked n.source s ∨ Awaits n s ∧ HasIntent d.2.id (anchorKey (stableDigest d.2)) s := by
  have intents : ∀ x key, HasIntent x key u ↔ HasIntent x key s := fun x key => by
    unfold HasIntent
    rw [h.outbox]
  constructor
  · rintro ⟨i, hi, hsrc, waits, intent⟩
    rw [intents] at intent
    cases h with
    | found => exact .inl ⟨i, hi, hsrc, waits, intent⟩
    | created hnone rows =>
      rw [rows] at hi
      rcases mem_insert hi with hi | rfl
      · exact .inl ⟨i, hi, hsrc, waits, intent⟩
      · refine .inr ⟨fun j hj => ?_, intent⟩
        rw [hnone] at hj
        cases hj
  · rintro (⟨i, hi, hsrc, waits, intent⟩ | ⟨awaits, intent⟩)
    · refine ⟨i, ?_, hsrc, waits, (intents _ _).mpr intent⟩
      cases h with
      | found => exact hi
      | created _ rows => exact rows ▸ List.mem_append_left _ hi
    · exact ⟨d.2, h.mem, h.source, h.waits.mpr awaits, (intents _ _).mpr intent⟩

/-- Planning the anchor of a member asks exactly when it waits and its anchor was free. -/
theorem asked_planned {i : Instance} (hi : i ∈ u.instances.rows) (h : Planned i u t) :
    Asked i.source t ↔ Asked i.source u ∨ i.state = .waitingOwner ∧ AnchorFree i u := by
  constructor
  · rintro ⟨j, hj, hsrc, waits, intent⟩
    rw [h.instances] at hj
    rcases (h.intent _ _).mp intent with intent | ⟨hid, _, free⟩
    · exact .inl ⟨j, hj, hsrc, waits, intent⟩
    · obtain rfl := rowId_inj hj hi hid
      exact .inr ⟨waits, free⟩
  · rintro (⟨j, hj, hsrc, waits, intent⟩ | ⟨waits, free⟩)
    · exact ⟨j, h.instances ▸ hj, hsrc, waits, (h.intent _ _).mpr (.inl intent)⟩
    · exact ⟨i, h.instances ▸ hi, rfl, waits, (h.intent _ _).mpr (.inr ⟨rfl, rfl, free⟩)⟩

/-- The asking branch asks exactly when the question was out, or the continuation waits and its anchor
can be had. -/
theorem asked_ask (h : Detected s n d u) (planned : Planned d.2 u t) : Asked n.source t ↔
    Asked n.source s ∨ Awaits n s ∧ Askable (s.createInstance n).1.2 s := by
  have free : AnchorFree d.2 u ↔ AnchorFree d.2 s := by
    unfold AnchorFree Store.stepOf Store.outboxOf
    rw [h.steps, h.outbox]
  have askable : Askable (s.createInstance n).1.2 s ↔ Askable d.2 s := by
    obtain ⟨hid, hdigest⟩ := h.named
    unfold Askable AnchorFree
    rw [hid, hdigest]
  have asked := asked_planned h.mem planned
  rw [h.source, asked_detected h, h.waits, free] at asked
  rw [asked, askable]
  unfold Askable
  tauto

variable {ok : ∀ q, Response q → Prop} {T : PyText} {cfg : IngestConfig} {ev : BoardEvent} {c : CompiledOutcome}

theorem wp_perform_notStalled (e : OutcomeEnvelope) (route : OwnerRoute) (id : String) :
    wp (anything ok) (route.perform cfg e) (fun o t =>
      NotStalled e.toInstance.source ⟨id, o.action, none, o.state, []⟩ t ↔ route.Settles e s) s := by
  cases route with
  | noop => exact ⟨trivial, fun h => h.settled, fun h => ⟨h, fun auto => absurd auto (by simp)⟩⟩
  | raises error => exact ⟨trivial, trivial⟩
  | auto contract r =>
    refine wp_mono (wp_auto cfg e contract r) ?_
    rintro o t _ ⟨action, d, u, detected, post⟩
    have answered := answered_auto detected post
    exact ⟨fun h => answered.mp (h.resolved action), fun h => ⟨.inr (answered.mpr h), fun _ => answered.mpr h⟩⟩
  | ask contract r =>
    refine wp_mono (wp_ask cfg e contract r) ?_
    rintro o t _ ⟨action, d, u, detected, planned⟩
    have asked := asked_ask detected planned
    have answered : Answered e.toInstance.source t ↔ Answered e.toInstance.source s :=
      planned.toCalm.answered.trans detected.answered
    have other : o.action ≠ "auto_resolved" := by
      rw [action]
      decide
    constructor
    · rintro ⟨settled, _⟩
      rw [asked, answered] at settled
      unfold OwnerRoute.Settles
      tauto
    · intro h
      refine ⟨?_, fun auto => absurd auto other⟩
      rw [asked, answered]
      unfold OwnerRoute.Settles at h
      tauto

/-- An event is left unasked exactly when its branch does not settle it. -/
theorem wp_routeEvent_notStalled (hc : compileEvent T cfg ev = .ok c) (owner : c.envelope.continuationKind.ownerInput) :
    wp (anything ok) (routeEvent T cfg ev) (fun r t =>
      NotStalled (eventSource cfg ev).source r.entry t ↔ (eventOwnerRoute T cfg ev).Settles c.envelope s) s := by
  have src : c.envelope.toInstance.source = (eventSource cfg ev).source :=
    congrArg SourceRef.source (compileEvent_source hc)
  rw [← src]
  by_cases handled : handles cfg c.envelope
  · rw [routeEvent_owner hc handled owner]
    exact wp_bind.mpr (wp_mono (wp_perform_notStalled c.envelope _ ev.eventId) fun _ _ _ h => ⟨trivial, h⟩)
  · have route : eventOwnerRoute T cfg ev = .noop := by
      unfold eventOwnerRoute
      rw [hc]
      dsimp only
      rw [if_neg (by simp [handled])]
    rw [routeEvent_filtered hc handled, route]
    exact ⟨trivial, fun h => h.settled, fun h => ⟨h, fun auto => absurd auto (by simp)⟩⟩

/-- Events of other sources that are routed later leave the source alone. -/
theorem ingestLoop_apart {ι : Type} {E : Env Response ι} {events : List BoardEvent} {src : String × String × String}
    (others : ∀ x ∈ events, (eventSource cfg x).source ≠ src) (m : Int) (i : ι) (s : Store) :
    Apart src s (run E (ingestLoop T cfg events m) i s).2.2 := by
  have routed : ∀ x ∈ events, Safe (apartTerms (fun _ _ => True) src s) (fun _ => True) (routeEvent T cfg x) :=
    fun x hx => safe_routeEvent_apart (others x hx)
  have loop := (safe_ingestLoop stable_true routed m).wp s (Apart.refl src s) trivial
  exact (@wp_run _ _ _ _ _ _ _ _ E _ (fun _ _ => trivial) loop i).1

theorem routeEvent_owner_entry (hc : compileEvent T cfg ev = .ok c) (owner : c.envelope.continuationKind.ownerInput) :
    Returns (fun r => r.entry.success = none) (routeEvent T cfg ev) := by
  by_cases handled : handles cfg c.envelope
  · rw [routeEvent_owner hc handled owner]
    exact returns_bind fun o => rfl
  · rw [routeEvent_filtered hc handled]
    rfl

/-- A pass over an owner event moves the cursor past it, and leaves it unasked and unanswered exactly when
its branch, from the store the event is routed in, does not settle it. -/
theorem ingestBoardOnce_notStalled_iff {ι : Type} {E : Env Response ι} {fetch : Int → List BoardEvent} {i : ι}
    {before after : List BoardEvent} {done : List IngestEntry} {b d : ι × Store} {res : IngestResult}
    (hc : compileEvent T cfg ev = .ok c) (owner : c.envelope.continuationKind.ownerInput)
    (fetched : fetch (s.getCursor cfg.board cfg.dbIdentity) = before ++ ev :: after)
    (others : ∀ x ∈ after, (eventSource cfg x).source ≠ (eventSource cfg ev).source)
    (reached : Routes T cfg E before done (i, s) b) (pass : run E (ingestBoardOnce T cfg fetch) i s = (.ok res, d)) :
    ∃ entry later, res.results = done ++ entry :: later ∧ ev.eventSeq ≤ res.cursor ∧
      (NotStalled (eventSource cfg ev).source entry d.2 ↔ (eventOwnerRoute T cfg ev).Settles c.envelope b.2) := by
  rw [ingestBoardOnce_run, fetched] at pass
  split at pass
  next out j u loop =>
    cases pass
    obtain ⟨later, hlater, hout, hcur⟩ := ingestLoop_routed reached loop
    obtain ⟨r, e, hr, ⟨failed, _⟩ | ⟨_, rest, rfl, hrest⟩⟩ := ingestLoop_cons hlater
    · have none := (routeEvent_owner_entry hc owner).run hr
      rw [failed.1] at none
      cases none
    · have spec : wp (anything fun _ _ => True) (routeEvent T cfg ev) _ b.2 := wp_routeEvent_notStalled hc owner
      have iff := (@wp_run _ _ _ _ _ _ _ _ E _ (fun _ _ => trivial) spec b.1).2 r (by rw [hr])
      have apart := ingestLoop_apart (T := T) (E := E) others (max (before.foldl (fun m ev => max m ev.eventSeq)
        (s.getCursor cfg.board cfg.dbIdentity)) ev.eventSeq) e.1 e.2
      rw [hrest] at apart
      rw [hr] at iff
      have cursor : Apart (eventSource cfg ev).source u (u.upsertCursor cfg.board cfg.dbIdentity
          (max (u.getCursor cfg.board cfg.dbIdentity) out.2)) :=
        apart_of_records rfl fun _ _ _ => recordsKept_eq rfl rfl rfl
      refine ⟨r.entry, rest.1, hout, ?_, (apart.trans cursor).notStalled.trans iff⟩
      obtain ⟨passed, _, _, _, _, _, _, _, _, hmax⟩ := ingestLoop_run hrest
      show ev.eventSeq ≤ out.2
      rw [hcur, hmax]
      exact Int.le_trans (Int.le_max_right _ _) maxSeq_bounds.1
  next => cases pass

end

section Samples

/-- A worker asks for a report that its own metadata derives. -/
def reportEvent (authority : String) : BoardEvent where
  eventId := "8"
  eventSeq := 8
  sourceTaskId := "t1"
  sourceGraphId := "g1"
  originRef := "chat:1"
  runMetadata := .obj [("agentflow_outcome", .obj [("schema_version", .int 1), ("verdict", .str "BLOCK"),
    ("continuation_kind", .str "needs_input"), ("contract_ref", .str genericOwnerInputContract),
    ("required_inputs", .arr [.obj [("name", .str "report"), ("kind", .str "evidence"), ("authority", .str authority)]])]),
    ("system_derived", .obj [("report", .str "r1")])]

def reportBoard : IngestConfig where
  board := "main"
  dbIdentity := "main.db"
  contracts := fun ref => some ⟨ref, "owner", [], []⟩
  resolve := humanEffortResolver asciiText [] "main"
  adapter := some { board := "main" }

def reportEnv : Env Response Unit := steadyEnv 0 { success := true, taskId := "t9" } true

def reportPass (authority : String) : Except String IngestResult × Unit × Store :=
  run reportEnv (ingestBoardOnce asciiText reportBoard fun _ => [reportEvent authority]) () .empty

def reportCompiles (authority : String) : Bool :=
  (compileEvent asciiText reportBoard (reportEvent authority)).toOption.any fun c => c.envelope.continuationKind.ownerInput

theorem reportCompiles_ok {authority : String} (h : reportCompiles authority = true) :
    ∃ c, compileEvent asciiText reportBoard (reportEvent authority) = .ok c ∧ c.envelope.continuationKind.ownerInput := by
  unfold reportCompiles at h
  cases hc : compileEvent asciiText reportBoard (reportEvent authority) with
  | error e =>
    rw [hc] at h
    cases h
  | ok c =>
    rw [hc] at h
    exact ⟨c, rfl, h⟩

theorem reportPass_ok {authority : String} (h : (reportPass authority).1.toOption.isSome = true) :
    ∃ res, reportPass authority = (.ok res, (reportPass authority).2) := by
  rcases hp : reportPass authority with ⟨_ | res, d⟩
  · rw [hp] at h
    cases h
  · exact ⟨res, rfl⟩

def OwnerRoute.submits : OwnerRoute → Bool
  | .auto contract r => decide ((contract.validateOwnerSubmission (autoSubmission r).fields).2 = [])
  | _ => false

theorem settles_empty {route : OwnerRoute} (e : OutcomeEnvelope) (h : route.submits = true) : route.Settles e .empty := by
  cases route with
  | auto contract r => exact .inr ⟨fun i hi => (by cases hi), of_decide_eq_true h⟩
  | _ => cases h

/-- A report that is the owner's to give is taken as the answer. -/
theorem ingestBoardOnce_notStalled_iff_report :
    ∃ entry, NotStalled ("main", "t1", "8") entry (reportPass "owner").2.2 := by
  obtain ⟨c, hc, owner⟩ := reportCompiles_ok (show reportCompiles "owner" = true by decide +kernel)
  obtain ⟨res, pass⟩ := reportPass_ok (show (reportPass "owner").1.toOption.isSome = true by decide +kernel)
  obtain ⟨entry, _, _, _, settles⟩ := @ingestBoardOnce_notStalled_iff _ _ _ _ _ _ _ _ _ [] [] _ _ _ _ hc owner rfl
    (fun _ h => absurd h List.not_mem_nil) .nil pass
  refine ⟨entry, settles.mpr (settles_empty c.envelope ?_)⟩
  decide +kernel

/-- A report that is not the owner's is resolved, refused, and asked of nobody. -/
theorem stalled_on_owner_input : ¬∀ (cfg : IngestConfig) (ev : BoardEvent) c res d, compileEvent asciiText cfg ev = .ok c →
    c.envelope.continuationKind.ownerInput →
    run reportEnv (ingestBoardOnce asciiText cfg fun _ => [ev]) () .empty = (.ok res, d) →
    ∀ entry ∈ res.results, NotStalled (eventSource cfg ev).source entry d.2 := by
  intro claim
  obtain ⟨c, hc, owner⟩ := reportCompiles_ok (show reportCompiles "system" = true by decide +kernel)
  obtain ⟨res, pass⟩ := reportPass_ok (show (reportPass "system").1.toOption.isSome = true by decide +kernel)
  have promised := claim reportBoard (reportEvent "system") c res _ hc owner pass
  have results : res.results ≠ [] := by
    have shown : (reportPass "system").1.toOption.any (fun res => decide (res.results.length ≠ 0)) = true := by decide +kernel
    rw [pass] at shown
    intro none
    have counted : decide (res.results.length ≠ 0) = true := shown
    rw [none] at counted
    exact absurd counted (by decide)
  obtain ⟨entry, hentry⟩ := List.exists_mem_of_ne_nil _ results
  have empty : (reportPass "system").2.2.outbox.rows.length = 0 ∧ (reportPass "system").2.2.receipts.rows.length = 0 := by
    decide +kernel
  rcases (promised entry hentry).settled with ⟨i, _, _, _, o, ho, _⟩ | ⟨i, _, _, _, r, hr, _⟩
  · rw [List.eq_nil_of_length_eq_zero empty.1] at ho
    cases ho
  · rw [List.eq_nil_of_length_eq_zero empty.2] at hr
    cases hr

end Samples

end AgentflowHermes
