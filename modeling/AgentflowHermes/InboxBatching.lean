import AgentflowHermes.OwnerRoutes
import AgentflowHermes.OwnerRules
import AgentflowHermes.SourceFrames

namespace AgentflowHermes

open CrashProgram RowTable

/-- What a planned event asks the inbox to batch. -/
structure Question where
  window : Nat
  asker : Instance
  authority : String
  requirements : List Requirement

namespace Question

def continuationId (q : Question) : Nat := q.asker.id

def endpoint (q : Question) : String := q.asker.originRef

/-- The continuation that asks is there. -/
def Present (q : Question) (s : Store) : Prop :=
  ∃ i ∈ s.instances.rows, i.id = q.asker.id ∧ i.toNewInstance = q.asker.toNewInstance

/-- The engine passes neither an owner nor a project. -/
def batchKey (q : Question) : String := makeBatchKey q.endpoint "" "" q.authority

def row (q : Question) (caseId : String) (now : Nat) : InteractionCaseRow :=
  ⟨caseId, q.endpoint, q.batchKey, .collecting, now⟩

/-- The members with those of the case that the question joins. -/
def joined (q : Question) (caseId : String) (s : Store) : Table InteractionMember :=
  (addInteractionMember caseId q.continuationId (q.requirements.map requirementToDict) s).members

end Question

/-- The continuation an event has or gets. -/
def continuationOf (n : NewInstance) (s : Store) : Instance :=
  (s.instanceOf n).getD { n with id := s.instances.next, state := .detected }

/-- The question of an event that takes the asking branch with an inbox. -/
def questionOf (cfg : IngestConfig) (e : OutcomeEnvelope) (r : Resolution) (s : Store) : Option Question :=
  match cfg.inbox, r.unresolved with
  | some window, first :: _ =>
    some ⟨window, continuationOf e.toInstance s, first.authority, r.unresolved⟩
  | _, _ => none

/-- How far the batching of a question has come. -/
inductive Batched (clock : Nat → Prop) (q : Question) (s t : Store) : Prop
  | untouched (cases : t.cases = s.cases) (members : t.members = s.members)
  | joined {now : Nat} {c : InteractionCaseRow} (time : clock now) (found : findOpenBatch s q.batchKey now q.window = some c)
      (cases : t.cases = s.cases) (members : t.members = q.joined c.id s) (present : q.Present t)
  | opened {now : Nat} {caseId : String} (time : clock now) (none : findOpenBatch s q.batchKey now q.window = none)
      (fresh : ∀ c ∈ s.cases, c.id ≠ caseId) (cases : t.cases = s.cases ++ [q.row caseId now]) (members : t.members = s.members)
  | asked {now : Nat} {caseId : String} (time : clock now) (none : findOpenBatch s q.batchKey now q.window = none)
      (fresh : ∀ c ∈ s.cases, c.id ≠ caseId) (cases : t.cases = s.cases ++ [q.row caseId now])
      (members : t.members = q.joined caseId s) (present : q.Present t)

/-- The clock shows one of these times. -/
def under (clock : Nat → Prop) : ∀ q : Request, Response q → Prop
  | .now, r => clock r
  | _, _ => True

section

variable {clock : Nat → Prop} {q : Question} {s t u : Store}

theorem createInstance_inbox (s : Store) (n : NewInstance) :
    (s.createInstance n).2.cases = s.cases ∧ (s.createInstance n).2.members = s.members := by
  rcases s.createInstance_cases n with ⟨_, _, he⟩ | ⟨_, he⟩
  · rw [he]
    exact ⟨rfl, rfl⟩
  · rw [he]
    exact ⟨rfl, rfl⟩

theorem Question.Present.kept (h : q.Present t) (kept : Kept t u) : q.Present u := by
  obtain ⟨i, hi, hid, columns⟩ := h
  obtain ⟨j, hj, same, columns'⟩ := kept i hi
  exact ⟨j, hj, same.trans hid, columns'.trans columns⟩

theorem Batched.frame (h : Batched clock q s t) (cases : u.cases = t.cases) (members : u.members = t.members)
    (kept : Kept t u) : Batched clock q s u := by
  cases h with
  | untouched hc hm => exact .untouched (cases.trans hc) (members.trans hm)
  | joined time found hc hm present => exact .joined time found (cases.trans hc) (members.trans hm) (present.kept kept)
  | opened time none fresh hc hm => exact .opened time none fresh (cases.trans hc) (members.trans hm)
  | asked time none fresh hc hm present =>
    exact .asked time none fresh (cases.trans hc) (members.trans hm) (present.kept kept)

theorem createInstance_continuation (s : Store) (n : NewInstance) : (s.createInstance n).1.2 = continuationOf n s := by
  unfold continuationOf
  rcases s.createInstance_cases n with ⟨i, hi, he⟩ | ⟨none, he⟩
  · rw [he, hi]
    rfl
  · rw [he, none]
    rfl

theorem movedTo_columns (new : ContinuationState) (i : Instance) :
    (Store.movedTo new i).id = i.id ∧ (Store.movedTo new i).toNewInstance = i.toNewInstance := by
  unfold Store.movedTo
  split
  · exact ⟨rfl, rfl⟩
  · exact ⟨rfl, rfl⟩

/-- The cases and their members stay what `B` says, and no continuation is lost. -/
def inboxTerms (ok : ∀ q, Response q → Prop) (s : Store) (B : Store → Prop) : Terms where
  ok := ok
  inv t := B t ∧ Kept s t
  may _ _ := True

/-- A property of the cases, the members and the continuations there are. -/
structure OfInbox (B : Store → Prop) : Prop where
  frame : ∀ {t u : Store}, B t → u.cases = t.cases → u.members = t.members → Kept t u → B u

variable {ok : ∀ q, Response q → Prop} {B : Store → Prop} (inbox : OfInbox B)
include inbox

theorem inbox_keep (h : (inboxTerms ok s B).inv t) (cases : u.cases = t.cases) (members : u.members = t.members)
    (kept : Kept t u) : (inboxTerms ok s B).inv u := ⟨inbox.frame h.1 cases members kept, h.2.trans kept⟩

theorem moveTerms_inbox : MoveTerms (inboxTerms ok s B) where
  outbox := {
    may := fun _ _ _ _ _ => trivial
    enqueue := fun _ _ _ _ _ hs => ⟨trivial, inbox_keep inbox hs rfl rfl (kept_of_eq rfl)⟩
    mark := fun _ _ _ _ _ _ hs => ⟨trivial, inbox_keep inbox hs rfl rfl (kept_of_eq rfl)⟩
    reinterpret := fun _ _ _ _ hs => ⟨trivial, inbox_keep inbox hs rfl rfl (kept_of_eq rfl)⟩ }
  move id new reason t hs := ⟨trivial, inbox_keep inbox hs rfl rfl (kept_transition t id new reason)⟩
  markStep _ _ _ hs := ⟨trivial, inbox_keep inbox hs rfl rfl (kept_of_eq rfl)⟩

theorem safe_record_inbox (id : Nat) (field : String) (value : Json) (kind ref policy : String) :
    Safe (inboxTerms ok s B) (fun _ => True) (SemanticRefusalHandler.recordSatisfaction id field value kind ref policy) :=
  safe_write stable_true (fun _ hs _ => ⟨trivial, inbox_keep inbox hs rfl rfl (kept_of_eq rfl)⟩) fun _ => safe_pure _

theorem safe_onReceipt_inbox (i : Instance) (submission : Submission) (adapter : Option Adapter) (contract : InputContract) :
    Safe (inboxTerms ok s B) (fun _ => True) (OwnerInputHandler.onReceipt i submission adapter contract) := by
  have accepted : ∀ receipt, Safe (inboxTerms ok s B) (fun _ => True)
      (OwnerInputHandler.acceptReceipt i adapter contract receipt) := fun receipt =>
    (moveTerms_inbox inbox).safe_acceptReceipt stable_true i adapter contract receipt fun t hs _ =>
      ⟨trivial, inbox_keep inbox hs rfl rfl (kept_of_eq rfl)⟩
  refine safe_ite (safe_pure _) (safe_ite (safe_pure _) ?_)
  exact safe_bind stable_true (safe_txn fun t hs _ => ⟨trivial, inbox_keep inbox hs rfl rfl (kept_of_eq rfl)⟩) accepted

theorem safe_autoResolve_inbox (e : OutcomeEnvelope) (ref : String) (contract : InputContract) (r : Resolution)
    (adapter : Option Adapter) : Safe (inboxTerms ok s B) (fun _ => True) (autoResolve e ref contract r adapter) := by
  have detected : Safe (inboxTerms ok s B) (fun _ => True)
      (OwnerInputHandler.detect { e.toInstance with contractRef := ref } "needs_input_detected_h0") := by
    refine (moveTerms_inbox inbox).safe_detect (fun t hs => ⟨trivial, ?_⟩) _
    have same := createInstance_inbox t { e.toInstance with contractRef := ref }
    exact inbox_keep inbox hs same.1 same.2 (kept_createInstance t _)
  refine safe_bind stable_true detected fun d => ?_
  refine safe_bind stable_true (safe_forEach stable_true fun x _ => safe_record_inbox inbox ..) fun _ => ?_
  exact safe_bind stable_true (safe_onReceipt_inbox inbox ..) fun _ => safe_pure _

/-- The planning of an anchor leaves the inbox alone. -/
theorem safe_planAnchor_inbox (i : Instance) (adapter : Option Adapter) (intent : Payload) :
    Safe (inboxTerms ok s B) (fun _ => True) (OwnerInputHandler.planAnchor i adapter intent) :=
  (moveTerms_inbox inbox).safe_planAnchor stable_true i adapter intent fun _ hs _ =>
    ⟨trivial, inbox_keep inbox hs rfl rfl (kept_of_eq rfl)⟩

/-- The detected continuation, before anything has been batched. -/
theorem wp_detect_inbox {n : NewInstance} (reason : String) (start : B s) :
    wp (inboxTerms ok s B) (OwnerInputHandler.detect n reason) (fun d t => t.cases = s.cases ∧ t.members = s.members ∧
      d.2.id = (continuationOf n s).id ∧ d.2.toNewInstance = (continuationOf n s).toNewInstance ∧
      ∃ i ∈ t.instances.rows, i.id = d.2.id ∧ i.toNewInstance = d.2.toNewInstance) s := by
  have same := createInstance_inbox s n
  have row := createInstance_continuation s n
  have present := s.createInstance_get n
  have created : (inboxTerms ok s B).inv (s.createInstance n).2 :=
    ⟨inbox.frame start same.1 same.2 (kept_createInstance s n), kept_createInstance s n⟩
  unfold OwnerInputHandler.detect
  refine wp_txn_bind.mpr ⟨⟨start, Kept.refl s⟩, trivial, ?_⟩
  generalize s.createInstance n = creation at same row present created ⊢
  obtain ⟨⟨isNew, i⟩, t⟩ := creation
  rw [← row]
  cases isNew with
  | false => exact ⟨created, same.1, same.2, rfl, rfl, i, (get?_eq_some.mp present).1, rfl, rfl⟩
  | true =>
    have moved : (inboxTerms ok s B).inv (t.transition i.id .waitingOwner reason).2 :=
      inbox_keep inbox created rfl rfl (kept_transition t i.id .waitingOwner reason)
    refine wp_bind.mpr ⟨created, trivial, moved, wp_bind.mpr ?_⟩
    unfold readInstance
    rw [wp_read]
    have seen := t.getInstance_transition i.id .waitingOwner reason i.id
    rw [if_pos rfl, present] at seen
    dsimp only at seen ⊢
    rw [seen]
    obtain ⟨hid, columns⟩ := movedTo_columns .waitingOwner i
    exact ⟨moved, moved, same.1, same.2, hid, columns, _, (get?_eq_some.mp seen).1, rfl, rfl⟩

end

section

variable {clock : Nat → Prop} {s t : Store}

theorem ofInbox_batched (q : Question) : OfInbox (Batched clock q s) := ⟨fun h => h.frame⟩

theorem addInteractionMember_members (caseId : String) (id : Nat) (requirements : List Json) (same : t.members = s.members) :
    (addInteractionMember caseId id requirements t).members = (addInteractionMember caseId id requirements s).members := by
  unfold addInteractionMember
  dsimp only
  rw [same]

theorem findOpenBatch_cases (key : String) (now window : Nat) (same : t.cases = s.cases) :
    findOpenBatch t key now window = findOpenBatch s key now window := by
  unfold findOpenBatch
  rw [same]

/-- The batching of a question, from its clock reading to its member. -/
theorem wp_openOrBatchCase_inbox (q : Question) (kept : Kept s t) (present : q.Present t) (cases : t.cases = s.cases)
    (members : t.members = s.members) :
    wp (inboxTerms (under clock) s (Batched clock q s))
      (openOrBatchCase q.window q.endpoint "" "" q.authority q.continuationId q.requirements) (fun _ _ => True) t := by
  have start : (inboxTerms (under clock) s (Batched clock q s)).inv t := ⟨.untouched cases members, kept⟩
  unfold openOrBatchCase
  refine wp_bind.mpr (wp_currentTime start trivial fun now time => wp_get_bind.mpr ?_)
  have member : ∀ caseId endpoint u, (inboxTerms (under clock) s (Batched clock q s)).inv u →
      Batched clock q s (addInteractionMember caseId q.continuationId (q.requirements.map requirementToDict) u) → Kept s u →
      wp (inboxTerms (under clock) s (Batched clock q s)) (do
        Prog.write (addInteractionMember caseId q.continuationId (q.requirements.map requirementToDict)) fun _ => .pure ()
        Prog.get fun s =>
          { id := caseId
            originEndpoint := endpoint
            continuationIds := (s.members.filter fun m => m.caseId == caseId).map InteractionMember.continuationId :
              InteractionCase } : Run InteractionCase) (fun _ _ => True) u :=
    fun _ _ u hu batched kept => ⟨hu, trivial, ⟨batched, kept⟩, trivial⟩
  have sameMembers := fun caseId => addInteractionMember_members caseId q.continuationId
    (q.requirements.map requirementToDict) members
  rw [findOpenBatch_cases _ now q.window cases]
  cases found : findOpenBatch s (makeBatchKey q.endpoint "" "" q.authority) now q.window with
  | some c =>
    have joined := Batched.joined (t := addInteractionMember c.id q.continuationId (q.requirements.map requirementToDict) t)
      time found cases (sameMembers c.id) present
    exact wp_bind.mpr ⟨start, member c.id c.endpoint t start joined kept⟩
  | none =>
    refine wp_bind.mpr ⟨start, trivial, fun caseId _ => ⟨start, wp_bind.mpr ?_⟩⟩
    unfold createInteractionCase
    rw [wp_read]
    split
    next => exact ⟨start, trivial⟩
    next new =>
      have fresh : ∀ c ∈ s.cases, c.id ≠ caseId := by
        intro c hc same
        rw [cases] at new
        exact new (List.any_eq_true.mpr ⟨c, hc, beq_iff_eq.mpr same⟩)
      have more : t.cases ++ [q.row caseId now] = s.cases ++ [q.row caseId now] := congrArg (· ++ _) cases
      have opened : (inboxTerms (under clock) s (Batched clock q s)).inv { t with cases := t.cases ++ [q.row caseId now] } :=
        ⟨.opened time found fresh more members, kept⟩
      have asked := Batched.asked (t := addInteractionMember caseId q.continuationId (q.requirements.map requirementToDict)
        { t with cases := t.cases ++ [q.row caseId now] }) time found fresh more (sameMembers caseId) present
      exact ⟨start, trivial, opened, member caseId q.endpoint _ opened asked kept⟩

/-- A plan whose batching keeps to `B`. -/
theorem wp_plan_inbox {B : Store → Prop} (inbox : OfInbox B) (start : B s) (cfg : IngestConfig) (e : OutcomeEnvelope)
    (contract : InputContract) (unresolved : List Requirement)
    (batched : ∀ (i : Instance) u, i.id = (continuationOf e.toInstance s).id →
      i.toNewInstance = (continuationOf e.toInstance s).toNewInstance →
      (∃ j ∈ u.instances.rows, j.id = i.id ∧ j.toNewInstance = i.toNewInstance) →
      u.cases = s.cases → u.members = s.members → Kept s u →
      wp (inboxTerms (under clock) s B) (OwnerInputHandler.interactionFor i cfg.inbox unresolved "" "") (fun _ _ => True) u) :
    wp (inboxTerms (under clock) s B) (OwnerInputHandler.plan e cfg.adapter contract cfg.inbox unresolved "" "") (fun _ _ => True) s := by
  unfold OwnerInputHandler.plan
  refine wp_bind.mpr (wp_mono (wp_detect_inbox inbox _ start) fun d u hu post => ?_)
  obtain ⟨cases, members, hid, columns, present⟩ := post
  refine wp_bind.mpr (wp_mono (batched d.2 u hid columns present cases members hu.2) fun interaction v hv _ => ?_)
  refine wp_bind.mpr (wp_mono ((safe_planAnchor_inbox inbox d.2 cfg.adapter _).wp v hv trivial) fun _ w hw _ => ?_)
  exact wp_bind.mpr (wp_mono (((moveTerms_inbox inbox).safe_readState d.2.id).wp w hw trivial) fun _ x hx _ => ⟨hx, trivial⟩)

/-- The question an event asks, when it takes the asking branch. -/
def routeQuestion (cfg : IngestConfig) (e : OutcomeEnvelope) (requirements : List Requirement) (md : Json) (s : Store) :
    Option Question :=
  match ownerRoute cfg e requirements md with
  | .ask _ r => questionOf cfg e r s
  | _ => none

/-- What the ingestion of an event leaves in the inbox. -/
def Ingested (clock : Nat → Prop) (s t : Store) : Option Question → Prop
  | none => t.cases = s.cases ∧ t.members = s.members
  | some q => Batched clock q s t

theorem ofInbox_ingested (question : Option Question) : OfInbox fun t => Ingested clock s t question := by
  cases question with
  | none => exact ⟨fun h cases members _ => ⟨cases.trans h.1, members.trans h.2⟩⟩
  | some q => exact ⟨fun h => h.frame⟩

theorem ingested_start (question : Option Question) : Ingested clock s s question := by
  cases question with
  | none => exact ⟨rfl, rfl⟩
  | some q => exact .untouched rfl rfl

theorem wp_ask_inbox (cfg : IngestConfig) (e : OutcomeEnvelope) (contract : InputContract) (r : Resolution) :
    wp (inboxTerms (under clock) s fun t => Ingested clock s t (questionOf cfg e r s))
      (OwnerInputHandler.plan e cfg.adapter contract cfg.inbox r.unresolved "" "") (fun _ _ => True) s := by
  refine wp_plan_inbox (ofInbox_ingested _) (ingested_start _) cfg e contract r.unresolved ?_
  intro i u hid columns present cases members kept
  have origin : i.originRef = (continuationOf e.toInstance s).originRef := congrArg NewInstance.originRef columns
  have none' : ∀ question, (inboxTerms (under clock) s fun t => Ingested clock s t question).inv u :=
    fun question => ⟨(ofInbox_ingested question).frame (ingested_start question) cases members kept, kept⟩
  unfold questionOf
  unfold OwnerInputHandler.interactionFor
  rw [hid, columns] at present
  rw [hid, origin]
  cases cfg.inbox with
  | none => exact ⟨none' _, trivial⟩
  | some window =>
    cases r.unresolved with
    | nil => exact ⟨none' _, trivial⟩
    | cons first rest =>
      have opened := @wp_openOrBatchCase_inbox clock s u ⟨window, continuationOf e.toInstance s, first.authority,
        first :: rest⟩ kept present cases members
      exact wp_bind.mpr (wp_mono opened fun _ _ hx _ => ⟨hx, trivial⟩)

/-- The inbox after the ingestion of an owner event, however far that came. -/
theorem ingest_inbox {cfg : IngestConfig} {e : OutcomeEnvelope} {requirements : List Requirement} {md : Json}
    {tr : List (Act Request Store)} {o : Option (Except String OwnerOutcome)}
    (exec : Exec (under clock) (ownerInputLike cfg e requirements md) s tr o t) :
    Ingested clock s t (routeQuestion cfg e requirements md s) ∧ Kept s t := by
  have start : ∀ question, (inboxTerms (under clock) s fun t => Ingested clock s t question).inv s :=
    fun question => ⟨ingested_start question, Kept.refl s⟩
  have ingested : wp (inboxTerms (under clock) s fun t => Ingested clock s t (routeQuestion cfg e requirements md s))
      (ownerInputLike cfg e requirements md) (fun _ _ => True) s := by
    rw [ownerInputLike_perform]
    unfold routeQuestion
    cases ownerRoute cfg e requirements md with
    | noop => exact ⟨start _, trivial⟩
    | raises error => exact ⟨start _, trivial⟩
    | auto contract r => exact (safe_autoResolve_inbox (ofInbox_ingested _) ..).wp s (start _) trivial
    | ask contract r => exact wp_bind.mpr (wp_mono (wp_ask_inbox cfg e contract r) fun _ _ hx _ => ⟨hx, trivial⟩)
  exact (wp_sound ingested exec).2.1

theorem findOpenBatch_some {key : String} {now window : Nat} {c : InteractionCaseRow}
    (h : findOpenBatch s key now window = some c) : c ∈ s.cases ∧ c.batchKey = key := by
  unfold findOpenBatch at h
  have mem := List.mem_filter.mp (List.mem_mergeSort.mp (List.mem_of_find?_eq_some h))
  have found := List.find?_some h
  simp only [Bool.and_eq_true, beq_iff_eq] at found
  exact ⟨mem.1, found.1⟩

/-- The members of the joined case: those of before, and the continuation with what it asks now. -/
theorem mem_joined {q : Question} {caseId : String} {m : InteractionMember} (h : m ∈ (q.joined caseId s).rows) :
    m ∈ s.members.rows ∨
      m.caseId = caseId ∧ m.continuationId = q.continuationId ∧ m.requirements = q.requirements.map requirementToDict := by
  unfold Question.joined addInteractionMember at h
  dsimp only at h
  split at h
  next before found =>
    have own := pred_of_find? found
    simp only [Bool.and_eq_true, beq_iff_eq] at own
    rcases mem_modify h with ⟨old, _⟩ | ⟨m', old, same, rfl⟩
    · exact .inl old
    · obtain rfl : m' = before := rowId_inj old (mem_of_find? found) same
      exact .inr ⟨own.1, own.2, rfl⟩
  next =>
    rcases mem_insert h with old | rfl
    · exact .inl old
    · exact .inr ⟨rfl, rfl, rfl⟩

end

end AgentflowHermes
