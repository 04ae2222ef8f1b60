import AgentflowHermes.OpenQuestions

namespace AgentflowHermes

open CrashProgram RowTable Relation

/-- Where a question is asked, whom, and for which project. -/
structure Lane where
  endpoint : String
  owner : Option String
  board : String
  deriving DecidableEq

/-- The owner of a continuation is the role its registered contract names. -/
def laneOf (contracts : String → Option InputContract) (n : NewInstance) : Lane :=
  ⟨n.originRef, (contracts (registeredRef n)).map InputContract.ownerRole, n.board⟩

/-- The member's continuation is of the lane, and all it asks belongs to the authority class. -/
structure MemberIn (contracts : String → Option InputContract) (s : Store) (lane : Lane) (authority : String)
    (m : InteractionMember) : Prop where
  lane : ∃ i ∈ s.instances.rows, i.id = m.continuationId ∧ laneOf contracts i.toNewInstance = lane
  requirements : ∃ rs : List Requirement, m.requirements = rs.map requirementToDict ∧ ∀ r ∈ rs, r.authority = authority

/-- Two members of one case are of one lane and one authority class. -/
def OneLane (contracts : String → Option InputContract) (s : Store) : Prop :=
  ∀ m ∈ s.members.rows, ∀ m' ∈ s.members.rows, m.caseId = m'.caseId →
    ∃ lane authority, MemberIn contracts s lane authority m ∧ MemberIn contracts s lane authority m'

/-- A question belongs to one authority class, and the case it joins is of its endpoint and, apart from itself, holds
only continuations of its lane. -/
def JoinsOwnLane (contracts : String → Option InputContract) : InboxEvent → Store → Prop
  | .ingest cfg e requirements md clock, s => ∀ q, routeQuestion cfg e requirements md s = some q →
      (∀ r ∈ q.requirements, r.authority = q.authority) ∧
      ∀ now, clock now → ∀ c, findOpenBatch s q.batchKey now q.window = some c → c.endpoint = q.endpoint ∧
        ∀ m ∈ s.members.rows, m.caseId = c.id → m.continuationId ≠ q.continuationId →
          ∀ i ∈ s.instances.rows, i.id = m.continuationId →
            laneOf contracts i.toNewInstance = laneOf contracts q.asker.toNewInstance
  | _, _ => True

/-- What is known of a case: its key names its authority class. -/
def CaseIn (contracts : String → Option InputContract) (s : Store) (c : InteractionCaseRow) : Prop :=
  ∃ lane authority, c.batchKey = makeBatchKey c.endpoint "" "" authority ∧
    ∀ m ∈ s.members.rows, m.caseId = c.id → MemberIn contracts s lane authority m

section

variable {T : ReplyText} {contracts : String → Option InputContract} {clock : Nat → Prop} {q : Question} {s t : Store}
  {lane : Lane} {authority : String} {m : InteractionMember}

theorem MemberIn.kept (h : MemberIn contracts s lane authority m) (kept : Kept s t) :
    MemberIn contracts t lane authority m := by
  obtain ⟨⟨i, hi, hid, own⟩, requirements⟩ := h
  obtain ⟨j, hj, same, columns⟩ := kept i hi
  exact ⟨⟨j, hj, same.trans hid, columns ▸ own⟩, requirements⟩

theorem makeBatchKey_toList (endpoint owner project authority : String) : (makeBatchKey endpoint owner project authority).toList =
    endpoint.toList ++ '|' :: (owner.toList ++ '|' :: (project.toList ++ '|' :: authority.toList)) := by
  simp [makeBatchKey]

/-- Under one scope the key tells the authority classes apart. -/
theorem makeBatchKey_authority {endpoint owner project a b : String}
    (h : makeBatchKey endpoint owner project a = makeBatchKey endpoint owner project b) : a = b := by
  have lists := congrArg String.toList h
  rw [makeBatchKey_toList, makeBatchKey_toList] at lists
  exact String.toList_inj.mp (by simpa using lists)

/-- What stands before the first separator, when neither part holds one. -/
theorem append_separator_inj {xs ys xs' ys' : List Char} (plain : '|' ∉ xs) (plain' : '|' ∉ xs')
    (h : xs ++ '|' :: ys = xs' ++ '|' :: ys') : xs = xs' ∧ ys = ys' := by
  induction xs generalizing xs' with
  | nil =>
    cases xs' with
    | nil => exact ⟨rfl, (List.cons.inj h).2⟩
    | cons c rest =>
      obtain ⟨same, _⟩ := List.cons.inj h
      exact absurd (same ▸ List.mem_cons_self) plain'
  | cons c rest ih =>
    cases xs' with
    | nil =>
      obtain ⟨same, _⟩ := List.cons.inj h
      exact absurd (same ▸ List.mem_cons_self) plain
    | cons c' rest' =>
      obtain ⟨rfl, tails⟩ := List.cons.inj h
      obtain ⟨rfl, later⟩ := ih (fun mem => plain (List.mem_cons_of_mem _ mem))
        (fun mem => plain' (List.mem_cons_of_mem _ mem)) tails
      exact ⟨rfl, later⟩

/-- A case whose members are those of before. -/
theorem CaseIn.same {c d : InteractionCaseRow} (h : CaseIn contracts s c) (kept : Kept s t) (hid : d.id = c.id)
    (endpoint : d.endpoint = c.endpoint) (key : d.batchKey = c.batchKey)
    (old : ∀ m ∈ t.members.rows, m.caseId = c.id → m ∈ s.members.rows) : CaseIn contracts t d := by
  obtain ⟨lane, authority, hkey, members⟩ := h
  refine ⟨lane, authority, ?_, fun m hm own => ?_⟩
  · rw [key, endpoint]
    exact hkey
  · have own' := own.trans hid
    exact (members m (old m hm own') own').kept kept

/-- The new member of a case is of the lane of its continuation. -/
theorem memberIn_asker (alike : ∀ r ∈ q.requirements, r.authority = q.authority) (present : q.Present t)
    (continued : m.continuationId = q.continuationId) (requirements : m.requirements = q.requirements.map requirementToDict) :
    MemberIn contracts t (laneOf contracts q.asker.toNewInstance) q.authority m := by
  obtain ⟨i, hi, hid, columns⟩ := present
  exact ⟨⟨i, hi, hid.trans continued.symm, by rw [columns]⟩, q.requirements, requirements, alike⟩

/-- The case that is joined. -/
theorem CaseIn.joined {now : Nat} {c : InteractionCaseRow} (h : CaseIn contracts s c) (kept : Kept s t)
    (found : findOpenBatch s q.batchKey now q.window = some c) (members : t.members = q.joined c.id s) (present : q.Present t)
    (alike : ∀ r ∈ q.requirements, r.authority = q.authority) (endpoint : c.endpoint = q.endpoint)
    (lanes : ∀ m ∈ s.members.rows, m.caseId = c.id → m.continuationId ≠ q.continuationId →
      ∀ i ∈ s.instances.rows, i.id = m.continuationId →
        laneOf contracts i.toNewInstance = laneOf contracts q.asker.toNewInstance) : CaseIn contracts t c := by
  obtain ⟨lane, authority, key, before⟩ := h
  have same : c.batchKey = q.batchKey := (findOpenBatch_some found).2
  have own : c.batchKey = makeBatchKey c.endpoint "" "" q.authority := by
    rw [same, endpoint]
    rfl
  have class' : authority = q.authority := makeBatchKey_authority (key.symm.trans own)
  refine ⟨laneOf contracts q.asker.toNewInstance, q.authority, own, fun m hm hcase => ?_⟩
  rw [members] at hm
  rcases mem_joined hm with old | ⟨_, continued, requirements⟩
  · have was := before m old hcase
    rw [class'] at was
    by_cases itself : m.continuationId = q.continuationId
    · obtain ⟨i, hi, hid, columns⟩ := present
      exact ⟨⟨i, hi, hid.trans itself.symm, by rw [columns]⟩, was.requirements⟩
    · obtain ⟨i, hi, hid, _⟩ := was.lane
      obtain ⟨j, hj, hid', columns⟩ := kept i hi
      refine ⟨⟨j, hj, hid'.trans hid, ?_⟩, was.requirements⟩
      rw [columns]
      exact lanes m old hcase itself i hi hid
  · exact memberIn_asker alike present continued requirements

def WellLaned (contracts : String → Option InputContract) (s : Store) : Prop := ∀ c ∈ s.cases, CaseIn contracts s c

theorem WellLaned.batched (h : WellLaned contracts s) (sound : SoundCases s) (kept : Kept s t) (batched : Batched clock q s t)
    (alike : ∀ r ∈ q.requirements, r.authority = q.authority)
    (joins : ∀ now, clock now → ∀ c, findOpenBatch s q.batchKey now q.window = some c → c.endpoint = q.endpoint ∧
      ∀ m ∈ s.members.rows, m.caseId = c.id → m.continuationId ≠ q.continuationId →
        ∀ i ∈ s.instances.rows, i.id = m.continuationId →
          laneOf contracts i.toNewInstance = laneOf contracts q.asker.toNewInstance) : WellLaned contracts t := by
  cases batched with
  | untouched cases members =>
    intro c hc
    rw [cases] at hc
    exact (h c hc).same kept rfl rfl rfl fun m hm _ => members ▸ hm
  | @joined now c time found cases members present =>
    intro d hd
    rw [cases] at hd
    by_cases same : d.id = c.id
    · obtain rfl : d = c := List.inj_on_of_nodup_map sound.distinct hd (findOpenBatch_some found).1 same
      obtain ⟨endpoint, lanes⟩ := joins now time d found
      exact (h d hd).joined kept found members present alike endpoint lanes
    · refine (h d hd).same kept rfl rfl rfl fun m hm own => ?_
      rw [members] at hm
      rcases mem_joined hm with old | ⟨joined, _⟩
      · exact old
      · exact absurd (own.symm.trans joined) same
  | @opened now caseId time none fresh cases members =>
    intro d hd
    rw [cases] at hd
    rcases List.mem_append.mp hd with old | new
    · exact (h d old).same kept rfl rfl rfl fun m hm _ => members ▸ hm
    · obtain rfl := List.mem_singleton.mp new
      refine ⟨laneOf contracts q.asker.toNewInstance, q.authority, rfl, fun m hm own => ?_⟩
      rw [members] at hm
      exact absurd rfl (fresh _ (sound.old_case fresh hm own.symm (List.mem_append_right _ (List.mem_singleton_self _))))
  | @asked now caseId time none fresh cases members present =>
    intro d hd
    rw [cases] at hd
    rcases List.mem_append.mp hd with old | new
    · refine (h d old).same kept rfl rfl rfl fun m hm own => ?_
      rw [members] at hm
      rcases mem_joined hm with old' | ⟨joined, _⟩
      · exact old'
      · exact absurd (own.symm.trans joined) (fresh d old)
    · obtain rfl := List.mem_singleton.mp new
      refine ⟨laneOf contracts q.asker.toNewInstance, q.authority, rfl, fun m hm own => ?_⟩
      rw [members] at hm
      rcases mem_joined hm with old | ⟨_, continued, requirements⟩
      · exact absurd rfl (fresh _ (sound.old_case fresh old own.symm (List.mem_append_right _ (List.mem_singleton_self _))))
      · exact memberIn_asker alike present continued requirements

theorem InboxStep.wellLaned {ev : InboxEvent} (step : InboxStep T (JoinsOwnLane contracts) s ev t) (sound : SoundCases s)
    (h : WellLaned contracts s) : WellLaned contracts t := by
  obtain ⟨change, kept⟩ := step.change sound
  cases change with
  | progressed progressed =>
    obtain ⟨members, f, cases, later⟩ := progressed
    intro d hd
    rw [cases] at hd
    obtain ⟨c, hc, rfl⟩ := List.mem_map.mp hd
    obtain ⟨hid, endpoint, key, _⟩ := later c hc
    exact (h c hc).same kept hid endpoint key fun m hm _ => members ▸ hm
  | batched meets question batched =>
    obtain ⟨alike, joins⟩ := meets _ question
    exact h.batched sound kept batched alike joins

theorem wellLaned_run (run : ReflTransGen (fun s t => ∃ ev, InboxStep T (JoinsOwnLane contracts) s ev t) .empty s) :
    WellLaned contracts s := by
  induction run with
  | refl => exact fun c hc => absurd hc List.not_mem_nil
  | tail earlier step ih =>
    obtain ⟨ev, step⟩ := step
    exact step.wellLaned (soundCases_run earlier) ih

/-- The four parts a batch key is made of. -/
structure BatchScope where
  endpoint : String
  owner : String
  project : String
  authority : String

namespace BatchScope

def key (b : BatchScope) : String := makeBatchKey b.endpoint b.owner b.project b.authority

/-- No part before the authority holds the separator. -/
def Plain (b : BatchScope) : Prop := '|' ∉ b.endpoint.toList ∧ '|' ∉ b.owner.toList ∧ '|' ∉ b.project.toList

theorem key_inj {b b' : BatchScope} (plain : b.Plain) (plain' : b'.Plain) (h : b.key = b'.key) : b = b' := by
  obtain ⟨endpoint, owner, project, authority⟩ := b
  obtain ⟨endpoint', owner', project', authority'⟩ := b'
  have lists := congrArg String.toList h
  unfold key at lists
  rw [makeBatchKey_toList, makeBatchKey_toList] at lists
  obtain ⟨same₁, lists⟩ := append_separator_inj plain.1 plain'.1 lists
  obtain ⟨same₂, lists⟩ := append_separator_inj plain.2.1 plain'.2.1 lists
  obtain ⟨same₃, same₄⟩ := append_separator_inj plain.2.2 plain'.2.2 lists
  rw [BatchScope.mk.injEq]
  exact ⟨String.toList_inj.mp same₁, String.toList_inj.mp same₂, String.toList_inj.mp same₃, String.toList_inj.mp same₄⟩

end BatchScope

/-- Along every run in which each plan joins a case of its own lane, the cases do not mix lanes; and the keys tell
scopes without the separator apart. -/
theorem batches_keep_lanes (run : ReflTransGen (fun s t => ∃ ev, InboxStep T (JoinsOwnLane contracts) s ev t) .empty s) :
    OneLane contracts s ∧ ∀ b b' : BatchScope, b.Plain → b'.Plain → b.key = b'.key → b = b' := by
  refine ⟨fun m hm m' hm' same => ?_, fun b b' plain plain' h => BatchScope.key_inj plain plain' h⟩
  obtain ⟨c, hc, own⟩ := (soundCases_run run).named m hm
  obtain ⟨lane, authority, _, members⟩ := wellLaned_run run c hc
  exact ⟨lane, authority, members m hm own.symm, members m' hm' (own.trans same).symm⟩

end

section Samples

/-- Another event of the same board. -/
def secondRequest : OutcomeEnvelope where
  eventId := "13"
  board := "main"
  sourceTaskId := "t5"
  sourceGraphId := "g4"
  originRef := "chat:1"
  returnToRef := ""
  workspaceRef := ""
  verdict := .block
  continuationKind := .approvalRequired
  contractRef := "release.v1"
  confidence := .flatMetadata
  complete := by decide
  coherent := ⟨nofun, nofun, nofun⟩

/-- An event of another board whose questions go to the same endpoint. -/
def foreignRequest : OutcomeEnvelope where
  eventId := "14"
  board := "other"
  sourceTaskId := "t6"
  sourceGraphId := "g6"
  originRef := "chat:1"
  returnToRef := ""
  workspaceRef := ""
  verdict := .block
  continuationKind := .approvalRequired
  contractRef := "release.v1"
  confidence := .flatMetadata
  complete := by decide
  coherent := ⟨nofun, nofun, nofun⟩

/-- Every case and every continuation of the store is of the lane of the question. -/
def sameLane (s : Store) (q : Question) : Bool :=
  (q.requirements.all fun r => r.authority = q.authority) && (s.cases.all fun c => c.endpoint = q.endpoint) &&
    s.instances.rows.all fun i =>
      laneOf decisionContracts i.toNewInstance = laneOf decisionContracts q.asker.toNewInstance

theorem joinsOwnLane_of {e : OutcomeEnvelope} {now : Nat} {s : Store}
    (check : (routeQuestion inboxBoard e [] (.obj []) s).all (sameLane s) = true) :
    JoinsOwnLane decisionContracts (.ingest inboxBoard e [] (.obj []) (· = now)) s := by
  intro q question
  rw [question, Option.all_some] at check
  unfold sameLane at check
  simp only [Bool.and_eq_true, List.all_eq_true, decide_eq_true_eq] at check
  obtain ⟨⟨alike, endpoints⟩, lanes⟩ := check
  exact ⟨alike, fun now _ c found => ⟨endpoints c (findOpenBatch_some found).1, fun _ _ _ _ i hi _ => lanes i hi⟩⟩

theorem batches_keep_lanes_joined :
    OneLane decisionContracts (plannedAt secondRequest 5 "second" (plannedAt releaseRequest 0 "first" .empty)) ∧
      ∀ b b' : BatchScope, b.Plain → b'.Plain → b.key = b'.key → b = b' :=
  @batches_keep_lanes asciiReply decisionContracts _
    (.tail (.single (plannedAt_step "first" (joinsOwnLane_of (by decide +kernel))))
      (plannedAt_step "second" (joinsOwnLane_of (by decide +kernel))))

/-- Two boards with one endpoint share a case. -/
theorem boards_share_case : ¬∀ (T : ReplyText) (contracts : String → Option InputContract) (s : Store),
    ReflTransGen (fun s t => ∃ ev, InboxStep T (fun _ _ => True) s ev t) .empty s →
    OneLane contracts s ∧ ∀ b b' : BatchScope, b.key = b'.key → b = b' := by
  intro claim
  have run : ReflTransGen (fun s t => ∃ ev, InboxStep asciiReply (fun _ _ => True) s ev t) .empty
      (plannedAt foreignRequest 5 "second" (plannedAt releaseRequest 0 "first" .empty)) :=
    .tail (.single (plannedAt_step "first" trivial)) (plannedAt_step "second" trivial)
  have lanes := (claim asciiReply decisionContracts _ run).1
  generalize reached : plannedAt foreignRequest 5 "second" (plannedAt releaseRequest 0 "first" .empty) = s at lanes
  have mixed : (s.members.rows.any fun m => s.members.rows.any fun m' => decide (m.caseId = m'.caseId) &&
      s.instances.rows.all fun i => s.instances.rows.all fun i' =>
        !decide (i.id = m.continuationId ∧ i'.id = m'.continuationId ∧ i.board = i'.board)) = true := by
    rw [← reached]
    decide +kernel
  obtain ⟨m, hm, mixed⟩ := List.any_eq_true.mp mixed
  obtain ⟨m', hm', mixed⟩ := List.any_eq_true.mp mixed
  rw [Bool.and_eq_true, decide_eq_true_eq] at mixed
  obtain ⟨same, apart⟩ := mixed
  obtain ⟨lane, authority, ⟨⟨i, hi, hid, own⟩, _⟩, ⟨⟨i', hi', hid', own'⟩, _⟩⟩ := lanes m hm m' hm' same
  have boards : i.board = i'.board := congrArg Lane.board (own.trans own'.symm)
  have differ := List.all_eq_true.mp (List.all_eq_true.mp apart i hi) i' hi'
  simp [hid, hid', boards] at differ

end Samples

end AgentflowHermes
