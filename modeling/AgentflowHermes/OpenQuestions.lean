import AgentflowHermes.AnswerRuns
import AgentflowHermes.InputInbox

namespace AgentflowHermes

open CrashProgram RowTable Relation

/-- What can happen to the inbox of a store: an owner event is ingested or replayed while the clock shows one of
some times, the plugin shows the open cases, or an owner replies. -/
inductive InboxEvent
  | ingest (cfg : IngestConfig) (e : OutcomeEnvelope) (requirements : List Requirement) (md : Json) (clock : Nat → Prop)
  | ask (endpoint caseId : String)
  | reply (args : ReplyArgs)
  | other

/-- Ingestion and asking go as far as they get; a reply goes to its end. -/
inductive InboxStep (T : ReplyText) (guard : InboxEvent → Store → Prop) (s : Store) : InboxEvent → Store → Prop
  | ingest {t : Store} {cfg : IngestConfig} {e : OutcomeEnvelope} {requirements : List Requirement} {md : Json}
      {clock : Nat → Prop} {tr o} (meets : guard (.ingest cfg e requirements md clock) s)
      (exec : Exec (under clock) (ownerInputLike cfg e requirements md) s tr o t) :
      InboxStep T guard s (.ingest cfg e requirements md clock) t
  | ask {t : Store} {endpoint caseId : String} {ok : ∀ q, Response q → Prop} {tr o}
      (exec : Exec ok (handleInputInbox T.toPyText endpoint caseId) s tr o t) : InboxStep T guard s (.ask endpoint caseId) t
  | reply {t : Store} {args : ReplyArgs} {ok : ∀ q, Response q → Prop} {tr o}
      (exec : Exec ok (handleSubmitInputText T args) s tr (some o) t) : InboxStep T guard s (.reply args) t
  | other {t : Store} (kept : Kept s t) (cases : t.cases = s.cases) (members : t.members = s.members) :
      InboxStep T guard s .other t

/-- The continuation is a member of a case that is neither answered nor applied. -/
def OpenIn (s : Store) (x : Nat) (caseId : String) : Prop :=
  (∃ c ∈ s.cases, c.id = caseId ∧ c.state.unresolved) ∧
    ∃ m ∈ s.members.rows, m.caseId = caseId ∧ m.continuationId = x

instance (s : Store) (x : Nat) (caseId : String) : Decidable (OpenIn s x caseId) := inferInstanceAs (Decidable (_ ∧ _))

/-- The event has a continuation that waits for its owner no longer. -/
def MovedOn (e : OutcomeEnvelope) (s : Store) : Prop :=
  ∃ i, s.instanceOf e.toInstance = some i ∧ i.state ≠ .waitingOwner

/-- One open question per continuation, and none for one that has moved on. -/
structure OneQuestion (T : ReplyText) (guard : InboxEvent → Store → Prop) (s : Store) : Prop where
  single : ∀ x a b, OpenIn s x a → OpenIn s x b → a = b
  quiet : ∀ cfg e requirements md clock t, MovedOn e s → InboxStep T guard s (.ingest cfg e requirements md clock) t →
    t.cases = s.cases

/-- The plan finds the open case that its continuation is in, and finds some case when the continuation has moved on. -/
def FindsOwnCase : InboxEvent → Store → Prop
  | .ingest cfg e requirements md clock, s => ∀ q, routeQuestion cfg e requirements md s = some q → ∀ now, clock now →
      (∀ a, OpenIn s q.continuationId a → ∃ c, findOpenBatch s q.batchKey now q.window = some c ∧ c.id = a) ∧
      (MovedOn e s → (findOpenBatch s q.batchKey now q.window).isSome)
  | _, _ => True

/-- What the cases keep to, whatever is batched. -/
structure SoundCases (s : Store) : Prop where
  distinct : (s.cases.map InteractionCaseRow.id).Nodup
  settled : ∀ c ∈ s.cases, c.state ≠ .answered
  named : ∀ m ∈ s.members.rows, ∃ c ∈ s.cases, c.id = m.caseId

def Single (s : Store) : Prop := ∀ x a b, OpenIn s x a → OpenIn s x b → a = b

section

variable {T : ReplyText} {clock : Nat → Prop} {q : Question} {s t : Store} {x : Nat} {a : String}

theorem SoundCases.progressed (h : SoundCases s) (progressed : Progressed s t) : SoundCases t := by
  obtain ⟨members, f, cases, later⟩ := progressed
  have ids : t.cases.map InteractionCaseRow.id = s.cases.map InteractionCaseRow.id := by
    rw [cases, List.map_map]
    exact List.map_congr_left fun c hc => (later c hc).1
  refine ⟨ids ▸ h.distinct, fun d hd answered => ?_, fun m hm => ?_⟩
  · rw [cases] at hd
    obtain ⟨c, hc, rfl⟩ := List.mem_map.mp hd
    exact h.settled c hc ((later c hc).2.2.2.2 answered)
  · rw [members] at hm
    obtain ⟨c, hc, own⟩ := h.named m hm
    exact ⟨f c, cases ▸ List.mem_map_of_mem hc, (later c hc).1.trans own⟩

theorem Single.progressed (h : Single s) (progressed : Progressed s t) : Single t := by
  obtain ⟨members, f, cases, later⟩ := progressed
  have back : ∀ y b, OpenIn t y b → OpenIn s y b := by
    rintro y b ⟨⟨d, hd, own, unresolved⟩, member⟩
    rw [cases] at hd
    obtain ⟨c, hc, rfl⟩ := List.mem_map.mp hd
    obtain ⟨same, _, _, reopened, _⟩ := later c hc
    rw [members] at member
    exact ⟨⟨c, hc, same.symm.trans own, reopened unresolved⟩, member⟩
  exact fun y b b' hb hb' => h y b b' (back y b hb) (back y b' hb')

/-- A case that has just been opened has no member yet. -/
theorem SoundCases.old_case (h : SoundCases s) {caseId : String} {now : Nat} (fresh : ∀ c ∈ s.cases, c.id ≠ caseId)
    {m : InteractionMember} (hm : m ∈ s.members.rows) {c : InteractionCaseRow} (own : c.id = m.caseId)
    (hc : c ∈ s.cases ++ [q.row caseId now]) : c ∈ s.cases := by
  rcases List.mem_append.mp hc with old | new
  · exact old
  · obtain rfl := List.mem_singleton.mp new
    obtain ⟨d, hd, named⟩ := h.named m hm
    exact absurd (named.trans own.symm) (fresh d hd)

/-- The cases of a store in which one has been opened. -/
theorem SoundCases.opened (h : SoundCases s) {caseId : String} {now : Nat} (fresh : ∀ c ∈ s.cases, c.id ≠ caseId)
    (cases : t.cases = s.cases ++ [q.row caseId now])
    (members : ∀ m ∈ t.members.rows, m ∈ s.members.rows ∨ m.caseId = caseId) : SoundCases t := by
  refine ⟨?_, fun c hc => ?_, fun m hm => ?_⟩
  · rw [cases, List.map_append, List.nodup_append]
    refine ⟨h.distinct, List.nodup_singleton _, fun a ha b hb same => ?_⟩
    obtain ⟨c, hc, rfl⟩ := List.mem_map.mp ha
    obtain rfl : b = caseId := List.mem_singleton.mp hb
    exact fresh c hc same
  · rw [cases] at hc
    rcases List.mem_append.mp hc with old | new
    · exact h.settled c old
    · obtain rfl := List.mem_singleton.mp new
      show CaseState.collecting ≠ .answered
      decide
  · rw [cases]
    rcases members m hm with old | own
    · obtain ⟨c, hc, own⟩ := h.named m old
      exact ⟨c, List.mem_append_left _ hc, own⟩
    · exact ⟨q.row caseId now, List.mem_append_right _ (List.mem_singleton_self _), own.symm⟩

theorem SoundCases.batched (h : SoundCases s) (batched : Batched clock q s t) : SoundCases t := by
  cases batched with
  | untouched cases members => exact h.progressed (.of_eq cases members)
  | @joined now c time found cases members =>
    refine ⟨cases ▸ h.distinct, cases ▸ h.settled, fun m hm => ?_⟩
    rw [members] at hm
    rw [cases]
    rcases mem_joined hm with old | ⟨own, _⟩
    · exact h.named m old
    · exact ⟨c, (findOpenBatch_some found).1, own.symm⟩
  | opened time none fresh cases members => exact h.opened fresh cases fun m hm => .inl (members ▸ hm)
  | asked time none fresh cases members =>
    exact h.opened fresh cases fun m hm => (mem_joined (members ▸ hm)).imp id And.left

/-- What a step can do to the inbox: it moves cases on, or it batches the question of an event that met the guard. -/
inductive InboxChange (guard : InboxEvent → Store → Prop) (s t : Store) : Prop
  | progressed (h : Progressed s t)
  | batched {cfg : IngestConfig} {e : OutcomeEnvelope} {requirements : List Requirement} {md : Json} {clock : Nat → Prop}
      {q : Question} (meets : guard (.ingest cfg e requirements md clock) s)
      (question : routeQuestion cfg e requirements md s = some q) (h : Batched clock q s t)

theorem InboxStep.change {guard : InboxEvent → Store → Prop} {ev : InboxEvent} (step : InboxStep T guard s ev t)
    (sound : SoundCases s) : InboxChange guard s t ∧ Kept s t := by
  cases step with
  | @ingest _ cfg e requirements md clock _ _ meets exec =>
    obtain ⟨ingested, kept⟩ := ingest_inbox exec
    refine ⟨?_, kept⟩
    cases question : routeQuestion cfg e requirements md s with
    | none =>
      rw [question] at ingested
      exact .progressed (.of_eq ingested.1 ingested.2)
    | some q =>
      rw [question] at ingested
      exact .batched meets question ingested
  | ask exec =>
    obtain ⟨progressed, kept⟩ := ask_progressed sound.distinct exec
    exact ⟨.progressed progressed, kept⟩
  | reply exec =>
    obtain ⟨progressed, kept⟩ := reply_progressed sound.distinct sound.settled exec
    exact ⟨.progressed progressed, kept⟩
  | other kept cases members => exact ⟨.progressed (.of_eq cases members), kept⟩

theorem SoundCases.step {guard : InboxEvent → Store → Prop} {ev : InboxEvent} (h : SoundCases s)
    (step : InboxStep T guard s ev t) : SoundCases t := by
  cases (step.change h).1 with
  | progressed progressed => exact h.progressed progressed
  | batched _ _ batched => exact h.batched batched

theorem soundCases_empty : SoundCases .empty :=
  ⟨List.nodup_nil, fun _ hc => absurd hc List.not_mem_nil, fun _ hm => absurd hm List.not_mem_nil⟩

theorem soundCases_run {guard : InboxEvent → Store → Prop}
    (run : ReflTransGen (fun s t => ∃ ev, InboxStep T guard s ev t) .empty s) : SoundCases s := by
  induction run with
  | refl => exact soundCases_empty
  | tail _ step ih =>
    obtain ⟨ev, step⟩ := step
    exact ih.step step

/-- One more membership is no second one when the continuation is in no other open case. -/
theorem Single.more (h : Single s) (more : ∀ y b, OpenIn t y b → OpenIn s y b ∨ b = a ∧ y = x)
    (finds : ∀ b, OpenIn s x b → b = a) : Single t := by
  intro y b b' hb hb'
  rcases more y b hb with old | ⟨rfl, rfl⟩
  · rcases more y b' hb' with old' | ⟨rfl, rfl⟩
    · exact h y b b' old old'
    · exact finds b old
  · rcases more y b' hb' with old' | ⟨rfl, _⟩
    · exact (finds b' old').symm
    · rfl

theorem Single.batched (h : Single s) (sound : SoundCases s) (batched : Batched clock q s t)
    (finds : ∀ now, clock now → ∀ a, OpenIn s q.continuationId a →
      ∃ c, findOpenBatch s q.batchKey now q.window = some c ∧ c.id = a) : Single t := by
  cases batched with
  | untouched cases members => exact h.progressed (.of_eq cases members)
  | @joined now c time found cases members =>
    refine h.more (a := c.id) (x := q.continuationId) ?_ fun b hb => ?_
    · rintro y b ⟨⟨d, hd, own, unresolved⟩, m, hm, hcase, hid⟩
      rw [cases] at hd
      rw [members] at hm
      rcases mem_joined hm with old | ⟨joined, continued, _⟩
      · exact .inl ⟨⟨d, hd, own, unresolved⟩, m, old, hcase, hid⟩
      · exact .inr ⟨hcase.symm.trans joined, hid.symm.trans continued⟩
    · obtain ⟨d, found', same⟩ := finds now time b hb
      rw [found] at found'
      cases found'
      exact same.symm
  | @opened now caseId time none fresh cases members =>
    have back : ∀ y b, OpenIn t y b → OpenIn s y b := by
      rintro y b ⟨⟨d, hd, own, unresolved⟩, m, hm, hcase, hid⟩
      rw [members] at hm
      rw [cases] at hd
      exact ⟨⟨d, sound.old_case fresh hm (own.trans hcase.symm) hd, own, unresolved⟩, m, hm, hcase, hid⟩
    exact fun y b b' hb hb' => h y b b' (back y b hb) (back y b' hb')
  | @asked now caseId time none fresh cases members =>
    refine h.more (a := caseId) (x := q.continuationId) ?_ fun b hb => ?_
    · rintro y b ⟨⟨d, hd, own, unresolved⟩, m, hm, hcase, hid⟩
      rw [members] at hm
      rw [cases] at hd
      rcases mem_joined hm with old | ⟨joined, continued, _⟩
      · exact .inl ⟨⟨d, sound.old_case fresh old (own.trans hcase.symm) hd, own, unresolved⟩, m, old, hcase, hid⟩
      · exact .inr ⟨hcase.symm.trans joined, hid.symm.trans continued⟩
    · obtain ⟨d, found, _⟩ := finds now time b hb
      rw [none] at found
      cases found

theorem InboxStep.single {ev : InboxEvent} (step : InboxStep T FindsOwnCase s ev t) (sound : SoundCases s)
    (h : Single s) : Single t := by
  cases (step.change sound).1 with
  | progressed progressed => exact h.progressed progressed
  | batched meets question batched => exact h.batched sound batched fun now time => (meets _ question now time).1

/-- A continuation that has moved on is asked nothing new when the plan finds a case to join. -/
theorem InboxStep.quiet {cfg : IngestConfig} {e : OutcomeEnvelope} {requirements : List Requirement} {md : Json}
    (moved : MovedOn e s) (step : InboxStep T FindsOwnCase s (.ingest cfg e requirements md clock) t) :
    t.cases = s.cases := by
  cases step with
  | ingest meets exec =>
    have ingested := (ingest_inbox exec).1
    unfold FindsOwnCase at meets
    cases question : routeQuestion cfg e requirements md s with
    | none =>
      rw [question] at ingested
      exact ingested.1
    | some q =>
      rw [question] at ingested
      have found : ∀ now, clock now → findOpenBatch s q.batchKey now q.window ≠ none := by
        intro now time none
        have isSome := (meets q question now time).2 moved
        rw [none] at isSome
        cases isSome
      cases ingested with
      | untouched cases => exact cases
      | joined _ _ cases => exact cases
      | opened time none => exact absurd none (found _ time)
      | asked time none => exact absurd none (found _ time)

theorem single_run (run : ReflTransGen (fun s t => ∃ ev, InboxStep T FindsOwnCase s ev t) .empty s) : Single s := by
  induction run with
  | refl =>
    intro x a b opened
    obtain ⟨⟨c, hc, _⟩, _⟩ := opened
    exact absurd hc List.not_mem_nil
  | tail earlier step ih =>
    obtain ⟨ev, step⟩ := step
    exact step.single (soundCases_run earlier) ih

/-- Along every run in which each plan finds the open case of its continuation, a continuation has one open question. -/
theorem one_open_question (run : ReflTransGen (fun s t => ∃ ev, InboxStep T FindsOwnCase s ev t) .empty s) :
    OneQuestion T FindsOwnCase s :=
  ⟨single_run run, fun _ _ _ _ _ _ moved step => step.quiet moved⟩

end

section Samples

def inboxBoard : IngestConfig := { decisionBoard with inbox := some 10 }

def inboxEnv (now : Nat) (caseId : String) : Env Response Unit
  | .now, u => (now, u)
  | .newCaseId, u => (caseId, u)
  | q, u => steadyEnv now { success := true, taskId := "t9" } true q u

def releaseRequest : OutcomeEnvelope := decisionRequest "release.v1"

/-- An event that asks, ingested at some time. -/
def plannedAt (e : OutcomeEnvelope) (now : Nat) (caseId : String) (s : Store) : Store :=
  (run (inboxEnv now caseId) (ownerInputLike inboxBoard e [] (.obj [])) () s).2.2

theorem inboxEnv_under (now : Nat) (caseId : String) : (inboxEnv now caseId).Allowed (under (· = now)) := by
  intro q u
  cases q with
  | now => rfl
  | _ => trivial

theorem plannedAt_step {T : ReplyText} {guard : InboxEvent → Store → Prop} {e : OutcomeEnvelope} {now : Nat} {s : Store}
    (caseId : String) (meets : guard (.ingest inboxBoard e [] (.obj []) (· = now)) s) :
    ∃ ev, InboxStep T guard s ev (plannedAt e now caseId s) := by
  obtain ⟨tr, exec⟩ := run_exec (inboxEnv_under now caseId) (ownerInputLike inboxBoard e [] (.obj [])) () s
  exact ⟨_, .ingest meets exec⟩

/-- A replay inside the window finds the case of the first time. -/
theorem one_open_question_replayed :
    OneQuestion asciiReply FindsOwnCase (plannedAt releaseRequest 5 "second" (plannedAt releaseRequest 0 "first" .empty)) := by
  have first : FindsOwnCase (.ingest inboxBoard releaseRequest [] (.obj []) (· = 0)) .empty := by
    intro q _ now _
    refine ⟨fun a opened => ?_, fun moved => ?_⟩
    · obtain ⟨⟨c, hc, _⟩, _⟩ := opened
      exact absurd hc List.not_mem_nil
    · obtain ⟨i, hi, _⟩ := moved
      cases hi
  have second : FindsOwnCase (.ingest inboxBoard releaseRequest [] (.obj []) (· = 5))
      (plannedAt releaseRequest 0 "first" .empty) := by
    rintro q question now rfl
    have found : (routeQuestion inboxBoard releaseRequest [] (.obj []) (plannedAt releaseRequest 0 "first" .empty)).all
        (fun q => (findOpenBatch (plannedAt releaseRequest 0 "first" .empty) q.batchKey 5 q.window).any fun c => c.id == "first") = true := by
      decide +kernel
    have named : ∀ c ∈ (plannedAt releaseRequest 0 "first" .empty).cases, c.id = "first" := by decide +kernel
    rw [question, Option.all_some] at found
    cases hc : findOpenBatch (plannedAt releaseRequest 0 "first" .empty) q.batchKey 5 q.window with
    | none =>
      rw [hc] at found
      cases found
    | some c =>
      rw [hc] at found
      have same : c.id = "first" := beq_iff_eq.mp found
      refine ⟨fun a opened => ⟨c, rfl, ?_⟩, fun _ => rfl⟩
      obtain ⟨⟨d, hd, own, _⟩, _⟩ := opened
      exact same.trans ((named d hd).symm.trans own)
  exact one_open_question (.tail (.single (plannedAt_step "first" first)) (plannedAt_step "second" second))

/-- A replay after the window opens a second case for the continuation. -/
theorem second_case_opened : ¬∀ (T : ReplyText) (s : Store),
    ReflTransGen (fun s t => ∃ ev, InboxStep T (fun _ _ => True) s ev t) .empty s → OneQuestion T (fun _ _ => True) s := by
  intro claim
  have run : ReflTransGen (fun s t => ∃ ev, InboxStep asciiReply (fun _ _ => True) s ev t) .empty
      (plannedAt releaseRequest 11 "second" (plannedAt releaseRequest 0 "first" .empty)) :=
    .tail (.single (plannedAt_step "first" trivial)) (plannedAt_step "second" trivial)
  have same := (claim asciiReply _ run).single 1 "first" "second" (by decide +kernel) (by decide +kernel)
  exact absurd same (by decide)

end Samples

end AgentflowHermes
