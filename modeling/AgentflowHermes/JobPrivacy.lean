import AgentflowHermes.JobLifeCycle
import AgentflowHermes.PayloadPrivacy

namespace AgentflowHermes.Jobs

open BacktrackRegex BacktrackRegex.Pattern

/-- The texts of a row of `jobs`. -/
def Job.strings (j : Job) : List String :=
  [j.id, j.title, j.body, j.target, j.originReturn, j.dedupeKey, j.status.value, j.correlationId, j.causationId,
    j.sourceKind, j.sourceId, j.sourceRef, j.sourceHash, j.liveDeliveryRef]

def JobEvent.strings (e : JobEvent) : List String := [e.jobId, e.kind, e.prevStatus, e.newStatus] ++ e.payload.strings

def Deadletter.strings (d : Deadletter) : List String := [d.jobId, d.reason, d.rawRef] ++ d.payload.strings

/-- Nothing sensitive is stored, at any depth of what is stored as JSON. -/
structure Private (T : PyText) (s : JobStore) : Prop where
  jobs : ∀ j ∈ s.jobs, NoneSensitive T j.strings
  events : ∀ e ∈ s.events, NoneSensitive T e.strings
  deadletters : ∀ d ∈ s.deadletters, NoneSensitive T d.strings

/-- The calls that write what their caller hands over. -/
inductive Write
  | enqueue (n : NewJob)
  | ack (a : Ack)
  | recordEvent (jobId kind : String) (payload : Payload) (prevStatus newStatus : String)
  | deadletter (reason jobId rawRef : String) (payload : Payload)

/-- The store after a call that answers nothing about itself. -/
def kept (s : JobStore) : Except String JobStore → JobStore
  | .ok s' => s'
  | .error _ => s

def Write.perform (T : PyText) (s : JobStore) (now : Int) : Write → JobStore
  | .enqueue n => stored s (s.enqueue T n now)
  | .ack a => stored s (s.ack T a now)
  | .recordEvent jobId kind payload prev new => kept s (s.recordEvent T jobId kind payload now prev new)
  | .deadletter reason jobId rawRef payload => kept s (s.deadletter reason jobId rawRef payload)

/-- A run of calls, each with what it reads of the clock. -/
def runWrites (T : PyText) (s : JobStore) (writes : List (Write × Int)) : JobStore :=
  writes.foldl (fun s w => w.1.perform T s w.2) s

/-- An event with these texts and this payload is refused, or leaves nothing sensitive behind. -/
def EventStorable (T : PyText) (texts : List String) (payload : Payload) : Prop :=
  let payload := setKey "created_at" .none payload
  dumpsEntries payload = none ∨ NoneSensitive T texts ∧ storableEntries T payload = true

/-- A deadletter is stored as it is handed over. -/
def DeadletterStorable (T : PyText) (texts : List String) (payload : Payload) : Prop :=
  dumpsEntries payload = none ∨ NoneSensitive T (texts ++ PyValue.entryStrings payload)

def AckStorable (T : PyText) (s : JobStore) (a : Ack) : Prop :=
  match normalizeStatus a.status with
  | none => NoneSensitive T [a.jobId, a.status, a.summary]
  | some new =>
    match s.job? a.jobId with
    | none => NoneSensitive T [a.jobId, a.summary]
    | some j =>
      if new = j.status then True
      else if j.status.final || !j.status.allowedTransitions.contains new then NoneSensitive T [a.summary]
      else EventStorable T [] (setKey "summary" (.str a.summary) a.payload)

/-- What a call has to be handed for nothing sensitive to be stored. -/
def Storable (T : PyText) (s : JobStore) : Write → Prop
  | .enqueue _ => True
  | .ack a => AckStorable T s a
  | .recordEvent jobId kind payload prev new => EventStorable T [jobId, kind, prev, new] payload
  | .deadletter reason jobId rawRef payload => DeadletterStorable T [reason, jobId, rawRef] payload

/-- What is claimed of a run of calls on an empty store. -/
def NothingSensitive (T : PyText) (writes : List (Write × Int)) : Prop :=
  ∀ before after, writes = before ++ after → Private T (runWrites T {} before)

/-- A text that the sensitive patterns have no word or mark in common with. -/
def plain (text : String) : Bool :=
  !sensitiveWords.any (mentions text.toList) && !(['-', '/', '\\'].any text.toList.contains)

/-- A field that can be stored whatever its value is. -/
def plainField : String × PyValue → Bool
  | (key, .str _) | (key, .bool _) | (key, .none) => plain key && plain (key ++ ":redacted")
  | _ => false

section

variable {T : PyText} {s s' : JobStore} {now : Int}

theorem clean_of_plain {text : String} (h : plain text = true) : containsSensitiveText T text = false := by
  simp only [plain, Bool.and_eq_true, Bool.not_eq_true'] at h
  exact clean_of_words h.1 h.2

theorem storableEntries_plain {p : Payload} (h : p.all plainField = true) : storableEntries T p = true := by
  induction p with
  | nil => rfl
  | cons field rest ih =>
    rw [List.all_cons, Bool.and_eq_true] at h
    obtain ⟨first, later⟩ := h
    have rest := ih later
    obtain ⟨key, v⟩ := field
    unfold plainField at first
    split at first
    next same =>
      cases same
      rw [Bool.and_eq_true] at first
      simp [storableEntries, storable, rest, @clean_of_plain T _ first.1, @clean_of_plain T _ first.2]
    next same =>
      cases same
      rw [Bool.and_eq_true] at first
      simp [storableEntries, storable, rest, @clean_of_plain T _ first.1]
    next same =>
      cases same
      rw [Bool.and_eq_true] at first
      simp [storableEntries, storable, rest, @clean_of_plain T _ first.1]
    · cases first

theorem status_clean (status : JobStatus) : containsSensitiveText T status.value = false := by
  cases status <;> exact clean_of_plain (by decide)

theorem fieldStrings_dumped {p : Payload} {fields : List (String × Json)} (h : dumpsEntries p = some fields) :
    NoneSensitive T (Json.obj fields).strings ↔ NoneSensitive T (PyValue.entryStrings p) := by
  rw [Json.strings, dumpsEntries_strings h]

theorem eventPayload_eq (p : Payload) (now : Int) :
    JobStore.eventPayload T p now = safeEntries T (setKey "created_at" (.float (toString now)) p) := by
  rw [safeEntries_setKey]
  rfl

theorem eventPayload_written (p : Payload) (now : Int) :
    (dumpsEntries (JobStore.eventPayload T p now)).isSome = (dumpsEntries (setKey "created_at" .none p)).isSome := by
  rw [eventPayload_eq, dumps_safeEntries]
  exact dumpsEntries_setKey rfl

/-- What `record_event` writes is what it takes for the store to stay private. -/
theorem recordEvent_private (h : Private T s) (id kind prev new : String) (p : Payload) :
    Private T (kept s (s.recordEvent T id kind p now prev new)) ↔ EventStorable T [id, kind, prev, new] p := by
  have written := eventPayload_written (T := T) p now
  have contents : NoneSensitive T (PyValue.entryStrings (JobStore.eventPayload T p now)) ↔
      storableEntries T (setKey "created_at" .none p) = true := by
    rw [eventPayload_eq, safeEntries_clean]
    rw [@storableEntries_setKey T "created_at" (.float (toString now)) .none p (by simp only [storable])]
  unfold JobStore.recordEvent EventStorable
  dsimp only
  split
  next refused =>
    rw [refused] at written
    have none : dumpsEntries (setKey "created_at" .none p) = none := by simpa using written.symm
    exact ⟨fun _ => .inl none, fun _ => h⟩
  next fields dumped =>
    have some : dumpsEntries (setKey "created_at" .none p) ≠ none := by
      intro none
      rw [dumped, none] at written
      cases written
    have stored := (fieldStrings_dumped (T := T) dumped).trans contents
    constructor
    · intro after
      have row := after.events _ (List.mem_append_right _ (List.mem_singleton.mpr rfl))
      simp only [JobEvent.strings, noneSensitive_append] at row
      exact .inr ⟨row.1, stored.mp row.2⟩
    · rintro (none | ⟨texts, clean⟩)
      · exact absurd none some
      refine ⟨h.jobs, fun e mem => ?_, h.deadletters⟩
      rcases List.mem_append.mp mem with old | new
      · exact h.events e old
      · rw [List.mem_singleton.mp new, JobEvent.strings, noneSensitive_append]
        exact ⟨texts, stored.mpr clean⟩

theorem deadletter_private (h : Private T s) (reason jobId rawRef : String) (p : Payload) :
    Private T (kept s (s.deadletter reason jobId rawRef p)) ↔ DeadletterStorable T [reason, jobId, rawRef] p := by
  unfold JobStore.deadletter DeadletterStorable
  split
  next refused => exact ⟨fun _ => .inl refused, fun _ => h⟩
  next fields dumped =>
    have stored := fieldStrings_dumped (T := T) dumped
    constructor
    · intro after
      have row := after.deadletters _ (List.mem_append_right _ (List.mem_singleton.mpr rfl))
      simp only [Deadletter.strings, noneSensitive_append, stored, noneSensitive_cons] at row
      simp only [noneSensitive_append, noneSensitive_cons]
      exact .inr ⟨⟨row.1.2.1, row.1.1, row.1.2.2⟩, row.2⟩
    · rintro (none | texts)
      · rw [dumped] at none
        cases none
      refine ⟨h.jobs, h.events, fun d mem => ?_⟩
      rcases List.mem_append.mp mem with old | new
      · exact h.deadletters d old
      · simp only [noneSensitive_append, noneSensitive_cons] at texts
        rw [List.mem_singleton.mp new]
        simp only [Deadletter.strings, noneSensitive_append, stored, noneSensitive_cons]
        exact ⟨⟨texts.1.2.1, texts.1.1, texts.1.2.2⟩, texts.2⟩

def jobIdChars : List Char := "job_-0123456789abcdef".toList

theorem toDigits_chars {n : Nat} : ∀ c ∈ Nat.toDigits 16 n, c ∈ jobIdChars := by
  have digit : ∀ d < 16, jobIdChars.contains (Nat.digitChar d) = true := by decide
  induction n using Nat.strongRecOn with
  | ind n ih =>
    intro c mem
    rw [Nat.toDigits_eq_if (by decide)] at mem
    split at mem
    next small =>
      rw [List.mem_singleton.mp mem]
      exact List.contains_iff_mem.mp (digit n small)
    next large =>
      rcases List.mem_append.mp mem with high | low
      · exact ih (n / 16) (by omega) c high
      · rw [List.mem_singleton.mp low]
        exact List.contains_iff_mem.mp (digit (n % 16) (by omega))

theorem newJobId_chars : ∀ c ∈ (newJobId now).toList, c ∈ jobIdChars := by
  intro c mem
  have fixed : "job_".toList.all jobIdChars.contains = true := by decide
  unfold newJobId hex at mem
  rw [String.toList_append] at mem
  rcases List.mem_append.mp mem with front | back
  · exact List.contains_iff_mem.mp (List.all_eq_true.mp fixed c front)
  dsimp only at back
  split at back
  · rw [String.toList_append] at back
    rcases List.mem_append.mp back with sign | digits
    · rw [List.mem_singleton.mp sign]
      decide
    · rw [String.toList_ofList] at digits
      exact toDigits_chars c digits
  · rw [String.toList_ofList] at back
    exact toDigits_chars c back

/-- A job's id may have a dash in it, but none of the prefixes that a dash makes a token of. -/
theorem newJobId_clean : containsSensitiveText T (newJobId now) = false := by
  have off (word : String) {letter : Char} (inside : letter ∈ word.toList)
      (h : jobIdChars.any (foldsTo letter) = false) : Absent (lit word) (newJobId now).toList :=
    absent_lit inside fun x hx => none_of h (newJobId_chars x hx)
  have unmarked {mark : Char} (h : mark ∉ jobIdChars) : Absent (.one mark) (newJobId now).toList :=
    absent_char fun mem => h (newJobId_chars mark mem)
  have keys : ∀ r ∈ keyWords, Absent r (newJobId now).toList := by
    intro r hr
    simp only [keyWords, List.mem_cons, List.not_mem_nil, or_false] at hr
    rcases hr with rfl | rfl | rfl
    · exact @off "TOKEN" 'T' (by decide) (by decide)
    · exact Absent.all List.mem_cons_self (@off "API" 'P' (by decide) (by decide))
    · exact @off "SECRET" 'T' (by decide) (by decide)
  have values : ∀ r ∈ valueWords, Absent r (newJobId now).toList := by
    intro r hr
    simp only [valueWords, List.mem_cons, List.not_mem_nil, or_false] at hr
    rcases hr with rfl | rfl | rfl | rfl | rfl | rfl
    · exact @off "PASSWORD" 'P' (by decide) (by decide)
    · exact @off "PASSWD" 'P' (by decide) (by decide)
    · exact @off "AUTHORIZATION" 'U' (by decide) (by decide)
    · exact @off "BEARER" 'R' (by decide) (by decide)
    · exact @off "SESSION" 'I' (by decide) (by decide)
    · exact @off "COOKIE" 'K' (by decide) (by decide)
  have secret : Absent (secretRe T) (newJobId now).toList := by
    refine Absent.any fun r hr => ?_
    simp only [List.mem_cons, List.not_mem_nil, or_false] at hr
    rcases hr with rfl | rfl | rfl | rfl
    · exact Absent.all (List.mem_cons_of_mem _ List.mem_cons_self) (Absent.any keys)
    · refine Absent.all (List.mem_cons_of_mem _ List.mem_cons_self) (Absent.any fun r hr => ?_)
      rcases List.mem_append.mp hr with key | value
      · exact keys r key
      · exact values r value
    · exact Absent.all (List.mem_cons_of_mem _ List.mem_cons_self) (@off "Bearer" 'r' (by decide) (by decide))
    · refine Absent.all (List.mem_cons_of_mem _ List.mem_cons_self) (Absent.any fun r hr => ?_)
      simp only [List.mem_cons, List.not_mem_nil, or_false] at hr
      rcases hr with rfl | rfl | rfl | rfl | rfl
      · exact @off "sk" 's' (by decide) (by decide)
      · exact @off "ghp" 'g' (by decide) (by decide)
      · exact @off "gho" 'g' (by decide) (by decide)
      · exact @off "github_pat" 'g' (by decide) (by decide)
      · exact Absent.all List.mem_cons_self (@off "xox" 'x' (by decide) (by decide))
  have path : Absent (privatePathRe T) (newJobId now).toList :=
    Absent.all (List.mem_cons_of_mem _ List.mem_cons_self) (unmarked (by decide))
  have windows : Absent (windowsPrivatePathRe T) (newJobId now).toList :=
    Absent.all (by simp) (@unmarked '\\' (by decide))
  unfold containsSensitiveText
  rw [secret.search, path.search, windows.search]
  rfl

theorem safeDurableRefSalted_clean (sourceHash value : String) :
    containsSensitiveText T (safeDurableRefSalted T sourceHash value) = false := (salted_reference sourceHash value).clean

/-- Whatever is enqueued, its row is private. -/
theorem row_private (n : NewJob) : NoneSensitive T (n.row T now).strings := by
  have field (name value : String) (maxLen : Nat) (h : plain (name ++ ":redacted") = true) :
      containsSensitiveText T (safeJobFieldUpTo T maxLen name value) = false :=
    safeJobFieldUpTo_clean.mpr (.inr (clean_of_plain h))
  have ref : containsSensitiveText T (safeDurableRefSalted T n.sourceHash n.sourceRef) = false :=
    safeDurableRefSalted_clean _ _
  simp only [Job.strings, NewJob.row, noneSensitive_cons, noneSensitive_nil, newJobId_clean, status_clean, ref,
    empty_clean, field "title" _ _ (by decide), field "body" _ _ (by decide), field "target" _ _ (by decide),
    field "origin_return" _ _ (by decide), field "dedupe_key" _ _ (by decide), field "correlation_id" _ _ (by decide),
    field "causation_id" _ _ (by decide), field "source_kind" _ _ (by decide), field "source_id" _ _ (by decide),
    field "source_hash" _ _ (by decide), and_self]

theorem enqueue_private (h : Private T s) (n : NewJob) : Private T (stored s (s.enqueue T n now)) := by
  have inserted : Private T { s with jobs := s.jobs ++ [n.row T now] } := by
    refine ⟨fun j mem => ?_, h.events, h.deadletters⟩
    rcases List.mem_append.mp mem with old | new
    · exact h.jobs j old
    · rw [List.mem_singleton.mp new]
      exact row_private n
  have fields : storableEntries T (setKey "created_at" .none
      (safeEntries T ((n.row T now).enqueuedPayload (refRedacted T n.sourceRef)))) = true :=
    storableEntries_plain rfl
  have texts : NoneSensitive T [(n.row T now).id, "enqueued", "", ""] := by
    simp only [noneSensitive_cons, noneSensitive_nil, empty_clean, @clean_of_plain T "enqueued" (by decide), and_true]
    exact newJobId_clean
  have recorded := (@recordEvent_private T _ now inserted _ _ _ _ _).mpr (.inr ⟨texts, fields⟩)
  unfold JobStore.enqueue
  dsimp only
  split
  · exact h
  generalize JobStore.recordEvent T _ _ _ _ _ = event at recorded
  cases event with
  | error _ => exact h
  | ok after => exact recorded

theorem modify_private (h : Private T s) {id : String} {f : Job → Job}
    (same : ∀ j ∈ s.jobs, NoneSensitive T (f j).strings) : Private T (s.modify id f) := by
  refine ⟨fun j mem => ?_, h.events, h.deadletters⟩
  obtain ⟨old, hold, rfl⟩ := List.mem_map.mp mem
  split
  · exact same old hold
  · exact h.jobs old hold

theorem stored_bind {α : Type} {x : Except String JobStore} {r : α} :
    stored s (x >>= fun s' => pure (r, s')) = kept s x := by
  cases x <;> rfl

theorem deadletterStorable_iff {texts : List String} {p : Payload} (written : (dumpsEntries p).isSome = true) :
    DeadletterStorable T texts p ↔ NoneSensitive T (texts ++ PyValue.entryStrings p) := by
  unfold DeadletterStorable
  constructor
  · rintro (none | clean)
    · rw [none] at written
      cases written
    · exact clean
  · exact .inr

/-- A rejection records an event that is sanitised, and then stores the same fields as they are. -/
theorem rejected_private (h : Private T s) {α : Type} {r : α} {id prev new reason jobId rawRef : String}
    {fields : Payload} (texts : NoneSensitive T [id, "ack_rejected", prev, new])
    (fixed : NoneSensitive T [reason, rawRef])
    (plainFields : (setKey "created_at" .none fields).all plainField = true)
    (written : (dumpsEntries (setKey "created_at" .none fields)).isSome = true)
    (dumped : (dumpsEntries fields).isSome = true) :
    Private T (stored s (s.recordEvent T id "ack_rejected" fields now prev new >>= fun s' =>
        s'.deadletter reason jobId rawRef fields >>= fun s' => pure (r, s'))) ↔
      NoneSensitive T (jobId :: PyValue.entryStrings fields) := by
  have recorded := (@recordEvent_private T _ now h id "ack_rejected" prev new fields).mpr
    (.inr ⟨texts, storableEntries_plain plainFields⟩)
  rw [← eventPayload_written (T := T) fields now] at written
  obtain ⟨json, payload⟩ := Option.isSome_iff_exists.mp written
  unfold JobStore.recordEvent at recorded ⊢
  rw [payload] at recorded ⊢
  have dead := deadletter_private recorded reason jobId rawRef fields
  rw [deadletterStorable_iff dumped] at dead
  have same : NoneSensitive T ([reason, jobId, rawRef] ++ PyValue.entryStrings fields) ↔
      NoneSensitive T (jobId :: PyValue.entryStrings fields) := by
    simp only [noneSensitive_cons] at fixed
    simp [fixed.1, fixed.2.1]
  rw [same] at dead
  obtain ⟨row, rowed⟩ := Option.isSome_iff_exists.mp dumped
  unfold JobStore.deadletter kept at dead
  unfold JobStore.deadletter
  rw [rowed] at dead ⊢
  exact dead

theorem rejectAck_private (h : Private T s) {r : AckResult} {j : Job} {new : JobStatus} {reason : String}
    {fields : Payload} (mem : j ∈ s.jobs) (fixed : containsSensitiveText T reason = false)
    (plainFields : (setKey "created_at" .none fields).all plainField = true)
    (written : (dumpsEntries (setKey "created_at" .none fields)).isSome = true)
    (dumped : (dumpsEntries fields).isSome = true) :
    Private T (stored s (s.rejectAck T j new fields reason now >>= fun s' => pure (r, s'))) ↔
      NoneSensitive T (PyValue.entryStrings fields) := by
  have row := h.jobs j mem
  simp only [Job.strings, noneSensitive_cons] at row
  have texts : NoneSensitive T [j.id, "ack_rejected", j.status.value, new.value] := by
    simp [row.1, status_clean, @clean_of_plain T "ack_rejected" (by decide)]
  have rejected := @rejected_private T s now h _ r j.id j.status.value new.value reason j.id j.sourceHash fields texts
    (by simp [fixed, row]) plainFields written dumped
  unfold JobStore.rejectAck
  rw [bind_assoc, rejected, noneSensitive_cons]
  exact and_iff_right row.1

/-- A status that is applied comes with an event whose payload is the caller's. -/
theorem applied_private (h : Private T s) {j : Job} (mem : j ∈ s.jobs) {new : JobStatus} {payload : Payload} :
    Private T (stored s ((s.modify j.id fun j =>
        { j with status := new, finalAt := if new.final then some now else none }).recordEvent T j.id "ack_applied"
          payload now j.status.value new.value >>= fun s' => pure (AckResult.applied new, s'))) ↔
      EventStorable T [] payload := by
  have moved : Private T (s.modify j.id fun j =>
      { j with status := new, finalAt := if new.final then some now else none }) := by
    refine modify_private h fun k hk => ?_
    have row := h.jobs k hk
    simp only [Job.strings, noneSensitive_cons] at row ⊢
    simp [row, status_clean]
  have row := h.jobs j mem
  simp only [Job.strings, noneSensitive_cons] at row
  have texts : NoneSensitive T [j.id, "ack_applied", j.status.value, new.value] := by
    simp [row.1, status_clean, @clean_of_plain T "ack_applied" (by decide)]
  have same : EventStorable T [j.id, "ack_applied", j.status.value, new.value] payload ↔
      EventStorable T [] payload := by
    simp [EventStorable, texts]
  rw [← same, ← @recordEvent_private T _ now moved]
  generalize JobStore.recordEvent T _ _ _ _ _ _ _ = event
  cases event with
  | error _ => exact iff_of_true h moved
  | ok after => exact Iff.rfl

theorem ack_private (h : Private T s) (a : Ack) : Private T (stored s (s.ack T a now)) ↔ AckStorable T s a := by
  unfold JobStore.ack AckStorable
  cases normalizeStatus a.status with
  | none =>
    dsimp only
    rw [stored_bind, deadletter_private h, deadletterStorable_iff rfl]
    simp [JobStore.statusMeta, PyValue.entryStrings, PyValue.strings, empty_clean,
      @clean_of_plain T "invalid_status" (by decide), @clean_of_plain T "status" (by decide),
      @clean_of_plain T "summary" (by decide)]
  | some new =>
    cases found : s.job? a.jobId with
    | none =>
      dsimp only
      have rejected := @rejected_private T s now h _ AckResult.unknownJob "" "" "" "unknown_job" a.jobId ""
        (JobStore.statusMeta new.value a.summary ++ [("source_hash", .str "")])
        (by simp [empty_clean, @clean_of_plain T "ack_rejected" (by decide)])
        (by simp [empty_clean, @clean_of_plain T "unknown_job" (by decide)]) rfl rfl rfl
      rw [rejected]
      simp [JobStore.statusMeta, PyValue.entryStrings, PyValue.strings, empty_clean, status_clean,
        @clean_of_plain T "status" (by decide), @clean_of_plain T "summary" (by decide),
        @clean_of_plain T "source_hash" (by decide)]
    | some j =>
      dsimp only
      obtain ⟨mem, -⟩ := job?_some found
      have row := h.jobs j mem
      simp only [Job.strings, noneSensitive_cons] at row
      by_cases same : new = j.status
      · rw [if_pos same, if_pos same, stored_bind, recordEvent_private h]
        refine iff_of_true (.inr ⟨?_, storableEntries_plain rfl⟩) trivial
        simp [row.1, status_clean, @clean_of_plain T "duplicate_ack" (by decide)]
      rw [if_neg same, if_neg same]
      cases settled : j.status.final with
      | true =>
        rw [if_pos rfl, if_pos (Bool.true_or _), rejectAck_private h mem (clean_of_plain (by decide)) rfl rfl rfl]
        simp [JobStore.statusMeta, PyValue.entryStrings, PyValue.strings, status_clean,
          @clean_of_plain T "status" (by decide), @clean_of_plain T "summary" (by decide)]
      | false =>
        rw [if_neg (by decide)]
        cases allowed : j.status.allowedTransitions.contains new with
        | false =>
          rw [if_pos (by decide), if_pos (by decide), rejectAck_private h mem (clean_of_plain (by decide)) rfl rfl rfl]
          simp [JobStore.statusMeta, PyValue.entryStrings, PyValue.strings, status_clean,
            @clean_of_plain T "status" (by decide), @clean_of_plain T "summary" (by decide),
            @clean_of_plain T "current" (by decide)]
        | true =>
          rw [if_neg (by decide : ¬ (!true) = true), if_neg (by decide : ¬ (false || !true) = true)]
          exact applied_private h mem

/-- What a call is handed decides whether the store stays private. -/
theorem perform_private (h : Private T s) (w : Write) : Private T (w.perform T s now) ↔ Storable T s w := by
  cases w with
  | enqueue n => exact iff_of_true (enqueue_private h n) trivial
  | ack a => exact ack_private h a
  | recordEvent jobId kind payload prev new => exact recordEvent_private h jobId kind prev new payload
  | deadletter reason jobId rawRef payload => exact deadletter_private h reason jobId rawRef payload

theorem runWrites_snoc (before : List (Write × Int)) (w : Write × Int) :
    runWrites T s (before ++ [w]) = w.1.perform T (runWrites T s before) w.2 := by
  simp [runWrites]

end

/-- Nothing sensitive is ever stored, in a run whose calls are all handed what can be stored, and in no other. -/
theorem nothing_sensitive_iff (T : PyText) (writes : List (Write × Int)) :
    NothingSensitive T writes ↔
      ∀ before w after, writes = before ++ w :: after → Storable T (runWrites T {} before) w.1 := by
  constructor
  · rintro private' before w after rfl
    have here := private' before (w :: after) rfl
    have next := private' (before ++ [w]) after (by simp)
    rw [runWrites_snoc] at next
    exact (perform_private here w.1).mp next
  · intro fed before
    induction before using List.reverseRec with
    | nil => exact fun _ _ => ⟨by simp [runWrites], by simp [runWrites], by simp [runWrites]⟩
    | append_singleton before w ih =>
      intro after split
      have earlier : writes = before ++ w :: after := by simpa using split
      rw [runWrites_snoc]
      exact (perform_private (ih _ earlier) w.1).mpr (fed before w after earlier)

/-- The acknowledgement of a job that is not there, with a credential in its summary. -/
def leakyAck : Ack := { jobId := "job_0", status := "succeeded", summary := "Bearer abcdef" }

/-- The deadletter of a rejected acknowledgement keeps the summary as it came. -/
theorem summary_deadlettered : ¬ NothingSensitive asciiText [(.ack leakyAck, 0)] := by
  intro h
  have fed := (nothing_sensitive_iff _ _).mp h [] (.ack leakyAck, 0) [] rfl
  have known : normalizeStatus leakyAck.status = some .succeeded := by decide +kernel
  have leaks : containsSensitiveText asciiText leakyAck.summary = true := by decide +kernel
  have clean : NoneSensitive asciiText [leakyAck.jobId, leakyAck.summary] := by
    simpa [Storable, AckStorable, known, JobStore.job?, runWrites] using fed
  rw [clean leakyAck.summary (by simp)] at leaks
  cases leaks

end AgentflowHermes.Jobs
