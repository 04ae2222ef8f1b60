import AgentflowHermes.JobPrivacy
import AgentflowHermes.ReplyReading
import AgentflowHermes.TextLines

namespace AgentflowHermes.Cron

open BacktrackRegex BacktrackRegex.Pattern Jobs

structure CronMarker where
  kind : String
  ref : String
  hash : String
  summary : String
  metadata : List (String × String)

/-- What `json.loads` makes of the text behind a wake marker; what is no `JSONDecodeError` is not caught. -/
inductive MarkerJson
  | value (j : Json)
  | malformed
  | raises (e : String)

/-- The arguments of `ingest_cron_output`. -/
structure CronOutput where
  sourceRef : String
  sourceHash : String
  markerText : String := ""
  source : String := "cron"
  correlationId : String := ""
  target : String := ""
  originReturn : String := ""
  title : String := ""
  jobId : String := ""
  runId : String := ""

/-- What a call reads of the clock: for the job it enqueues and for the event it records. -/
structure CronClock where
  enqueued : Int
  recorded : Int

inductive CronReport
  | noMaterial
  | duplicate (jobId dedupeKey : String)
  | ingested (jobId dedupeKey : String)
  | refused

/-- An output file: its name, its bytes and what they read as. -/
structure ScannedFile where
  name : String
  bytes : List UInt8
  text : String

/-- Python's `or` on texts. -/
def orText (a b : String) : String := if a = "" then b else a

section

variable (T : PyText)

/-- `_SECRET_RE` of the bridge, which lets a word alone pass. -/
def secretRe : Pattern :=
  .any [
    .all [T.boundary, .any (keyWords ++ valueWords), T.boundary, T.spaces, oneOf [':', '='], T.spaces, nonSpaces T],
    .all [T.boundary, lit "Bearer", T.spaces1, nonSpaces T],
    .all [T.boundary, .any [lit "sk", lit "ghp", lit "gho", lit "github_pat",
      .all [lit "xox", .any [lit "b", lit "a", lit "p", lit "r", lit "s"]]], .one '-', longToken]]

/-- `_contains_sensitive_text`. -/
def sensitiveText (text : String) : Bool :=
  search (secretRe T) text.toList || search (privatePathRe T) text.toList || search (windowsPrivatePathRe T) text.toList

/-- `_sanitize_summary`. -/
def sanitizeSummary (value fallback : String) : String × Bool :=
  let text := shortText T value
  if text = "" then (fallback, false) else if sensitiveText T text then (fallback, true) else (text, false)

/-- `_safe_source_ref`. -/
def safeSourceRef (value : String) : String × Bool :=
  let ref := shortText T value
  if ref = "" then ("", false)
  else if sensitiveText T ref || !safeRefText ref.toList then (hashedRef ref, true)
  else (ref, false)

def summaryFallback : String := "cron material event"

/-- A key of the metadata with what is kept of its value. -/
def wakeField (raw : Json) (key : String) : List (String × String) :=
  match raw.get? key with
  | none | some .null | some (.str "") => []
  | some v =>
    let value := shortText T (T.str v)
    if sensitiveText T value then [(key, key ++ ":redacted"), (key ++ "_redacted", "true")] else [(key, value)]

def wakeSummary (raw : Json) : List (String × String) :=
  match raw.get? "summary" with
  | none | some .null | some (.str "") => []
  | some v =>
    let (summary, redacted) := sanitizeSummary T (T.str v) summaryFallback
    ("summary", summary) :: if redacted then [("summary_redacted", "true")] else []

/-- `_safe_active_wake_metadata`. -/
def safeActiveWakeMetadata (raw : Json) : List (String × String) :=
  ["event_key", "status", "target", "job_id", "run_id"].flatMap (wakeField T raw) ++ wakeSummary T raw

def metadataText (metadata : List (String × String)) (key : String) : String := (metadata.lookup key).getD ""

/-- The marker of a wake whose text is JSON. -/
def wakeMarker (defaultRef defaultHash : String) (payload : Json) : CronMarker :=
  let metadata := safeActiveWakeMetadata T (if payload.isDict then payload else .obj [])
  let summary := orText (metadataText metadata "summary") (orText (metadataText metadata "status")
    (orText (metadataText metadata "event_key") summaryFallback))
  { kind := "material", ref := defaultRef, hash := defaultHash, summary := shortText T summary
    metadata := ("marker", "active_wake") :: metadata ++ [("live_wake_disabled", "true")] }

def malformedMarker (defaultRef defaultHash : String) : CronMarker where
  kind := "noise"
  ref := defaultRef
  hash := defaultHash
  summary := "malformed active wake marker"
  metadata := [("marker", "active_wake"), ("malformed", "true")]

/-- `\s+<name>=(?P<name>\S+)`. -/
def namedField (name : String) : Pattern := .all [T.spaces1, lit (name ++ "="), .group (nonSpaces T)]

/-- `\[AF-CRON\]\s+kind=(?P<kind>\w+)`. -/
def kindField : Pattern := .all [lit "[AF-CRON]", T.spaces1, lit "kind=", .group (.plus (.char T.isWord))]

/-- `\s+summary=(?P<summary>.+?)(?:\s*$)`. -/
def summaryField : Pattern :=
  .all [T.spaces1, lit "summary=", .group (.lazyPlus anyChar), T.spaces,
    .test fun c => c.after.isEmpty || c.after == ['\n']]

/-- A match of `_AF_CRON_RE` at a place: kind, ref, hash and summary. -/
def afCronAt (c : Cursor) : Option ((List Char × List Char × List Char × List Char) × Cursor) :=
  (kindField T).run (fun kind d =>
    (namedField T "ref").run (fun ref e =>
      (namedField T "hash").run (fun hash f =>
        (summaryField T).run (fun summary stop => some ((kind, ref, hash, summary), stop)) [] f) [] e) [] d) [] c

def activeWakePrefix : List Char := "HERMES_ACTIVE_WAKE ".toList

variable (loads : String → MarkerJson)

/-- The marker of a line of `classify_markers`. -/
def lineMarker (defaultRef defaultHash : String) (line : List Char) : Except String (Option CronMarker) :=
  let stripped := (PyText.strip T.isSpace (String.ofList line)).toList
  if activeWakePrefix.isPrefixOf stripped then
    match loads (PyText.strip T.isSpace (String.ofList (stripped.drop activeWakePrefix.length))) with
    | .value payload => .ok (some (wakeMarker T defaultRef defaultHash payload))
    | .malformed => .ok (some (malformedMarker defaultRef defaultHash))
    | .raises e => .error e
  else
    match scanFrom (afCronAt T) [] stripped with
    | none => .ok none
    | some ((kind, ref, hash, summary), _) =>
      .ok (some {
        kind := lower (String.ofList kind)
        ref := (safeSourceRef T (PyText.strip T.isSpace (String.ofList ref))).1
        hash := PyText.strip T.isSpace (String.ofList hash)
        summary := (sanitizeSummary T (String.ofList summary) summaryFallback).1
        metadata := [("marker", "af_cron")] })

/-- `classify_markers`. -/
def classifyMarkers (text defaultRef defaultHash : String) : Except String (List CronMarker) := do
  let markers ← (TextLines.splitlines text.toList).mapM (lineMarker T loads defaultRef defaultHash)
  return markers.filterMap id

/-- `make_dedupe_key`. -/
def makeDedupeKey (sourceKind correlationId sourceHash jobId runId target : String) : String :=
  let stableJob := shortText T (orText jobId (orText correlationId "unknown")) 96
  let stableRun := shortText T (orText runId (orText sourceHash "unknown")) 96
  let stableTarget := shortText T (orText target "default") 96
  orText sourceKind "cron" ++ ":" ++ stableJob ++ ":" ++ stableRun ++ ":" ++ stableTarget

namespace CronOutput

variable (o : CronOutput)

/-- `source_hash or output_hash(marker_text)`. -/
def hash : String := orText o.sourceHash (sha256Hex o.markerText)

def ref : String := (safeSourceRef T o.sourceRef).1

def markers : Except String (List CronMarker) := classifyMarkers T loads o.markerText (o.ref T) o.hash

variable (marker : CronMarker)

def effectiveRef : String := (safeSourceRef T (orText marker.ref (o.ref T))).1

def effectiveHash : String := orText marker.hash o.hash

def effectiveJobId : String :=
  orText o.jobId (orText (metadataText marker.metadata "job_id") (orText o.correlationId (orText (o.ref T) "cron")))

def effectiveRunId : String := orText o.runId (orText (metadataText marker.metadata "run_id") (o.effectiveHash marker))

def dedupeKey : String :=
  makeDedupeKey T o.source o.correlationId (o.effectiveHash marker) (o.effectiveJobId T marker) (o.effectiveRunId marker)
    o.target

def body : String :=
  "Cron material event detected for AgentFlow dry-run dispatch.\nsource_ref: " ++ o.effectiveRef T marker ++
    "\nsource_hash: " ++ o.effectiveHash marker ++ "\nsummary: " ++ marker.summary ++ "\nlive_wake_dispatch: disabled"

/-- The job that a material marker asks for. -/
def newJob : NewJob where
  title := orText (sanitizeSummary T o.title "").1 (orText marker.summary ("cron:" ++ o.effectiveRef T marker))
  body := o.body T marker
  target := orText o.target (metadataText marker.metadata "target")
  originReturn := o.originReturn
  dedupeKey := o.dedupeKey T marker
  correlationId := orText o.correlationId (o.effectiveJobId T marker)
  sourceKind := o.source
  sourceId := o.effectiveJobId T marker
  sourceRef := o.effectiveRef T marker
  sourceHash := o.effectiveHash marker

def refRedacted : Bool := (safeSourceRef T o.sourceRef).2 || (safeSourceRef T (orText marker.ref (o.ref T))).2

/-- The payload of `cron_noise`. -/
def noisePayload (noise : Nat) : Jobs.Payload :=
  [("source", .str o.source), ("source_ref", .str (o.ref T)), ("source_hash", .str o.hash), ("markers", .int noise),
    ("raw_output_stored", .bool false), ("source_ref_redacted", .bool (safeSourceRef T o.sourceRef).2)]

/-- The payload of `cron_duplicate`. -/
def duplicatePayload : Jobs.Payload :=
  [("source", .str o.source), ("source_ref", .str (o.effectiveRef T marker)),
    ("source_hash", .str (o.effectiveHash marker)), ("dedupe_key", .str (o.dedupeKey T marker)),
    ("marker", .str (metadataText marker.metadata "marker")), ("raw_output_stored", .bool false),
    ("source_ref_redacted", .bool (o.refRedacted T marker))]

/-- The payload of `cron_ingested`. -/
def ingestedPayload : Jobs.Payload :=
  [("source", .str o.source), ("source_ref", .str (o.effectiveRef T marker)),
    ("source_hash", .str (o.effectiveHash marker)), ("dedupe_key", .str (o.dedupeKey T marker)),
    ("marker", .str (metadataText marker.metadata "marker")),
    ("material_event", .dict (marker.metadata.map fun entry => (entry.1, .str entry.2))),
    ("raw_output_stored", .bool false), ("live_wake_disabled", .bool true),
    ("source_ref_redacted", .bool (o.refRedacted T marker)),
    ("title_redacted", .bool (sanitizeSummary T o.title "").2)]

end CronOutput

/-- `_get_job_by_dedupe_key(..) or store.get_job_by_source_hash(..)`. -/
def existingJob (s : JobStore) (dedupeKey sourceHash : String) : Option Job :=
  (if dedupeKey = "" then none else s.jobs.find? (·.dedupeKey == dedupeKey)).or
    (s.jobs.find? (·.sourceHash == sourceHash))

/-- A report that is made once an event is recorded. -/
def recorded (s : JobStore) (report : CronReport) : Except String JobStore → Except String CronReport × JobStore
  | .ok s' => (.ok report, s')
  | .error e => (.error e, s)

/-- What `ingest_cron_output` does about a material marker. -/
def ingestMaterial (s : JobStore) (o : CronOutput) (marker : CronMarker) (clock : CronClock) :
    Except String CronReport × JobStore :=
  let key := o.dedupeKey T marker
  match existingJob s key (o.effectiveHash marker) with
  | some job =>
    recorded s (.duplicate job.id key)
      (s.recordEvent T job.id "cron_duplicate" (o.duplicatePayload T marker) clock.recorded)
  | none =>
    match s.enqueue T (o.newJob T marker) clock.enqueued with
    | .error e => (.error e, s)
    | .ok (id, s) =>
      recorded s (.ingested id key) (s.recordEvent T id "cron_ingested" (o.ingestedPayload T marker) clock.recorded)

/-- `ingest_cron_output`. -/
def ingestCronOutput (s : JobStore) (o : CronOutput) (clock : CronClock) : Except String CronReport × JobStore :=
  match o.markers T loads with
  | .error e => (.error e, s)
  | .ok markers =>
    match markers.find? (·.kind == "material") with
    | none =>
      let noise := (markers.filter (·.kind == "noise")).length
      recorded s .noMaterial (s.recordEvent T "" "cron_noise" (o.noisePayload T noise) clock.recorded)
    | some marker => ingestMaterial T s o marker clock

/-- `scan_cron_output` hands over what it reads of a file. -/
def scanned (file : ScannedFile) (o : CronOutput) : CronOutput :=
  { o with
    sourceRef := orText o.sourceRef ("file://" ++ file.name)
    sourceHash := orText o.sourceHash (Sha256.hexdigest file.bytes)
    markerText := file.text
    correlationId := o.jobId }

/-- `scan_cron_output`. -/
def scanCronOutput (s : JobStore) (file : ScannedFile) (o : CronOutput) (dryRun : Bool) (clock : CronClock) :
    Except String CronReport × JobStore :=
  if dryRun then ingestCronOutput T loads s (scanned file o) clock else (.ok .refused, s)

/-- Ingesting the same output again and again. -/
def ingests (s : JobStore) (o : CronOutput) : List CronClock → List (Except String CronReport) × JobStore
  | [] => ([], s)
  | clock :: later =>
    let (report, s) := ingestCronOutput T loads s o clock
    let (reports, s) := ingests s o later
    (report :: reports, s)

end

/-- No call raises, there is at most one new job, and what the first call ingests or finds is a duplicate for all the
others. -/
structure IngestedOnce (s : JobStore) (run : List (Except String CronReport) × JobStore) : Prop where
  quiet : ∀ r ∈ run.1, ∃ report, r = .ok report
  jobs : run.2.jobs = s.jobs ∨ ∃ j, run.2.jobs = s.jobs ++ [j]
  later : ∀ id key, run.1.head? = some (.ok (.ingested id key)) ∨ run.1.head? = some (.ok (.duplicate id key)) →
    ∀ r ∈ run.1.tail, r = .ok (.duplicate id key)

/-- The row has an id and a source hash that are not taken. -/
def Insertable (T : PyText) (s : JobStore) (n : NewJob) (now : Int) : Prop :=
  ∀ other ∈ s.jobs, other.id ≠ (n.row T now).id ∧
    ((n.row T now).sourceHash = "" ∨ other.sourceHash ≠ (n.row T now).sourceHash)

/-- The sanitiser keeps a text that the next call looks for. -/
def Found (T : PyText) (n : NewJob) (now : Int) : Prop :=
  (n.row T now).dedupeKey = n.dedupeKey ∨ (n.row T now).sourceHash = n.sourceHash

/-- The first call of a run leaves what the later ones look for. -/
def Repeatable (T : PyText) (loads : String → MarkerJson) (s : JobStore) (o : CronOutput) (clock : CronClock) : Prop :=
  ∃ markers, o.markers T loads = .ok markers ∧ ∀ marker, markers.find? (·.kind == "material") = some marker →
    (existingJob s (o.dedupeKey T marker) (o.effectiveHash marker)).isSome = true ∨
      Insertable T s (o.newJob T marker) clock.enqueued ∧ Found T (o.newJob T marker) clock.enqueued

section

variable {T : PyText} {loads : String → MarkerJson} {s : JobStore} {o : CronOutput} {marker : CronMarker}
  {markers : List CronMarker} {clock : CronClock} {now : Int}

theorem setKey_written {key : String} {v : PyValue} {p : Jobs.Payload} (value : (dumps v).isSome = true)
    (written : (dumpsEntries p).isSome = true) : (dumpsEntries (setKey key v p)).isSome = true := by
  induction p with
  | nil =>
    rw [setKey, dumpsEntries_isSome, value]
    rfl
  | cons entry later ih =>
    obtain ⟨k, old⟩ := entry
    rw [dumpsEntries_isSome, Bool.and_eq_true] at written
    rw [setKey]
    split
    · rw [dumpsEntries_isSome, value, written.2]
      rfl
    · rw [dumpsEntries_isSome, written.1, ih written.2]
      rfl

/-- An event that `json.dumps` takes is recorded, and the jobs stay as they are. -/
theorem recordEvent_ok {id kind : String} {p : Jobs.Payload} (written : (dumpsEntries p).isSome = true) :
    ∃ s', s.recordEvent T id kind p now = .ok s' ∧ s'.jobs = s.jobs := by
  have stamped := @setKey_written "created_at" .none p rfl written
  rw [← eventPayload_written (T := T) p now] at stamped
  obtain ⟨fields, dumped⟩ := Option.isSome_iff_exists.mp stamped
  unfold JobStore.recordEvent
  rw [dumped]
  exact ⟨_, rfl, rfl⟩

theorem dumps_texts (entries : List (String × String)) :
    (dumpsEntries (entries.map fun entry => (entry.1, PyValue.str entry.2))).isSome = true := by
  induction entries with
  | nil => rfl
  | cons entry later ih =>
    rw [List.map_cons, dumpsEntries_isSome, ih]
    rfl

theorem noise_written (noise : Nat) : (dumpsEntries (o.noisePayload T noise)).isSome = true := rfl

theorem duplicate_written : (dumpsEntries (o.duplicatePayload T marker)).isSome = true := rfl

theorem ingested_written : (dumpsEntries (o.ingestedPayload T marker)).isSome = true := by
  have metadata := dumps_texts marker.metadata
  simp only [CronOutput.ingestedPayload, dumpsEntries_isSome, dumps, Option.isSome_map, metadata]
  rfl

/-- A job that is inserted is the only change to the jobs. -/
theorem enqueue_insertable {n : NewJob} (free : Insertable T s n now) :
    ∃ s', s.enqueue T n now = .ok ((n.row T now).id, s') ∧ s'.jobs = s.jobs ++ [n.row T now] := by
  have unique : (s.jobs.any fun other => other.id = (n.row T now).id ||
      ((n.row T now).sourceHash ≠ "" && other.sourceHash = (n.row T now).sourceHash)) = false := by
    rw [List.any_eq_false]
    intro other mem
    have apart := free other mem
    simp [apart.1]
    exact apart.2.resolve_left
  have written : (dumpsEntries (safeEntries T
      ((n.row T now).enqueuedPayload (refRedacted T n.sourceRef)))).isSome = true := by
    rw [dumps_safeEntries]
    rfl
  obtain ⟨s', is, same⟩ :=
    @recordEvent_ok T { s with jobs := s.jobs ++ [n.row T now] } now (n.row T now).id "enqueued" _ written
  refine ⟨s', ?_, same⟩
  unfold JobStore.enqueue
  simp only [unique]
  rw [is]
  rfl

theorem enqueue_blocked {n : NewJob} (blocked : ¬ Insertable T s n now) :
    s.enqueue T n now = .error "IntegrityError" := by
  have taken : (s.jobs.any fun other => other.id = (n.row T now).id ||
      ((n.row T now).sourceHash ≠ "" && other.sourceHash = (n.row T now).sourceHash)) = true := by
    by_contra none
    rw [Bool.not_eq_true, List.any_eq_false] at none
    refine blocked fun other mem => ?_
    have apart := none other mem
    simp only [Bool.or_eq_true, Bool.and_eq_true, decide_eq_true_eq, not_or, not_and] at apart
    exact ⟨apart.1, Classical.or_iff_not_imp_left.mpr apart.2⟩
  unfold JobStore.enqueue
  simp only [taken, if_true]

/-- A job that is found is reported once more. -/
theorem ingestMaterial_existing {job : Job}
    (found : existingJob s (o.dedupeKey T marker) (o.effectiveHash marker) = some job) :
    ∃ s', ingestMaterial T s o marker clock = (.ok (.duplicate job.id (o.dedupeKey T marker)), s') ∧
      s'.jobs = s.jobs := by
  obtain ⟨s', is, same⟩ :=
    @recordEvent_ok T s clock.recorded job.id "cron_duplicate" _ (@duplicate_written T o marker)
  refine ⟨s', ?_, same⟩
  simp only [ingestMaterial, found, is]
  rfl

theorem ingestMaterial_new (none : existingJob s (o.dedupeKey T marker) (o.effectiveHash marker) = none)
    (free : Insertable T s (o.newJob T marker) clock.enqueued) :
    ∃ s', ingestMaterial T s o marker clock =
        (.ok (.ingested ((o.newJob T marker).row T clock.enqueued).id (o.dedupeKey T marker)), s') ∧
      s'.jobs = s.jobs ++ [(o.newJob T marker).row T clock.enqueued] := by
  obtain ⟨s', is, jobs⟩ := enqueue_insertable free
  obtain ⟨s'', is', same⟩ := @recordEvent_ok T s' clock.recorded ((o.newJob T marker).row T clock.enqueued).id
    "cron_ingested" _ (@ingested_written T o marker)
  refine ⟨s'', ?_, same.trans jobs⟩
  simp only [ingestMaterial, none, is, is']
  rfl

theorem ingestMaterial_blocked (none : existingJob s (o.dedupeKey T marker) (o.effectiveHash marker) = none)
    (blocked : ¬ Insertable T s (o.newJob T marker) clock.enqueued) :
    ingestMaterial T s o marker clock = (.error "IntegrityError", s) := by
  simp only [ingestMaterial, none, enqueue_blocked blocked]

/-- An output without a material marker leaves a noise event. -/
theorem ingest_noMaterial (read : o.markers T loads = .ok markers)
    (none : markers.find? (·.kind == "material") = none) :
    ∃ s', ingestCronOutput T loads s o clock = (.ok .noMaterial, s') ∧ s'.jobs = s.jobs := by
  obtain ⟨s', is, same⟩ := @recordEvent_ok T s clock.recorded "" "cron_noise" _
    (@noise_written T o (markers.filter (·.kind == "noise")).length)
  refine ⟨s', ?_, same⟩
  simp only [ingestCronOutput, read, none, is]
  rfl

theorem ingest_material (read : o.markers T loads = .ok markers)
    (first : markers.find? (·.kind == "material") = some marker) :
    ingestCronOutput T loads s o clock = ingestMaterial T s o marker clock := by
  simp only [ingestCronOutput, read, first]

theorem dedupeKey_ne_empty : o.dedupeKey T marker ≠ "" := by
  intro empty
  have chars := congrArg String.toList empty
  simp [CronOutput.dedupeKey, makeDedupeKey] at chars

theorem existingJob_congr {s' : JobStore} {key hash : String} (same : s'.jobs = s.jobs) :
    existingJob s' key hash = existingJob s key hash := by
  unfold existingJob
  rw [same]

/-- Among the jobs there are now, the new one alone can be found. -/
theorem existingJob_inserted {s' : JobStore} {key hash : String} {j : Job} (given : key ≠ "")
    (none : existingJob s key hash = none) (jobs : s'.jobs = s.jobs ++ [j]) :
    existingJob s' key hash = if j.dedupeKey = key ∨ j.sourceHash = hash then some j else Option.none := by
  unfold existingJob at none ⊢
  rw [if_neg given, Option.or_eq_none_iff] at none
  rw [jobs, if_neg given, List.find?_append, List.find?_append, none.1, none.2]
  by_cases byKey : j.dedupeKey = key
  · simp [byKey]
  · by_cases byHash : j.sourceHash = hash
    · simp [byKey, byHash]
    · simp [byKey, byHash]

section

variable {job : Job}

/-- Every call finds the job that the first one finds. -/
theorem ingests_existing (read : o.markers T loads = .ok markers)
    (first : markers.find? (·.kind == "material") = some marker)
    (found : existingJob s (o.dedupeKey T marker) (o.effectiveHash marker) = some job) (clocks : List CronClock) :
    (∀ r ∈ (ingests T loads s o clocks).1, r = .ok (.duplicate job.id (o.dedupeKey T marker))) ∧
      (ingests T loads s o clocks).2.jobs = s.jobs := by
  induction clocks generalizing s with
  | nil => exact ⟨fun r mem => absurd mem List.not_mem_nil, rfl⟩
  | cons clock later ih =>
    obtain ⟨s', is, same⟩ := @ingestMaterial_existing T s o marker clock job found
    have call : ingestCronOutput T loads s o clock = _ := (ingest_material read first).trans is
    obtain ⟨reports, jobs⟩ := ih ((existingJob_congr same).trans found)
    rw [ingests, call]
    refine ⟨fun r mem => ?_, jobs.trans same⟩
    rcases List.mem_cons.mp mem with rfl | mem
    · rfl
    · exact reports r mem

theorem ingests_noMaterial (read : o.markers T loads = .ok markers)
    (none : markers.find? (·.kind == "material") = none) (clocks : List CronClock) :
    (∀ r ∈ (ingests T loads s o clocks).1, r = .ok .noMaterial) ∧ (ingests T loads s o clocks).2.jobs = s.jobs := by
  induction clocks generalizing s with
  | nil => exact ⟨fun r mem => absurd mem List.not_mem_nil, rfl⟩
  | cons clock later ih =>
    obtain ⟨s', call, same⟩ := @ingest_noMaterial T loads s o markers clock read none
    obtain ⟨reports, jobs⟩ := @ih s'
    rw [ingests, call]
    refine ⟨fun r mem => ?_, jobs.trans same⟩
    rcases List.mem_cons.mp mem with rfl | mem
    · rfl
    · exact reports r mem

end

/-- A run whose first call finds its job. -/
theorem ingestedOnce_existing {job : Job} (read : o.markers T loads = .ok markers)
    (first : markers.find? (·.kind == "material") = some marker)
    (found : existingJob s (o.dedupeKey T marker) (o.effectiveHash marker) = some job) (clocks : List CronClock) :
    IngestedOnce s (ingests T loads s o clocks) := by
  obtain ⟨reports, jobs⟩ := ingests_existing read first found clocks
  refine ⟨fun r mem => ⟨_, reports r mem⟩, .inl jobs, fun id key head r mem => ?_⟩
  have duplicates := reports r (List.mem_of_mem_tail mem)
  rcases head with head | head
  · have same := reports _ (List.mem_of_head? head)
    cases same
  · have same := reports _ (List.mem_of_head? head)
    cases same
    exact duplicates

/-- A run whose first call inserts a job that the second one finds. -/
theorem ingestedOnce_new (read : o.markers T loads = .ok markers)
    (first : markers.find? (·.kind == "material") = some marker)
    (none : existingJob s (o.dedupeKey T marker) (o.effectiveHash marker) = none)
    (free : Insertable T s (o.newJob T marker) clock.enqueued) (found : Found T (o.newJob T marker) clock.enqueued)
    (later : List CronClock) : IngestedOnce s (ingests T loads s o (clock :: later)) := by
  obtain ⟨s', is, jobs⟩ := ingestMaterial_new none free
  have call : ingestCronOutput T loads s o clock = _ := (ingest_material read first).trans is
  have there := (existingJob_inserted dedupeKey_ne_empty none jobs).trans (if_pos found)
  obtain ⟨reports, same⟩ := ingests_existing read first there later
  rw [ingests, call]
  refine ⟨fun r mem => ?_, .inr ⟨_, same.trans jobs⟩, fun id key head r mem => ?_⟩
  · rcases List.mem_cons.mp mem with rfl | mem
    · exact ⟨_, rfl⟩
    · exact ⟨_, reports r mem⟩
  · rcases head with head | head
    · cases head
      exact reports r mem
    · cases head

/-- Two calls or more on one output ingest it once if and only if its markers are read and a material one either has its
job already or gets one that the sanitiser lets the next call find. -/
theorem ingested_once_iff (T : PyText) (loads : String → MarkerJson) (s : JobStore) (o : CronOutput)
    (clock clock' : CronClock) (later : List CronClock) :
    IngestedOnce s (ingests T loads s o (clock :: clock' :: later)) ↔ Repeatable T loads s o clock := by
  rcases read : o.markers T loads with e | markers
  · have call : ingestCronOutput T loads s o clock = (.error e, s) := by simp only [ingestCronOutput, read]
    refine ⟨fun h => ?_, fun ⟨markers, is, _⟩ => by rw [read] at is; cases is⟩
    rw [ingests, call] at h
    obtain ⟨report, is⟩ := h.quiet (.error e) List.mem_cons_self
    cases is
  rcases first : markers.find? (·.kind == "material") with _ | marker
  · obtain ⟨reports, jobs⟩ := ingests_noMaterial (s := s) read first (clock :: clock' :: later)
    refine ⟨fun _ => ⟨markers, read, fun marker is => by rw [first] at is; cases is⟩, fun _ => ?_⟩
    refine ⟨fun r mem => ⟨_, reports r mem⟩, .inl jobs, fun id key head r mem => ?_⟩
    rcases head with head | head
    · cases reports _ (List.mem_of_head? head)
    · cases reports _ (List.mem_of_head? head)
  have reduce : Repeatable T loads s o clock ↔
      (existingJob s (o.dedupeKey T marker) (o.effectiveHash marker)).isSome = true ∨
        Insertable T s (o.newJob T marker) clock.enqueued ∧ Found T (o.newJob T marker) clock.enqueued := by
    refine ⟨fun ⟨markers', is, h⟩ => ?_, fun h => ⟨markers, read, fun marker' is => ?_⟩⟩
    · rw [read] at is
      cases is
      exact h marker first
    · rw [first] at is
      cases is
      exact h
  rw [reduce]
  rcases found : existingJob s (o.dedupeKey T marker) (o.effectiveHash marker) with _ | job
  · by_cases free : Insertable T s (o.newJob T marker) clock.enqueued
    · refine ⟨fun h => .inr ⟨free, ?_⟩, fun h => ?_⟩
      · by_contra lost
        obtain ⟨s', is, jobs⟩ := ingestMaterial_new found free
        have call : ingestCronOutput T loads s o clock = _ := (ingest_material read first).trans is
        have missing := (existingJob_inserted dedupeKey_ne_empty found jobs).trans (if_neg lost)
        simp only [ingests, call] at h
        have again := h.later _ _ (.inl rfl) _ List.mem_cons_self
        rw [ingest_material read first] at again
        by_cases free' : Insertable T s' (o.newJob T marker) clock'.enqueued
        · obtain ⟨s'', is', _⟩ := ingestMaterial_new missing free'
          rw [is'] at again
          cases again
        · rw [ingestMaterial_blocked missing free'] at again
          cases again
      · have kept := h.resolve_left (by simp)
        exact ingestedOnce_new read first found kept.1 kept.2 (clock' :: later)
    · refine ⟨fun h => ?_, fun h => absurd (h.resolve_left (by simp)).1 free⟩
      rw [ingests, ingest_material read first, ingestMaterial_blocked found free] at h
      obtain ⟨report, is⟩ := h.quiet _ List.mem_cons_self
      cases is
  · exact ⟨fun _ => .inl rfl, fun _ => ingestedOnce_existing read first found _⟩

end

/-- A call of the bridge. -/
inductive CronCall
  | ingest (o : CronOutput)
  | scan (file : ScannedFile) (o : CronOutput) (dryRun : Bool)

def CronCall.perform (T : PyText) (loads : String → MarkerJson) (s : JobStore) (clock : CronClock) :
    CronCall → Except String CronReport × JobStore
  | ingest o => ingestCronOutput T loads s o clock
  | scan file o dryRun => scanCronOutput T loads s file o dryRun clock

/-- The store after a run of calls, whatever they answer. -/
def cronRun (T : PyText) (loads : String → MarkerJson) (s : JobStore) (calls : List (CronCall × CronClock)) : JobStore :=
  calls.foldl (fun s call => (call.1.perform T loads s call.2).2) s

/-- The keys that a marker's metadata may have. -/
def markerKeys : List String :=
  ["marker", "malformed", "live_wake_disabled", "summary", "summary_redacted"] ++
    ["event_key", "status", "target", "job_id", "run_id"].flatMap fun key => [key, key ++ "_redacted"]

section

variable {T : PyText} {loads : String → MarkerJson} {s : JobStore} {o : CronOutput} {marker : CronMarker}
  {clock : CronClock}

theorem markerKeys_plain : markerKeys.all (fun key => plain key && plain (key ++ ":redacted")) = true := by
  decide +kernel

theorem wakeField_keys {raw : Json} {key : String} {entry : String × String} (mem : entry ∈ wakeField T raw key) :
    entry.1 ∈ [key, key ++ "_redacted"] := by
  unfold wakeField at mem
  split at mem
  · cases mem
  · cases mem
  · cases mem
  · dsimp only at mem
    split at mem
    · rcases List.mem_cons.mp mem with rfl | mem
      · exact List.mem_cons_self
      · rw [List.mem_singleton.mp mem]
        exact List.mem_cons_of_mem _ List.mem_cons_self
    · rw [List.mem_singleton.mp mem]
      exact List.mem_cons_self

theorem wakeSummary_keys {raw : Json} {entry : String × String} (mem : entry ∈ wakeSummary T raw) :
    entry.1 ∈ ["summary", "summary_redacted"] := by
  unfold wakeSummary at mem
  split at mem
  · cases mem
  · cases mem
  · cases mem
  · dsimp only at mem
    rcases List.mem_cons.mp mem with rfl | mem
    · exact List.mem_cons_self
    · split at mem
      · rw [List.mem_singleton.mp mem]
        exact List.mem_cons_of_mem _ List.mem_cons_self
      · cases mem

theorem wakeMarker_keys {ref hash : String} {payload : Json} :
    ∀ entry ∈ (wakeMarker T ref hash payload).metadata, entry.1 ∈ markerKeys := by
  intro entry mem
  simp only [wakeMarker, safeActiveWakeMetadata, List.mem_cons, List.mem_append, List.cons_append] at mem
  rcases mem with rfl | (field | summary) | last
  · exact List.mem_cons_self
  · obtain ⟨key, known, field⟩ := List.mem_flatMap.mp field
    have keys := wakeField_keys field
    exact List.mem_append_right _ (List.mem_flatMap.mpr ⟨key, known, keys⟩)
  · have keys := wakeSummary_keys summary
    simp only [List.mem_cons, List.not_mem_nil, or_false] at keys
    rcases keys with is | is <;> simp [markerKeys, is]
  · have is : entry = ("live_wake_disabled", "true") := by simpa using last
    simp [markerKeys, is]

/-- Whatever a line holds, the keys of its marker are the ones the bridge knows. -/
theorem lineMarker_keys {ref hash : String} {line : List Char} (h : lineMarker T loads ref hash line = .ok (some marker)) :
    ∀ entry ∈ marker.metadata, entry.1 ∈ markerKeys := by
  unfold lineMarker at h
  dsimp only at h
  split at h
  · split at h
    · cases h
      exact wakeMarker_keys
    · cases h
      intro entry mem
      simp only [malformedMarker, List.mem_cons, List.not_mem_nil, or_false] at mem
      rcases mem with rfl | rfl <;> simp [markerKeys]
    · cases h
  · split at h
    · cases h
    · cases h
      intro entry mem
      rw [List.mem_singleton.mp mem]
      exact List.mem_cons_self

theorem markers_keys {markers : List CronMarker} (read : o.markers T loads = .ok markers) :
    ∀ marker ∈ markers, ∀ entry ∈ marker.metadata, entry.1 ∈ markerKeys := by
  intro marker mem
  obtain ⟨found, lines, is⟩ := bind_ok' read
  cases is
  obtain ⟨marker', mem', rfl⟩ := List.mem_filterMap.mp mem
  obtain ⟨line, _, here⟩ := mapM_ok_mem lines _ mem'
  exact lineMarker_keys here

theorem metadata_storable (keys : ∀ entry ∈ marker.metadata, entry.1 ∈ markerKeys) :
    storableEntries T (marker.metadata.map fun entry => (entry.1, PyValue.str entry.2)) = true := by
  refine storableEntries_plain (List.all_eq_true.mpr fun field mem => ?_)
  obtain ⟨entry, there, rfl⟩ := List.mem_map.mp mem
  exact List.all_eq_true.mp markerKeys_plain entry.1 (keys entry there)

theorem storable_append {p q : Jobs.Payload} (first : storableEntries T p = true) (rest : storableEntries T q = true) :
    storableEntries T (p ++ q) = true := by
  induction p with
  | nil => exact rest
  | cons entry later ih =>
    obtain ⟨key, v⟩ := entry
    rw [storableEntries, Bool.and_eq_true] at first
    rw [List.cons_append, storableEntries, first.1, ih first.2]
    rfl

theorem storableEntries_cons {key : String} {v : PyValue} {p : Jobs.Payload} (named : plain key = true)
    (value : storable T key v = true) (later : storableEntries T p = true) :
    storableEntries T ((key, v) :: p) = true := by
  rw [storableEntries, clean_of_plain named, value, later]
  rfl

theorem storable_stamped {p : Jobs.Payload} (h : storableEntries T p = true) :
    storableEntries T (setKey "created_at" .none p) = true := by
  induction p with
  | nil => exact storableEntries_cons (by decide +kernel) (by rw [storable]) rfl
  | cons entry later ih =>
    obtain ⟨key, v⟩ := entry
    rw [storableEntries, Bool.and_eq_true] at h
    rw [setKey]
    split
    · exact storableEntries_cons (by decide +kernel) (by rw [storable]) h.2
    · rw [storableEntries, h.1, ih h.2]
      rfl

theorem noise_storable (noise : Nat) : storableEntries T (o.noisePayload T noise) = true := by
  have before : storableEntries T [("source", .str o.source), ("source_ref", .str (o.ref T)),
      ("source_hash", .str o.hash)] = true := storableEntries_plain rfl
  have after : storableEntries T [("raw_output_stored", .bool false),
      ("source_ref_redacted", .bool (safeSourceRef T o.sourceRef).2)] = true := storableEntries_plain rfl
  have count := @storableEntries_cons T "markers" (.int noise) _ (by decide +kernel) (by rw [storable]) after
  exact storable_append before count

theorem duplicate_storable : storableEntries T (o.duplicatePayload T marker) = true := storableEntries_plain rfl

theorem ingested_storable (keys : ∀ entry ∈ marker.metadata, entry.1 ∈ markerKeys) :
    storableEntries T (o.ingestedPayload T marker) = true := by
  have before : storableEntries T [("source", .str o.source), ("source_ref", .str (o.effectiveRef T marker)),
      ("source_hash", .str (o.effectiveHash marker)), ("dedupe_key", .str (o.dedupeKey T marker)),
      ("marker", .str (metadataText marker.metadata "marker"))] = true := storableEntries_plain rfl
  have after : storableEntries T [("raw_output_stored", .bool false), ("live_wake_disabled", .bool true),
      ("source_ref_redacted", .bool (o.refRedacted T marker)),
      ("title_redacted", .bool (sanitizeSummary T o.title "").2)] = true := storableEntries_plain rfl
  have event := @storableEntries_cons T "material_event" (.dict (marker.metadata.map fun entry => (entry.1, .str entry.2)))
    _ (by decide +kernel) (by rw [storable]; exact metadata_storable keys) after
  exact storable_append before event

/-- What a call records of an output leaves nothing sensitive behind. -/
theorem recorded_private (h : Private T s) {report : CronReport} {id kind : String} {p : Jobs.Payload} {now : Int}
    (job : containsSensitiveText T id = false) (known : plain kind = true) (fields : storableEntries T p = true) :
    Private T (recorded s report (s.recordEvent T id kind p now)).2 := by
  have texts : NoneSensitive T [id, kind, "", ""] := by
    simp only [noneSensitive_cons, noneSensitive_nil, job, clean_of_plain known, empty_clean, and_self]
  have after := (@recordEvent_private T s now h id kind "" "" p).mpr (.inr ⟨texts, storable_stamped fields⟩)
  generalize s.recordEvent T id kind p now = event at after
  cases event with
  | error _ => exact h
  | ok s' => exact after

theorem existing_private (h : Private T s) {key hash : String} {job : Job} (found : existingJob s key hash = some job) :
    containsSensitiveText T job.id = false := by
  have mem : job ∈ s.jobs := by
    unfold existingJob at found
    rcases Option.or_eq_some_iff.mp found with byKey | ⟨_, byHash⟩
    · split at byKey
      · cases byKey
      · exact List.mem_of_find?_eq_some byKey
    · exact List.mem_of_find?_eq_some byHash
  have texts := h.jobs job mem
  simp only [Job.strings, noneSensitive_cons] at texts
  exact texts.1

theorem ingestMaterial_private (h : Private T s) (keys : ∀ entry ∈ marker.metadata, entry.1 ∈ markerKeys) :
    Private T (ingestMaterial T s o marker clock).2 := by
  unfold ingestMaterial
  dsimp only
  split
  next job found => exact recorded_private h (existing_private h found) (by decide +kernel) duplicate_storable
  next =>
    have after := @enqueue_private T s clock.enqueued h (o.newJob T marker)
    cases enqueued : s.enqueue T (o.newJob T marker) clock.enqueued with
    | error _ => exact h
    | ok answer =>
      obtain ⟨id, s'⟩ := answer
      rw [enqueued] at after
      have new : containsSensitiveText T id = false := by
        have free : Insertable T s (o.newJob T marker) clock.enqueued := by
          by_contra blocked
          rw [enqueue_blocked blocked] at enqueued
          cases enqueued
        obtain ⟨_, is, _⟩ := enqueue_insertable free
        rw [is] at enqueued
        cases enqueued
        exact newJobId_clean
      exact recorded_private after new (by decide +kernel) (ingested_storable keys)

/-- Whatever the output is, the bridge stores nothing sensitive of it. -/
theorem ingestCronOutput_private (h : Private T s) : Private T (ingestCronOutput T loads s o clock).2 := by
  unfold ingestCronOutput
  split
  · exact h
  next markers read =>
    split
    · exact recorded_private h empty_clean (by decide +kernel) (noise_storable _)
    next marker first => exact ingestMaterial_private h (markers_keys read marker (List.mem_of_find?_eq_some first))

theorem perform_private (h : Private T s) (call : CronCall) : Private T (call.perform T loads s clock).2 := by
  cases call with
  | ingest o => exact ingestCronOutput_private h
  | scan file o dryRun =>
    cases dryRun with
    | true => exact ingestCronOutput_private h
    | false => exact h

end

/-- In every run of the bridge's calls, whatever the outputs hold and whichever of them raise, nothing sensitive is
stored, at any depth of an event's payload. -/
theorem cron_run_private (T : PyText) (loads : String → MarkerJson) (s : JobStore) (calls : List (CronCall × CronClock))
    (h : Private T s) : Private T (cronRun T loads s calls) := by
  induction calls generalizing s with
  | nil => exact h
  | cons call later ih => exact ih _ (perform_private h call.1)

theorem cron_run_private_deploy : Private asciiText (cronRun asciiText (fun _ => .malformed) {}
    [(.ingest { sourceRef := "build/123", sourceHash := "abc123",
                markerText := "[AF-CRON] kind=material ref=build/123 hash=abc123 summary=TOKEN=abcdef" }, ⟨0, 1⟩)]) :=
  cron_run_private asciiText _ {} _ ⟨by simp, by simp, by simp⟩

end AgentflowHermes.Cron
