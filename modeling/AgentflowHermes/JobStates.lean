import AgentflowHermes.LiveSanitize
import AgentflowHermes.PyValues

namespace AgentflowHermes.Jobs

inductive JobStatus
  | queued
  | dispatched
  | waitingReview
  | waitingUser
  | succeeded
  | failed
  deriving DecidableEq, Repr

namespace JobStatus

def value : JobStatus → String
  | queued => "queued"
  | dispatched => "dispatched"
  | waitingReview => "waiting_review"
  | waitingUser => "waiting_user"
  | succeeded => "succeeded"
  | failed => "failed"

/-- `FINAL_STATES`. -/
def final : JobStatus → Bool
  | succeeded | failed => true
  | _ => false

def allowedTransitions : JobStatus → List JobStatus
  | queued => [dispatched, succeeded, failed]
  | dispatched => [waitingReview, waitingUser, succeeded, failed]
  | waitingReview => [dispatched, succeeded, failed]
  | waitingUser => [dispatched, succeeded, failed]
  | succeeded => []
  | failed => []

def statuses : List JobStatus := [queued, dispatched, waitingReview, waitingUser, succeeded, failed]

/-- `JobStatus(text)`. -/
def ofValue? (text : String) : Option JobStatus := statuses.find? fun status => status.value == text

theorem ofValue?_value (status : JobStatus) : ofValue? status.value = some status := by
  cases status <;> decide

theorem final_iff (status : JobStatus) : status.final = true ↔ status.allowedTransitions = [] := by
  cases status <;> decide

end JobStatus

/-- `str.lower`, as far as the words of the program can tell. -/
def lower (text : String) : String := String.ofList (text.toList.flatMap lowerChars)

/-- `normalize_status`; `none` where it raises `ValueError`. -/
def normalizeStatus (text : String) : Option JobStatus := JobStatus.ofValue? (lower text)

theorem normalizeStatus_value (status : JobStatus) : normalizeStatus status.value = some status := by
  cases status <;> decide

/-- A payload value as a caller hands it over; `other` is what `json.dumps` refuses. -/
inductive PyValue
  | none
  | bool (b : Bool)
  | int (n : Int)
  | float (repr : String)
  | str (s : String)
  | list (items : List PyValue)
  | tuple (items : List PyValue)
  | dict (entries : List (String × PyValue))
  | other

/-- A payload as a caller hands it over. -/
abbrev Payload := List (String × PyValue)

section

variable (T : PyText)

/-- `safe_job_field` with its `max_len`. -/
def safeJobFieldUpTo (maxLen : Nat) (field value : String) : String :=
  let text := shortText T value maxLen
  if text = "" then ""
  else if containsSensitiveText T text then field ++ ":redacted"
  else text

/-- `safe_durable_ref` with a source hash. -/
def safeDurableRefSalted (sourceHash value : String) : String :=
  let ref := shortText T value
  if ref = "" then ""
  else if containsSensitiveText T ref || !safeRefText ref.toList then hashedRef (ref ++ ":" ++ sourceHash)
  else ref

/-- `key.lower().endswith("ref")`. -/
def refKey (key : String) : Bool := "ref".toList.isSuffixOf (lower key).toList

mutual

/-- `_safe_value`. -/
def safeValue (key : String) : PyValue → PyValue
  | .str s => .str (if refKey key then safeDurableRef T s else safeJobField T key s)
  | .dict entries => .dict (safeEntries entries)
  | .list items => .list (safeItems key items)
  | value => value

def safeItems (key : String) : List PyValue → List PyValue
  | [] => []
  | v :: rest => safeValue key v :: safeItems key rest

/-- `safe_event_payload`. -/
def safeEntries : List (String × PyValue) → List (String × PyValue)
  | [] => []
  | (k, v) :: rest => (k, safeValue k v) :: safeEntries rest

end

end

section

variable {T : PyText}

theorem salted_reference (salt value : String) : Reference T (safeDurableRefSalted T salt value) := by
  unfold safeDurableRefSalted
  dsimp only
  split
  · exact empty_reference
  split
  · exact hashedRef_reference _
  next unflagged =>
    simp only [Bool.or_eq_true, Bool.not_eq_true', not_or, Bool.not_eq_true, Bool.not_eq_false] at unflagged
    exact ⟨unflagged.1, .inr unflagged.2⟩

theorem salted_kept (plain : T.Plain) {s : String} (ref : Reference T s) (salt : String) : safeDurableRefSalted T salt s = s := by
  unfold safeDurableRefSalted
  rw [ref.shortText plain (Nat.le_refl _)]
  rcases ref.safe with rfl | safe
  · rfl
  · simp [ref.clean, safe]

end

mutual

/-- `json.loads(json.dumps(value))`; `none` where `dumps` raises `TypeError`. -/
def dumps : PyValue → Option Json
  | .none => some .null
  | .bool b => some (.bool b)
  | .int n => some (.int n)
  | .float r => some (.float r)
  | .str s => some (.str s)
  | .list items => (dumpsItems items).map .arr
  | .tuple items => (dumpsItems items).map .arr
  | .dict entries => (dumpsEntries entries).map .obj
  | .other => none

def dumpsItems : List PyValue → Option (List Json)
  | [] => some []
  | v :: rest => do return (← dumps v) :: (← dumpsItems rest)

def dumpsEntries : List (String × PyValue) → Option (List (String × Json))
  | [] => some []
  | (k, v) :: rest => do return (k, ← dumps v) :: (← dumpsEntries rest)

end

/-- `d[key] = value`. -/
def setKey (key : String) (value : PyValue) : Payload → Payload
  | [] => [(key, value)]
  | (k, v) :: rest => if k = key then (key, value) :: rest else (k, v) :: setKey key value rest

end AgentflowHermes.Jobs
