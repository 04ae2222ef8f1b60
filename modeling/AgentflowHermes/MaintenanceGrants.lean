import AgentflowHermes.LiveSanitize

namespace AgentflowHermes.Maintenance

def trustScope : String := "service_cycle"

def trustMode : String := "guarded_cycle"

/-- `value == text`. -/
def isText (value : Json) (text : String) : Bool :=
  match value with
  | .str s => s == text
  | _ => false

/-- `grant.get(key)`. -/
def field (grant : Json) (key : String) : Json := (grant.get? key).getD .null

/-- `value == [unit]`. -/
def onlyService (value : Json) (unit : String) : Bool :=
  match value with
  | .arr [service] => isText service unit
  | _ => false

section

variable (T : PyText)

/-- `"" if value is None else str(value)`. -/
def text (value : Json) : String :=
  match value with
  | .null => ""
  | value => T.str value

def safeUnitChar (c : Char) : Bool := c.isAlphanum || ['@', '_', '.', ':', '-'].contains c

/-- `_validate_unit`; `none` is the `TrustGrantError`. -/
def validateUnit (unit : Json) : Option String :=
  let text := shortText T (text T unit)
  if text = "" || text.toList.any fun c => !safeUnitChar c then none
  else if !".service".toList.isSuffixOf text.toList then none
  else some text

/-- `_strict_float`, in microseconds; `none` is the `TrustGrantError`. -/
def strictFloat (value : Json) : Option Int :=
  match value with
  | .int _ | .float _ => (T.float value).filter fun parsed => 0 ≤ parsed
  | _ => none

def sanitizeProvenance (value : Option Json) : String :=
  let text := safeJobField T "provenance" (T.strOr value "operator CLI trust grant")
  if text = "" then "operator CLI trust grant" else text

/-- `isinstance(value, str) and value.startswith("grant_")`. -/
def grantIdPrefixed (value : Json) : Bool :=
  match value with
  | .str id => "grant_".toList.isPrefixOf id.toList
  | _ => false

/-- `is_valid_service_cycle_grant`. -/
def isValidServiceCycleGrant (grant : Json) (targetUnit : String) (allowedServices : List String) (hostId : String)
    (now : Int) : Bool :=
  match validateUnit T (field grant "gateway_unit"), strictFloat T (field grant "created_at"),
      strictFloat T (field grant "expires_at") with
  | some unit, some created, some expires =>
    if unit ≠ targetUnit || !allowedServices.contains unit then false
    else if !isText (field grant "mode") trustMode then false
    else if !isText (field grant "action") trustScope || !isText (field grant "scope") trustScope then false
    else if !onlyService (field grant "allowed_services") unit then false
    else if !grantIdPrefixed (field grant "grant_id") then false
    else if safeJobField T "host_id" (text T (field grant "host_id")) ≠ hostId then false
    else if expires ≤ created || expires ≤ now then false
    else sanitizeProvenance T (grant.get? "provenance") ≠ ""
  | _, _, _ => false

def requiredGrantFields : List String :=
  ["grant_id", "mode", "action", "scope", "gateway_unit", "allowed_services", "host_id", "created_at", "expires_at",
    "provenance"]

/-- `_valid_grant_id_shape`. -/
def validGrantIdShape (value : Json) : Bool :=
  grantIdPrefixed value &&
  match value with
  | .str id =>
    (id.toList.drop 6).length == 16 && (id.toList.drop 6).all "0123456789abcdef".toList.contains
  | _ => false

/-- `_is_trust_grant_record_shape`. -/
def isTrustGrantRecordShape (entry : Json) : Bool :=
  if !entry.isDict || requiredGrantFields.any fun key => (entry.get? key).isNone then false
  else
    match validateUnit T (field entry "gateway_unit"), strictFloat T (field entry "created_at"),
        strictFloat T (field entry "expires_at") with
    | some unit, some created, some expires =>
      created < expires && validGrantIdShape (field entry "grant_id") && isText (field entry "mode") trustMode &&
        isText (field entry "action") trustScope && isText (field entry "scope") trustScope &&
        onlyService (field entry "allowed_services") unit &&
        safeJobField T "host_id" (text T (field entry "host_id")) ≠ "" &&
        safeJobField T "provenance" (text T (field entry "provenance")) ≠ ""
    | _, _, _ => false

/-- `validate_trust_grants_shape`. -/
def validateTrustGrantsShape (raw : Json) : Bool :=
  match raw with
  | .arr entries => entries.all (isTrustGrantRecordShape T)
  | _ => false

variable {T : PyText}

theorem sanitizeProvenance_ne_empty (value : Option Json) : sanitizeProvenance T value ≠ "" := by
  unfold sanitizeProvenance
  dsimp only
  split
  · decide
  next present => exact present

/-- Of a record of the required shape, only the unit, the host and the expiry are left to check. -/
theorem shaped_grant_valid {raw : List Json} (shaped : validateTrustGrantsShape T (.arr raw) = true) {grant : Json}
    (mem : grant ∈ raw) {targetUnit : String} {allowedServices : List String} {hostId : String} {now : Int} :
    isValidServiceCycleGrant T grant targetUnit allowedServices hostId now = true ↔
      validateUnit T (field grant "gateway_unit") = some targetUnit ∧ targetUnit ∈ allowedServices ∧
        safeJobField T "host_id" (text T (field grant "host_id")) = hostId ∧
        ∃ expires, strictFloat T (field grant "expires_at") = some expires ∧ now < expires := by
  have shape : isTrustGrantRecordShape T grant = true := List.all_eq_true.mp shaped grant mem
  unfold isTrustGrantRecordShape at shape
  unfold isValidServiceCycleGrant
  split at shape
  · cases shape
  cases hunit : validateUnit T (field grant "gateway_unit") with
  | none => simp [hunit] at shape
  | some unit =>
    cases hcreated : strictFloat T (field grant "created_at") with
    | none => simp [hunit, hcreated] at shape
    | some created =>
      cases hexpires : strictFloat T (field grant "expires_at") with
      | none => simp [hunit, hcreated, hexpires] at shape
      | some expires =>
        simp only [hunit, hcreated, hexpires, Bool.and_eq_true, decide_eq_true_eq] at shape
        obtain ⟨⟨⟨⟨⟨⟨⟨later, id⟩, mode⟩, action⟩, scope⟩, services⟩, host⟩, provenance⟩ := shape
        have prefixed : grantIdPrefixed (field grant "grant_id") = true := by
          unfold validGrantIdShape at id
          rw [Bool.and_eq_true] at id
          exact id.1
        have present := sanitizeProvenance_ne_empty (T := T) (grant.get? "provenance")
        dsimp only
        rw [mode, action, scope, services, prefixed]
        by_cases target : unit = targetUnit
        · subst target
          by_cases allowed : unit ∈ allowedServices
          · by_cases bound : safeJobField T "host_id" (text T (field grant "host_id")) = hostId
            · simp [allowed, bound, present, later]
            · simp [allowed, bound]
          · simp [allowed]
        · simp [target]

end

end AgentflowHermes.Maintenance
