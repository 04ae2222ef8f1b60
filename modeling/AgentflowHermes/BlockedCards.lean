import AgentflowHermes.JobStates
import AgentflowHermes.LiveSanitize
import AgentflowHermes.RegexSpans
import Mathlib.Data.List.Infix

namespace AgentflowHermes.Cards

open BacktrackRegex BacktrackRegex.Pattern

/-- A card as it is handed in; one that is not given is empty. -/
abbrev Card := List (String × Json)

/-- `card.get(key)`. -/
def Card.get (card : Card) (key : String) : Json := (card.lookup key).getD .null

/-- `_extract_verdict` for one verdict. -/
def verdictWordRe (T : PyText) (word : String) : Pattern :=
  .all [T.boundary, lit "Verdict", T.spaces, one ':', T.spaces, lit word, T.boundary]

section

variable (T : PyText)

/-- `str(card.get(key) or "")`. -/
def Card.text (card : Card) (key : String) : String := T.strOr (card.lookup key) ""

/-- `_short_text`. -/
def shortValue (value : Json) : String := match value with
  | .null => ""
  | value => shortText T (T.str value) 480

def hasWord (text : String) (word : String) : Bool := search (verdictWordRe T word) text.toList

/-- `_extract_verdict`. -/
def extractVerdict (text : String) : String :=
  if hasWord T text "BLOCK" then "BLOCK"
  else if hasWord T text "NEED_MORE" then "NEED_MORE"
  else if hasWord T text "GO" then "GO"
  else ""

/-- A field of a card as it is joined; what is no text cannot be. -/
def Card.part (card : Card) (key : String) : Option String := match card.lookup key with
  | none => some ""
  | some (.str s) => some s
  | some _ => none

def Card.comments (card : Card) : List String := match card.get "comments" with
  | .arr comments => comments.map T.str
  | _ => []

def Card.metadata (card : Card) : List (String × Json) := match card.get "metadata" with
  | .obj fields => fields
  | _ => []

/-- `_card_text`; `none` where it raises. -/
def cardText (card : Card) : Option String := do
  let parts ← ["title", "body", "summary", "result"].mapM card.part
  return "\n".intercalate (parts ++ card.comments T ++ card.metadata.map fun f => f.1 ++ ": " ++ T.str f.2)

/-- `_is_blocked`. -/
def isBlocked (card : Card) : Bool :=
  ["blocked", "waiting", "waiting_review", "on_hold", "hold"].contains (Jobs.lower (card.text T "status"))

def Card.id (card : Card) : String := card.text T "id"

/-- `_CARD_REF_RE`. -/
def cardRefRe : Pattern :=
  let hex : Pattern := .char fun c => c.isDigit || ('a' ≤ c && c ≤ 'f') || ('A' ≤ c && c ≤ 'F')
  let named : Pattern := plus (.char fun c => c.isAlphanum || c == '_')
  let word (s : String) : Pattern := .all (s.toList.map one)
  .all [T.boundary, .group (.alt (.all (word "t_" :: List.replicate 8 hex)) (.seq (word "card_") named)), T.boundary]

/-- `_CARD_REF_RE.findall`. -/
def cardRefs (text : String) : List String :=
  (findIter (cardRefRe T) text.toList).map fun m => String.ofList m.2.1

/-- What a value that is no container refers to. -/
def textRefs (value : Json) : List String :=
  let text := shortValue T value
  if text = "" then [] else if cardRefs T text = [] then [text] else cardRefs T text

mutual

/-- `_values_as_refs`. -/
def valuesAsRefs : Json → List String
  | .null => []
  | .arr items => itemsAsRefs items
  | .obj fields => fieldsAsRefs fields
  | .bool b => textRefs T (.bool b)
  | .int n => textRefs T (.int n)
  | .float shown => textRefs T (.float shown)
  | .str s => textRefs T (.str s)

def itemsAsRefs : List Json → List String
  | [] => []
  | item :: items => valuesAsRefs item ++ itemsAsRefs items

def fieldsAsRefs : List (String × Json) → List String
  | [] => []
  | (_, value) :: fields => valuesAsRefs value ++ fieldsAsRefs fields

end

/-- `KanbanResolverError`. -/
structure KanbanResolverError where
  reason : String
  isUnsafe : Bool := true
  details : List (String × List String) := []

/-- What a check comes to: an error, a value, or an exception of another kind. -/
abbrev Check (α : Type) := ExceptT KanbanResolverError Option α

def readable {α : Type} (value : Option α) : Check α := ExceptT.lift value

/-- `_validate_input` for one card. -/
def hasId (card : Card) : Bool := PyText.strip T.isSpace (card.id T) ≠ ""

end

end AgentflowHermes.Cards
