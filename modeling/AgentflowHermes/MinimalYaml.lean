import AgentflowHermes.Dicts
import AgentflowHermes.OutcomeEnvelope
import AgentflowHermes.TextLines

namespace AgentflowHermes.Config

open TextLines

/-- What a config is read with besides the text runtime: `int()`, which limits the digits, the `repr` of `float(text)`, the
JSON reader, and how many blocks the interpreter can have open at once. -/
structure Reader where
  text : PyText
  int : List Char → Option Int
  float : List Char → String
  loads : String → Option Json
  room : Nat

inductive ParseError
  | valueError
  | recursionError
  deriving DecidableEq

/-- The entries of a value: what there is of list items and of keys, at any depth. -/
def entries : Json → Nat
  | .arr items => ofItems items
  | .obj fields => ofFields fields
  | _ => 0
where
  ofItems : List Json → Nat
    | [] => 0
    | item :: items => 1 + entries item + ofItems items
  ofFields : List (String × Json) → Nat
    | [] => 0
    | (_, value) :: fields => 1 + entries value + ofFields fields

/-- What stands before a comment, which begins a line or follows a blank, outside of quotes. -/
def uncommented (inSquote inDquote : Bool) (before : Char) : List Char → List Char
  | [] => []
  | c :: cs =>
    if c = '\'' ∧ !inDquote then c :: uncommented (!inSquote) inDquote c cs
    else if c = '"' ∧ !inSquote then c :: uncommented inSquote (!inDquote) c cs
    else if c = '#' ∧ !inSquote ∧ !inDquote ∧ before = ' ' then []
    else c :: uncommented inSquote inDquote c cs

def indentOf (line : List Char) : Nat := (line.takeWhile (· == ' ')).length

section

variable (r : Reader)

/-- One line of `_clean_lines`. -/
def cleanLine (raw : List Char) : Option (List Char) :=
  let line := rstrip r.text.isSpace raw
  let stripped := strip r.text.isSpace line
  if stripped = [] ∨ stripped.head? = some '#' then none
  else
    let line := rstrip r.text.isSpace (uncommented false false ' ' line)
    if strip r.text.isSpace line = [] then none else some line

def cleanLines (text : String) : List (List Char) := (splitlines text.toList).filterMap (cleanLine r)

def isNumber (cs : List Char) : Bool := !cs.isEmpty && cs.all r.text.isDigit

/-- `_INT_RE.fullmatch`. -/
def isInt (cs : List Char) : Bool := isNumber r (if cs.head? = some '-' then cs.tail else cs)

/-- `_FLOAT_RE.fullmatch`. -/
def isFloat (cs : List Char) : Bool :=
  isInt r (cs.takeWhile (· != '.')) && (cs.dropWhile (· != '.')).head? == some '.' &&
    isNumber r (cs.dropWhile (· != '.')).tail

def isQuoted (cs : List Char) : Bool :=
  2 ≤ cs.length && ((cs.head? == some '"' && cs.getLast? == some '"') || (cs.head? == some '\'' && cs.getLast? == some '\''))

def trueWords : List String := ["true", "yes"]

def falseWords : List String := ["false", "no"]

def nullWords : List String := ["null", "~", ""]

/-- `_parse_scalar`; `none` where `int` raises. -/
def parseScalar (given : List Char) : Option Json :=
  let text := strip r.text.isSpace given
  let low := lowerText text
  if isQuoted text then some (.str (String.ofList (text.tail.dropLast)))
  else if trueWords.contains low then some (.bool true)
  else if falseWords.contains low then some (.bool false)
  else if nullWords.contains low then some .null
  else if isInt r text then (r.int text).map .int
  else if isFloat r text then some (.float (r.float text))
  else some (.str (String.ofList text))

/-- The content of a list item. -/
def itemOf (line : List Char) : Option (List Char) :=
  let stripped := strip r.text.isSpace line
  if stripped.take 2 = ['-', ' '] then some (strip r.text.isSpace (stripped.drop 2)) else none

/-- The key of a mapping entry, and what follows it on its line. -/
def entryOf (line : List Char) : Option (String × List Char) :=
  let content := strip r.text.isSpace line
  if content.contains ':' then
    let key := strip r.text.isSpace (content.takeWhile (· != ':'))
    some (String.ofList (strip (['"', '\''].contains ·) key), strip r.text.isSpace (content.dropWhile (· != ':')).tail)
  else none

/-- A value with the lines after it. -/
abbrev Parsed (α : Type) := Except ParseError (α × List (List Char))

def parseList (indent : Nat) (result : List Json) : List (List Char) → Parsed (List Json)
  | [] => .ok (result, [])
  | line :: rest =>
    if indentOf line ≠ indent then .ok (result, line :: rest)
    else match (itemOf r line).bind (parseScalar r) with
      | none => .error .valueError
      | some item => parseList indent (result ++ [item]) rest

/-- `_parse_block`, with the mappings that may be nested in it; `room` counts the blocks that may still be opened. -/
def parseBlock (room indent : Nat) (mapping : Nat → List (List Char) → Parsed (List (String × Json)))
    (lines : List (List Char)) : Parsed Json :=
  match room, lines with
  | 0, _ => .error .recursionError
  | _ + 1, [] => .ok (.obj [], [])
  | _ + 1, line :: rest =>
    if indentOf line < indent then .ok (.obj [], line :: rest)
    else if (itemOf r line).isSome then (parseList r (indentOf line) [] (line :: rest)).map fun p => (.arr p.1, p.2)
    else (mapping (indentOf line) (line :: rest)).map fun p => (.obj p.1, p.2)

/-- `_parse_mapping`; `fuel` is no less than the number of lines. -/
def parseMapping (fuel room indent : Nat) (result : List (String × Json)) (lines : List (List Char)) :
    Parsed (List (String × Json)) :=
  match fuel, lines with
  | 0, lines => .ok (result, lines)
  | _ + 1, [] => .ok (result, [])
  | fuel + 1, line :: rest =>
    if indentOf line ≠ indent then .ok (result, line :: rest)
    else match entryOf r line with
      | none => .error .valueError
      | some (key, after) =>
        if after ≠ [] then match parseScalar r after with
          | none => .error .valueError
          | some value => parseMapping fuel room indent (Dicts.set key value result) rest
        else match rest with
          | next :: _ =>
            if indentOf next > indent then
              match parseBlock r room (indentOf next) (fun indent => parseMapping fuel (room - 1) indent []) rest with
              | .error e => .error e
              | .ok (value, rest) => parseMapping fuel room indent (Dicts.set key value result) rest
            else parseMapping fuel room indent (Dicts.set key .null result) rest
          | [] => parseMapping fuel room indent (Dicts.set key .null result) rest

/-- The value of some lines, with those that the top level stops at. -/
def parseLines (lines : List (List Char)) : Parsed Json :=
  match lines with
  | [] => .ok (.obj [], [])
  | first :: _ => parseBlock r r.room (indentOf first)
    (fun indent => parseMapping r lines.length (r.room - 1) indent []) lines

/-- `parse_minimal_yaml`. -/
def parseMinimalYaml (text : String) : Except ParseError Json := (parseLines r (cleanLines r text)).map Prod.fst

end

end AgentflowHermes.Config
