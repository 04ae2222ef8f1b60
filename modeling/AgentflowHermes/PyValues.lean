import AgentflowHermes.BacktrackRegex

namespace AgentflowHermes

/-- What a computation that succeeds has gone through. -/
theorem bind_ok' {ε α β : Type} {x : Except ε α} {f : α → Except ε β} {b : β} (h : (x >>= f) = .ok b) :
    ∃ a, x = .ok a ∧ f a = .ok b := by
  cases x with
  | error err => cases h
  | ok a => exact ⟨a, rfl, h⟩

/-- A JSON value as `json.loads` builds it; a float is carried by its `repr`. -/
inductive Json
  | null
  | bool (b : Bool)
  | int (n : Int)
  | float (repr : String)
  | str (s : String)
  | arr (items : List Json)
  | obj (fields : List (String × Json))

namespace Json

def truthy : Json → Bool
  | null => false
  | bool b => b
  | int n => n != 0
  | float r => r != "0.0" && r != "-0.0"
  | str s => s != ""
  | arr xs => !xs.isEmpty
  | obj fs => !fs.isEmpty

def isDict : Json → Bool
  | obj _ => true
  | _ => false

/-- `d.get(key)` on a dict. -/
def get? : Json → String → Option Json
  | obj fs, key => fs.lookup key
  | _, _ => none

/-- What a `for` loop over the value visits; `none` where Python raises `TypeError`. -/
def iter? : Json → Option (List Json)
  | arr xs => some xs
  | obj fs => some (fs.map fun f => .str f.1)
  | str s => some (s.toList.map fun c => .str (String.singleton c))
  | _ => none

/-- `value == 1`, which also holds of `True` and `1.0`. -/
def equalsOne : Json → Bool
  | int n => n == 1
  | bool b => b
  | float r => r == "1.0"
  | _ => false

end Json

/-- What the program takes from the Python text runtime: the character classes that `re` and
`str` share, `str()` of a JSON value, `float()` of one in microseconds, `none` where it raises, and
`==` between two of them. -/
structure PyText where
  isWord : Char → Bool
  isSpace : Char → Bool
  isDigit : Char → Bool
  str : Json → String
  float : Json → Option Int
  equal : Json → Json → Bool
  str_str : ∀ s, str (.str s) = s

/-- The ASCII part of the character classes and of `str`. -/
def asciiText : PyText where
  isWord c := c.isAlphanum || c == '_'
  isSpace c := c == ' ' || ('\t' ≤ c && c ≤ '\r')
  isDigit c := c.isDigit
  str
    | .str s => s
    | .null => "None"
    | .bool true => "True"
    | .bool false => "False"
    | .int n => toString n
    | .float r => r
    | .arr _ => "[]"
    | .obj _ => "{}"
  float
    | .int n => some (n * 1000000)
    | _ => none
  equal
    | .str s, .str t => s == t
    | .int m, .int n => m == n
    | .bool b, .bool c => b == c
    | .null, .null => true
    | _, _ => false
  str_str _ := rfl

namespace PyText

/-- `str(d.get(key) or fallback)`. -/
def strOr (T : PyText) (v : Option Json) (fallback : String) : String :=
  match v with
  | some j => if j.truthy then T.str j else fallback
  | none => fallback

def strip (p : Char → Bool) (s : String) : String :=
  String.ofList ((s.toList.dropWhile p).reverse.dropWhile p).reverse

end PyText

/-- ASCII `str.upper`; no other character has an upper case made of the letters of a verdict. -/
def asciiUpper (s : String) : String := s.map Char.toUpper

/-- `str.lower` on the characters a case-insensitive ASCII class can match. -/
def lowerChars (c : Char) : List Char :=
  if c = '\u212a' then ['k'] else if c = '\u0130' then ['i', '\u0307'] else [c.toLower]

/-- One letter under `re.IGNORECASE`, with the four characters outside ASCII that fold to a letter. -/
def foldsTo (letter c : Char) : Bool :=
  c.toLower == letter.toLower ||
    (letter.toLower == 'i' && (c == '\u0130' || c == '\u0131')) ||
    (letter.toLower == 's' && c == '\u017f') || (letter.toLower == 'k' && c == '\u212a')

def foldedLetter (c : Char) : Bool :=
  ('a' ≤ c.toLower && c.toLower ≤ 'z') || c == '\u0130' || c == '\u0131' || c == '\u017f' || c == '\u212a'

open BacktrackRegex BacktrackRegex.Pattern in
/-- A literal word under `re.IGNORECASE`. -/
def lit (s : String) : Pattern := .all (s.toList.map fun c => .char (foldsTo c))

namespace PyText

open BacktrackRegex BacktrackRegex.Pattern

variable (T : PyText)

def spaces : Pattern := .star (.char T.isSpace)

def spaces1 : Pattern := .plus (.char T.isSpace)

def words : Pattern := .star (.char T.isWord)

/-- `\b`. -/
def boundary : Pattern := .test fun c =>
  (c.before.head?.any T.isWord) != (c.after.head?.any T.isWord)

/-- `\b(?: .. )\b`. -/
def bounded (r : Pattern) : Pattern := .all [T.boundary, r, T.boundary]

end PyText

open BacktrackRegex BacktrackRegex.Pattern in
/-- One of a few characters. -/
def oneOf (cs : List Char) : Pattern := .char fun c => cs.contains c

/-- `^` and `$` under `re.MULTILINE`. -/
def lineStart : BacktrackRegex.Pattern := .test fun c => c.before.head?.all (· == '\n')

def lineEnd : BacktrackRegex.Pattern := .test fun c => c.after.head?.all (· == '\n')

/-- `.`. -/
def anyChar : BacktrackRegex.Pattern := .char (· != '\n')

end AgentflowHermes
