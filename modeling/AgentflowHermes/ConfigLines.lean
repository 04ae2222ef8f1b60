import AgentflowHermes.MinimalYaml

namespace AgentflowHermes.Config

/-- A block that is open: whether it is a list, how far it is indented, and the keys that were read in it. -/
structure Block where
  list : Bool
  indent : Nat
  keys : List String := []

/-- What becomes of some lines. -/
inductive Fate
  | refused
  | tooDeep
  | dropped
  | read (lost : Bool)
  deriving DecidableEq

section

variable (r : Reader)

/-- A line in the innermost of some open blocks: whether it may open another one, whether its key was read there before,
and the open blocks with the key. -/
def settle (line : List Char) : List Block → Except Fate (Bool × Bool × List Block)
  | [] => .error .dropped
  | block :: outer =>
    if block.list then match (itemOf r line).bind (parseScalar r) with
      | none => .error .refused
      | some _ => .ok (false, false, block :: outer)
    else match entryOf r line with
      | none => .error .refused
      | some (key, after) =>
        let blocks := { block with keys := key :: block.keys } :: outer
        if after = [] then .ok (true, block.keys.contains key, blocks)
        else match parseScalar r after with
          | none => .error .refused
          | some _ => .ok (false, block.keys.contains key, blocks)

/-- The blocks that a line finds open: it opens one itself after a key without a value if it is indented further, and
closes those it is not indented as otherwise. -/
def placed (opens : Bool) (line : List Char) (blocks : List Block) : Except Fate (List Block) :=
  if opens && blocks.head?.all (fun block => block.indent < indentOf line) then
    if r.room ≤ blocks.length then .error .tooDeep
    else .ok ({ list := (itemOf r line).isSome, indent := indentOf line } :: blocks)
  else .ok (blocks.dropWhile fun block => block.indent ≠ indentOf line)

/-- The lines are read one after another. -/
def follow (opens lost : Bool) (blocks : List Block) : List (List Char) → Fate
  | [] => .read lost
  | line :: rest => match (placed r opens line blocks).bind (settle r line) with
    | .error fate => fate
    | .ok (opens, again, blocks) => follow opens (lost || again) blocks rest

end

section

variable {r : Reader}

theorem entries_scalar {text : List Char} {value : Json} (h : parseScalar r text = some value) : entries value = 0 := by
  unfold parseScalar at h
  dsimp only at h
  repeat' split at h
  all_goals first
    | cases h; rfl
    | obtain ⟨n, _, rfl⟩ := Option.map_eq_some_iff.mp h; rfl

theorem ofItems_append (items : List Json) (item : Json) :
    entries.ofItems (items ++ [item]) = entries.ofItems items + 1 + entries item := by
  induction items with
  | nil => simp [entries.ofItems]
  | cons first items ih =>
    simp only [List.cons_append, entries.ofItems, ih]
    omega

/-- What is missing of the entries after an assignment: nothing, unless its key is written over. -/
theorem ofFields_set (key : String) (value : Json) (fields : List (String × Json)) :
    ∃ missing, entries.ofFields (Dicts.set key value fields) + missing = entries.ofFields fields + 1 + entries value ∧
      (missing ≠ 0 ↔ (fields.lookup key).isSome = true) := by
  induction fields with
  | nil => exact ⟨0, by simp [Dicts.set, entries.ofFields], by simp⟩
  | cons field rest ih =>
    obtain ⟨k, old⟩ := field
    by_cases same : k = key
    · refine ⟨1 + entries old, ?_, ?_⟩
      · simp only [Dicts.set, if_pos same, entries.ofFields]
        omega
      · simp [same]
    · obtain ⟨missing, sum, absent⟩ := ih
      have apart : (key == k) = false := by simpa using fun h => same h.symm
      refine ⟨missing, ?_, ?_⟩
      · simp only [Dicts.set, if_neg same, entries.ofFields]
        omega
      · simpa [List.lookup_cons, apart] using absent

/-- A parse of some lines has come to what reading them one after another comes to: the entries of its value, its rest and
what is missing make up the lines, and it is missing something exactly where a key was read again. -/
def Agrees {α : Type} (r : Reader) (size : α → Nat) (lost : Bool) (outer : List Block) (total : Nat) (fate : Fate) :
    Parsed α → Prop
  | .error .valueError => fate = .refused
  | .error .recursionError => fate = .tooDeep
  | .ok (value, rest) => rest.length ≤ total ∧ ∃ missing, size value + rest.length + missing = total ∧
      fate = follow r false (lost || missing ≠ 0) outer rest

variable {opens lost : Bool} {block : Block} {outer : List Block} {line : List Char} {rest : List (List Char)}

/-- A line that is indented otherwise closes a block. -/
theorem follow_close (apart : indentOf line ≠ block.indent) :
    follow r false lost (block :: outer) (line :: rest) = follow r false lost outer (line :: rest) := by
  have placed' : placed r false line (block :: outer) = placed r false line outer := by
    have apart' : block.indent ≠ indentOf line := fun same => apart same.symm
    simp [placed, apart']
  unfold follow
  rw [placed']

theorem placed_stay (same : indentOf line = block.indent) : placed r false line (block :: outer) = .ok (block :: outer) := by
  simp [placed, same]

/-- A line that is not indented further opens nothing. -/
theorem follow_shut (within : ∀ next ∈ rest.head?, indentOf next ≤ block.indent) :
    follow r true lost (block :: outer) rest = follow r false lost (block :: outer) rest := by
  cases rest with
  | nil => rfl
  | cons next rest =>
    have shut := within next rfl
    have placed' : placed r true next (block :: outer) = placed r false next (block :: outer) := by
      simp [placed, Nat.not_lt.mpr shut]
    unfold follow
    rw [placed']

theorem follow_open {blocks : List Block} (further : ∀ block ∈ blocks.head?, block.indent < indentOf line)
    (room : blocks.length < r.room) : follow r true lost blocks (line :: rest) =
      follow r false lost ({ list := (itemOf r line).isSome, indent := indentOf line } :: blocks) (line :: rest) := by
  have opened : placed r true line blocks =
      .ok ({ list := (itemOf r line).isSome, indent := indentOf line } :: blocks) := by
    unfold placed
    rw [if_pos, if_neg (Nat.not_le.mpr room)]
    cases blocks with
    | nil => rfl
    | cons block outer => simpa using further block rfl
  unfold follow
  rw [opened, placed_stay rfl]

theorem follow_full {blocks : List Block} (further : ∀ block ∈ blocks.head?, block.indent < indentOf line)
    (full : r.room ≤ blocks.length) : follow r true lost blocks (line :: rest) = .tooDeep := by
  have shut : placed r true line blocks = .error .tooDeep := by
    unfold placed
    rw [if_pos, if_pos full]
    cases blocks with
    | nil => rfl
    | cons block outer => simpa using further block rfl
  unfold follow
  rw [shut]
  rfl

theorem parseList_agrees (list : block.list = true) (items : List Json) (lines : List (List Char)) :
    Agrees r entries.ofItems lost outer (entries.ofItems items + lines.length) (follow r false lost (block :: outer) lines)
      (parseList r block.indent items lines) := by
  induction lines generalizing items with
  | nil => exact ⟨Nat.zero_le _, 0, by simp, by simp [follow]⟩
  | cons line rest ih =>
    unfold parseList
    split
    next apart => exact ⟨by omega, 0, by simp, by simpa using follow_close apart⟩
    next same =>
      rw [not_not] at same
      have step : follow r false lost (block :: outer) (line :: rest) =
          match (itemOf r line).bind (parseScalar r) with
            | none => .refused
            | some _ => follow r false lost (block :: outer) rest := by
        rw [follow, placed_stay same]
        dsimp only [Except.bind, settle]
        rw [if_pos list]
        cases (itemOf r line).bind (parseScalar r) with
        | none => rfl
        | some item => simp
      rw [step]
      cases read : (itemOf r line).bind (parseScalar r) with
      | none => rfl
      | some item =>
        dsimp only
        have none' : entries item = 0 := by
          obtain ⟨text, _, scalar⟩ := Option.bind_eq_some_iff.mp read
          exact entries_scalar scalar
        have total : entries.ofItems items + (line :: rest).length = entries.ofItems (items ++ [item]) + rest.length := by
          rw [ofItems_append, List.length_cons]
          omega
        rw [total]
        exact ih (items ++ [item])

theorem Agrees.map {α β : Type} {size : α → Nat} {size' : β → Nat} {f : α → β} (same : ∀ a, size' (f a) = size a)
    {total : Nat} {fate : Fate} {parsed : Parsed α} (agrees : Agrees r size lost outer total fate parsed) :
    Agrees r size' lost outer total fate (parsed.map fun p => (f p.1, p.2)) := by
  cases parsed with
  | error e =>
    cases e with
    | valueError => exact agrees
    | recursionError => exact agrees
  | ok p =>
    obtain ⟨within, missing, sum, followed⟩ := agrees
    exact ⟨within, missing, by rw [same]; exact sum, followed⟩

/-- A block agrees where the mappings in it do. -/
theorem parseBlock_agrees {blocks : List Block} {room : Nat} {mapping : Nat → List (List Char) → Parsed (List (String × Json))}
    (further : ∀ block ∈ blocks.head?, block.indent < indentOf line) (depth : room = r.room - blocks.length)
    (agrees : room ≠ 0 → Agrees r entries.ofFields lost blocks (line :: rest).length
      (follow r false lost ({ list := false, indent := indentOf line } :: blocks) (line :: rest))
      (mapping (indentOf line) (line :: rest))) :
    Agrees r entries lost blocks (line :: rest).length (follow r true lost blocks (line :: rest))
      (parseBlock r room (indentOf line) mapping (line :: rest)) := by
  cases room with
  | zero =>
    have full : r.room ≤ blocks.length := by omega
    exact follow_full further full
  | succ room =>
    rw [follow_open further (by omega)]
    unfold parseBlock
    dsimp only
    rw [if_neg (Nat.lt_irrefl _)]
    split
    next item =>
      rw [item]
      have list := @parseList_agrees r lost { list := true, indent := indentOf line } blocks rfl [] (line :: rest)
      rw [entries.ofItems, Nat.zero_add] at list
      exact list.map (f := Json.arr) fun _ => rfl
    next entry =>
      rw [Bool.not_eq_true] at entry
      rw [entry]
      exact (agrees (Nat.succ_ne_zero room)).map (f := Json.obj) fun _ => rfl

/-- The entry of a line, with a value that some more lines are read for and miss something of. -/
theorem Agrees.entry {key : String} {value : Json} {fields : List (String × Json)} {within : List (List Char)} {missed : Nat}
    (sum : entries value + within.length + missed = rest.length) {fate : Fate} {parsed : Parsed (List (String × Json))}
    (agrees : Agrees r entries.ofFields (lost || (fields.lookup key).isSome || missed ≠ 0) outer
      (entries.ofFields (Dicts.set key value fields) + within.length) fate parsed) :
    Agrees r entries.ofFields lost outer (entries.ofFields fields + (line :: rest).length) fate parsed := by
  obtain ⟨excess, assigned, again⟩ := ofFields_set key value fields
  rcases parsed with e | ⟨result, after⟩
  · cases e with
    | valueError => exact agrees
    | recursionError => exact agrees
  · obtain ⟨shorter, missing, total, followed⟩ := agrees
    refine ⟨?_, missing + excess + missed, ?_, ?_⟩
    · rw [List.length_cons]
      omega
    · rw [List.length_cons]
      omega
    · have lost' : (lost || (fields.lookup key).isSome || decide (missed ≠ 0) || decide (missing ≠ 0)) =
          (lost || decide (missing + excess + missed ≠ 0)) := by
        rw [show (fields.lookup key).isSome = decide (excess ≠ 0) by
          rw [Bool.eq_iff_iff, decide_eq_true_eq]
          exact again.symm]
        cases lost with
        | true => rfl
        | false =>
          rw [Bool.eq_iff_iff]
          simp only [Bool.false_or, Bool.or_eq_true, decide_eq_true_eq]
          omega
      rw [followed, lost']

theorem parseMapping_agrees (fuel : Nat) {room : Nat} {block : Block} {outer : List Block} {lost : Bool}
    {fields : List (String × Json)} {lines : List (List Char)} (mapping : block.list = false) (enough : lines.length ≤ fuel)
    (keys : ∀ key, block.keys.contains key = (fields.lookup key).isSome) (depth : room = r.room - (outer.length + 1)) :
    Agrees r entries.ofFields lost outer (entries.ofFields fields + lines.length) (follow r false lost (block :: outer) lines)
      (parseMapping r fuel room block.indent fields lines) := by
  induction fuel generalizing room block outer lost fields lines with
  | zero =>
    have none' : lines = [] := List.length_eq_zero_iff.mp (Nat.le_zero.mp enough)
    rw [none']
    exact ⟨by simp, 0, by simp, by simp [follow]⟩
  | succ fuel ih =>
    cases lines with
    | nil => exact ⟨by simp, 0, by simp, by simp [follow]⟩
    | cons line rest =>
      unfold parseMapping
      split
      next apart => exact ⟨by omega, 0, by simp, by simpa using follow_close apart⟩
      next same =>
        rw [not_not] at same
        have enough : rest.length ≤ fuel := by simpa using enough
        split
        next refused =>
          show follow r false lost (block :: outer) (line :: rest) = .refused
          rw [follow, placed_stay same]
          simp [Except.bind, settle, mapping, refused]
        next key after read =>
          have step : follow r false lost (block :: outer) (line :: rest) =
              if after = [] then follow r true (lost || block.keys.contains key)
                ({ block with keys := key :: block.keys } :: outer) rest
              else match parseScalar r after with
                | none => .refused
                | some _ => follow r false (lost || block.keys.contains key)
                  ({ block with keys := key :: block.keys } :: outer) rest := by
            rw [follow, placed_stay same]
            dsimp only [Except.bind, settle]
            rw [mapping, read]
            by_cases bare : after = []
            · simp [bare]
            · cases scalar : parseScalar r after with
              | none => simp [bare, scalar]
              | some value => simp [bare, scalar]
          have keys' (key' : String) (value : Json) : ({ block with keys := key :: block.keys } : Block).keys.contains key' =
              ((Dicts.set key value fields).lookup key').isSome := by
            by_cases same : key' = key
            · simp [same]
            · have apart : (key' == key) = false := by simpa using same
              rw [Dicts.lookup_set_of_ne same, ← keys, List.contains_cons, apart, Bool.false_or]
          rw [step]
          by_cases bare : after = []
          · rw [if_pos bare, if_neg (not_not.mpr bare)]
            have single (shut : ∀ next ∈ rest.head?, indentOf next ≤ block.indent) :
                Agrees r entries.ofFields lost outer (entries.ofFields fields + (line :: rest).length)
                  (follow r true (lost || block.keys.contains key) ({ block with keys := key :: block.keys } :: outer) rest)
                  (parseMapping r fuel room block.indent (Dicts.set key .null fields) rest) := by
              have next := @ih room { block with keys := key :: block.keys } outer (lost || block.keys.contains key)
                (Dicts.set key .null fields) rest mapping enough (fun key' => keys' key' .null) depth
              rw [@follow_shut r _ { block with keys := key :: block.keys } outer rest shut]
              refine @Agrees.entry r lost outer line rest key .null fields rest 0 (by simp [entries]) _ _ ?_
              rw [← keys]
              simpa using next
            cases rest with
            | nil => exact single fun _ mem => by cases mem
            | cons first later =>
              dsimp only
              split
              next further =>
                have nested := @parseBlock_agrees r (lost || block.keys.contains key) first later
                  ({ block with keys := key :: block.keys } :: outer) room
                  (fun indent => parseMapping r fuel (room - 1) indent [])
                  (fun b same => Option.some.inj same ▸ further) depth fun _ => by
                    have inner := @ih (room - 1) { list := false, indent := indentOf first }
                      ({ block with keys := key :: block.keys } :: outer) (lost || block.keys.contains key) []
                      (first :: later) rfl enough (fun _ => rfl) (by rw [List.length_cons]; omega)
                    rw [entries.ofFields, Nat.zero_add] at inner
                    exact inner
                split
                next e failed =>
                  rw [failed] at nested
                  cases e with
                  | valueError => exact nested
                  | recursionError => exact nested
                next value after parsed =>
                  rw [parsed] at nested
                  obtain ⟨shorter, missed, sum, followed⟩ := nested
                  rw [followed]
                  refine @Agrees.entry r lost outer line (first :: later) key value fields after missed sum _ _ ?_
                  rw [← keys]
                  exact @ih room { block with keys := key :: block.keys } outer
                    (lost || block.keys.contains key || decide (missed ≠ 0)) (Dicts.set key value fields) after mapping
                    (Nat.le_trans shorter enough) (fun key' => keys' key' value) depth
              next within =>
                refine single fun next mem => ?_
                cases mem
                omega
          · rw [if_neg bare, if_pos bare]
            cases scalar : parseScalar r after with
            | none => rfl
            | some value =>
              dsimp only
              have next := @ih room { block with keys := key :: block.keys } outer (lost || block.keys.contains key)
                (Dicts.set key value fields) rest mapping enough (fun key' => keys' key' value) depth
              have alone : entries value + rest.length + 0 = rest.length := by
                rw [entries_scalar scalar]
                omega
              refine @Agrees.entry r lost outer line rest key value fields rest 0 alone _ _ ?_
              rw [← keys]
              simpa using next

/-- The value of some lines is what reading them one after another comes to. -/
theorem parseLines_follow (lines : List (List Char)) : match parseLines r lines with
    | .error .valueError => follow r true false [] lines = .refused
    | .error .recursionError => follow r true false [] lines = .tooDeep
    | .ok (value, rest) => ∃ missing, entries value + rest.length + missing = lines.length ∧
      follow r true false [] lines = if rest = [] then .read (missing ≠ 0) else .dropped := by
  cases lines with
  | nil => exact ⟨0, rfl, rfl⟩
  | cons first rest =>
    have agrees := @parseBlock_agrees r false first rest [] r.room
      (fun indent => parseMapping r (first :: rest).length (r.room - 1) indent []) (fun _ none' => by cases none')
      rfl fun _ => by
        have inner := @parseMapping_agrees r (first :: rest).length (r.room - 1) { list := false, indent := indentOf first } []
          false [] (first :: rest) rfl Nat.le.refl (fun _ => rfl) (by simp)
        rw [entries.ofFields, Nat.zero_add] at inner
        exact inner
    unfold parseLines
    dsimp only
    split
    next failed =>
      rw [failed] at agrees
      exact agrees
    next failed =>
      rw [failed] at agrees
      exact agrees
    next value after parsed =>
      rw [parsed] at agrees
      obtain ⟨_, missing, sum, followed⟩ := agrees
      refine ⟨missing, sum, ?_⟩
      rw [followed]
      cases after with
      | nil => simp [follow]
      | cons line later => simp [follow, placed, settle, Except.bind]

end

/-- The lines of a config are kept: it is refused, or its value is made of all of them, with an entry for each. -/
def KeepsLines (r : Reader) (text : String) : Prop :=
  parseMinimalYaml r text = .error .valueError ∨ ∃ value, parseLines r (cleanLines r text) = .ok (value, []) ∧
    entries value = (cleanLines r text).length

theorem keeps_lines_iff (r : Reader) (text : String) : KeepsLines r text ↔
    follow r true false [] (cleanLines r text) = .refused ∨ follow r true false [] (cleanLines r text) = .read false := by
  have followed := @parseLines_follow r (cleanLines r text)
  unfold KeepsLines parseMinimalYaml
  cases parsed : parseLines r (cleanLines r text) with
  | error e =>
    rw [parsed] at followed
    cases e with
    | valueError =>
      have refused : follow r true false [] (cleanLines r text) = .refused := followed
      exact iff_of_true (.inl rfl) (.inl refused)
    | recursionError =>
      have deep : follow r true false [] (cleanLines r text) = .tooDeep := followed
      rw [deep]
      simp [Except.map]
  | ok p =>
    obtain ⟨value, rest⟩ := p
    rw [parsed] at followed
    obtain ⟨missing, sum, fate⟩ := followed
    rw [fate]
    cases rest with
    | cons line later => simp [Except.map]
    | nil =>
      rw [if_pos rfl]
      constructor
      · rintro (failed | ⟨value', same, all⟩)
        · cases failed
        · cases same
          refine .inr (congrArg Fate.read ?_)
          rw [decide_eq_false_iff_not, not_not]
          rw [List.length_nil] at sum
          omega
      · rintro (failed | kept)
        · cases failed
        · have none' : missing = 0 := by simpa using kept
          refine .inr ⟨value, rfl, ?_⟩
          rw [List.length_nil] at sum
          omega

/-- A decimal number. -/
def decimal (cs : List Char) : Int :=
  let digits := if cs.head? = some '-' then cs.tail else cs
  let n := digits.foldl (fun n c => n * 10 + (c.toNat - '0'.toNat : Int)) 0
  if cs.head? = some '-' then -n else n

/-- A reader of ASCII. -/
def asciiReader : Reader where
  text := asciiText
  int cs := some (decimal cs)
  float := String.ofList
  loads _ := none
  room := 490

theorem kill_switch_dropped : ¬∀ text, KeepsLines asciiReader text := by
  intro keeps
  have two : ((parseLines asciiReader (cleanLines asciiReader "a: 1\n  b: 2\nkill_switch: true")).toOption.map
      fun p => p.2.length) = some 2 := by decide +kernel
  rcases keeps "a: 1\n  b: 2\nkill_switch: true" with failed | ⟨value, parsed, _⟩
  · unfold parseMinimalYaml at failed
    cases parsed : parseLines asciiReader (cleanLines asciiReader "a: 1\n  b: 2\nkill_switch: true") with
    | error e =>
      rw [parsed] at two
      cases two
    | ok p =>
      rw [parsed] at failed
      cases failed
  · rw [parsed] at two
    cases two

end AgentflowHermes.Config
