import AgentflowHermes.CursorLoops
import AgentflowHermes.MinimalYaml

namespace AgentflowHermes.Config

open CursorLoops

/-- How the parser ends without a value: by an exception of the source, or cut off after the steps that a run is given. -/
inductive Stop
  | valueError
  | recursionError
  | beforeStart
  | pastEnd
  | outOfSteps
  deriving DecidableEq

/-- A value with the index of the next line. -/
abbrev ParsedAt (α : Type) := Except Stop (α × Int)

/-- `lines[idx]`, which counts from the end below zero; `IndexError` on either side of the list. -/
def lineAt (lines : List (List Char)) (idx : Int) : Except Stop (List Char) :=
  if idx < -lines.length then .error .beforeStart
  else match lines[(if idx < 0 then idx + lines.length else idx).toNat]? with
    | some line => .ok line
    | none => .error .pastEnd

section

variable (r : Reader) (lines : List (List Char))

/-- The loop body of `_parse_list`. -/
def listEntryAt (indent : Int) (result : List Json) (idx : Int) : Except Stop (Option (List Json × Int)) :=
  match lineAt lines idx with
  | .error e => .error e
  | .ok line =>
    if indentOf line ≠ indent then .ok none
    else match (itemOf r line).bind (parseScalar r) with
      | none => .error .valueError
      | some item => .ok (some (result ++ [item], idx + 1))

/-- `_parse_list`. -/
def parseListAt (steps : Nat) (indent idx : Int) : ParsedAt (List Json) :=
  scan .outOfSteps lines.length (listEntryAt r lines indent) steps [] idx

/-- The loop body of `_parse_mapping`, with the blocks that may be nested in it. -/
def mappingEntryAt (block : Int → Int → ParsedAt Json) (indent : Int) (result : List (String × Json)) (idx : Int) :
    Except Stop (Option (List (String × Json) × Int)) :=
  match lineAt lines idx with
  | .error e => .error e
  | .ok line =>
    if indentOf line ≠ indent then .ok none
    else match entryOf r line with
      | none => .error .valueError
      | some (key, rest) =>
        if rest ≠ [] then match parseScalar r rest with
          | none => .error .valueError
          | some value => .ok (some (Dicts.set key value result, idx + 1))
        else if idx + 1 < lines.length then match lineAt lines (idx + 1) with
          | .error e => .error e
          | .ok next =>
            if indentOf line < indentOf next then match block (indentOf next) (idx + 1) with
              | .error e => .error e
              | .ok (value, idx) => .ok (some (Dicts.set key value result, idx))
            else .ok (some (Dicts.set key .null result, idx + 1))
        else .ok (some (Dicts.set key .null result, idx + 1))

/-- `_parse_block`; `room` counts the blocks that the interpreter can still have open, `steps` bounds every loop. -/
def parseBlockAt (steps : Nat) : Nat → Int → Int → ParsedAt Json
  | 0, _, _ => .error .recursionError
  | room + 1, indent, idx =>
    if idx < lines.length then match lineAt lines idx with
      | .error e => .error e
      | .ok first =>
        if indentOf first < indent then .ok (.obj [], idx)
        else if (itemOf r first).isSome then (parseListAt r lines steps (indentOf first) idx).map fun p => (.arr p.1, p.2)
        else (scan .outOfSteps lines.length (mappingEntryAt r lines (parseBlockAt steps room) (indentOf first)) steps [] idx).map
          fun p => (.obj p.1, p.2)
    else .ok (.obj [], idx)

/-- `_parse_mapping`. -/
def parseMappingAt (steps room : Nat) (indent idx : Int) : ParsedAt (List (String × Json)) :=
  scan .outOfSteps lines.length (mappingEntryAt r lines (parseBlockAt r lines steps room) indent) steps [] idx

end

variable {r : Reader} {lines : List (List Char)}

theorem lineAt_nat {n : Nat} : lineAt lines n = match lines[n]? with
    | some line => .ok line
    | none => .error .pastEnd := by
  unfold lineAt
  rw [if_neg (by omega), if_neg (by omega), Int.toNat_natCast]

theorem lineAt_get {n : Nat} (inside : n < lines.length) : lineAt lines n = .ok lines[n] := by
  rw [lineAt_nat, List.getElem?_eq_getElem inside]

/-- Below the end of the list a read fails only before its start. -/
theorem lineAt_fails {idx : Int} (inside : idx < lines.length) {e : Stop} (failed : lineAt lines idx = .error e) :
    e = .beforeStart ∧ idx < -lines.length := by
  unfold lineAt at failed
  split at failed
  next before =>
    cases failed
    exact ⟨rfl, before⟩
  next =>
    split at failed
    next => cases failed
    next missing =>
      rw [List.getElem?_eq_none_iff] at missing
      split at missing
      · omega
      · omega

theorem mappingEntryAt_entry {block : Int → Int → ParsedAt Json} {result : List (String × Json)} {n : Nat}
    (inside : n < lines.length) : mappingEntryAt r lines block (indentOf lines[n]) result n = match entryOf r lines[n] with
      | none => .error .valueError
      | some (key, rest) =>
        if rest ≠ [] then match parseScalar r rest with
          | none => .error .valueError
          | some value => .ok (some (Dicts.set key value result, (n + 1 : Nat)))
        else match lines[n + 1]? with
          | none => .ok (some (Dicts.set key .null result, (n + 1 : Nat)))
          | some next =>
            if indentOf lines[n] < indentOf next then match block (indentOf next) (n + 1 : Nat) with
              | .error e => .error e
              | .ok (value, idx) => .ok (some (Dicts.set key value result, idx))
            else .ok (some (Dicts.set key .null result, (n + 1 : Nat))) := by
  have onward : (n : Int) + 1 = (n + 1 : Nat) := by omega
  unfold mappingEntryAt
  rw [lineAt_get inside, onward]
  dsimp only
  rw [if_neg (not_not.mpr rfl)]
  cases entryOf r lines[n] with
  | none => rfl
  | some parts =>
    dsimp only
    by_cases more : n + 1 < lines.length
    · have more' : ((n + 1 : Nat) : Int) < lines.length := Int.ofNat_lt.mpr more
      rw [if_pos more', lineAt_get more, List.getElem?_eq_getElem more]
    · have more' : ¬ ((n + 1 : Nat) : Int) < lines.length := fun less => more (Int.ofNat_lt.mp less)
      rw [if_neg more', List.getElem?_eq_none (Nat.le_of_not_lt more)]

/-- The errors of the source that a run from an index may end with. -/
inductive Raises (lines : List (List Char)) (idx : Int) (deep : Prop) : Stop → Prop
  | value : Raises lines idx deep .valueError
  | recursion (given : deep) : Raises lines idx deep .recursionError
  | before (early : idx < -lines.length) : Raises lines idx deep .beforeStart

theorem Raises.earlier {start idx : Int} {deep deep' : Prop} {e : Stop} (raises : Raises lines idx deep e) (later : start ≤ idx)
    (deeper : deep → deep') : Raises lines start deep' e := by
  cases raises with
  | value => exact .value
  | recursion given => exact .recursion (deeper given)
  | before early => exact .before (by omega)

theorem lineAt_raises {idx : Int} {deep : Prop} (inside : idx < lines.length) {e : Stop} (failed : lineAt lines idx = .error e) :
    Raises lines idx deep e := by
  obtain ⟨rfl, early⟩ := lineAt_fails inside failed
  exact .before early

/-- The run gives an index from its own to the end of the lines, or one of the errors of the source. -/
def Within (lines : List (List Char)) (idx : Int) (deep : Prop) {α : Type} (outcome : ParsedAt α) : Prop :=
  match outcome with
  | .ok (_, stop) => idx ≤ stop ∧ stop ≤ max idx lines.length
  | .error e => Raises lines idx deep e

theorem Within.deeper {α : Type} {idx : Int} {deep deep' : Prop} {outcome : ParsedAt α} (within : Within lines idx deep outcome)
    (deeper : deep → deep') : Within lines idx deep' outcome := by
  cases outcome with
  | ok p => exact within
  | error e => exact Raises.earlier within (Int.le_refl _) deeper

theorem Within.map {α β : Type} {idx : Int} {deep : Prop} {outcome : ParsedAt α} {f : α → β}
    (within : Within lines idx deep outcome) : Within lines idx deep (outcome.map fun p => (f p.1, p.2)) := by
  cases outcome with
  | ok p => exact within
  | error e => exact within

/-- What a loop body does at an index: it breaks off, moves on, or fails. -/
def Advances (lines : List (List Char)) (idx : Int) (deep : Prop) {α : Type} (outcome : Except Stop (Option (α × Int))) : Prop :=
  match outcome with
  | .ok none => True
  | .ok (some (_, next)) => idx < next ∧ next ≤ lines.length
  | .error e => Raises lines idx deep e

section

variable {α : Type} {body : α → Int → Except Stop (Option (α × Int))} {idx : Int} {deep : Prop}
  (advances : ∀ s i, idx ≤ i → i < lines.length → Advances lines i deep (body s i))

include advances

theorem moves_of_advances : Moves lines.length idx body := by
  intro s i s' next below inside moved
  have step := advances s i below inside
  rw [moved] at step
  exact step

theorem scan_within {steps : Nat} (enough : (lines.length - idx).toNat < steps) (s : α) :
    Within lines idx deep (scan .outOfSteps lines.length body steps s idx) := by
  have moves := moves_of_advances advances
  cases ended : scan .outOfSteps lines.length body steps s idx with
  | ok p => exact scan_range moves ended
  | error e =>
    have fails : ∀ s i e, idx ≤ i → i < lines.length → body s i = .error e → Raises lines idx deep e := by
      intro s i e below inside failed
      have step := advances s i below inside
      rw [failed] at step
      exact step.earlier below id
    exact scan_fails moves fails enough ended

end

theorem listEntryAt_advances {indent idx : Int} (result : List Json) (inside : idx < lines.length) :
    Advances lines idx False (listEntryAt r lines indent result idx) := by
  unfold listEntryAt
  split
  next e failed => exact lineAt_raises inside failed
  next line read =>
    split
    next => trivial
    next =>
      split
      next => exact .value
      next => exact ⟨by omega, by omega⟩

theorem mappingEntryAt_advances {block : Int → Int → ParsedAt Json} {deep : Prop} {indent idx : Int}
    (result : List (String × Json)) (inside : idx < lines.length)
    (nested : ∀ indent, Within lines (idx + 1) deep (block indent (idx + 1))) :
    Advances lines idx deep (mappingEntryAt r lines block indent result idx) := by
  have onward : idx < idx + 1 ∧ idx + 1 ≤ lines.length := by omega
  unfold mappingEntryAt
  split
  next e failed => exact lineAt_raises inside failed
  next line read =>
    split
    next => trivial
    next =>
      split
      next => exact .value
      next key rest entry =>
        split
        next =>
          split
          next => exact .value
          next => exact onward
        next =>
          split
          next further =>
            split
            next e failed =>
              have raises : Raises lines (idx + 1) deep e := lineAt_raises further failed
              exact raises.earlier (Int.le_of_lt onward.1) id
            next next' read' =>
              split
              next =>
                have ends := nested (indentOf next')
                split
                next e failed =>
                  rw [failed] at ends
                  exact Raises.earlier ends (Int.le_of_lt onward.1) id
                next value stop ended =>
                  rw [ended] at ends
                  obtain ⟨after, before⟩ := ends
                  exact ⟨by omega, by omega⟩
              next => exact onward
          next => exact onward

theorem parseListAt_within {steps : Nat} {indent idx : Int} (enough : (lines.length - idx).toNat < steps) :
    Within lines idx False (parseListAt r lines steps indent idx) :=
  scan_within (fun result _ _ inside => listEntryAt_advances result inside) enough []

theorem parseMappingAt_within {steps room : Nat} {indent idx : Int} (enough : (lines.length - idx).toNat < steps)
    (nested : ∀ indent i, idx < i → Within lines i (room ≤ (lines.length - i).toNat) (parseBlockAt r lines steps room indent i)) :
    Within lines idx (room < (lines.length - idx).toNat) (parseMappingAt r lines steps room indent idx) := by
  refine scan_within (fun result i below inside => mappingEntryAt_advances result inside fun indent => ?_) enough []
  exact (nested indent (i + 1) (by omega)).deeper fun few => by omega

/-- A block nests no deeper than there are lines, whatever the interpreter has room for. -/
theorem parseBlockAt_within {steps room : Nat} {indent idx : Int} (enough : (lines.length - idx).toNat < steps) :
    Within lines idx (room ≤ (lines.length - idx).toNat) (parseBlockAt r lines steps room indent idx) := by
  induction room generalizing indent idx with
  | zero => exact .recursion (Nat.zero_le _)
  | succ room ih =>
    unfold parseBlockAt
    split
    next inside =>
      split
      next e failed => exact lineAt_raises inside failed
      next first read =>
        split
        next => exact ⟨Int.le_refl _, by omega⟩
        next =>
          split
          next => exact ((parseListAt_within enough).map (f := Json.arr)).deeper False.elim
          next =>
            have mapping := @parseMappingAt_within r lines steps room (indentOf first) idx enough fun indent i later =>
              ih (by omega)
            exact (mapping.map (f := Json.obj)).deeper id
    next => exact ⟨Int.le_refl _, by omega⟩

section

variable {Q : Prop} {e : Stop}

/-- Two bodies whose nested blocks end alike do so themselves. -/
theorem mappingEntryAt_alike {block block' : Int → Int → ParsedAt Json} {indent idx : Int} (result : List (String × Json))
    (alike : ∀ indent, block' indent (idx + 1) = block indent (idx + 1) ∨ (Q ∧ block' indent (idx + 1) = .error e)) :
    mappingEntryAt r lines block' indent result idx = mappingEntryAt r lines block indent result idx ∨
      (Q ∧ mappingEntryAt r lines block' indent result idx = .error e) := by
  unfold mappingEntryAt
  split
  next => exact .inl rfl
  next line read =>
    split
    next => exact .inl rfl
    next =>
      split
      next => exact .inl rfl
      next =>
        split
        next => exact .inl rfl
        next =>
          split
          next =>
            split
            next => exact .inl rfl
            next next' read' =>
              split
              next =>
                rcases alike (indentOf next') with same | ⟨given, failed⟩
                · rw [same]
                  exact .inl rfl
                · rw [failed]
                  exact .inr ⟨given, rfl⟩
              next => exact .inl rfl
          next => exact .inl rfl

theorem listEntryAt_moves {indent idx : Int} : Moves lines.length idx (listEntryAt r lines indent) :=
  moves_of_advances fun result _ _ inside => listEntryAt_advances result inside

theorem parseListAt_alike {steps steps' : Nat} {indent idx : Int} (enough : (lines.length - idx).toNat < steps)
    (enough' : (lines.length - idx).toNat < steps') : parseListAt r lines steps' indent idx = parseListAt r lines steps indent idx := by
  have alike : parseListAt r lines steps' indent idx = parseListAt r lines steps indent idx ∨
      (False ∧ parseListAt r lines steps' indent idx = .error .outOfSteps) :=
    scan_alike listEntryAt_moves (fun _ _ _ _ => .inl rfl) enough enough'
  exact alike.resolve_right fun never => never.1

end

theorem parseMappingAt_moves {steps room : Nat} {indent idx : Int} (enough : (lines.length - idx).toNat < steps) :
    Moves lines.length idx (mappingEntryAt r lines (parseBlockAt r lines steps room) indent) := by
  refine @moves_of_advances lines _ _ idx True fun result i below inside => ?_
  refine mappingEntryAt_advances result inside fun indent => ?_
  exact (parseBlockAt_within (by omega)).deeper fun _ => trivial

theorem parseMappingAt_alike {steps steps' room room' : Nat} {indent idx : Int} (enough : (lines.length - idx).toNat < steps)
    (enough' : (lines.length - idx).toNat < steps')
    (alike : ∀ indent i, idx < i → i ≤ lines.length →
      parseBlockAt r lines steps' room' indent i = parseBlockAt r lines steps room indent i ∨
        (room' ≤ (lines.length - i).toNat ∧ parseBlockAt r lines steps' room' indent i = .error .recursionError)) :
    parseMappingAt r lines steps' room' indent idx = parseMappingAt r lines steps room indent idx ∨
      (room' < (lines.length - idx).toNat ∧ parseMappingAt r lines steps' room' indent idx = .error .recursionError) := by
  refine scan_alike (parseMappingAt_moves enough) (fun result i below inside => ?_) enough enough'
  refine mappingEntryAt_alike result fun indent => ?_
  rcases alike indent (i + 1) (by omega) (by omega) with same | ⟨few, failed⟩
  · exact .inl same
  · exact .inr ⟨by omega, failed⟩

/-- Whatever steps and room a block is read with, it ends as with enough of both, or the interpreter has no room left. -/
theorem parseBlockAt_alike {steps steps' room room' : Nat} {indent idx : Int} (enough : (lines.length - idx).toNat < steps)
    (enough' : (lines.length - idx).toNat < steps') (deep : (lines.length - idx).toNat < room) :
    parseBlockAt r lines steps' room' indent idx = parseBlockAt r lines steps room indent idx ∨
      (room' ≤ (lines.length - idx).toNat ∧ parseBlockAt r lines steps' room' indent idx = .error .recursionError) := by
  induction room' generalizing room indent idx with
  | zero => exact .inr ⟨Nat.zero_le _, rfl⟩
  | succ room' ih =>
    obtain ⟨room, rfl⟩ : ∃ n, room = n + 1 := ⟨room - 1, by omega⟩
    unfold parseBlockAt
    split
    next inside =>
      split
      next => exact .inl rfl
      next first read =>
        split
        next => exact .inl rfl
        next =>
          split
          next =>
            rw [parseListAt_alike enough enough']
            exact .inl rfl
          next =>
            have mapping := @parseMappingAt_alike r lines steps steps' room room' (indentOf first) idx enough enough'
              fun indent i later inside => ih (by omega) (by omega) (by omega)
            rcases mapping with same | ⟨few, failed⟩
            · left
              exact congrArg (Except.map fun p => (Json.obj p.1, p.2)) same
            · right
              exact ⟨few, congrArg (Except.map fun p => (Json.obj p.1, p.2)) failed⟩
    next => exact .inl rfl

/-- The line at an index has an indent. -/
def OwnLine (lines : List (List Char)) (indent idx : Int) : Prop := ∃ line, lineAt lines idx = .ok line ∧ indentOf line = indent

theorem listEntryAt_own {indent idx : Int} (own : OwnLine lines indent idx) (result : List Json) :
    listEntryAt r lines indent result idx ≠ .ok none := by
  obtain ⟨line, read, same⟩ := own
  unfold listEntryAt
  rw [read]
  dsimp only
  rw [if_neg (by omega)]
  split
  next => nofun
  next => nofun

theorem mappingEntryAt_own {block : Int → Int → ParsedAt Json} {indent idx : Int} (own : OwnLine lines indent idx)
    (result : List (String × Json)) : mappingEntryAt r lines block indent result idx ≠ .ok none := by
  obtain ⟨line, read, same⟩ := own
  unfold mappingEntryAt
  rw [read]
  dsimp only
  rw [if_neg (by omega)]
  split
  next => nofun
  next =>
    split
    next =>
      split
      next => nofun
      next => nofun
    next =>
      split
      next =>
        split
        next => nofun
        next =>
          split
          next =>
            split
            next => nofun
            next => nofun
          next => nofun
      next => nofun

/-- A run ends in one way, whatever steps and room it is given, once the steps are more than the lines ahead and unless the room
is not: with an index from its start to the end of the lines, and behind a line of its own, or with an error that comes of a
line or of a start too far below zero. -/
def Ends (lines : List (List Char)) (idx : Int) (own : Prop) {α : Type} (run : Nat → Nat → ParsedAt α) : Prop :=
  ∃ outcome, (∀ steps room, (lines.length - idx).toNat < steps → run steps room = outcome ∨
      (room ≤ (lines.length - idx).toNat ∧ run steps room = .error .recursionError)) ∧
    match outcome with
    | .ok (_, stop) => idx ≤ stop ∧ stop ≤ max idx lines.length ∧ (own → idx < stop)
    | .error e => e = .valueError ∨ (e = .beforeStart ∧ idx < -lines.length)

theorem ends_of_alike {α : Type} {idx : Int} {own : Prop} {run : Nat → Nat → ParsedAt α} {steps room : Nat}
    (within : Within lines idx False (run steps room)) (moved : ∀ value stop, run steps room = .ok (value, stop) → own → idx < stop)
    (alike : ∀ steps' room', (lines.length - idx).toNat < steps' → run steps' room' = run steps room ∨
      (room' ≤ (lines.length - idx).toNat ∧ run steps' room' = .error .recursionError)) : Ends lines idx own run := by
  refine ⟨run steps room, alike, ?_⟩
  cases outcome : run steps room with
  | ok p =>
    rw [outcome] at within
    exact ⟨within.1, within.2, moved p.1 p.2 outcome⟩
  | error e =>
    rw [outcome] at within
    cases within with
    | value => exact .inl rfl
    | recursion never => exact never.elim
    | before early => exact .inr ⟨rfl, early⟩

theorem own_inside {indent idx : Int} (own : OwnLine lines indent idx) : idx < lines.length := by
  obtain ⟨line, read, -⟩ := own
  unfold lineAt at read
  split at read
  next => cases read
  next =>
    split at read
    next found =>
      obtain ⟨inside, -⟩ := List.getElem?_eq_some_iff.mp found
      split at inside
      · omega
      · omega
    next => cases read

theorem parse_ends (r : Reader) (lines : List (List Char)) (idx indent : Int) :
    Ends lines idx False (fun steps room => parseBlockAt r lines steps room indent idx) ∧
    Ends lines idx (OwnLine lines indent idx) (fun steps _ => parseListAt r lines steps indent idx) ∧
    Ends lines idx (OwnLine lines indent idx) (fun steps room => parseMappingAt r lines steps room indent idx) := by
  have enough : (lines.length - idx).toNat < (lines.length - idx).toNat + 1 := Nat.lt_succ_self _
  refine ⟨?_, ?_, ?_⟩
  · have within := @parseBlockAt_within r lines _ ((lines.length - idx).toNat + 1) indent idx enough
    have within : Within lines idx False _ := within.deeper fun few => by omega
    refine ends_of_alike within (fun _ _ _ => False.elim) fun steps room enough' => ?_
    exact parseBlockAt_alike enough enough' enough
  · have within := @parseListAt_within r lines _ indent idx enough
    refine @ends_of_alike _ _ _ _ _ _ 0 within (fun result stop ended own => ?_) fun steps room enough' => ?_
    · exact scan_moved listEntryAt_moves (own_inside own) (listEntryAt_own own []) ended
    · exact .inl (parseListAt_alike enough enough')
  · have within := @parseMappingAt_within r lines _ ((lines.length - idx).toNat + 1) indent idx enough
      fun indent i later => parseBlockAt_within (by omega)
    have within : Within lines idx False _ := within.deeper fun few => by omega
    refine ends_of_alike within (fun result stop ended own => ?_) fun steps room enough' => ?_
    · exact scan_moved (parseMappingAt_moves enough) (own_inside own) (mappingEntryAt_own own []) ended
    · have blocks := fun indent i (later : idx < i) (_ : i ≤ lines.length) =>
        @parseBlockAt_alike r lines ((lines.length - idx).toNat + 1) steps ((lines.length - idx).toNat + 1) room indent i
          (by omega) (by omega) (by omega)
      rcases parseMappingAt_alike enough enough' blocks with same | ⟨few, failed⟩
      · exact .inl same
      · exact .inr ⟨Nat.le_of_lt few, failed⟩

end AgentflowHermes.Config
