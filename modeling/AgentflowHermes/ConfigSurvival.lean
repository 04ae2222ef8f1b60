import AgentflowHermes.LoadedConfig
import Mathlib.Data.List.Induction

namespace AgentflowHermes.Config

open TextLines

/-! Numerals. -/

/-- The number that digits are. -/
def numeral (cs : List Char) : Nat := cs.foldl (fun n c => n * 10 + (c.toNat - '0'.toNat)) 0

def isNumeral (c : Char) : Bool := '0' ≤ c && c ≤ '9'

theorem numeral_append (cs : List Char) (d : Char) : numeral (cs ++ [d]) = numeral cs * 10 + (d.toNat - '0'.toNat) := by
  unfold numeral
  rw [List.foldl_append]
  rfl

theorem digit_range {d : Char} (digit : isNumeral d = true) : '0'.toNat ≤ d.toNat ∧ d.toNat ≤ '9'.toNat := by
  unfold isNumeral at digit
  simp only [Bool.and_eq_true, decide_eq_true_eq] at digit
  exact ⟨digit.1, digit.2⟩

theorem digitChar_digit {d : Char} (digit : isNumeral d = true) : (d.toNat - '0'.toNat).digitChar = d := by
  have range := digit_range digit
  have nine : '9'.toNat = 57 := rfl
  have zero : '0'.toNat = 48 := rfl
  rw [← Char.toNat_inj, Nat.toNat_digitChar_of_lt_ten (by omega)]
  omega

/-- Digits that begin with no zero are the numeral of their number. -/
theorem toDigits_numeral {cs : List Char} (given : cs ≠ []) (digits : ∀ d ∈ cs, isNumeral d = true)
    (first : cs.head? ≠ some '0') : Nat.toDigits 10 (numeral cs) = cs := by
  induction cs using List.reverseRecOn with
  | nil => exact absurd rfl given
  | append_singleton cs d ih =>
    have last := digits d (List.mem_append_right _ List.mem_cons_self)
    have range := digit_range last
    have nine : '9'.toNat = 57 := rfl
    have zero : '0'.toNat = 48 := rfl
    rw [numeral_append]
    by_cases empty : cs = []
    · subst empty
      have one : numeral [] * 10 + (d.toNat - '0'.toNat) = d.toNat - '0'.toNat := Nat.zero_add _
      rw [one, Nat.toDigits_of_lt_base (by omega), digitChar_digit last]
      rfl
    · obtain ⟨c, rest, rfl⟩ := List.exists_cons_of_ne_nil empty
      have earlier := ih (List.cons_ne_nil _ _) (fun e mem => digits e (List.mem_append_left _ mem)) first
      have positive : 0 < numeral (c :: rest) := by
        rcases Nat.eq_zero_or_pos (numeral (c :: rest)) with none' | positive
        · rw [none', Nat.toDigits_zero] at earlier
          rw [← earlier] at first
          exact absurd rfl first
        · exact positive
      have joined := Nat.toDigits_append_toDigits (b := 10) (d := d.toNat - '0'.toNat) (by decide) positive (by omega)
      rw [earlier, Nat.toDigits_of_lt_base (by omega), digitChar_digit last] at joined
      rw [Nat.mul_comm, ← joined]

/-- A numeral begins with a zero only where it is one. -/
theorem toDigits_head {n : Nat} (positive : 0 < n) : (Nat.toDigits 10 n).head? ≠ some '0' := by
  induction n using Nat.strongRecOn with
  | ind n ih =>
    by_cases small : n < 10
    · rw [Nat.toDigits_of_lt_base small, List.head?_cons]
      intro same
      have zero := Nat.digitChar_eq_zero.mp (Option.some.inj same)
      omega
    · rw [Nat.toDigits_of_base_le (by decide) (by omega), List.head?_append_of_ne_nil _ Nat.toDigits_ne_nil]
      exact ih (n / 10) (by omega) (by omega)

theorem decimal_numeral {cs : List Char} (digits : ∀ d ∈ cs, isNumeral d = true) : decimal cs = numeral cs := by
  have unsigned : cs.head? ≠ some '-' := by
    intro same
    exact absurd (digits '-' (List.mem_of_mem_head? same)) (by decide)
  have fold (acc : Nat) : cs.foldl (fun n c => n * 10 + (c.toNat - '0'.toNat : Int)) (acc : Int) =
      (cs.foldl (fun n c => n * 10 + (c.toNat - '0'.toNat)) acc : Nat) := by
    clear unsigned
    induction cs generalizing acc with
    | nil => rfl
    | cons c cs ih =>
      have range := digit_range (digits c List.mem_cons_self)
      have step : (acc : Int) * 10 + (c.toNat - '0'.toNat : Int) = (acc * 10 + (c.toNat - '0'.toNat) : Nat) := by omega
      rw [List.foldl_cons, List.foldl_cons, step]
      exact ih (fun d mem => digits d (List.mem_cons_of_mem _ mem)) _
  unfold decimal
  rw [if_neg unsigned, if_neg unsigned]
  exact fold 0

/-! Names that are read as the text that they are. -/

/-- A name whose text is the text of what it is read as. -/
structure Listed (r : Reader) (x : String) : Prop where
  yes : trueWords.contains (lowerText x.toList) = true → x = "True"
  no : falseWords.contains (lowerText x.toList) = true → x = "False"
  given : nullWords.contains (lowerText x.toList) = false
  whole : isInt r x.toList = true → x.toList.head? = some '0' → x = "0"
  real : isFloat r x.toList = true → r.float x.toList = x

/-- A name that is read as something besides, so that it is no default that stands for it. -/
def Plain (r : Reader) (x : String) : Prop := Listed r x ∧ x ≠ "False" ∧ x ≠ "0" ∧ x ≠ "0.0"

section

variable {r : Reader} (doc : Documented r) {x : String} (name : NameLike x.toList)

include doc name

theorem isInt_name : isInt r x.toList = true ↔ ∀ d ∈ x.toList, isNumeral d = true := by
  have all := name.all
  obtain ⟨c, rest, chars, letter, _⟩ := name
  have apart : ¬x.toList.head? = some '-' := by
    rw [chars]
    exact fun same => (isLetterOrDigit_seen letter).2.2.2.2 (Option.some.inj same)
  have given : x.toList.isEmpty = false := by rw [chars]; rfl
  rw [isInt, if_neg apart, isNumber, given, Bool.not_false, Bool.true_and, List.all_eq_true]
  have same : ∀ d ∈ x.toList, r.text.isDigit d = isNumeral d := fun d mem => doc.digit d (isIdentChar_seen (all d mem)).1
  constructor
  · intro digits d mem
    rw [← same d mem]
    exact digits d mem
  · intro digits d mem
    rw [same d mem]
    exact digits d mem

omit doc name in
theorem isFloat_point (real : isFloat r x.toList = true) : '.' ∈ x.toList := by
  unfold isFloat at real
  simp only [Bool.and_eq_true, beq_iff_eq] at real
  exact List.dropWhile_sublist _ |>.subset (List.mem_of_mem_head? real.1.2)

theorem isInt_whole (whole : isInt r x.toList = true) : isFloat r x.toList = false := by
  cases real : isFloat r x.toList with
  | false => rfl
  | true => exact absurd ((isInt_name doc name).mp whole '.' (isFloat_point real)) (by decide)

omit doc name in
theorem begins {cs : List Char} {d : Char} (first : cs.head? = some d) (other : isNumeral d = false) :
    ∀ c ∈ cs.head?, ('0' ≤ c && c ≤ '9') = false := by
  intro c mem
  rw [first] at mem
  rw [← Option.some.inj mem]
  exact other

/-- The numeral of a whole number is that number where no zero begins it. -/
theorem listed_whole (whole : isInt r x.toList = true) :
    r.text.str (.int (decimal x.toList)) = x ↔ (x.toList.head? = some '0' → x = "0") := by
  have digits := (isInt_name doc name).mp whole
  have given : x.toList ≠ [] := by
    obtain ⟨c, rest, chars, _⟩ := name
    rw [chars]
    exact List.cons_ne_nil _ _
  rw [decimal_numeral digits, doc.strInt, Nat.toString_eq_ofList_toDigits]
  constructor
  · intro same first
    rcases Nat.eq_zero_or_pos (numeral x.toList) with zero | positive
    · rw [← same, zero, Nat.toDigits_zero]
    · have chars : x.toList = Nat.toDigits 10 (numeral x.toList) := (congrArg String.toList same.symm).trans String.toList_ofList
      rw [chars] at first
      exact absurd first (toDigits_head positive)
  · intro canonical
    by_cases first : x.toList.head? = some '0'
    · rw [canonical first]
      rfl
    · rw [toDigits_numeral given digits first, String.ofList_toList]

/-- What a name is read as has its text where the name is listed. -/
theorem listed_iff : r.text.str (nameValue r x.toList) = x ↔ Listed r x := by
  unfold nameValue
  split
  next yes =>
    rw [doc.strBool]
    constructor
    · intro same
      obtain rfl : x = "True" := same.symm
      have numbers := name.noNumber doc (begins (by decide : "True".toList.head? = some 'T') (by decide))
      exact ⟨fun _ => rfl, fun no => absurd no (by decide), by decide, fun whole => absurd whole (by rw [numbers.1]; decide),
        fun real => absurd real (by rw [numbers.2]; decide)⟩
    · exact fun listed => (listed.yes yes).symm
  next notYes =>
    split
    next no =>
      rw [doc.strBool]
      constructor
      · intro same
        obtain rfl : x = "False" := same.symm
        have numbers := name.noNumber doc (begins (by decide : "False".toList.head? = some 'F') (by decide))
        exact ⟨fun yes => absurd yes (by decide), fun _ => rfl, by decide,
          fun whole => absurd whole (by rw [numbers.1]; decide), fun real => absurd real (by rw [numbers.2]; decide)⟩
      · exact fun listed => (listed.no no).symm
    next notNo =>
      split
      next empty =>
        rw [doc.strNull]
        constructor
        · rintro rfl
          exact absurd empty (by decide)
        · intro listed
          rw [listed.given] at empty
          cases empty
      next given =>
        have given' : nullWords.contains (lowerText x.toList) = false := by simpa using given
        split
        next whole =>
          rw [listed_whole doc name whole]
          have notReal := isInt_whole doc name whole
          constructor
          · exact fun canonical => ⟨fun yes => absurd yes notYes, fun no => absurd no notNo, given', fun _ => canonical,
              fun real => absurd real (by rw [notReal]; decide)⟩
          · exact fun listed => listed.whole whole
        next notWhole =>
          split
          next real =>
            rw [doc.strFloat]
            constructor
            · exact fun same => ⟨fun yes => absurd yes notYes, fun no => absurd no notNo, given',
                fun whole => absurd whole notWhole, fun _ => same⟩
            · exact fun listed => listed.real real
          next notReal =>
            rw [r.text.str_str, String.ofList_toList]
            exact iff_of_true rfl ⟨fun yes => absurd yes notYes, fun no => absurd no notNo, given',
              fun whole => absurd whole notWhole, fun real => absurd real notReal⟩

/-- A listed name stands for a default only where it is false or a zero. -/
theorem listed_truthy (listed : Listed r x) : (nameValue r x.toList).truthy = true ↔ x ≠ "False" ∧ x ≠ "0" ∧ x ≠ "0.0" := by
  constructor
  · intro truthy
    refine ⟨?_, ?_, ?_⟩
    · rintro rfl
      unfold nameValue at truthy
      rw [if_neg (by decide), if_pos (by decide)] at truthy
      cases truthy
    · rintro rfl
      have whole : isInt r "0".toList = true := (isInt_name doc name).mpr (List.all_eq_true.mp (by decide))
      unfold nameValue at truthy
      rw [if_neg (by decide), if_neg (by decide), if_neg (by decide), if_pos whole] at truthy
      exact absurd truthy (by decide)
    · rintro rfl
      have zero : r.text.isDigit '0' = true := (doc.digit '0' (by decide)).trans (by decide)
      have point : r.text.isDigit '.' = false := (doc.digit '.' (by decide)).trans (by decide)
      have chars : "0.0".toList = ['0', '.', '0'] := String.toList_ofList
      have real : isFloat r "0.0".toList = true := by
        rw [chars]
        simp [isFloat, isInt, isNumber, zero]
      have notWhole : isInt r "0.0".toList = false := by
        rw [chars]
        simp [isInt, isNumber, point]
      unfold nameValue at truthy
      rw [if_neg (by decide), if_neg (by decide), if_neg (by decide), notWhole, if_neg (by decide), if_pos real,
        listed.real real] at truthy
      exact absurd truthy (by decide)
  · rintro ⟨notFalse, notZero, notReal⟩
    have read := (listed_iff doc name).mpr listed
    obtain ⟨c, rest, chars, letter, _⟩ := name
    unfold nameValue at read ⊢
    split
    next yes => rfl
    next notYes =>
      split
      next no => exact absurd (listed.no no) notFalse
      next notNo =>
        split
        next empty =>
          rw [listed.given] at empty
          cases empty
        next given =>
          split
          next whole =>
            rw [if_neg notYes, if_neg notNo, if_neg given, if_pos whole] at read
            have other : decimal x.toList ≠ 0 := by
              intro zero
              rw [zero] at read
              have numeral := doc.strInt 0
              rw [← read] at notZero
              exact notZero numeral
            simpa [Json.truthy] using other
          next notWhole =>
            split
            next real =>
              rw [listed.real real]
              have positive : x ≠ "-0.0" := by
                rintro rfl
                have dash : "-0.0".toList = ['-', '0', '.', '0'] := String.toList_ofList
                rw [dash] at chars
                rw [← (List.cons.inj chars).1] at letter
                exact absurd letter (by decide)
              simp [Json.truthy, notReal, positive]
            next notReal =>
              have given : x ≠ "" := by
                rintro rfl
                cases chars
              rw [String.ofList_toList]
              simpa [Json.truthy] using given

/-- A name that stands where a default could. -/
theorem plain_iff : r.text.strOr (some (nameValue r x.toList)) "" = x ↔ Plain r x := by
  have given : x ≠ "" := by
    obtain ⟨c, rest, chars, _⟩ := name
    rintro rfl
    cases chars
  unfold PyText.strOr Plain
  dsimp only
  split
  next truthy =>
    rw [listed_iff doc name]
    exact ⟨fun listed => ⟨listed, (listed_truthy doc name listed).mp truthy⟩, fun plain => plain.1⟩
  next falsy =>
    constructor
    · exact fun empty => absurd empty.symm given
    · exact fun plain => absurd ((listed_truthy doc name plain.1).mpr plain.2) falsy

end

/-! What is read of lines is of one line each. -/

theorem map_ok {ε α β : Type} {x : Except ε α} {f : α → β} {b : β} (h : x.map f = .ok b) : ∃ a, x = .ok a ∧ f a = b := by
  cases x with
  | error e => cases h
  | ok a => exact ⟨a, rfl, Except.ok.inj h⟩

/-- A value whose texts are of one line each. -/
inductive OneLine : Json → Prop
  | str {s : String} : Unbroken s → OneLine (.str s)
  | float {f : String} : Unbroken f → OneLine (.float f)
  | null : OneLine .null
  | bool {b : Bool} : OneLine (.bool b)
  | int {n : Int} : OneLine (.int n)
  | arr {items : List Json} : OneLine (.arr items)
  | obj {fields : List (String × Json)} : (∀ f ∈ fields, OneLine f.2) → OneLine (.obj fields)

/-- Lines without a line break. -/
def Whole (lines : List (List Char)) : Prop := ∀ line ∈ lines, ∀ c ∈ line, lineBreak c = false

theorem mem_uncommented {c before : Char} {single double : Bool} {cs : List Char}
    (mem : c ∈ uncommented single double before cs) : c ∈ cs := by
  induction cs generalizing single double before with
  | nil => exact mem
  | cons d cs ih =>
    rw [uncommented] at mem
    split at mem
    · exact (List.mem_cons.mp mem).elim (fun same => same ▸ List.mem_cons_self) fun later => List.mem_cons_of_mem _ (ih later)
    · split at mem
      · exact (List.mem_cons.mp mem).elim (fun same => same ▸ List.mem_cons_self) fun later => List.mem_cons_of_mem _ (ih later)
      · split at mem
        · cases mem
        · exact (List.mem_cons.mp mem).elim (fun same => same ▸ List.mem_cons_self) fun later =>
            List.mem_cons_of_mem _ (ih later)

section

variable {r : Reader} (doc : Documented r)

theorem cleanLines_whole (text : String) : Whole (cleanLines r text) := by
  intro line mem c given
  obtain ⟨raw, there, cleaned⟩ := List.mem_filterMap.mp mem
  refine splitlines_plain raw there c ?_
  unfold cleanLine at cleaned
  dsimp only at cleaned
  split at cleaned
  · cases cleaned
  · split at cleaned
    · cases cleaned
    · obtain rfl := Option.some.inj cleaned
      exact mem_rstrip (mem_uncommented (mem_rstrip given))

theorem parseList_rest {n : Nat} {lines rest : List (List Char)} {result items : List Json}
    (read : parseList r n result lines = .ok (items, rest)) : rest ⊆ lines := by
  induction lines generalizing result with
  | nil =>
    cases read
    exact List.Subset.refl _
  | cons line lines ih =>
    rw [parseList] at read
    split at read
    · cases read
      exact List.Subset.refl _
    · split at read
      · cases read
      · exact fun other mem => List.mem_cons_of_mem _ (ih read mem)

theorem entryOf_mem {line after : List Char} {key : String} (entry : entryOf r line = some (key, after)) : after ⊆ line := by
  unfold entryOf at entry
  dsimp only at entry
  split at entry
  · obtain ⟨_, rfl⟩ := Prod.mk.inj (Option.some.inj entry)
    exact fun c mem => mem_strip ((List.dropWhile_sublist _).subset (List.mem_of_mem_tail (mem_strip mem)))
  · cases entry

include doc

theorem text_unbroken {value : Json} (oneLine : OneLine value) : Unbroken (r.text.str value) := by
  cases oneLine with
  | str plain => rwa [r.text.str_str]
  | float plain => rwa [doc.strFloat]
  | null => exact doc.strOther _ (fun _ other => nomatch other) (fun _ other => nomatch other)
  | bool => exact doc.strOther _ (fun _ other => nomatch other) (fun _ other => nomatch other)
  | int => exact doc.strOther _ (fun _ other => nomatch other) (fun _ other => nomatch other)
  | arr => exact doc.strOther _ (fun _ other => nomatch other) (fun _ other => nomatch other)
  | obj fields => exact doc.strOther _ (fun _ other => nomatch other) (fun _ other => nomatch other)

theorem parseScalar_oneLine {cs : List Char} (plain : ∀ c ∈ cs, lineBreak c = false) {value : Json}
    (read : parseScalar r cs = some value) : OneLine value := by
  have kept : ∀ c ∈ strip r.text.isSpace cs, lineBreak c = false := fun c mem => plain c (mem_strip mem)
  unfold parseScalar at read
  dsimp only at read
  split at read
  · obtain rfl := Option.some.inj read
    refine .str fun c mem => kept c ?_
    rw [String.toList_ofList] at mem
    exact List.mem_of_mem_tail ((List.dropLast_sublist _).subset mem)
  · split at read
    · obtain rfl := Option.some.inj read
      exact .bool
    · split at read
      · obtain rfl := Option.some.inj read
        exact .bool
      · split at read
        · obtain rfl := Option.some.inj read
          exact .null
        · split at read
          · obtain ⟨n, _, rfl⟩ := Option.map_eq_some_iff.mp read
            exact .int
          · split at read
            next real =>
              obtain rfl := Option.some.inj read
              exact .float (doc.float _ real)
            next =>
              obtain rfl := Option.some.inj read
              exact .str fun c mem => kept c (by rwa [String.toList_ofList] at mem)

omit doc in
theorem parseBlock_oneLine {room n : Nat} {mapping : Nat → List (List Char) → Parsed (List (String × Json))}
    (nested : ∀ {n lines out rest}, Whole lines → mapping n lines = .ok (out, rest) → (∀ f ∈ out, OneLine f.2) ∧ Whole rest)
    {lines rest : List (List Char)} {value : Json} (whole : Whole lines)
    (read : parseBlock r room n mapping lines = .ok (value, rest)) : OneLine value ∧ Whole rest := by
  have empty : OneLine (.obj []) := .obj fun _ none' => absurd none' List.not_mem_nil
  unfold parseBlock at read
  split at read
  · cases read
  · cases read
    exact ⟨empty, whole⟩
  · split at read
    · cases read
      exact ⟨empty, whole⟩
    · split at read
      · obtain ⟨⟨items, others⟩, list, same⟩ := map_ok read
        cases same
        exact ⟨.arr, fun line mem => whole line (parseList_rest list mem)⟩
      · obtain ⟨⟨inner, others⟩, mapped, same⟩ := map_ok read
        cases same
        exact (nested whole mapped).imp .obj id

theorem parseMapping_oneLine {fuel room n : Nat} {fields out : List (String × Json)} {lines rest : List (List Char)}
    (whole : Whole lines) (before : ∀ f ∈ fields, OneLine f.2)
    (read : parseMapping r fuel room n fields lines = .ok (out, rest)) : (∀ f ∈ out, OneLine f.2) ∧ Whole rest := by
  have set {key : String} {value : Json} {fields : List (String × Json)} (oneLine : OneLine value)
      (before : ∀ f ∈ fields, OneLine f.2) : ∀ f ∈ Dicts.set key value fields, OneLine f.2 := by
    intro f mem
    rcases Dicts.mem_set mem with rfl | mem
    · exact oneLine
    · exact before f mem
  induction fuel generalizing room n fields lines out rest with
  | zero =>
    rw [parseMapping] at read
    cases read
    exact ⟨before, whole⟩
  | succ fuel ih =>
    cases lines with
    | nil =>
      rw [parseMapping] at read
      cases read
      exact ⟨before, whole⟩
    | cons line lines =>
      have later : Whole lines := fun other mem => whole other (List.mem_cons_of_mem _ mem)
      rw [parseMapping] at read
      split at read
      · cases read
        exact ⟨before, whole⟩
      · cases entry : entryOf r line with
        | none =>
          rw [entry] at read
          cases read
        | some found =>
          obtain ⟨key, after⟩ := found
          rw [entry] at read
          dsimp only at read
          split at read
          · cases scalar : parseScalar r after with
            | none =>
              rw [scalar] at read
              cases read
            | some value =>
              rw [scalar] at read
              have plain : ∀ c ∈ after, lineBreak c = false := fun c mem => whole line List.mem_cons_self c (entryOf_mem entry mem)
              exact ih later (set (parseScalar_oneLine doc plain scalar) before) read
          · split at read
            next next' others =>
              split at read
              · cases block : parseBlock r room (indentOf next') (fun n => parseMapping r fuel (room - 1) n [])
                    (next' :: others) with
                | error e =>
                  rw [block] at read
                  cases read
                | ok parsed =>
                  obtain ⟨value, beyond⟩ := parsed
                  rw [block] at read
                  have nested := parseBlock_oneLine (fun whole read => ih whole (fun _ none' => absurd none' List.not_mem_nil) read)
                    later block
                  exact ih nested.2 (set nested.1 before) read
              · exact ih later (set .null before) read
            next => exact ih later (set .null before) read

/-- What a text is read as. -/
theorem parsed_oneLine {text : String} {value : Json} (read : parseMinimalYaml r text = .ok value) : OneLine value := by
  have whole := cleanLines_whole (r := r) text
  obtain ⟨⟨parsed, rest⟩, lines, rfl⟩ := map_ok read
  unfold parseLines at lines
  cases given : cleanLines r text with
  | nil =>
    rw [given] at lines
    cases lines
    exact .obj fun _ none' => absurd none' List.not_mem_nil
  | cons line others =>
    rw [given] at lines whole
    exact (parseBlock_oneLine (fun whole read => parseMapping_oneLine doc whole (fun _ none' => absurd none' List.not_mem_nil) read)
      whole lines).1

end

end AgentflowHermes.Config
