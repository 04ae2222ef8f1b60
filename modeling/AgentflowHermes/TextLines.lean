import Mathlib.Data.List.Basic
import Mathlib.Data.List.DropRight
import Mathlib.Data.List.Flatten
import Mathlib.Data.List.TakeWhile

namespace TextLines

/-- The characters that end a line, besides the two that end one together. -/
def lineBreak (c : Char) : Bool :=
  ['\n', '\r', '\x0b', '\x0c', '\x1c', '\x1d', '\x1e', '\x85', '\u2028', '\u2029'].contains c

/-- The lines of a text, without what ends them. -/
def splitlines : List Char → List (List Char)
  | [] => []
  | '\r' :: '\n' :: cs => [] :: splitlines cs
  | c :: cs =>
    if lineBreak c then [] :: splitlines cs
    else match splitlines cs with
      | [] => [[c]]
      | line :: lines => (c :: line) :: lines

theorem splitlines_cons {c : Char} {cs : List Char} (plain : lineBreak c = false) :
    splitlines (c :: cs) = match splitlines cs with
      | [] => [[c]]
      | line :: lines => (c :: line) :: lines := by
  have feed : c ≠ '\r' := by
    rintro rfl
    exact absurd plain (by decide)
  rw [splitlines.eq_3 c cs (fun _ same _ => feed same), if_neg (by rw [plain]; decide)]

/-- A line that is ended by a newline. -/
theorem splitlines_line {line rest : List Char} (plain : ∀ c ∈ line, lineBreak c = false) :
    splitlines (line ++ '\n' :: rest) = line :: splitlines rest := by
  induction line with
  | nil => rfl
  | cons c line ih =>
    rw [List.cons_append, splitlines_cons (plain c List.mem_cons_self), ih fun d mem => plain d (List.mem_cons_of_mem _ mem)]

/-- Lines that are joined by newlines and end in one. -/
theorem splitlines_intercalate {lines : List (List Char)} (plain : ∀ line ∈ lines, ∀ c ∈ line, lineBreak c = false) :
    splitlines (['\n'].intercalate (lines ++ [[]])) = lines := by
  induction lines with
  | nil => rfl
  | cons line lines ih =>
    have joined : ['\n'].intercalate ((line :: lines) ++ [[]]) = line ++ '\n' :: ['\n'].intercalate (lines ++ [[]]) := by
      cases lines with
      | nil => simp [List.intercalate]
      | cons next lines => simp [List.intercalate]
    rw [joined, splitlines_line (plain line List.mem_cons_self), ih fun other mem => plain other (List.mem_cons_of_mem _ mem)]

theorem splitlines_ne_nil {c : Char} {cs : List Char} : splitlines (c :: cs) ≠ [] := by
  intro none'
  unfold splitlines at none'
  split at none'
  next empty => cases empty
  next => cases none'
  next =>
    split at none'
    next => cases none'
    next =>
      split at none'
      next => cases none'
      next => cases none'

/-- Text after an ended line has its own lines, as it does not go on with what ended that line. -/
theorem splitlines_append {closed more : List Char} (ended : ∀ c ∈ closed.getLast?, lineBreak c = true)
    (start : more.head? ≠ some '\n') : splitlines (closed ++ more) = splitlines closed ++ splitlines more := by
  induction closed using splitlines.induct with
  | case1 => rfl
  | case2 cs ih =>
    have ended' : ∀ c ∈ cs.getLast?, lineBreak c = true := by
      cases cs with
      | nil => simp
      | cons d cs => simpa using ended
    rw [List.cons_append, List.cons_append, splitlines.eq_2, splitlines.eq_2, ih ended', List.cons_append]
  | case3 c cs other broken ih =>
    have ended' : ∀ c ∈ cs.getLast?, lineBreak c = true := by
      cases cs with
      | nil => simp
      | cons d cs => simpa using ended
    have other' : ∀ rest, c = '\r' → cs ++ more = '\n' :: rest → False := by
      intro rest feed same
      cases cs with
      | nil => exact start (by rw [← List.nil_append more, same, List.head?_cons])
      | cons d cs =>
        rw [List.cons_append, List.cons.injEq] at same
        exact other cs feed (by rw [same.1])
    rw [List.cons_append, splitlines.eq_3 c _ other', splitlines.eq_3 c cs other, if_pos broken, if_pos broken, ih ended',
      List.cons_append]
  | case4 c cs other unbroken rest ih =>
    cases cs with
    | nil => exact absurd (ended c rfl) unbroken
    | cons d cs => exact absurd rest splitlines_ne_nil
  | case5 c cs other unbroken first lines rest ih =>
    have plain : lineBreak c = false := by simpa using unbroken
    cases cs with
    | nil => exact absurd (ended c rfl) unbroken
    | cons d cs =>
      have ended' : ∀ c ∈ (d :: cs).getLast?, lineBreak c = true := by simpa using ended
      have whole := ih ended'
      rw [rest] at whole
      rw [List.cons_append, splitlines_cons plain, whole, splitlines_cons plain, rest]
      rfl

/-- What stands before the first line of a text is on that line. -/
theorem splitlines_glue {head text line : List Char} {lines : List (List Char)}
    (plain : ∀ c ∈ head, lineBreak c = false) (rest : splitlines text = line :: lines) :
    splitlines (head ++ text) = (head ++ line) :: lines := by
  induction head with
  | nil => exact rest
  | cons c head ih =>
    rw [List.cons_append, splitlines_cons (plain c List.mem_cons_self), ih fun d mem => plain d (List.mem_cons_of_mem _ mem)]
    rfl

/-- A text on one line. -/
theorem splitlines_single {c : Char} {cs : List Char} (plain : ∀ d ∈ c :: cs, lineBreak d = false) :
    splitlines (c :: cs) = [c :: cs] := by
  induction cs generalizing c with
  | nil =>
    rw [splitlines_cons (plain c List.mem_cons_self)]
    rfl
  | cons d cs ih =>
    rw [splitlines_cons (plain c List.mem_cons_self), ih fun e mem => plain e (List.mem_cons_of_mem _ mem)]

/-- No line has a character that ends one. -/
theorem splitlines_plain {text : List Char} : ∀ line ∈ splitlines text, ∀ c ∈ line, lineBreak c = false := by
  induction text using splitlines.induct with
  | case1 => simp [splitlines]
  | case2 cs ih =>
    intro line mem
    rw [splitlines.eq_2, List.mem_cons] at mem
    rcases mem with rfl | mem
    · exact fun _ none' => absurd none' List.not_mem_nil
    · exact ih line mem
  | case3 c cs other broken ih =>
    intro line mem
    rw [splitlines.eq_3 c cs other, if_pos broken, List.mem_cons] at mem
    rcases mem with rfl | mem
    · exact fun _ none' => absurd none' List.not_mem_nil
    · exact ih line mem
  | case4 c cs other unbroken rest ih =>
    intro line mem
    have plain : lineBreak c = false := by simpa using unbroken
    rw [splitlines_cons plain, rest] at mem
    rw [List.mem_singleton.mp mem]
    exact fun d one => List.mem_singleton.mp one ▸ plain
  | case5 c cs other unbroken first lines rest ih =>
    intro line mem
    have plain : lineBreak c = false := by simpa using unbroken
    rw [splitlines_cons plain, rest] at mem
    rw [rest] at ih
    rcases List.mem_cons.mp mem with rfl | mem
    · intro d one
      rcases List.mem_cons.mp one with rfl | one
      · exact plain
      · exact ih first List.mem_cons_self d one
    · exact ih line (List.mem_cons_of_mem _ mem)

/-! Text without the characters at its ends. -/

def rstrip (p : Char → Bool) (cs : List Char) : List Char := (cs.reverse.dropWhile p).reverse

def strip (p : Char → Bool) (cs : List Char) : List Char := rstrip p (cs.dropWhile p)

theorem rstrip_tight {p : Char → Bool} {cs : List Char} (last : ∀ c ∈ cs.getLast?, p c = false) : rstrip p cs = cs := by
  unfold rstrip
  have kept : cs.reverse.dropWhile p = cs.reverse := by
    cases rev : cs.reverse with
    | nil => rfl
    | cons c rest =>
      have head : cs.getLast? = some c := by rw [← List.head?_reverse, rev, List.head?_cons]
      rw [List.dropWhile_cons_of_neg]
      rw [last c head]
      decide
  rw [kept, List.reverse_reverse]

/-- What begins with something goes on to. -/
theorem rstrip_cons {p : Char → Bool} {c : Char} (solid : p c = false) (cs : List Char) :
    rstrip p (c :: cs) = c :: rstrip p cs := by
  unfold rstrip
  rw [List.reverse_cons, List.dropWhile_append]
  split
  next empty =>
    rw [List.isEmpty_iff.mp empty, List.dropWhile_cons_of_neg (by rw [solid]; decide)]
    rfl
  · rw [List.reverse_append]
    rfl

theorem rstrip_append {p : Char → Bool} {cs : List Char} (solid : ∀ c ∈ cs, p c = false) (rest : List Char) :
    rstrip p (cs ++ rest) = cs ++ rstrip p rest := by
  induction cs with
  | nil => rfl
  | cons c cs ih =>
    rw [List.cons_append, rstrip_cons (solid c List.mem_cons_self), ih fun d mem => solid d (List.mem_cons_of_mem _ mem),
      List.cons_append]

theorem strip_tight {p : Char → Bool} {cs : List Char} (first : ∀ c ∈ cs.head?, p c = false)
    (last : ∀ c ∈ cs.getLast?, p c = false) : strip p cs = cs := by
  unfold strip
  have kept : cs.dropWhile p = cs := by
    cases cs with
    | nil => rfl
    | cons c rest =>
      rw [List.dropWhile_cons_of_neg]
      rw [first c rfl]
      decide
  rw [kept, rstrip_tight last]

theorem mem_rstrip {p : Char → Bool} {c : Char} {cs : List Char} (mem : c ∈ rstrip p cs) : c ∈ cs :=
  List.mem_reverse.mp ((List.dropWhile_sublist p).subset (List.mem_reverse.mp mem))

theorem mem_strip {p : Char → Bool} {c : Char} {cs : List Char} (mem : c ∈ strip p cs) : c ∈ cs :=
  (List.dropWhile_sublist p).subset (mem_rstrip mem)

/-- The end that is cut off, and what is left. -/
theorem rstrip_split (p : Char → Bool) (cs : List Char) :
    (∃ blanks, cs = rstrip p cs ++ blanks ∧ ∀ c ∈ blanks, p c = true) ∧ ∀ c ∈ (rstrip p cs).getLast?, p c = false := by
  unfold rstrip
  constructor
  · refine ⟨(cs.reverse.takeWhile p).reverse, ?_, fun c mem => ?_⟩
    · rw [← List.reverse_append, List.takeWhile_append_dropWhile, List.reverse_reverse]
    · exact List.mem_takeWhile_imp (List.mem_reverse.mp mem)
  · intro c mem
    rw [List.getLast?_reverse] at mem
    have stopped := List.head?_dropWhile_not p cs.reverse
    rw [mem] at stopped
    simpa using stopped

theorem rstrip_blanks {p : Char → Bool} {cs blanks : List Char} (blank : ∀ c ∈ blanks, p c = true) :
    rstrip p (cs ++ blanks) = rstrip p cs := by
  unfold rstrip
  rw [List.reverse_append, List.dropWhile_append_of_pos fun c mem => blank c (List.mem_reverse.mp mem)]

theorem strip_rstrip (p : Char → Bool) (cs : List Char) : strip p (rstrip p cs) = strip p cs := by
  obtain ⟨⟨blanks, split, blank⟩, last⟩ := rstrip_split p cs
  unfold strip
  cases kept : rstrip p cs with
  | nil =>
    rw [kept, List.nil_append] at split
    rw [split, List.dropWhile_eq_nil_iff.mpr fun c mem => blank c mem]
    rfl
  | cons c rest =>
    have other : (c :: rest).dropWhile p ≠ [] := by
      intro empty
      obtain ⟨d, end'⟩ : ∃ d, (c :: rest).getLast? = some d := ⟨_, List.getLast?_eq_some_getLast (List.cons_ne_nil c rest)⟩
      have solid := last d (kept ▸ end')
      rw [List.dropWhile_eq_nil_iff.mp empty d (List.mem_of_getLast? end')] at solid
      cases solid
    have whole : cs.dropWhile p = (c :: rest).dropWhile p ++ blanks := by
      rw [split, kept, List.dropWhile_append, if_neg (by simpa using other)]
    rw [whole, rstrip_blanks blank]

theorem strip_blanks {p : Char → Bool} {cs blanks : List Char} (blank : ∀ c ∈ blanks, p c = true) :
    strip p (cs ++ blanks) = strip p cs := by
  rw [← strip_rstrip, rstrip_blanks blank, strip_rstrip]

/-- Nothing is left of a text of blanks only. -/
theorem strip_eq_nil_iff {p : Char → Bool} {cs : List Char} : strip p cs = [] ↔ ∀ c ∈ cs, p c = true := by
  constructor
  · intro empty c mem
    obtain ⟨⟨blanks, split, blank⟩, _⟩ := rstrip_split p (cs.dropWhile p)
    rw [show rstrip p (cs.dropWhile p) = [] from empty, List.nil_append] at split
    rw [← List.takeWhile_append_dropWhile (p := p) (l := cs), split, List.mem_append] at mem
    exact mem.elim List.mem_takeWhile_imp (blank c)
  · intro blank
    have none' : cs.dropWhile p = [] := List.dropWhile_eq_nil_iff.mpr blank
    unfold strip
    rw [none']
    rfl

theorem strip_dropWhile (p : Char → Bool) (cs : List Char) : strip p (cs.dropWhile p) = strip p cs := by
  unfold strip
  rw [List.dropWhile_idempotent]

end TextLines

namespace JoinedParts

variable {α : Type} [BEq α] [LawfulBEq α] {sep : α} {ps qs : List (List α)}

/-- What a separator cuts the parts of a list into. -/
def pieces (sep : α) (ps : List (List α)) : List (List α) := ps.flatMap fun p => p.splitOn sep

/-- A text whose parts a separator joins is cut where the parts are. -/
theorem splitOn_join (some : ps ≠ []) : ([sep].intercalate ps).splitOn sep = pieces sep ps := by
  induction ps with
  | nil => exact absurd rfl some
  | cons p rest ih =>
    unfold pieces at ih ⊢
    rw [List.flatMap_cons]
    cases rest with
    | nil => rw [List.intercalate_singleton, List.flatMap_nil, List.append_nil]
    | cons q more =>
      have later := ih (List.cons_ne_nil _ _)
      rw [List.intercalate_cons_cons, List.append_assoc, List.singleton_append, List.splitOn_append_cons_self, later]

theorem join_pieces (some : ps ≠ []) : [sep].intercalate (pieces sep ps) = [sep].intercalate ps := by
  rw [← splitOn_join some, List.intercalate_splitOn]

/-- Joined texts are the same exactly if their parts are cut into the same pieces. -/
theorem join_inj_iff (hp : ps ≠ []) (hq : qs ≠ []) :
    [sep].intercalate ps = [sep].intercalate qs ↔ pieces sep ps = pieces sep qs := by
  constructor
  · intro same
    rw [← splitOn_join hp, same, splitOn_join hq]
  · intro same
    rw [← join_pieces hp, same, join_pieces hq]

/-- Parts without the separator are their own pieces. -/
theorem pieces_plain (plain : ∀ p ∈ ps, sep ∉ p) : pieces sep ps = ps := by
  induction ps with
  | nil => rfl
  | cons p rest ih =>
    have later := ih fun q mem => plain q (List.mem_cons_of_mem _ mem)
    unfold pieces at later ⊢
    rw [List.flatMap_cons, later, List.splitOn_eq_singleton (plain p List.mem_cons_self)]
    rfl

/-- The last piece is the last part, where that has no separator. -/
theorem last_piece {p q : List α} (plain : sep ∉ p) (plain' : sep ∉ q)
    (h : pieces sep (ps ++ [p]) = pieces sep (qs ++ [q])) : p = q := by
  unfold pieces at h
  rw [List.flatMap_append, List.flatMap_append, List.flatMap_singleton, List.flatMap_singleton,
    List.splitOn_eq_singleton plain, List.splitOn_eq_singleton plain'] at h
  exact (List.append_inj' h rfl).2 |> List.singleton_inj.mp

end JoinedParts
