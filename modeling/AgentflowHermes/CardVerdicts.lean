import AgentflowHermes.BlockedCards
import AgentflowHermes.LoopRemediation
import Mathlib.Data.List.Forall2

namespace AgentflowHermes.Cards

open BacktrackRegex BacktrackRegex.Pattern

section

variable (T : PyText)

end

section

variable {T : PyText} {blocked review : Card} {dryRun requiredGo : Bool}

end

/-- What is known of a space and of the end of a line. -/
structure Blanks (T : PyText) : Prop where
  space : T.isSpace ' ' = true
  newline : T.isSpace '\n' = true
  apart : T.isWord ' ' = false
  parted : T.isWord '\n' = false

/-- Two characters that a verdict takes for the same. -/
def Alike (x y : Char) : Prop := x = y ∨ (x = ' ' ∧ y = '\n')

section

variable {T : PyText} {tail : List Char}

/-- Two places whose texts are alike, up to a tail of the second. -/
def LikePlace (tail : List Char) (c c' : Cursor) : Prop :=
  List.Forall₂ Alike c.before c'.before ∧ ∃ after, c'.after = after ++ tail ∧ List.Forall₂ Alike c.after after

theorem likePlace_length (c c' : Cursor) (like : LikePlace tail c c') :
    c'.after.length = c.after.length + tail.length := by
  obtain ⟨_, after, text, alike⟩ := like
  rw [text, List.length_append, alike.length_eq]

theorem respects_class {p : Char → Bool} (same : p ' ' = p '\n') : Pattern.Respects (LikePlace tail) (.char p) := by
  refine .char p fun c c' x xs like text holds => ?_
  obtain ⟨before, after, text', alike⟩ := like
  rw [text] at alike
  obtain ⟨y, ys, first, rest, rfl⟩ := List.forall₂_cons_left_iff.mp alike
  have holds' : p y = true := by
    rcases first with rfl | ⟨rfl, rfl⟩
    · exact holds
    · rw [← same]
      exact holds
  exact ⟨y, ys ++ tail, by rw [text', List.cons_append], holds', .cons first before, ys, rfl, rest⟩

theorem alike_word (blanks : Blanks T) {xs ys : List Char} (alike : List.Forall₂ Alike xs ys) :
    xs.head?.any T.isWord = ys.head?.any T.isWord := by
  cases alike with
  | nil => rfl
  | cons first _ =>
    rcases first with rfl | ⟨rfl, rfl⟩
    · rfl
    · simp [blanks.apart, blanks.parted]

theorem respects_boundary (blanks : Blanks T) (ends : tail.head?.any T.isWord = false) :
    Pattern.Respects (LikePlace tail) T.boundary := by
  refine .test _ fun c c' like met => ?_
  obtain ⟨before, after, text, alike⟩ := like
  have next : c.after.head?.any T.isWord = c'.after.head?.any T.isWord := by
    rw [text, alike_word blanks alike]
    cases after with
    | nil =>
      rw [List.nil_append, ends]
      rfl
    | cons y ys => rfl
  rw [← next, ← alike_word blanks before]
  exact met

theorem respects_lit {word : String} (plain : word.toList.all (fun c => foldsTo c ' ' == foldsTo c '\n') = true) :
    Pattern.Respects (LikePlace tail) (lit word) := by
  refine .all fun r mem => ?_
  obtain ⟨c, inside, rfl⟩ := List.mem_map.mp mem
  exact respects_class (by simpa using List.all_eq_true.mp plain c inside)

theorem respects_go (blanks : Blanks T) (ends : tail.head?.any T.isWord = false) :
    Pattern.Respects (LikePlace tail) (verdictWordRe T "GO") := by
  have spaces : Pattern.Respects (LikePlace tail) T.spaces := .star (respects_class (by rw [blanks.space, blanks.newline]))
  refine .all fun r mem => ?_
  simp only [List.mem_cons, List.not_mem_nil, or_false] at mem
  rcases mem with rfl | rfl | rfl | rfl | rfl | rfl | rfl
  · exact respects_boundary blanks ends
  · exact respects_lit (by decide)
  · exact spaces
  · exact respects_class (by decide)
  · exact spaces
  · exact respects_lit (by decide)
  · exact respects_boundary blanks ends

/-- A GO is found in a text like the one it was found in. -/
theorem search_go_alike (blanks : Blanks T) (ends : tail.head?.any T.isWord = false) {text text' : List Char}
    (alike : List.Forall₂ Alike text text') (found : search (verdictWordRe T "GO") text = true) :
    search (verdictWordRe T "GO") (text' ++ tail) = true := by
  obtain ⟨pre, post, rfl, matched⟩ := search_iff.mp found
  have before := List.forall₂_take pre.length alike
  have after := List.forall₂_drop pre.length alike
  rw [List.take_left] at before
  rw [List.drop_left] at after
  refine search_iff.mpr ⟨text'.take pre.length, text'.drop pre.length ++ tail, ?_, ?_⟩
  · rw [← List.append_assoc, List.take_append_drop]
  · have like : LikePlace tail ⟨pre.reverse, post⟩ ⟨(text'.take pre.length).reverse, text'.drop pre.length ++ tail⟩ :=
      ⟨List.forall₂_reverse_iff.mpr before, _, rfl, after⟩
    exact Pattern.run_carried likePlace_length (respects_go blanks ends) like (fun _ _ _ _ _ _ => rfl) matched

theorem alike_self (text : List Char) : List.Forall₂ Alike text text := List.forall₂_same.mpr fun _ _ => .inl rfl

/-- Parts that are joined by spaces, and by ends of lines. -/
theorem alike_joined (parts : List (List Char)) :
    List.Forall₂ Alike ([' '].intercalate parts) (['\n'].intercalate parts) := by
  induction parts with
  | nil => exact .nil
  | cons part rest ih =>
    cases rest with
    | nil =>
      rw [List.intercalate_singleton, List.intercalate_singleton]
      exact alike_self part
    | cons next rest =>
      rw [List.intercalate_cons_cons, List.intercalate_cons_cons]
      exact List.rel_append (List.rel_append (alike_self part) (.cons (.inr ⟨rfl, rfl⟩) .nil)) ih

/-- More parts come after those that are there. -/
theorem intercalate_more {sep : Char} {part : List Char} {parts more : List (List Char)} :
    ∃ tail, [sep].intercalate (part :: parts ++ more) = [sep].intercalate (part :: parts) ++ tail ∧
      (tail = [] ∨ ∃ rest, tail = sep :: rest) := by
  induction parts generalizing part with
  | nil =>
    cases more with
    | nil => exact ⟨[], by simp, .inl rfl⟩
    | cons next rest =>
      refine ⟨sep :: [sep].intercalate (next :: rest), ?_, .inr ⟨_, rfl⟩⟩
      rw [List.cons_append, List.nil_append, List.intercalate_cons_cons, List.intercalate_singleton, List.append_assoc]
      rfl
  | cons next parts ih =>
    obtain ⟨tail, joined, shape⟩ := @ih next
    refine ⟨tail, ?_, shape⟩
    rw [List.cons_append, List.cons_append, List.intercalate_cons_cons, List.intercalate_cons_cons, ← List.cons_append, joined]
    simp only [List.append_assoc]

/-- A field that can be joined is the text of the field. -/
theorem part_text {card : Card} {key text : String} (read : card.part key = some text) :
    Loop.cardText T card key = text := by
  have lookup : Loop.cardText T card key = T.strOr (card.lookup key) "" := rfl
  rw [lookup]
  unfold Card.part at read
  split at read
  next missing =>
    cases read
    rw [missing]
    rfl
  next s found =>
    cases read
    rw [found]
    by_cases empty : text = ""
    · simp [PyText.strOr, Json.truthy, empty]
    · simp [PyText.strOr, Json.truthy, empty, T.str_str]
  next => cases read

/-- The four fields that both readers of a card begin with. -/
def fourFields (T : PyText) (card : Card) : List String := ["title", "body", "summary", "result"].map (Loop.cardText T card)

/-- A text of a card begins with its four fields. -/
theorem cardText_fields {card : Card} {text : String} (read : cardText T card = some text) :
    ∃ more, text = "\n".intercalate (fourFields T card ++ more) := by
  unfold cardText at read
  obtain ⟨parts, fields, read⟩ := Option.bind_eq_some_iff.mp read
  cases read
  have same : parts = fourFields T card := by
    simp only [List.mapM_cons, List.mapM_nil, Option.pure_def, Option.bind_eq_bind, Option.bind_eq_some_iff,
      Option.some.injEq] at fields
    obtain ⟨title, first, _, ⟨body, second, _, ⟨summary, third, _, ⟨result, fourth, _, rfl, rfl⟩, rfl⟩, rfl⟩, rfl⟩ := fields
    rw [fourFields, List.map_cons, part_text first, List.map_cons, part_text second, List.map_cons, part_text third,
      List.map_cons, part_text fourth, List.map_nil]
  rw [same]
  exact ⟨_, by rw [List.append_assoc]⟩

/-- A GO that the four fields show is a GO of the card. -/
theorem hasWord_go (blanks : Blanks T) {card : Card} {text : String} (read : cardText T card = some text)
    (found : search (verdictWordRe T "GO") (" ".intercalate (fourFields T card)).toList = true) :
    hasWord T text "GO" = true := by
  obtain ⟨more, rfl⟩ := cardText_fields read
  have shape : (fourFields T card).map String.toList = (Loop.cardText T card "title").toList ::
      (["body", "summary", "result"].map (Loop.cardText T card)).map String.toList := rfl
  obtain ⟨tail, joined, begins⟩ := @intercalate_more '\n' (Loop.cardText T card "title").toList
    ((["body", "summary", "result"].map (Loop.cardText T card)).map String.toList) (more.map String.toList)
  have ends : tail.head?.any T.isWord = false := by
    rcases begins with rfl | ⟨rest, rfl⟩
    · rfl
    · simp [blanks.parted]
  rw [String.toList_intercalate] at found
  have carried := search_go_alike blanks ends (alike_joined ((fourFields T card).map String.toList)) found
  unfold hasWord
  rw [String.toList_intercalate, List.map_append]
  rw [shape] at carried ⊢
  have newline : "\n".toList = ['\n'] := rfl
  rw [newline, joined]
  exact carried

section

variable {σ : Type} {oldFinal review : Card} {origin returnTo : String} {policy : Loop.GraphPolicy}
  {adapter : Option (Loop.LoopAdapter σ)} {board : σ}

/-- An old final card that a review may supersede, by the four fields of the review. -/
structure Superseding (T : PyText) (oldFinal review : Card) : Prop where
  finished : ["done", "completed", "blocked", "block"].contains (Jobs.lower (Loop.cardText T oldFinal "status")) = true
  go : search (verdictWordRe T "GO") (" ".intercalate (fourFields T review)).toList = true

/-- A candidate is made where a card is superseded, and nothing is done elsewhere. -/
theorem resolveStale_cases (T : PyText) (oldFinal review : Card) (origin returnTo : String) (policy : Loop.GraphPolicy)
    (adapter : Option (Loop.LoopAdapter σ)) (board : σ) :
    let result := Loop.resolveStaleFinalCandidate T oldFinal review origin returnTo policy adapter board
    (Superseding T oldFinal review ∧ result.1.success = true) ∨
      (¬Superseding T oldFinal review ∧ result.1.success = false ∧ result.1.candidate = none ∧
        result.1.adapterAttempts = 0 ∧ result.2 = board) := by
  dsimp only
  unfold Loop.resolveStaleFinalCandidate
  dsimp only
  split
  next early =>
    refine .inr ⟨fun stale => ?_, rfl, rfl, rfl, rfl⟩
    rw [stale.finished] at early
    cases early
  next finished =>
    split
    next absent =>
      refine .inr ⟨fun stale => ?_, rfl, rfl, rfl, rfl⟩
      have go := stale.go
      rw [Bool.not_eq_true', ← Bool.not_eq_true] at absent
      exact absent go
    next go =>
      rw [Bool.not_eq_true', Bool.not_eq_false] at finished go
      refine .inl ⟨⟨finished, go⟩, ?_⟩
      split
      · split
        · rfl
        · rfl
      · rfl

end

/-- A final is superseded on a GO of the blocked card's resolver, unless the review also says otherwise or cannot be read. -/
theorem stale_final_verdict_iff {σ : Type} (T : PyText) (blanks : Blanks T) (oldFinal review : Card) (origin returnTo : String)
    (policy : Loop.GraphPolicy) (adapter : Option (Loop.LoopAdapter σ)) (board : σ) :
    let result := Loop.resolveStaleFinalCandidate T oldFinal review origin returnTo policy adapter board
    ((result.1.success = true → (cardText T review).map (extractVerdict T) = some "GO") ∧
      (∀ text, cardText T review = some text → hasWord T text "BLOCK" = true ∨ hasWord T text "NEED_MORE" = true →
        result.1.candidate = none ∧ result.1.adapterAttempts = 0 ∧ result.2 = board)) ↔
    (Superseding T oldFinal review → ∃ text, cardText T review = some text ∧
      hasWord T text "BLOCK" = false ∧ hasWord T text "NEED_MORE" = false) := by
  dsimp only
  constructor
  · rintro ⟨agreed, _⟩ stale
    rcases resolveStale_cases T oldFinal review origin returnTo policy adapter board with ⟨_, success⟩ | ⟨fresh, _⟩
    · obtain ⟨text, read, verdict⟩ := Option.map_eq_some_iff.mp (agreed success)
      refine ⟨text, read, ?_⟩
      unfold extractVerdict at verdict
      split at verdict
      next => exact absurd verdict (by decide)
      next noBlock =>
        split at verdict
        next => exact absurd verdict (by decide)
        next noMore => exact ⟨by simpa using noBlock, by simpa using noMore⟩
    · exact absurd stale fresh
  · intro clear
    rcases resolveStale_cases T oldFinal review origin returnTo policy adapter board with
      ⟨stale, success⟩ | ⟨fresh, failed, none', noCall, kept⟩
    · obtain ⟨text, read, noBlock, noMore⟩ := clear stale
      refine ⟨fun _ => ?_, fun text' read' said => ?_⟩
      · rw [read, Option.map_some, extractVerdict, noBlock, noMore, hasWord_go blanks read stale.go]
        rfl
      · rw [read] at read'
        cases read'
        rw [noBlock, noMore] at said
        rcases said with said | said <;> cases said
    · refine ⟨fun success => ?_, fun _ _ _ => ⟨none', noCall, kept⟩⟩
      rw [failed] at success
      cases success

theorem asciiBlanks : Blanks asciiText := ⟨by decide, by decide, by decide, by decide⟩

/-- A review that says GO and BLOCK. -/
def contradicting : Card := [("body", .str "Verdict: GO"), ("result", .str "Verdict: BLOCK")]

/-- What becomes of a done final with that review. -/
def contradicted : Loop.CreatorResult × Unit :=
  Loop.resolveStaleFinalCandidate asciiText [("status", .str "done")] contradicting "" "" {} none ()

theorem contradicting_verdict :
    ((contradicted.1.success = true → (cardText asciiText contradicting).map (extractVerdict asciiText) = some "GO") ∧
      (∀ text, cardText asciiText contradicting = some text →
        hasWord asciiText text "BLOCK" = true ∨ hasWord asciiText text "NEED_MORE" = true →
        contradicted.1.candidate = none ∧ contradicted.1.adapterAttempts = 0 ∧ contradicted.2 = ())) ↔
    (Superseding asciiText [("status", .str "done")] contradicting → ∃ text, cardText asciiText contradicting = some text ∧
      hasWord asciiText text "BLOCK" = false ∧ hasWord asciiText text "NEED_MORE" = false) :=
  stale_final_verdict_iff asciiText asciiBlanks [("status", .str "done")] contradicting "" "" {} none ()

theorem contradicting_supersedes : contradicted.1.success = true ∧
    (cardText asciiText contradicting).map (extractVerdict asciiText) = some "BLOCK" := by
  refine ⟨?_, ?_⟩
  · rcases resolveStale_cases asciiText [("status", .str "done")] contradicting "" "" {}
      (none : Option (Loop.LoopAdapter Unit)) () with ⟨_, success⟩ | ⟨fresh, _⟩
    · exact success
    · exact absurd ⟨by decide +kernel, by decide +kernel⟩ fresh
  · decide +kernel

end

end AgentflowHermes.Cards
