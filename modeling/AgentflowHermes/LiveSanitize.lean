import AgentflowHermes.PyValues
import AgentflowHermes.Sha256

namespace AgentflowHermes

open BacktrackRegex BacktrackRegex.Pattern

section

variable (T : PyText)

/-- `" ".join(text.split())[:max_len]`. -/
@[irreducible] def shortText (text : String) (maxLen : Nat := 240) : String :=
  let words := (text.toList.splitOnP T.isSpace).filter fun w => !w.isEmpty
  String.ofList (([' '].intercalate words).take maxLen)

/-- `\S+`. -/
def nonSpaces : Pattern := .plus (.char fun c => !T.isSpace c)

def privatePathRe : Pattern :=
  .all [.opt (lit "file://"), .one '/',
    .any [lit "home", lit "Users", lit "var/folders", lit "tmp", lit "private", lit "mnt", lit "media"],
    .one '/', nonSpaces T]

def windowsPrivatePathRe : Pattern :=
  .all [T.boundary, .char foldedLetter, .one ':', .one '\\', .one '\\',
    .any [lit "Users", lit "Documents and Settings"], .one '\\', .one '\\', nonSpaces T]

/-- `API[_-]?KEY`. -/
def apiKey : Pattern := .all [lit "API", .opt (oneOf ['_', '-']), lit "KEY"]

/-- `TOKEN|API[_-]?KEY|SECRET`. -/
def keyWords : List Pattern := [lit "TOKEN", apiKey, lit "SECRET"]

/-- The other words a value is assigned to. -/
def valueWords : List Pattern :=
  [lit "PASSWORD", lit "PASSWD", lit "AUTHORIZATION", lit "BEARER", lit "SESSION", lit "COOKIE"]

/-- `[-_A-Za-z0-9]{12,}`. -/
def longToken : Pattern :=
  let char : Pattern := .char fun c => foldedLetter c || ('0' ≤ c && c ≤ '9') || c == '-' || c == '_'
  .all (List.replicate 12 char ++ [.star char])

def secretRe : Pattern :=
  .any [
    T.bounded (.any keyWords),
    .all [T.boundary, .any (keyWords ++ valueWords), T.boundary, T.spaces, oneOf [':', '='], T.spaces, nonSpaces T],
    .all [T.boundary, lit "Bearer", T.spaces1, nonSpaces T],
    .all [T.boundary, .any [lit "sk", lit "ghp", lit "gho", lit "github_pat",
      .all [lit "xox", .any [lit "b", lit "a", lit "p", lit "r", lit "s"]]], .one '-', longToken]]

@[irreducible] def containsSensitiveText (text : String) : Bool :=
  search (secretRe T) text.toList || search (privatePathRe T) text.toList || search (windowsPrivatePathRe T) text.toList

def refChar (c : Char) : Bool := c.isAlphanum || ['.', '_', ':', '/', '#', '@', '+', '=', '-'].contains c

/-- `_SAFE_REF_RE.fullmatch`. -/
def safeRefText : List Char → Bool
  | [] => false
  | c :: cs => c.isAlphanum && cs.all refChar && decide (cs.length ≤ 239)

@[irreducible] def sha256Hex (text : String) : String := Sha256.hexdigest text.toUTF8.toList

def hashedRef (text : String) : String :=
  String.ofList ("ref:sha256:".toList ++ (sha256Hex text).toList.take 16)

/-- `safe_durable_ref` without a source hash. -/
def safeDurableRef (value : String) : String :=
  let ref := shortText T value
  if ref = "" then ""
  else if containsSensitiveText T ref || !safeRefText ref.toList then hashedRef (ref ++ ":")
  else ref

/-- `safe_job_field`. -/
def safeJobField (field value : String) : String :=
  let text := shortText T value 2000
  if text = "" then ""
  else if containsSensitiveText T text then field ++ ":redacted"
  else text

def sanitizeSummary (value : String) : String :=
  let text := shortText T value
  if text = "" ∨ containsSensitiveText T text then "material event" else text

end

theorem none_of {l : List Char} {p : Char → Bool} (h : l.any p = false) {c : Char} (hc : c ∈ l) : p c = false := by
  simpa using List.any_eq_false.mp h c hc

/-- No character of a reference is white space. -/
def PyText.Plain (T : PyText) : Prop := ∀ c, refChar c = true → T.isSpace c = false

theorem asciiText_plain : asciiText.Plain := by
  intro c hc
  rw [Bool.eq_false_iff]
  intro space
  have spaces : c ∈ [' ', '\t', '\n', '\x0b', '\x0c', '\r'] := by
    have cases : c = ' ' ∨ '\t' ≤ c ∧ c ≤ '\r' := by simpa [asciiText] using space
    rcases cases with rfl | ⟨low, high⟩
    · decide
    · have low : 9 ≤ c.toNat := low
      have high : c.toNat ≤ 13 := high
      have five : c.toNat = 9 ∨ c.toNat = 10 ∨ c.toNat = 11 ∨ c.toNat = 12 ∨ c.toNat = 13 := by omega
      rw [← Char.ofNat_toNat c]
      rcases five with h | h | h | h | h <;> rw [h] <;> decide
  have unsafeRefs : [' ', '\t', '\n', '\x0b', '\x0c', '\r'].any refChar = false := by decide
  rw [none_of unsafeRefs spaces] at hc
  cases hc

/-- A durable reference: nothing at all, or a safe text without a secret or a private path in it. -/
structure Reference (T : PyText) (s : String) : Prop where
  clean : containsSensitiveText T s = false
  safe : s = "" ∨ safeRefText s.toList = true

theorem safeRefText_cons {cs : List Char} (h : safeRefText cs = true) :
    (∀ c ∈ cs, refChar c = true) ∧ cs.length ≤ 240 := by
  cases cs with
  | nil => cases h
  | cons c cs =>
    simp only [safeRefText, Bool.and_eq_true, List.all_eq_true, decide_eq_true_eq] at h
    obtain ⟨⟨head, rest⟩, short⟩ := h
    refine ⟨fun x hx => ?_, by rw [List.length_cons]; omega⟩
    rcases List.mem_cons.mp hx with rfl | later
    · simp [refChar, head]
    · exact rest x later

section

variable {T : PyText} {s : String}

/-- White space is what `short_text` changes, besides the length. -/
theorem shortText_plain {n : Nat} (spaces : ∀ c ∈ s.toList, T.isSpace c = false) (short : s.toList.length ≤ n) :
    shortText T s n = s := by
  unfold shortText
  rw [List.splitOnP_eq_singleton spaces]
  cases hs : s.toList with
  | nil =>
    rw [String.toList_eq_nil_iff.mp hs]
    simp
  | cons c cs =>
    rw [hs] at short
    have words : [' '].intercalate ([c :: cs].filter fun w => !w.isEmpty) = c :: cs := by simp
    dsimp only
    rw [words, List.take_of_length_le short, ← hs, String.ofList_toList]

theorem shortText_ne_empty {c : Char} {cs : List Char} {n : Nat} (solid : T.isSpace c = false) (hs : s.toList = c :: cs)
    (hn : 0 < n) : shortText T s n ≠ "" := by
  obtain ⟨w, ws, rest⟩ := List.exists_cons_of_ne_nil (List.splitOnP_ne_nil T.isSpace cs)
  obtain ⟨m, rfl⟩ := Nat.exists_eq_succ_of_ne_zero (Nat.ne_of_gt hn)
  have words : s.toList.splitOnP T.isSpace = (c :: w) :: ws := by
    rw [hs, List.splitOnP_cons_eq_if_modifyHead, rest]
    simp [solid]
  unfold shortText
  rw [words]
  intro empty
  have chars := congrArg String.toList empty
  cases hw : ws.filter fun w => !w.isEmpty <;> simp [hw] at chars

namespace Reference

theorem chars (h : Reference T s) : ∀ c ∈ s.toList, refChar c = true := by
  rcases h.safe with rfl | safe
  · intro c hc
    cases hc
  · exact (safeRefText_cons safe).1

theorem short (h : Reference T s) : s.toList.length ≤ 240 := by
  rcases h.safe with rfl | safe
  · exact Nat.zero_le _
  · exact (safeRefText_cons safe).2

theorem shortText (h : Reference T s) (plain : T.Plain) {n : Nat} (hn : 240 ≤ n) : AgentflowHermes.shortText T s n = s :=
  shortText_plain (fun c hc => plain c (h.chars c hc)) (Nat.le_trans h.short hn)

/-- A reference is looked up as it is. -/
theorem durable (h : Reference T s) (plain : T.Plain) : safeDurableRef T s = s := by
  unfold safeDurableRef
  rw [h.shortText plain (Nat.le_refl _)]
  rcases h.safe with rfl | safe
  · rfl
  · simp [h.clean, safe]

/-- A reference is stored as it is, under whatever key. -/
theorem jobField (h : Reference T s) (plain : T.Plain) (field : String) : safeJobField T field s = s := by
  unfold safeJobField
  rw [h.shortText plain (by decide)]
  simp [h.clean]

end Reference

def hashedRefChars : List Char := "ref:sha256:0123456789abcdef".toList

theorem sha256Hex_chars {v : String} {c : Char} (h : c ∈ (sha256Hex v).toList) : c ∈ "0123456789abcdef".toList := by
  unfold sha256Hex at h
  exact Sha256.hexdigest_chars h

theorem hashedRef_chars {v : String} {c : Char} (h : c ∈ (hashedRef v).toList) : c ∈ hashedRefChars := by
  unfold hashedRef at h
  rw [String.toList_ofList] at h
  rcases List.mem_append.mp h with fixed | hex
  · have inside : "ref:sha256:".toList.all hashedRefChars.contains = true := by decide
    exact List.contains_iff_mem.mp (List.all_eq_true.mp inside c fixed)
  · have inside : "0123456789abcdef".toList.all hashedRefChars.contains = true := by decide
    exact List.contains_iff_mem.mp (List.all_eq_true.mp inside c (sha256Hex_chars (List.take_subset _ _ hex)))

theorem hashedRef_eq (v : String) :
    (hashedRef v).toList = 'r' :: ("ef:sha256:".toList ++ (sha256Hex v).toList.take 16) := by
  have fixed : "ref:sha256:".toList = 'r' :: "ef:sha256:".toList := by decide
  unfold hashedRef
  rw [String.toList_ofList, fixed, List.cons_append]

theorem safeDurableRef_ne_empty {c : Char} {cs : List Char} (solid : T.isSpace c = false) (hs : s.toList = c :: cs) :
    safeDurableRef T s ≠ "" := by
  unfold safeDurableRef
  dsimp only
  rw [if_neg (shortText_ne_empty solid hs (by decide))]
  split
  · intro empty
    have chars := congrArg String.toList empty
    rw [hashedRef_eq] at chars
    cases chars
  · exact shortText_ne_empty solid hs (by decide)

theorem hashedRef_tail {v : String} {c : Char} (h : c ∈ (hashedRef v).toList.tail) :
    c ∈ "ef:sha256:0123456789abcdef".toList := by
  rw [hashedRef_eq, List.tail_cons] at h
  rcases List.mem_append.mp h with fixed | hex
  · have inside : "ef:sha256:".toList.all "ef:sha256:0123456789abcdef".toList.contains = true := by decide
    exact List.contains_iff_mem.mp (List.all_eq_true.mp inside c fixed)
  · have inside : "0123456789abcdef".toList.all "ef:sha256:0123456789abcdef".toList.contains = true := by decide
    exact List.contains_iff_mem.mp (List.all_eq_true.mp inside c (sha256Hex_chars (List.take_subset _ _ hex)))

theorem absent_lit {word : String} {letter : Char} {text : List Char} (mem : letter ∈ word.toList)
    (h : ∀ x ∈ text, foldsTo letter x = false) : Absent (lit word) text :=
  Absent.all (List.mem_map_of_mem mem) (.char h)

/-- A hashed reference has only one `r`, and nothing before it. -/
theorem absent_later {v : String} (word : String) (letter : Char) (mem : letter ∈ word.toList.tail)
    (h : "ef:sha256:0123456789abcdef".toList.any (foldsTo letter) = false) :
    Absent (lit word) (hashedRef v).toList := by
  unfold lit
  generalize word.toList = letters at mem
  match letters, mem with
  | x :: y :: rest, mem =>
    have later : Absent (.all ((y :: rest).map fun c => .char (foldsTo c))) (hashedRef v).toList.tail :=
      Absent.all (List.mem_map_of_mem mem) (.char fun z hz => none_of h (hashedRef_tail hz))
    exact Absent.after_char later

theorem absent_word {v word : String} (letter : Char) (mem : letter ∈ word.toList)
    (h : hashedRefChars.any (foldsTo letter) = false) : Absent (lit word) (hashedRef v).toList :=
  absent_lit mem fun x hx => none_of h (hashedRef_chars hx)

theorem absent_char {x : Char} {text : List Char} (h : x ∉ text) : Absent (.one x) text :=
  .char fun y hy => by
    rw [beq_eq_false_iff_ne]
    rintro rfl
    exact h hy

/-- A text without any of what every sensitive text has. -/
structure Harmless (text : List Char) : Prop where
  keys : ∀ r ∈ keyWords, Absent r text
  values : ∀ r ∈ valueWords, Absent r text
  bearer : Absent (lit "Bearer") text
  dash : '-' ∉ text
  slash : '/' ∉ text
  backslash : '\\' ∉ text

theorem Harmless.secret {text : List Char} (h : Harmless text) : Absent (secretRe T) text := by
  refine Absent.any fun r hr => ?_
  simp only [List.mem_cons, List.not_mem_nil, or_false] at hr
  rcases hr with rfl | rfl | rfl | rfl
  · exact Absent.all (List.mem_cons_of_mem _ List.mem_cons_self) (Absent.any h.keys)
  · refine Absent.all (List.mem_cons_of_mem _ List.mem_cons_self) (Absent.any fun r hr => ?_)
    rcases List.mem_append.mp hr with key | value
    · exact h.keys r key
    · exact h.values r value
  · exact Absent.all (List.mem_cons_of_mem _ List.mem_cons_self) h.bearer
  · exact Absent.all (by simp) (absent_char h.dash)

theorem Harmless.clean (h : Harmless s.toList) : containsSensitiveText T s = false := by
  have secret : search (secretRe T) s.toList = false := h.secret.search
  have path : search (privatePathRe T) s.toList = false := (Absent.all (by simp) (absent_char h.slash)).search
  have windows : search (windowsPrivatePathRe T) s.toList = false :=
    (Absent.all (by simp) (absent_char h.backslash)).search
  unfold containsSensitiveText
  rw [secret, path, windows]
  rfl

theorem hashedRef_harmless (v : String) : Harmless (hashedRef v).toList where
  keys := by
    intro r hr
    simp only [keyWords, List.mem_cons, List.not_mem_nil, or_false] at hr
    rcases hr with rfl | rfl | rfl
    · exact absent_word 'T' (by decide) (by decide)
    · exact Absent.all List.mem_cons_self (absent_word 'P' (by decide) (by decide))
    · exact absent_word 'T' (by decide) (by decide)
  values := by
    intro r hr
    simp only [valueWords, List.mem_cons, List.not_mem_nil, or_false] at hr
    rcases hr with rfl | rfl | rfl | rfl | rfl | rfl
    · exact absent_word 'P' (by decide) (by decide)
    · exact absent_word 'P' (by decide) (by decide)
    · exact absent_word 'U' (by decide) (by decide)
    · exact absent_later "BEARER" 'R' (by decide) (by decide)
    · exact absent_word 'I' (by decide) (by decide)
    · exact absent_word 'O' (by decide) (by decide)
  bearer := absent_later "Bearer" 'r' (by decide) (by decide)
  dash := fun h => absurd (hashedRef_chars h) (by decide)
  slash := fun h => absurd (hashedRef_chars h) (by decide)
  backslash := fun h => absurd (hashedRef_chars h) (by decide)

/-- Every word has one of these letters, but `sk` and its like, which a dash follows. -/
theorem harmless_of_letters {text : List Char}
    (h : ("OPCUB".toList.any fun letter => text.any (foldsTo letter)) = false)
    (marks : ['-', '/', '\\'].any text.contains = false) : Harmless text := by
  have off (word : String) {letter : Char} (mem : letter ∈ "OPCUB".toList) (inside : letter ∈ word.toList) :
      Absent (lit word) text := absent_lit inside fun x hx => none_of (none_of h mem) hx
  have unmarked {mark : Char} (mem : mark ∈ ['-', '/', '\\']) : mark ∉ text := by
    simpa using none_of marks mem
  refine { keys := ?_, values := ?_, bearer := ?_, dash := ?_, slash := ?_, backslash := ?_ }
  · intro r hr
    simp only [keyWords, List.mem_cons, List.not_mem_nil, or_false] at hr
    rcases hr with rfl | rfl | rfl
    · exact @off "TOKEN" 'O' (by decide) (by decide)
    · exact Absent.all List.mem_cons_self (@off "API" 'P' (by decide) (by decide))
    · exact @off "SECRET" 'C' (by decide) (by decide)
  · intro r hr
    simp only [valueWords, List.mem_cons, List.not_mem_nil, or_false] at hr
    rcases hr with rfl | rfl | rfl | rfl | rfl | rfl
    · exact @off "PASSWORD" 'P' (by decide) (by decide)
    · exact @off "PASSWD" 'P' (by decide) (by decide)
    · exact @off "AUTHORIZATION" 'U' (by decide) (by decide)
    · exact @off "BEARER" 'B' (by decide) (by decide)
    · exact @off "SESSION" 'O' (by decide) (by decide)
    · exact @off "COOKIE" 'C' (by decide) (by decide)
  · exact @off "Bearer" 'B' (by decide) (by decide)
  · exact @unmarked '-' (by decide)
  · exact @unmarked '/' (by decide)
  · exact @unmarked '\\' (by decide)

theorem hashedRef_reference (v : String) : Reference T (hashedRef v) := by
  refine ⟨(hashedRef_harmless v).clean, .inr ?_⟩
  have chars : hashedRefChars.all refChar = true := by decide
  have length : ("ef:sha256:".toList ++ (sha256Hex v).toList.take 16).length ≤ 239 := by
    have fits : ((sha256Hex v).toList.take 16).length ≤ 16 := List.length_take_le _ _
    have prefixed : "ef:sha256:".toList.length = 10 := by decide
    rw [List.length_append, prefixed]
    omega
  rw [hashedRef_eq]
  simp only [safeRefText, Bool.and_eq_true, List.all_eq_true, decide_eq_true_eq]
  refine ⟨⟨by decide, fun c hc => List.all_eq_true.mp chars c (@hashedRef_chars v c ?_)⟩, length⟩
  rw [hashedRef_eq]
  exact List.mem_cons_of_mem _ hc

/-- Whatever is given, what is kept for it is a reference. -/
theorem safeDurableRef_reference (v : String) : Reference T (safeDurableRef T v) := by
  unfold safeDurableRef
  dsimp only
  split
  · exact ⟨(harmless_of_letters (by decide) (by decide)).clean, .inl rfl⟩
  split
  · exact hashedRef_reference _
  next unflagged =>
    simp only [Bool.or_eq_true, Bool.not_eq_true', not_or, Bool.not_eq_true, Bool.not_eq_false] at unflagged
    exact ⟨unflagged.1, .inr unflagged.2⟩

theorem empty_reference : Reference T "" := ⟨(harmless_of_letters (by decide) (by decide)).clean, .inl rfl⟩

theorem missingEventId_reference : Reference T "missing_event_id" :=
  ⟨(harmless_of_letters (by decide) (by decide)).clean, .inr (by decide)⟩

end

end AgentflowHermes

namespace BacktrackRegex

open Pattern

/-- Whether a text starts with one character of each class, in order. -/
def spells : List (Char → Bool) → List Char → Bool
  | [], _ => true
  | _ :: _, [] => false
  | p :: ps, x :: xs => p x && spells ps xs

/-- Whether it does so anywhere in a text. -/
def occurs (ps : List (Char → Bool)) : List Char → Bool
  | [] => spells ps []
  | x :: xs => spells ps (x :: xs) || occurs ps xs

theorem occurs_suffix {ps : List (Char → Bool)} {text t : List Char} (h : occurs ps text = false)
    (suffix : t <:+ text) : spells ps t = false := by
  induction text with
  | nil =>
    rw [List.suffix_nil.mp suffix]
    exact h
  | cons x xs ih =>
    simp only [occurs, Bool.or_eq_false_iff] at h
    rcases List.suffix_cons_iff.mp suffix with rfl | shorter
    · exact h.1
    · exact ih h.2 shorter

theorem run_misspelled {β : Type} {ps : List (Char → Bool)} (k : List Char → Cursor → Option β) (g : List Char)
    {c : Cursor} (h : spells ps c.after = false) : (Pattern.all (ps.map .char)).run k g c = none := by
  induction ps generalizing c with
  | nil => cases h
  | cons p ps ih =>
    have step (k' : List Char → Cursor → Option β) (rest : ∀ x xs, c.after = x :: xs → spells ps xs = false →
        k' g ⟨x :: c.before, xs⟩ = none) : (Pattern.char p).run k' g c = none := by
      unfold Pattern.run
      split
      next => rfl
      next x xs hx =>
        rw [hx] at h
        cases hp : p x with
        | false => rfl
        | true => exact rest x xs hx (by simpa [spells, hp] using h)
    cases ps with
    | nil => exact step k fun x xs _ none => by cases none
    | cons q qs => exact step _ fun x xs _ none => ih none

/-- A word that is spelled nowhere in a text. -/
theorem Absent.word {ps : List (Char → Bool)} {text : List Char} (h : occurs ps text = false) :
    Absent (.all (ps.map .char)) text :=
  ⟨fun k g _ suffix => run_misspelled k g (occurs_suffix h suffix)⟩

end BacktrackRegex

namespace AgentflowHermes

open BacktrackRegex BacktrackRegex.Pattern

/-- Whether a text has a word in it, in whatever case. -/
def mentions (text : List Char) (word : String) : Bool := occurs (word.toList.map foldsTo) text

theorem absent_of_mentions {text : List Char} {word : String} (h : mentions text word = false) :
    Absent (lit word) text := by
  have absent := Absent.word h
  rw [List.map_map] at absent
  exact absent

/-- The words of which every sensitive text has one, or one of the marks `-`, `/` and `\`. -/
def sensitiveWords : List String :=
  ["TOKEN", "API", "SECRET", "PASSWORD", "PASSWD", "AUTHORIZATION", "BEARER", "SESSION", "COOKIE", "Bearer"]

theorem harmless_of_words {text : List Char} (h : sensitiveWords.any (mentions text) = false)
    (marks : ['-', '/', '\\'].any text.contains = false) : Harmless text := by
  have off {word : String} (mem : word ∈ sensitiveWords) : Absent (lit word) text :=
    absent_of_mentions (by simpa using List.any_eq_false.mp h word mem)
  have unmarked {mark : Char} (mem : mark ∈ ['-', '/', '\\']) : mark ∉ text := by
    simpa using none_of marks mem
  refine { keys := ?_, values := ?_, bearer := ?_, dash := ?_, slash := ?_, backslash := ?_ }
  · intro r hr
    simp only [keyWords, List.mem_cons, List.not_mem_nil, or_false] at hr
    rcases hr with rfl | rfl | rfl
    · exact off (by decide)
    · exact Absent.all List.mem_cons_self (off (by decide))
    · exact off (by decide)
  · intro r hr
    simp only [valueWords, List.mem_cons, List.not_mem_nil, or_false] at hr
    rcases hr with rfl | rfl | rfl | rfl | rfl | rfl
    all_goals exact off (by decide)
  · exact off (by decide)
  · exact @unmarked '-' (by decide)
  · exact @unmarked '/' (by decide)
  · exact @unmarked '\\' (by decide)

/-- A text that no sensitive pattern can match, as its words and marks show. -/
theorem clean_of_words {T : PyText} {s : String} (h : sensitiveWords.any (mentions s.toList) = false)
    (marks : ['-', '/', '\\'].any s.toList.contains = false) : containsSensitiveText T s = false :=
  (harmless_of_words h marks).clean

end AgentflowHermes
