import AgentflowHermes.DiscordOrigins
import AgentflowHermes.OutcomeEnvelope
import AgentflowHermes.RegexSpans

namespace AgentflowHermes.Origins

open BacktrackRegex BacktrackRegex.Pattern

/-- The flags of a return address; one that is not given is empty. -/
structure OriginFlags where
  platform : String
  chatId : String
  threadId : String := ""
  userId : String := ""
  deriving DecidableEq

def originPlatforms : List String := ["discord", "slack", "telegram"]

/-- `#([A-Za-z0-9_-]+)`. -/
def originChatRe : Pattern :=
  .seq (one '#') (.group (plus (.char fun c => c.isAlphanum || c == '_' || c == '-')))

section

variable (T : PyText)

def partChar (c : Char) : Bool := c != ':' && !T.isSpace c

/-- `([^:\s]+)`. -/
def part : Pattern := .group (plus (.char (partChar T)))

/-- `(?::([^:\s]+))?`; its group is empty where it is left out. -/
def optionalPart {β : Type} (k : List Char → Cursor → Option β) (c : Cursor) : Option β :=
  ((one ':').run (fun _ d => (part T).run k [] d) [] c).or (k [] c)

/-- What follows the platform in a compact address. -/
def compactParts (c : Cursor) : Option ((List Char × List Char × List Char) × Cursor) :=
  (part T).run (fun chat d =>
    optionalPart T (fun thread e =>
      optionalPart T (fun user f => T.boundary.run (fun _ g => some ((chat, thread, user), g)) [] f) e) d) [] c

/-- `_ORIGIN_COMPACT_RE`. -/
def originCompactRe (c : Cursor) : Option ((List Char × List Char × List Char × List Char) × Cursor) :=
  T.boundary.run (fun _ d =>
    (Pattern.group (any (originPlatforms.map lit))).run (fun platform e =>
      (one ':').run (fun _ f => (compactParts T f).map fun m => ((platform, m.1), m.2)) [] e) [] d) [] c

/-- `_ORIGIN_KV_RE`. -/
def originKvRe : Cursor → Option ((List Char × List Char) × Cursor) :=
  matchTwo
    (.all [T.boundary, opt (lit "origin-"), .group (any [lit "thread", lit "user"]), opt (oneOf ['_', '-']), lit "id="])
    (.group (plus (.char fun c => !T.isSpace c && c != ',' && c != ';')))

/-- `_map_origin_to_flags`, `none` for no flags. -/
def mapOriginToFlags (origin : String) : Option OriginFlags :=
  let text := origin.toList
  match scanFrom (originCompactRe T) [] text with
  | some ((platform, chat, thread, user), _) =>
    some {
      platform := lowerText platform, chatId := String.ofList (chat.dropWhile (· == '#'))
      threadId := String.ofList thread, userId := String.ofList user }
  | none =>
    let low := (lowerText text).toList
    match originPlatforms.find? fun p => low.tails.any p.toList.isPrefixOf, searchGroup originChatRe text with
    | some platform, some chat =>
      let pairs := scanAll (originKvRe T) (text.length + 1) ⟨[], text⟩
      let flag (key : String) := ((pairs.filter fun kv => lowerText kv.1 = key).getLast?.map (String.ofList ·.2)).getD ""
      some { platform, chatId := String.ofList chat, threadId := flag "thread", userId := flag "user" }
    | _, _ => none

structure DiscordEndpoint where
  discord : Bool
  chatId : String
  numeric : Bool
  deriving DecidableEq

def classifyDiscordEndpoint (endpoint : String) : DiscordEndpoint :=
  match mapOriginToFlags T endpoint with
  | none => { discord := false, chatId := "", numeric := false }
  | some flags =>
    if flags.platform ≠ "discord" then { discord := false, chatId := "", numeric := false }
    else
      let chatId := String.ofList (flags.chatId.toList.dropWhile (· == '#'))
      { discord := true, chatId, numeric := isDigits T chatId }

/-- `":".join(parts)`. -/
def discordAddress (toId threadId userId : String) : String :=
  "discord:" ++ toId ++
    if threadId = "" then "" else ":" ++ threadId ++ if userId = "" then "" else ":" ++ userId

/-- `_numeric_discord_endpoint`. -/
def numericDiscordEndpoint (endpoint toId : String) : String :=
  match mapOriginToFlags T endpoint with
  | none => endpoint
  | some flags => if flags.platform ≠ "discord" then endpoint else discordAddress toId flags.threadId flags.userId

end

/-- What is known of the classes of characters. -/
structure WordClasses (T : PyText) : Prop where
  digit : ∀ c, T.isDigit c = true → T.isWord c = true
  space : ∀ c, T.isWord c = true → T.isSpace c = false
  colon : T.isWord ':' = false
  hash : T.isWord '#' = false
  letter : T.isWord 'd' = true

section

variable {T : PyText}

theorem platform_discord {β : Type} (k : List Char → Cursor → Option β) (tail : List Char) :
    (Pattern.group (any (originPlatforms.map lit))).run k [] ⟨[], "discord:".toList ++ tail⟩ =
      k "discord".toList ⟨"discord".toList.reverse, ':' :: tail⟩ := by
  simp [originPlatforms, any, lit, all, run, foldsTo]

/-- An address that names Discord is read from there on. -/
theorem compact_discord (classes : WordClasses T) (tail : List Char) :
    originCompactRe T ⟨[], "discord:".toList ++ tail⟩ =
      (compactParts T ⟨"discord:".toList.reverse, tail⟩).map fun m => (("discord".toList, m.1), m.2) := by
  unfold originCompactRe PyText.boundary
  rw [run]
  rw [if_pos (by simp [classes.letter]), platform_discord]
  rfl

/-- A part with its separator; nothing where it is left out. -/
def separated : List Char → List Char
  | [] => []
  | c :: cs => ':' :: c :: cs

section

variable {β : Type} {k : List Char → Cursor → Option β} {x : β}

theorem optionalPart_some {c : Cursor} (h : optionalPart T k c = some x) :
    ∃ w d, w.all (partChar T) = true ∧ c.after = separated w ++ d.after ∧
      d.before = (separated w).reverse ++ c.before ∧ k w d = some x := by
  unfold optionalPart at h
  rcases Option.or_eq_some_iff.mp h with read | ⟨_, left⟩
  · unfold one run at read
    split at read
    next => cases read
    next y ys text =>
      split at read
      next colon =>
        have is : y = ':' := by simpa using colon
        subst is
        obtain ⟨w, d, some', all, after, before, found⟩ := run_span_some read
        cases w with
        | nil => exact absurd rfl some'
        | cons z zs =>
          refine ⟨z :: zs, d, all, ?_, ?_, found⟩
          · dsimp only at after
            rw [text, after]
            rfl
          · rw [before]
            simp [separated]
      next => cases read
  · exact ⟨[], c, rfl, rfl, rfl, left⟩

theorem optionalPart_longest {w rest before : List Char} (all : w.all (partChar T) = true)
    (stop : rest.head?.all (fun y => !partChar T y) = true) (last : w = [] → rest = [])
    (h : k w ⟨(separated w).reverse ++ before, rest⟩ = some x) :
    optionalPart T k ⟨before, separated w ++ rest⟩ = some x := by
  unfold optionalPart
  cases w with
  | nil =>
    rw [last rfl] at h ⊢
    exact h
  | cons z zs =>
    have read : (part T).run k [] ⟨':' :: before, (z :: zs) ++ rest⟩ = some x := by
      refine run_span_longest (List.cons_ne_nil _ _) all stop ?_
      rw [separated, List.reverse_cons, List.append_assoc] at h
      exact h
    have first : (one ':').run (fun _ d => (part T).run k [] d) [] ⟨before, separated (z :: zs) ++ rest⟩ = some x := read
    rw [first, Option.some_or]

theorem optionalPart_isSome {c : Cursor} (h : (k [] c).isSome = true) : (optionalPart T k c).isSome = true := by
  unfold optionalPart
  rw [Option.isSome_or, h, Bool.or_true]

end

/-- What the parts of a compact address are, and where they end. -/
theorem compactParts_some {c d : Cursor} {chat thread user : List Char}
    (h : compactParts T c = some ((chat, thread, user), d)) :
    chat.all (partChar T) = true ∧ thread.all (partChar T) = true ∧ user.all (partChar T) = true ∧
      c.after = chat ++ (separated thread ++ (separated user ++ d.after)) ∧
      d.before = (separated user).reverse ++ ((separated thread).reverse ++ (chat.reverse ++ c.before)) ∧
      (d.before.head?.any T.isWord != d.after.head?.any T.isWord) = true := by
  unfold compactParts at h
  obtain ⟨chat', e, _, chatAll, chatAfter, chatBefore, h⟩ := run_span_some h
  obtain ⟨thread', f, threadAll, threadAfter, threadBefore, h⟩ := optionalPart_some h
  obtain ⟨user', g, userAll, userAfter, userBefore, h⟩ := optionalPart_some h
  unfold PyText.boundary run at h
  split at h
  next edge =>
    cases h
    refine ⟨chatAll, threadAll, userAll, ?_, ?_, edge⟩
    · rw [chatAfter, threadAfter, userAfter]
    · rw [userBefore, threadBefore, chatBefore]
  next => cases h

theorem separated_text {s : String} (h : s ≠ "") : separated s.toList = ':' :: s.toList := by
  cases hs : s.toList with
  | nil => exact absurd (String.toList_inj.mp hs) h
  | cons c cs => rfl

theorem discordAddress_chars {toId threadId userId : String} (inside : userId ≠ "" → threadId ≠ "") :
    (discordAddress toId threadId userId).toList =
      "discord:".toList ++ (toId.toList ++ (separated threadId.toList ++ separated userId.toList)) := by
  unfold discordAddress
  by_cases thread : threadId = ""
  · have user : userId = "" := Decidable.byContradiction fun some => inside some thread
    subst thread user
    simp [separated]
  · rw [if_neg thread, separated_text thread]
    by_cases user : userId = ""
    · subst user
      simp [separated]
    · rw [if_neg user, separated_text user]
      simp

/-- Flags that a compact address can say. -/
structure Spelled (T : PyText) (flags : OriginFlags) : Prop where
  inside : flags.userId ≠ "" → flags.threadId ≠ ""
  thread : flags.threadId.toList.all (partChar T) = true
  user : flags.userId.toList.all (partChar T) = true
  ends : ∀ c, (flags.threadId.toList ++ flags.userId.toList).getLast? = some c → T.isWord c = true

theorem digits_read (classes : WordClasses T) {toId : String} (digits : isDigits T toId = true) :
    toId.toList ≠ [] ∧ toId.toList.all T.isWord = true ∧ toId.toList.all (partChar T) = true := by
  simp only [isDigits, Bool.and_eq_true, decide_eq_true_eq, List.all_eq_true] at digits
  have word : ∀ c ∈ toId.toList, T.isWord c = true := fun c mem => classes.digit c (digits.2 c mem)
  refine ⟨fun none => digits.1 (String.toList_inj.mp none), List.all_eq_true.mpr word, List.all_eq_true.mpr fun c mem => ?_⟩
  have apart : c ≠ ':' := by
    rintro rfl
    have is := word _ mem
    rw [classes.colon] at is
    cases is
  simp [partChar, apart, classes.space c (word c mem)]

theorem separated_stop (w : List Char) : (separated w).head?.all (fun y => !partChar T y) = true := by
  cases w with
  | nil => rfl
  | cons c cs => simp [separated, partChar]

theorem mapOriginToFlags_discord (classes : WordClasses T) {toId : String} {rest : List Char} {s : String}
    {chat thread user : List Char} {d : Cursor} (text : s.toList = "discord:".toList ++ (toId.toList ++ rest))
    (read : compactParts T ⟨"discord:".toList.reverse, toId.toList ++ rest⟩ = some ((chat, thread, user), d)) :
    mapOriginToFlags T s = some {
      platform := "discord", chatId := String.ofList (chat.dropWhile (· == '#'))
      threadId := String.ofList thread, userId := String.ofList user } := by
  have found : scanFrom (originCompactRe T) [] s.toList = some (("discord".toList, chat, thread, user), d) := by
    have first := compact_discord classes (toId.toList ++ rest)
    rw [read, ← text] at first
    cases chars : s.toList with
    | nil =>
      rw [text] at chars
      cases chars
    | cons c cs =>
      rw [chars] at first
      unfold scanFrom
      rw [first]
      rfl
  unfold mapOriginToFlags
  dsimp only
  rw [found]
  rfl

theorem separated_getLast? (w : List Char) : (separated w).getLast? = w.getLast? := by
  cases w <;> rfl

/-- The character before the end of a compact address. -/
theorem address_end (toId thread user before : List Char) :
    ((separated user).reverse ++ ((separated thread).reverse ++ (toId.reverse ++ before))).head? =
      ((thread ++ user).getLast?.or toId.getLast?).or before.head? := by
  simp only [List.head?_append, List.head?_reverse, separated_getLast?, List.getLast?_append, Option.or_assoc]

theorem stripped_digits (classes : WordClasses T) {toId : String} (digits : isDigits T toId = true) :
    toId.toList.dropWhile (· == '#') = toId.toList := by
  obtain ⟨some', words, _⟩ := digits_read classes digits
  cases chars : toId.toList with
  | nil => exact absurd chars some'
  | cons c cs =>
    rw [chars, List.all_cons, Bool.and_eq_true] at words
    have apart : c ≠ '#' := by
      rintro rfl
      rw [classes.hash] at words
      cases words.1
    simp [apart]

/-- A compact address is read as it was written, where its parts can be spelled. -/
theorem discordAddress_read (classes : WordClasses T) {toId : String} (digits : isDigits T toId = true) {flags : OriginFlags}
    (spelled : Spelled T flags) : mapOriginToFlags T (discordAddress toId flags.threadId flags.userId) = some {
      platform := "discord", chatId := toId, threadId := flags.threadId, userId := flags.userId } := by
  obtain ⟨some', words, parts⟩ := digits_read classes digits
  have noThread : flags.threadId.toList = [] → flags.userId.toList = [] := by
    intro none
    have user : flags.userId = "" := Decidable.byContradiction fun some => spelled.inside some (String.toList_inj.mp none)
    rw [user]
    rfl
  have ended : ∃ d, compactParts T ⟨"discord:".toList.reverse,
      toId.toList ++ (separated flags.threadId.toList ++ separated flags.userId.toList)⟩ =
        some ((toId.toList, flags.threadId.toList, flags.userId.toList), d) := by
    let stopped : Cursor := ⟨(separated flags.userId.toList).reverse ++ ((separated flags.threadId.toList).reverse ++
      (toId.toList.reverse ++ "discord:".toList.reverse)), []⟩
    have word : stopped.before.head?.any T.isWord = true := by
      unfold stopped
      rw [address_end]
      cases last : (flags.threadId.toList ++ flags.userId.toList).getLast? with
      | some c => exact spelled.ends c last
      | none =>
        rw [Option.none_or, List.getLast?_eq_some_getLast some']
        exact List.all_eq_true.mp words _ (List.getLast_mem some')
    have edge : T.boundary.run (fun _ g => some ((toId.toList, flags.threadId.toList, flags.userId.toList), g)) [] stopped =
        some ((toId.toList, flags.threadId.toList, flags.userId.toList), stopped) := by
      unfold PyText.boundary run
      refine if_pos ?_
      dsimp only
      rw [word]
      rfl
    refine ⟨stopped, ?_⟩
    unfold compactParts
    refine run_span_longest some' parts ?_ ?_
    · cases thread : flags.threadId.toList with
      | nil => exact separated_stop _
      | cons c cs => exact separated_stop (c :: cs)
    · refine optionalPart_longest spelled.thread (separated_stop _) (fun none => by rw [noThread none]; rfl) ?_
      rw [← List.append_nil (separated flags.userId.toList)]
      exact optionalPart_longest spelled.user rfl (fun _ => rfl) edge
  obtain ⟨d, read⟩ := ended
  rw [mapOriginToFlags_discord classes (discordAddress_chars spelled.inside) read, stripped_digits classes digits]
  simp only [String.ofList_toList]

/-- A numeric channel alone is already an address. -/
theorem compactParts_isSome (classes : WordClasses T) {toId : String} (digits : isDigits T toId = true)
    {rest before : List Char} (stop : rest.head?.all (fun y => !partChar T y) = true)
    (edge : rest.head?.any T.isWord = false) : (compactParts T ⟨before, toId.toList ++ rest⟩).isSome = true := by
  obtain ⟨some', words, parts⟩ := digits_read classes digits
  have word : (toId.toList.reverse ++ before).head?.any T.isWord = true := by
    rw [List.head?_append, List.head?_reverse, List.getLast?_eq_some_getLast some', Option.some_or]
    exact List.all_eq_true.mp words _ (List.getLast_mem some')
  have here : (optionalPart T (fun thread e => optionalPart T (fun user f =>
      T.boundary.run (fun _ g => some ((toId.toList, thread, user), g)) [] f) e)
        ⟨toId.toList.reverse ++ before, rest⟩).isSome = true := by
    refine optionalPart_isSome (optionalPart_isSome ?_)
    have met : ((toId.toList.reverse ++ before).head?.any T.isWord != rest.head?.any T.isWord) = true := by
      rw [word, edge]
      rfl
    unfold PyText.boundary run
    rw [if_pos met]
    rfl
  obtain ⟨x, found⟩ := Option.isSome_iff_exists.mp here
  rw [Option.isSome_iff_exists]
  exact ⟨x, run_span_longest some' parts stop found⟩

/-- What a compact address is read as can be spelled. -/
theorem discordAddress_spelled (classes : WordClasses T) {toId : String} (digits : isDigits T toId = true)
    {flags : OriginFlags} (read : mapOriginToFlags T (discordAddress toId flags.threadId flags.userId) = some {
      platform := "discord", chatId := toId, threadId := flags.threadId, userId := flags.userId }) : Spelled T flags := by
  by_cases inside : flags.userId ≠ "" → flags.threadId ≠ ""
  · have text := @discordAddress_chars toId _ _ inside
    have head (w w' : List Char) : (separated w ++ separated w').head?.all (fun y => y == ':') = true := by
      cases w <;> cases w' <;> rfl
    have colons := head flags.threadId.toList flags.userId.toList
    have found : (compactParts T ⟨"discord:".toList.reverse,
        toId.toList ++ (separated flags.threadId.toList ++ separated flags.userId.toList)⟩).isSome = true := by
      refine compactParts_isSome classes digits ?_ ?_
      · cases h : (separated flags.threadId.toList ++ separated flags.userId.toList).head? with
        | none => rfl
        | some c =>
          rw [h] at colons
          have is : c = ':' := by simpa using colons
          simp [is, partChar]
      · cases h : (separated flags.threadId.toList ++ separated flags.userId.toList).head? with
        | none => rfl
        | some c =>
          rw [h] at colons
          have is : c = ':' := by simpa using colons
          simp [is, classes.colon]
    obtain ⟨⟨⟨chat, thread, user⟩, d⟩, found⟩ := Option.isSome_iff_exists.mp found
    rw [mapOriginToFlags_discord classes text found] at read
    obtain ⟨_, threadAll, userAll, after, before, edge⟩ := compactParts_some found
    simp only [Option.some.injEq, OriginFlags.mk.injEq, true_and] at read
    obtain ⟨channel, rfl', rfl''⟩ := read
    have sameThread : flags.threadId.toList = thread := by rw [← rfl', String.toList_ofList]
    have sameUser : flags.userId.toList = user := by rw [← rfl'', String.toList_ofList]
    have shorter : toId.toList.length ≤ chat.length := by
      rw [← channel, String.toList_ofList]
      exact (List.dropWhile_suffix _).length_le
    have ended : d.after = [] := by
      have lengths := congrArg List.length after
      rw [sameThread, sameUser] at lengths
      simp only [List.length_append] at lengths
      exact List.eq_nil_of_length_eq_zero (by omega)
    refine ⟨inside, sameThread ▸ threadAll, sameUser ▸ userAll, fun c last => ?_⟩
    rw [sameThread, sameUser] at last
    rw [before, ended, address_end, last, Option.some_or, Option.some_or] at edge
    simpa using edge
  · rw [Classical.not_imp, not_not] at inside
    have alone : Spelled T { platform := "discord", chatId := toId } :=
      ⟨fun some => absurd rfl some, rfl, rfl, fun _ none => nomatch none⟩
    have address : discordAddress toId flags.threadId flags.userId = discordAddress toId "" "" := by
      unfold discordAddress
      rw [inside.2]
      rfl
    rw [address, discordAddress_read classes digits alone] at read
    simp only [Option.some.injEq, OriginFlags.mk.injEq] at read
    exact absurd read.2.2.2.symm inside.1

end

end AgentflowHermes.Origins
