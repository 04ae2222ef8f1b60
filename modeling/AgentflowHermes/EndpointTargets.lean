import AgentflowHermes.AdapterOperations
import AgentflowHermes.KanbanEvents
import AgentflowHermes.RepairProofs

namespace AgentflowHermes.Origins

open BacktrackRegex BacktrackRegex.Pattern

section

variable {T : PyText}

/-- What is known of the classes of characters, with where the ASCII letters and digits are. -/
structure AsciiClasses (T : PyText) : Prop extends WordClasses T where
  alphanum : ∀ c : Char, c.isAlphanum = true → T.isWord c = true
  alpha : ∀ c : Char, c.isAlpha = true → T.isDigit c = false

theorem platform_read {β : Type} {p : String} (mem : p ∈ originPlatforms) (k : List Char → Cursor → Option β)
    (tail : List Char) :
    (Pattern.group (any (originPlatforms.map lit))).run k [] ⟨[], p.toList ++ ':' :: tail⟩ =
      k p.toList ⟨p.toList.reverse, ':' :: tail⟩ := by
  simp only [originPlatforms, List.mem_cons, List.not_mem_nil, or_false] at mem
  rcases mem with rfl | rfl | rfl
  · simp [originPlatforms, any, lit, all, run, foldsTo]
  · simp [originPlatforms, any, lit, all, run, foldsTo]
  · simp [originPlatforms, any, lit, all, run, foldsTo]

/-- An address that begins with its platform is read from there on. -/
theorem compact_platform (classes : AsciiClasses T) {p : String} (mem : p ∈ originPlatforms) (tail : List Char) :
    originCompactRe T ⟨[], p.toList ++ ':' :: tail⟩ =
      (compactParts T ⟨':' :: p.toList.reverse, tail⟩).map fun m => ((p.toList, m.1), m.2) := by
  have starts : (p.toList ++ ':' :: tail).head?.any T.isWord = true := by
    simp only [originPlatforms, List.mem_cons, List.not_mem_nil, or_false] at mem
    rcases mem with rfl | rfl | rfl
    · exact classes.alphanum 'd' (by decide)
    · exact classes.alphanum 's' (by decide)
    · exact classes.alphanum 't' (by decide)
  unfold originCompactRe PyText.boundary
  rw [run, if_pos (by rw [starts]; rfl), platform_read mem]
  rfl

theorem words_part (classes : WordClasses T) {w : List Char} (words : w.all T.isWord = true) :
    w.all (partChar T) = true := by
  rw [List.all_eq_true] at words ⊢
  intro c mem
  have apart : c ≠ ':' := by
    rintro rfl
    have is := words _ mem
    rw [classes.colon] at is
    cases is
  simp [partChar, apart, classes.space c (words c mem)]

/-- A channel and a thread that are words are read to the end of the text. -/
theorem compactParts_words (classes : WordClasses T) {chat thread before : List Char} (some' : chat ≠ [])
    (chatWords : chat.all T.isWord = true) (threadWords : thread.all T.isWord = true) :
    ∃ d, compactParts T ⟨before, chat ++ separated thread⟩ = some ((chat, thread, []), d) := by
  let stopped : Cursor := ⟨(separated thread).reverse ++ (chat.reverse ++ before), []⟩
  have word : stopped.before.head?.any T.isWord = true := by
    have last := address_end chat thread [] before
    rw [List.append_nil] at last
    have seen : stopped.before.head? = (thread.getLast?.or chat.getLast?).or before.head? := last
    rw [seen]
    cases ends : thread.getLast? with
    | some c => exact List.all_eq_true.mp threadWords c (List.mem_of_getLast? ends)
    | none =>
      rw [Option.none_or, List.getLast?_eq_some_getLast some']
      exact List.all_eq_true.mp chatWords _ (List.getLast_mem some')
  have edge : T.boundary.run (fun _ g => some ((chat, thread, ([] : List Char)), g)) [] stopped =
      some ((chat, thread, []), stopped) := by
    unfold PyText.boundary run
    refine if_pos ?_
    dsimp only
    rw [word]
    rfl
  refine ⟨stopped, ?_⟩
  unfold compactParts
  refine run_span_longest some' (words_part classes chatWords) (separated_stop thread) ?_
  rw [← List.append_nil (separated thread)]
  refine optionalPart_longest (words_part classes threadWords) rfl (fun _ => rfl) ?_
  exact @optionalPart_longest T _ _ _ [] [] _ rfl rfl (fun _ => rfl) edge

theorem platform_lower {p : String} (mem : p ∈ originPlatforms) : lowerText p.toList = p := by
  simp only [originPlatforms, List.mem_cons, List.not_mem_nil, or_false] at mem
  rcases mem with rfl | rfl | rfl <;> decide

theorem mapOriginToFlags_words (classes : AsciiClasses T) {p chat thread : String} (mem : p ∈ originPlatforms)
    (some' : chat ≠ "") (chatWords : chat.toList.all T.isWord = true) (threadWords : thread.toList.all T.isWord = true)
    {s : String} (text : s.toList = p.toList ++ ':' :: (chat.toList ++ separated thread.toList)) :
    mapOriginToFlags T s = some { platform := p, chatId := chat, threadId := thread } := by
  have filled : chat.toList ≠ [] := fun none => some' (String.toList_inj.mp none)
  obtain ⟨d, parts⟩ := @compactParts_words T classes.toWordClasses chat.toList thread.toList
    (':' :: p.toList.reverse) filled
    chatWords threadWords
  have found : scanFrom (originCompactRe T) [] s.toList = some ((p.toList, chat.toList, thread.toList, []), d) := by
    have first := compact_platform classes mem (chat.toList ++ separated thread.toList)
    rw [parts, ← text] at first
    cases chars : s.toList with
    | nil =>
      rw [text] at chars
      exact absurd (List.append_eq_nil_iff.mp chars).2 (List.cons_ne_nil _ _)
    | cons c cs =>
      rw [chars] at first
      unfold scanFrom
      rw [first]
      rfl
  have stripped : chat.toList.dropWhile (· == '#') = chat.toList := by
    cases chars : chat.toList with
    | nil => rfl
    | cons c cs =>
      rw [chars, List.all_cons, Bool.and_eq_true] at chatWords
      have apart : c ≠ '#' := by
        rintro rfl
        rw [classes.hash] at chatWords
        cases chatWords.1
      simp [apart]
  unfold mapOriginToFlags
  dsimp only
  rw [found]
  dsimp only
  rw [platform_lower mem, stripped]
  simp only [String.ofList_toList, String.ofList_nil]

end

end AgentflowHermes.Origins

namespace AgentflowHermes.Boards

open SqlSessions Origins

/-- `record_consumer_ack` at an address. -/
def recordConsumerAckAt {ι : Type} (cfg : RealBoardAdapter) (out : Outside ι) (taskId : String) (flags : OriginFlags)
    (status : String) : Act ι Fields := do
  let result ← runJson out (kanban cfg (ackCommand taskId status (some flags)))
  if !successful result then return result
  let verified ← consumerAckSatisfiedAt out taskId flags status
  if !successful verified then
    return [("success", .bool false), ("error", errorOr "consumer_ack_verify_failed" verified), ("ack", .obj verified)]
  return merged result [("ack", .obj verified)]

section

variable (T : PyText) (cfg : RealBoardAdapter) (endpoint : String)

/-- Under every tool and database the operations on the endpoint are the operations on one address. -/
structure AllAt (flags : OriginFlags) : Prop where
  subscribe : ∀ {ι : Type} (out : Outside ι) (taskId : String),
    Boards.subscribe T cfg out taskId endpoint = subscribeTo T cfg out taskId flags
  scheduleOriginWake : ∀ {ι : Type} (out : Outside ι) (taskId : String),
    Boards.scheduleOriginWake T cfg out taskId endpoint = runJson out (kanban cfg (wakeCommand taskId (some flags)))
  originWakeSatisfied : ∀ {ι : Type} (out : Outside ι) (taskId : String),
    Boards.originWakeSatisfied T out taskId endpoint = originWakeSatisfiedAt out taskId flags
  recordConsumerAck : ∀ {ι : Type} (out : Outside ι) (taskId status : String),
    Boards.recordConsumerAck T cfg out taskId endpoint status = recordConsumerAckAt cfg out taskId flags status
  consumerAckSatisfied : ∀ {ι : Type} (out : Outside ι) (taskId status : String),
    Boards.consumerAckSatisfied T out taskId endpoint status = consumerAckSatisfiedAt out taskId flags status

/-- An operation that fails at once, with nothing called. -/
def Refuses {ι : Type} (p : Act ι Fields) : Prop := ∀ s, ∃ error, p s = (.ok (refusal error), s)

structure AllRefuse : Prop where
  subscribe : ∀ {ι : Type} (out : Outside ι) (taskId : String), Refuses (Boards.subscribe T cfg out taskId endpoint)
  scheduleOriginWake : ∀ {ι : Type} (out : Outside ι) (taskId : String),
    Refuses (Boards.scheduleOriginWake T cfg out taskId endpoint)
  originWakeSatisfied : ∀ {ι : Type} (out : Outside ι) (taskId : String),
    Refuses (Boards.originWakeSatisfied T out taskId endpoint)
  recordConsumerAck : ∀ {ι : Type} (out : Outside ι) (taskId status : String),
    Refuses (Boards.recordConsumerAck T cfg out taskId endpoint status)
  consumerAckSatisfied : ∀ {ι : Type} (out : Outside ι) (taskId status : String),
    Refuses (Boards.consumerAckSatisfied T out taskId endpoint status)

/-- The endpoint is parsed, no alias stands for its channel, and a channel of Discord is a number. -/
def Agreed : Prop := ∃ flags, mapOriginToFlags T endpoint = some flags ∧ aliased flags = flags ∧
  (flags.platform = "discord" → isDigits T flags.chatId = true)

end

section

variable {T : PyText} {cfg : RealBoardAdapter} {endpoint : String} {flags : OriginFlags}

theorem requiredFlags_agreed (read : mapOriginToFlags T endpoint = some flags) (plain : aliased flags = flags)
    (numeric : flags.platform = "discord" → isDigits T flags.chatId = true) : requiredFlags T endpoint = .ok flags := by
  unfold requiredFlags
  rw [read]
  dsimp only
  rw [plain]
  refine if_neg fun refused => ?_
  have digits := numeric refused.1
  rw [digits] at refused
  exact absurd refused.2 (by decide)

theorem allAt_of_agreed (read : mapOriginToFlags T endpoint = some flags) (plain : aliased flags = flags)
    (numeric : flags.platform = "discord" → isDigits T flags.chatId = true) : AllAt T cfg endpoint flags := by
  have required := requiredFlags_agreed read plain numeric
  constructor
  · intro ι out taskId
    unfold subscribe
    rw [required]
  · intro ι out taskId
    unfold scheduleOriginWake
    rw [read]
  · intro ι out taskId
    unfold originWakeSatisfied
    rw [required]
  · intro ι out taskId status
    unfold recordConsumerAck recordConsumerAckAt consumerAckSatisfied
    rw [read, required, Option.map_some, plain]
  · intro ι out taskId status
    unfold consumerAckSatisfied
    rw [required]

/-- A tool that fails and notes what it was called with; the database cannot be opened. -/
def notingTool : Outside (List (List String)) where
  runner argv w := (.returned 1 "" "", { w with outside := w.outside ++ [argv] })
  passes w := w
  now _ := 0
  loads _ := .invalid
  dumps s := s

def closedBoard : AdapterState (List (List String)) where
  world := { tables := fun _ => none, reachable := false, outside := [] }

/-- What was called from there on. -/
def noted (p : Act (List (List String)) Fields) : List (List String) := (p closedBoard).2.world.outside

theorem noted_runJson (argv : List String) : noted (runJson notingTool argv) = [argv] := rfl

theorem noted_recordConsumerAckAt (taskId status : String) :
    noted (recordConsumerAckAt cfg notingTool taskId flags status) =
    [kanban cfg (ackCommand taskId status (some flags))] :=
  rfl

theorem noted_recordConsumerAck (taskId status : String) : noted
    (recordConsumerAck T cfg notingTool taskId endpoint status) =
    [kanban cfg (ackCommand taskId status ((mapOriginToFlags T endpoint).map aliased))] := rfl

theorem option_inj {name value other : String} (same : option name value = option name other) : value = other := by
  unfold option at same
  split at same <;> split at same
  next left right => rw [left, right]
  next => cases same
  next => cases same
  next => exact (List.cons.inj (List.cons.inj same).2).1

theorem addressFlags_inj {other : OriginFlags} (same : addressFlags flags = addressFlags other) :
    flags.platform = other.platform ∧ flags.chatId = other.chatId ∧ flags.threadId = other.threadId := by
  obtain ⟨_, rest⟩ := List.cons.inj same
  obtain ⟨platform, rest⟩ := List.cons.inj rest
  obtain ⟨_, rest⟩ := List.cons.inj rest
  obtain ⟨chat, rest⟩ := List.cons.inj rest
  exact ⟨platform, chat, option_inj rest⟩

theorem command_inj {pre : List String} {read : Option OriginFlags}
    (same : pre ++ (read.map addressFlags).getD [] ++ ["--json"] = pre ++ addressFlags flags ++ ["--json"]) :
    ∃ other, read = some other ∧ other.platform = flags.platform ∧ other.chatId = flags.chatId ∧
      other.threadId = flags.threadId := by
  have middle := List.append_cancel_left (List.append_cancel_right same)
  cases read with
  | none => cases middle
  | some other => exact ⟨other, rfl, addressFlags_inj middle⟩

theorem originWakeSatisfied_required (same : ∀ {ι : Type} (out : Outside ι) (taskId : String),
    originWakeSatisfied T out taskId endpoint = originWakeSatisfiedAt out taskId flags) :
    ∃ other, requiredFlags T endpoint = .ok other := by
  have closed := congrFun (same notingTool "") closedBoard
  unfold originWakeSatisfied at closed
  cases read : requiredFlags T endpoint with
  | ok other => exact ⟨other, rfl⟩
  | error e =>
    rw [read] at closed
    have error : Except.ok (refusal e) = Except.ok (ε := AdapterError) (refusal "canonical_db_connect_failed") :=
      congrArg Prod.fst closed
    have named : e = "canonical_db_connect_failed" := by simpa [refusal] using error
    unfold requiredFlags at read
    split at read
    next =>
      cases read
      exact absurd named (by decide)
    next =>
      split at read
      next =>
        cases read
        exact absurd named (by decide)
      next => cases read

theorem aliased_fixed (same : (aliased flags).chatId = flags.chatId) : aliased flags = flags := by
  unfold aliased at same ⊢
  split
  next discord =>
    rw [if_pos discord] at same
    dsimp only at same ⊢
    rw [same]
  next => rfl

theorem agreed_of_allAt (all : AllAt T cfg endpoint flags) : Agreed T endpoint := by
  have wake := congrArg noted (all.scheduleOriginWake notingTool "")
  have ack := congrArg noted (all.recordConsumerAck notingTool "" "")
  rw [noted_recordConsumerAck, noted_recordConsumerAckAt] at ack
  unfold scheduleOriginWake at wake
  rw [noted_runJson, noted_runJson] at wake
  obtain ⟨raw, read, _, chat, _⟩ := command_inj (List.append_cancel_left (List.cons.inj wake).1)
  obtain ⟨renamed, read', _, chat', _⟩ := command_inj (List.append_cancel_left (List.cons.inj ack).1)
  rw [read, Option.map_some] at read'
  have is : aliased raw = renamed := Option.some.inj read'
  have plain : aliased raw = raw := aliased_fixed (by rw [is, chat', chat])
  obtain ⟨other, required⟩ := originWakeSatisfied_required all.originWakeSatisfied
  refine ⟨raw, read, plain, fun discord => ?_⟩
  unfold requiredFlags at required
  rw [read] at required
  dsimp only at required
  rw [plain] at required
  by_contra letters
  rw [if_pos ⟨discord, by simp [letters]⟩] at required
  cases required

/-- A wake is always given to the tool, so that the operations never refuse an endpoint together. -/
theorem not_allRefuse : ¬AllRefuse T cfg endpoint := by
  intro all
  obtain ⟨error, refused⟩ := all.scheduleOriginWake notingTool "" closedBoard
  have called : noted (scheduleOriginWake T cfg notingTool "" endpoint) = [] := by
    unfold noted
    rw [refused]
    rfl
  cases called

end

/-! The endpoint of a row of `kanban_notify_subs`. -/

/-- The newest subscription of a task. -/
def newestSub (db : KanbanDb) (taskId : String) : Option NotifySub :=
  ((db.notifySubs.filter fun n => n.taskId == taskId).mergeSort fun m n => decide (n.createdAt ≤ m.createdAt)).head?

/-- A row of a supported platform whose channel is one word and whose thread is one or is left out. Alphanumeric
characters are the word characters but the underscore. -/
structure PlainSub (T : PyText) (n : NotifySub) : Prop where
  platform : n.platform ∈ originPlatforms
  chat : n.chatId ≠ "" ∧ n.chatId.toList.all T.isWord = true
  thread : n.threadId.toList.all T.isWord = true

def subFlags (n : NotifySub) : OriginFlags where
  platform := n.platform
  chatId := n.chatId
  threadId := n.threadId

section

variable {T : PyText} {cfg : RealBoardAdapter} {n : NotifySub}

/-- The endpoint of a plain row is read as the row. -/
theorem typedNotifyEndpoint_read (classes : AsciiClasses T) {db : KanbanDb} {taskId : String} (named : taskId ≠ "")
    (newest : newestSub db taskId = some n) (plain : PlainSub T n) :
    mapOriginToFlags T (typedNotifyEndpoint db taskId) = some (subFlags n) := by
  have platform : n.platform ≠ "" := by
    have mem := plain.platform
    simp only [originPlatforms, List.mem_cons, List.not_mem_nil, or_false] at mem
    rcases mem with h | h | h <;> rw [h] <;> decide
  have endpoint : typedNotifyEndpoint db taskId =
      n.platform ++ ":" ++ n.chatId ++ if n.threadId = "" then "" else ":" ++ n.threadId := by
    unfold typedNotifyEndpoint
    unfold newestSub at newest
    dsimp only
    rw [newest]
    dsimp only
    rw [if_neg (by simp [named, platform, plain.chat.1])]
  refine mapOriginToFlags_words classes plain.platform plain.chat.1 plain.chat.2 plain.thread ?_
  rw [endpoint]
  by_cases thread : n.threadId = ""
  · rw [if_pos thread, thread]
    simp [separated]
  · rw [if_neg thread, separated_text thread]
    simp

/-- No alias is a number. -/
theorem aliased_numeric (classes : AsciiClasses T) {flags : OriginFlags} (digits : isDigits T flags.chatId = true) :
    aliased flags = flags := by
  simp only [isDigits, Bool.and_eq_true, List.all_eq_true] at digits
  have letter {c : Char} {key : String} (alpha : c.isAlpha = true) (mem : c ∈ key.toList) :
      String.ofList (flags.chatId.toList.dropWhile (· == '#')) ≠ key := by
    rintro rfl
    rw [String.toList_ofList] at mem
    have digit := digits.2 c ((List.dropWhile_suffix _).subset mem)
    rw [classes.alpha c alpha] at digit
    cases digit
  have none' : discordChannelAliases.lookup (String.ofList (flags.chatId.toList.dropWhile (· == '#'))) = none := by
    refine List.lookup_eq_none_iff.mpr fun entry mem => ?_
    simp only [discordChannelAliases, List.mem_cons, List.not_mem_nil, or_false] at mem
    rcases mem with rfl | rfl | rfl
    · exact bne_iff_ne.mpr (@letter 'r' "research" rfl (by decide))
    · exact bne_iff_ne.mpr (@letter 's' "shaman" rfl (by decide))
    · exact bne_iff_ne.mpr (@letter 'h' "hermes-main" rfl (by decide))
  refine aliased_fixed ?_
  unfold aliased
  split
  next =>
    dsimp only
    rw [none', Option.getD_none]
  next => rfl

/-- What one endpoint has to stand for, and when the endpoint of a plain row stands for the row. -/
theorem endpoint_targets (classes : AsciiClasses T) (cfg : RealBoardAdapter) :
    (∀ endpoint, (AllRefuse T cfg endpoint ∨ ∃ flags, AllAt T cfg endpoint flags) ↔ Agreed T endpoint) ∧
    ∀ (src : LiveBoardEventSource) (db : KanbanDb) (e : TaskEvent) (n : NotifySub), e.taskId ≠ "" →
      newestSub db e.taskId = some n → PlainSub T n →
        (src.rowToEvent db e).returnToRef = (src.rowToEvent db e).originRef ∧
        mapOriginToFlags T (src.rowToEvent db e).originRef = some (subFlags n) ∧
        (AllAt T cfg (src.rowToEvent db e).originRef (subFlags n) ↔
          (n.platform = "discord" → isDigits T n.chatId = true)) := by
  constructor
  · intro endpoint
    constructor
    · rintro (refuse | ⟨flags, all⟩)
      · exact absurd refuse not_allRefuse
      · exact agreed_of_allAt all
    · rintro ⟨flags, read, plain, numeric⟩
      exact .inr ⟨flags, allAt_of_agreed read plain numeric⟩
  · intro src db e n named newest plain
    have read := typedNotifyEndpoint_read classes named newest plain
    have filled : typedNotifyEndpoint db e.taskId ≠ "" := by
      intro none'
      rw [none'] at read
      cases read
    have origin : (src.rowToEvent db e).originRef = typedNotifyEndpoint db e.taskId := if_neg filled
    refine ⟨rfl, by rw [origin, read], ?_⟩
    rw [origin]
    constructor
    · intro all
      obtain ⟨flags, read', _, numeric⟩ := agreed_of_allAt all
      rw [read] at read'
      obtain rfl := Option.some.inj read'
      exact numeric
    · intro numeric
      refine allAt_of_agreed read ?_ numeric
      by_cases discord : (subFlags n).platform = "discord"
      · exact aliased_numeric classes (numeric discord)
      · unfold aliased
        rw [if_neg discord]

theorem asciiText_ascii : AsciiClasses asciiText where
  toWordClasses := asciiText_classes
  alphanum c letter := by
    unfold asciiText
    dsimp only
    rw [letter, Bool.true_or]
  alpha c letter := by
    have h : (decide ('A'.val ≤ c.val ∧ c.val ≤ 'Z'.val) || ('a'.val ≤ c.val && c.val ≤ 'z'.val)) = true := letter
    show ('0'.val ≤ c.val && c.val ≤ '9'.val) = false
    simp only [Bool.or_eq_true, Bool.and_eq_true, decide_eq_true_eq] at h
    grind

def telegramSub : NotifySub where
  taskId := "t1"
  platform := "telegram"
  chatId := "team7"
  threadId := "42"

theorem noEvents_ordered : List.Pairwise (fun e f : TaskEvent => e.id < f.id) [] := .nil

def subscribedDb : KanbanDb := ⟨[], [], [], [telegramSub], noEvents_ordered⟩

def subscribedEvent : TaskEvent := { id := 1, taskId := "t1", kind := "completed" }

theorem newestSub_telegram : newestSub subscribedDb "t1" = some telegramSub := by
  simp [newestSub, subscribedDb, telegramSub]

/-- A wake is scheduled where the probes look, for the endpoint of a row of Telegram. -/
theorem endpoint_targets_telegram : AllAt asciiText { board := "b", repairAckRows := true }
    (LiveBoardEventSource.rowToEvent { board := "b", dbIdentity := "db" } subscribedDb subscribedEvent).originRef
    { platform := "telegram", chatId := "team7", threadId := "42" } :=
  ((endpoint_targets asciiText_ascii { board := "b", repairAckRows := true }).2 { board := "b", dbIdentity := "db" }
    subscribedDb subscribedEvent telegramSub (by decide) newestSub_telegram
    ⟨by decide, by decide, by decide⟩).2.2.mpr (by decide)

/-- The alias of a channel is written out for an acknowledgement and is not for a wake. -/
example : wakeCommand "t1" (mapOriginToFlags asciiText "discord:#research") =
    ["wake-origin", "t1", "--platform", "discord", "--chat-id", "research", "--json"] := by decide

end

end AgentflowHermes.Boards
