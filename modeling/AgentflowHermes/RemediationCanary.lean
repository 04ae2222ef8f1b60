import AgentflowHermes.AckRepairs
import AgentflowHermes.Dicts

namespace AgentflowHermes.Boards

open SqlSessions Origins

/-- `str(spec.get(key) or default)`. -/
def textOr (T : PyText) (default : String) (spec : Fields) (key : String) : String :=
  (((spec.lookup key).filter Json.truthy).map T.str).getD default

/-- What a tool answered is a failure. -/
def failed (result : Fields) : Bool := result.lookup "ok" matches some (.bool false)

def notOk (action : String) : Fields := [("ok", .bool false), ("action", .str action)]

def namedId : Option Json → Option String
  | some (.str s) => if s = "" then none else some s
  | _ => none

/-- `_task_id`. -/
def taskIdOf (result : Fields) : String :=
  match ["id", "task_id"].findSome? fun key => namedId (result.lookup key) with
  | some id => id
  | none =>
    match result.lookup "task" with
    | some (.obj task) => (namedId (((task.lookup "id").filter Json.truthy).or (task.lookup "task_id"))).getD ""
    | _ => ""

def platformChar (c : Char) : Bool := c.isAlphanum || c == '_' || c == '-'

/-- The target of an item, if it names one. -/
def notifyTarget (T : PyText) (item : String) : Option (String × String) :=
  match (PyText.strip T.isSpace item).toList.span (· ≠ ':') with
  | (_, []) => none
  | (before, _ :: after) =>
    let platform := PyText.strip T.isSpace (String.ofList before)
    let chatId := PyText.strip T.isSpace (String.ofList after)
    if platform ≠ "" ∧ chatId ≠ "" ∧ platform.toList.all platformChar then some (platform, chatId) else none

/-- `_notify_targets`. -/
def notifyTargets (T : PyText) (raw : String) : List (String × String) :=
  (raw.toList.splitOn ',').filterMap fun item => notifyTarget T (String.ofList item)

def oracleLab : String := "/home/duckran/oracle-lab"

/-- `_workspace_from_spec`. -/
def workspaceFromSpec (T : PyText) (spec : Fields) : String :=
  let kind := textOr T "dir" spec "workspace_kind"
  let given := textOr T oracleLab spec "workspace_path"
  let path := if "workspace_ref:".toList.isPrefixOf given.toList then oracleLab else given
  if kind ≠ "dir" ∨ !([oracleLab, "/home/duckran/dev/agentflow-hermes"].contains path) then "dir:" ++ oracleLab
  else kind ++ ":" ++ path

def cut (n : Nat) (text : String) : String := String.ofList (text.toList.take n)

/-- A reference that the body does not name yet. -/
def withReference (name reference body : String) : String :=
  if reference ≠ "" ∧ !hasText (name ++ ":") body then body ++ "\n" ++ name ++ ": " ++ reference else body

def cardBody (T : PyText) (spec : Fields) : String :=
  let body := cut 4000 (textOr T "" spec "body")
  let body := withReference "origin_ref" (cut 200 (textOr T "" spec "origin_ref")) body
  let body := withReference "return_to_ref" (cut 200 (textOr T "" spec "return_to_ref")) body
  body ++ "\nnotify_subscribe: discord:1500539609413849200, discord:1497895797579190357"

/-- What the adapter works with. A command may do anything to the world, and raises where it answers nothing; `reads` and
`saves` are whether the file of the cards can be read and written. -/
structure CanaryAdapter (ι : Type) where
  board : String := "oracle-lab"
  notifyChats : String
  runner : List String → World ι → Option Fields × World ι
  now : World ι → Int
  reads : World ι → Bool
  saves : World ι → Bool

/-- The world, the card of each key, and the commands that were run. -/
structure CanaryState (ι : Type) where
  world : World ι
  cards : List (String × String) := []
  commands : List (List String) := []

section

variable {ι : Type} (T : PyText) (cfg : CanaryAdapter ι)

def targetsOf : List (String × String) := notifyTargets T cfg.notifyChats

def notifyCommand (taskId : String) (target : String × String) : List String :=
  ["hermes", "kanban", "--board", cfg.board, "notify-subscribe", taskId, "--platform", target.1, "--chat-id", target.2,
    "--notifier-profile", "default"]

def createCommand (spec : Fields) (idem : String) (parent : List String) : List String :=
  ["hermes", "kanban", "--board", cfg.board, "create", cut 180 (textOr T "[auto-remediation]" spec "title"), "--json",
    "--assignee", textOr T "ccsupervisor" spec "assignee", "--workspace", workspaceFromSpec T spec, "--priority", "120",
    "--created-by", "agentflow-auto-remediation", "--idempotency-key", idem, "--body", cardBody T spec] ++ parent

/-- `run(cmd)`; `none` where it raises. -/
def issue (argv : List String) (s : CanaryState ι) : Option Fields × CanaryState ι :=
  let (answer, world) := cfg.runner argv s.world
  (answer, { s with world, commands := s.commands ++ [argv] })

/-- `_ensure_notify`. -/
def ensureNotify (taskId : String) : List (String × String) → CanaryState ι → Option (List Fields) × CanaryState ι
  | [], s => (some [], s)
  | target :: rest, s =>
    match issue cfg (notifyCommand cfg taskId target) s with
    | (none, s) => (none, s)
    | (some result, s) =>
      match ensureNotify taskId rest s with
      | (none, s) => (none, s)
      | (some results, s) => (some (result :: results), s)

/-- `_ensure_durable_ack_rows`. -/
def ensureCardAckRows (taskId : String) (s : CanaryState ι) : Fields × CanaryState ι :=
  let world := s.world
  if !world.reachable then (notOk "ack_db_connect_failed", s)
  else
    let (answer, session) := cardAckRows (targetsOf T cfg) taskId (cfg.now world)
      { committed := world.tables, patience := world.patience }
    let s := { s with world := { world with tables := session.committed, patience := session.patience } }
    match answer with
    | none => (notOk "ack_ensure_failed", s)
    | some false => (notOk "ack_schema_missing", s)
    | some true => ([("ok", .bool true)], s)

def cardFields (taskId idem : String) (notify : List Fields) : Fields :=
  [("id", .str taskId), ("idempotency_key", .str idem), ("notify", .arr (notify.map Json.obj))]

/-- The ACK rows of a card and the answer; `action` is what has been done where they are right. -/
def answerCard (action taskId idem : String) (notify : List Fields) (s : CanaryState ι) :
    Option (Int × Fields) × CanaryState ι :=
  let (ack, s) := ensureCardAckRows T cfg taskId s
  if failed ack then (some (1, notOk "ack_ensure_failed" ++ cardFields taskId idem notify ++ [("ack", .obj ack)]), s)
  else (some (0, [("ok", .bool true), ("action", .str action)] ++ cardFields taskId idem notify), s)

/-- `materialize` for a key that has its card. -/
def knownCard (taskId idem : String) (s : CanaryState ι) : Option (Int × Fields) × CanaryState ι :=
  match ensureNotify cfg taskId (targetsOf T cfg) s with
  | (none, s) => (none, s)
  | (some notify, s) => answerCard T cfg "deduped" taskId idem notify s

/-- The rest of `materialize` for a card that is in the file. -/
def newCard (taskId idem : String) (s : CanaryState ι) : Option (Int × Fields) × CanaryState ι :=
  match ensureNotify cfg taskId (targetsOf T cfg) s with
  | (none, s) => (none, s)
  | (some notify, s) =>
    if notify.any failed then (some (1, notOk "notify_subscribe_failed" ++ cardFields taskId idem notify), s)
    else answerCard T cfg "created" taskId idem notify s

/-- The arguments for the parent; `none` where it has no card. -/
def parentArgs (cards : List (String × String)) (spec : Fields) : Option (List String) :=
  match (spec.lookup "parent_idempotency_key").filter Json.truthy with
  | none => some []
  | some key => ((cards.lookup (T.str key)).filter (· ≠ "")).map fun id => ["--parent", id]

def keyPrefix : String := "kanban-auto-remediation:"

/-- `materialize`: the code and the answer, `none` where something raises. -/
def materialize (spec : Fields) (s : CanaryState ι) : Option (Int × Fields) × CanaryState ι :=
  let idem := textOr T "" spec "idempotency_key"
  if cfg.board ≠ "oracle-lab" then (some (2, notOk "unsupported_board" ++ [("board", .str cfg.board)]), s)
  else if !keyPrefix.toList.isPrefixOf idem.toList then (some (2, notOk "unsafe_idempotency_key"), s)
  else
    let cards := if cfg.reads s.world then s.cards else []
    match cards.lookup idem with
    | some taskId => knownCard T cfg taskId idem s
    | none =>
      match parentArgs T cards spec with
      | none => (some (2, notOk "missing_parent_mapping" ++ [("idempotency_key", .str idem)]), s)
      | some parent =>
        match issue cfg (createCommand T cfg spec idem parent) s with
        | (none, s) => (none, s)
        | (some result, s) =>
          let taskId := taskIdOf result
          if failed result ∧ taskId = "" then (some (1, result), s)
          else if taskId = "" then (some (1, notOk "missing_created_id" ++ [("idempotency_key", .str idem)]), s)
          else if !cfg.saves s.world then (none, s)
          else newCard T cfg taskId idem { s with cards := Dicts.set idem taskId cards }

end

/-- Whatever is done to the world, it makes no second ACK row for a key and takes none back. -/
def SparesRows {ι : Type} (change : World ι → World ι) : Prop :=
  ∀ a w, Holds a w.tables → a.Keyed → ∃ a', Holds a' (change w).tables ∧ a'.Keyed ∧ AckTables.Grows a a'

section

variable {ι : Type} {T : PyText} {cfg : CanaryAdapter ι} {s t u : CanaryState ι} {id : String}

/-- From one state to the next these commands were run, and the ACK rows grew. -/
structure Moves (s t : CanaryState ι) (issued : List (List String)) : Prop where
  cards : t.cards = s.cards
  commands : t.commands = s.commands ++ issued
  rows : ∀ a, Holds a s.world.tables → a.Keyed → ∃ b, Holds b t.world.tables ∧ b.Keyed ∧ AckTables.Grows a b

theorem Moves.refl (s : CanaryState ι) : Moves s s [] :=
  ⟨rfl, (List.append_nil _).symm, fun a holds keyed => ⟨a, holds, keyed, .refl a⟩⟩

theorem Moves.trans {first later : List (List String)} (h : Moves s t first) (h' : Moves t u later) :
    Moves s u (first ++ later) where
  cards := h'.cards.trans h.cards
  commands := by rw [h'.commands, h.commands, List.append_assoc]
  rows a holds keyed := by
    obtain ⟨b, holds, keyed, grows⟩ := h.rows a holds keyed
    obtain ⟨c, holds, keyed, more⟩ := h'.rows b holds keyed
    exact ⟨c, holds, keyed, grows.trans more⟩

theorem issue_moves (spares : ∀ argv, SparesRows fun w => (cfg.runner argv w).2) (argv : List String)
    (s : CanaryState ι) : Moves s (issue cfg argv s).2 [argv] :=
  ⟨rfl, rfl, fun a holds keyed => spares argv a s.world holds keyed⟩

/-- All the commands subscribe the card to some of the targets. -/
def Subscribing (cfg : CanaryAdapter ι) (id : String) (targets : List (String × String)) (issued : List (List String)) :
    Prop :=
  ∀ argv ∈ issued, ∃ target ∈ targets, argv = notifyCommand cfg id target

theorem ensureNotify_moves (spares : ∀ argv, SparesRows fun w => (cfg.runner argv w).2) (id : String)
    (targets : List (String × String)) (s : CanaryState ι) :
    ∃ issued, Moves s (ensureNotify cfg id targets s).2 issued ∧ Subscribing cfg id targets issued := by
  induction targets generalizing s with
  | nil => exact ⟨[], Moves.refl s, fun _ mem => absurd mem List.not_mem_nil⟩
  | cons target rest ih =>
    have first := issue_moves spares (notifyCommand cfg id target) s
    have own : Subscribing cfg id (target :: rest) [notifyCommand cfg id target] :=
      fun argv mem => ⟨target, List.mem_cons_self, List.mem_singleton.mp mem⟩
    rcases ran : issue cfg (notifyCommand cfg id target) s with ⟨_ | result, t⟩
    · have whole : ensureNotify cfg id (target :: rest) s = (none, t) := by simp only [ensureNotify, ran]
      rw [ran] at first
      rw [whole]
      exact ⟨_, first, own⟩
    · rw [ran] at first
      obtain ⟨issued, later, subscribing⟩ := ih t
      have whole : (ensureNotify cfg id (target :: rest) s).2 = (ensureNotify cfg id rest t).2 := by
        simp only [ensureNotify, ran]
        split
        next stopped => rw [stopped]
        next done => rw [done]
      rw [whole]
      refine ⟨_, first.trans later, fun argv mem => ?_⟩
      rcases List.mem_append.mp mem with mem | mem
      · exact own argv mem
      · obtain ⟨other, inside, is⟩ := subscribing argv mem
        exact ⟨other, List.mem_cons_of_mem _ inside, is⟩

/-- What a card is served with: commands that subscribe it, answers that name it, and its ACK rows where they are good. -/
structure Served (T : PyText) (cfg : CanaryAdapter ι) (id : String) (s : CanaryState ι)
    (r : Option (Int × Fields) × CanaryState ι) : Prop where
  cards : r.2.cards = s.cards
  commands : ∃ issued, r.2.commands = s.commands ++ issued ∧ Subscribing cfg id (targetsOf T cfg) issued
  names : ∀ code f, r.1 = some (code, f) → f.lookup "id" = some (.str id)
  rows : ∀ a, Holds a s.world.tables → a.Keyed → ∃ b, Holds b r.2.world.tables ∧ b.Keyed ∧ AckTables.Grows a b ∧
    ∀ f, r.1 = some (0, f) → ∀ target ∈ targetsOf T cfg, b.Woken (cardTarget id target)

theorem failed_notOk (action : String) : failed (notOk action) = true := rfl

theorem ensureCardAckRows_rows (s : CanaryState ι) :
    Moves s (ensureCardAckRows T cfg id s).2 [] ∧
      ∀ a, Holds a s.world.tables → a.Keyed → ∃ b, Holds b (ensureCardAckRows T cfg id s).2.world.tables ∧ b.Keyed ∧
        AckTables.Grows a b ∧ (failed (ensureCardAckRows T cfg id s).1 = false →
          ∀ target ∈ targetsOf T cfg, b.Woken (cardTarget id target)) := by
  have rows : ∀ a, Holds a s.world.tables → a.Keyed →
      ∃ b, Holds b (ensureCardAckRows T cfg id s).2.world.tables ∧ b.Keyed ∧
        AckTables.Grows a b ∧ (failed (ensureCardAckRows T cfg id s).1 = false →
          ∀ target ∈ targetsOf T cfg, b.Woken (cardTarget id target)) := by
    intro a holds keyed
    unfold ensureCardAckRows
    dsimp only
    split
    · exact ⟨a, holds, keyed, .refl a, fun fine => absurd ((failed_notOk _).symm.trans fine) (by decide)⟩
    · have done := repair_step (.cards (targetsOf T cfg) id) (cfg.now s.world) s.world.patience holds keyed
      rcases ran : cardAckRows (targetsOf T cfg) id (cfg.now s.world)
        { committed := s.world.tables, patience := s.world.patience } with ⟨answer, session⟩
      have stepped : (AckEvent.repair (.cards (targetsOf T cfg) id) (cfg.now s.world) s.world.patience).step
        s.world.tables =
          (answer, session.committed) := by
        show ((cardAckRows _ _ _ _).1, (cardAckRows _ _ _ _).2.committed) = _
        rw [ran]
      rw [stepped] at done
      cases answer with
      | none =>
        have same : session.committed = s.world.tables := by simpa using done
        exact ⟨a, same ▸ holds, keyed, .refl a, fun fine => absurd ((failed_notOk _).symm.trans fine) (by decide)⟩
      | some granted =>
        cases granted with
        | false =>
          have same : session.committed = s.world.tables := by simpa using done
          exact ⟨a, same ▸ holds, keyed, .refl a, fun fine => absurd ((failed_notOk _).symm.trans fine) (by decide)⟩
        | true =>
          rw [if_pos rfl] at done
          refine ⟨_, done, a.repairedAll_keyed keyed _ _, a.repairedAll_grows keyed _ _, fun _ target mem => ?_⟩
          exact a.repairedAll_woken keyed _ (List.mem_map_of_mem mem)
  refine ⟨⟨?_, ?_, fun a holds keyed => ?_⟩, rows⟩
  · unfold ensureCardAckRows
    dsimp only
    split
    · rfl
    · split <;> rfl
  · unfold ensureCardAckRows
    dsimp only
    rw [List.append_nil]
    split
    · rfl
    · split <;> rfl
  · obtain ⟨b, holds, keyed, grows, _⟩ := rows a holds keyed
    exact ⟨b, holds, keyed, grows⟩

theorem answerCard_served (action idem : String) (notify : List Fields) (s : CanaryState ι) :
    Served T cfg id s (answerCard T cfg action id idem notify s) := by
  obtain ⟨moves, rows⟩ := @ensureCardAckRows_rows ι T cfg id s
  unfold answerCard
  dsimp only
  split
  next bad =>
    refine ⟨moves.cards, ⟨[], moves.commands, fun _ mem => absurd mem List.not_mem_nil⟩, fun code f is => ?_,
      fun a holds keyed => ?_⟩
    · cases is
      rfl
    · obtain ⟨b, holds, keyed, grows, _⟩ := rows a holds keyed
      exact ⟨b, holds, keyed, grows, fun f is => by cases is⟩
  next good =>
    refine ⟨moves.cards, ⟨[], moves.commands, fun _ mem => absurd mem List.not_mem_nil⟩, fun code f is => ?_,
      fun a holds keyed => ?_⟩
    · cases is
      rfl
    · obtain ⟨b, holds, keyed, grows, woken⟩ := rows a holds keyed
      exact ⟨b, holds, keyed, grows, fun _ _ => woken (Bool.not_eq_true _ ▸ good)⟩

theorem Served.after {r : Option (Int × Fields) × CanaryState ι} {issued : List (List String)}
    (first : Moves s t issued)
    (subscribing : Subscribing cfg id (targetsOf T cfg) issued) (later : Served T cfg id t r) :
    Served T cfg id s r where
  cards := later.cards.trans first.cards
  commands := by
    obtain ⟨more, commands, also⟩ := later.commands
    refine ⟨issued ++ more, by rw [commands, first.commands, List.append_assoc], fun argv mem => ?_⟩
    rcases List.mem_append.mp mem with mem | mem
    · exact subscribing argv mem
    · exact also argv mem
  names := later.names
  rows a holds keyed := by
    obtain ⟨b, holds, keyed, grows⟩ := first.rows a holds keyed
    obtain ⟨c, holds, keyed, more, woken⟩ := later.rows b holds keyed
    exact ⟨c, holds, keyed, grows.trans more, woken⟩

/-- Nothing good is answered. -/
theorem served_badly (s : CanaryState ι) {answer : Option (Int × Fields)} (bad : ∀ f, answer ≠ some (0, f))
    (names : ∀ code f, answer = some (code, f) → f.lookup "id" = some (.str id)) : Served T cfg id s (answer, s) where
  cards := rfl
  commands := ⟨[], (List.append_nil _).symm, fun _ mem => absurd mem List.not_mem_nil⟩
  names := names
  rows a holds keyed := ⟨a, holds, keyed, .refl a, fun f is => absurd is (bad f)⟩

theorem knownCard_served (spares : ∀ argv, SparesRows fun w => (cfg.runner argv w).2) (id idem : String)
    (s : CanaryState ι) : Served T cfg id s (knownCard T cfg id idem s) := by
  obtain ⟨issued, moves, subscribing⟩ := ensureNotify_moves spares id (targetsOf T cfg) s
  unfold knownCard
  rcases ran : ensureNotify cfg id (targetsOf T cfg) s with ⟨_ | notify, t⟩
  · rw [ran] at moves
    exact .after moves subscribing (served_badly t (fun f is => by cases is) fun code f is => by cases is)
  · rw [ran] at moves
    exact .after moves subscribing (answerCard_served _ _ _ t)

theorem newCard_served (spares : ∀ argv, SparesRows fun w => (cfg.runner argv w).2) (id idem : String)
    (s : CanaryState ι) : Served T cfg id s (newCard T cfg id idem s) := by
  obtain ⟨issued, moves, subscribing⟩ := ensureNotify_moves spares id (targetsOf T cfg) s
  unfold newCard
  rcases ran : ensureNotify cfg id (targetsOf T cfg) s with ⟨_ | notify, t⟩
  · rw [ran] at moves
    exact .after moves subscribing (served_badly t (fun f is => by cases is) fun code f is => by cases is)
  · rw [ran] at moves
    refine .after moves subscribing ?_
    dsimp only
    split
    · refine served_badly t (fun f is => by cases is) fun code f is => ?_
      cases is
      rfl
    · exact answerCard_served _ _ _ t

/-- `idem` as the call reads it. -/
def keyOf (T : PyText) (spec : Fields) : String := textOr T "" spec "idempotency_key"

/-- The first command may create the card, where the key has none; the others subscribe the card of the key. -/
structure Issued (T : PyText) (cfg : CanaryAdapter ι) (spec : Fields) (before cards : List (String × String))
    (first rest : List (List String)) : Prop where
  creates : first = [] ∨ before.lookup (keyOf T spec) = none ∧ ∃ parent, parentArgs T before spec = some parent ∧
    first = [createCommand T cfg spec (keyOf T spec) parent]
  subscribes : ∀ argv ∈ rest, ∃ id, cards.lookup (keyOf T spec) = some id ∧ ∃ target ∈ targetsOf T cfg,
    argv = notifyCommand cfg id target

/-- What one call comes to. -/
structure CardStep (T : PyText) (cfg : CanaryAdapter ι) (spec : Fields) (s : CanaryState ι)
    (r : Option (Int × Fields) × CanaryState ι) : Prop where
  cards : r.2.cards = s.cards ∨ s.cards.lookup (keyOf T spec) = none ∧ ∃ id, r.2.cards = s.cards ++ [(keyOf T spec, id)]
  commands : ∃ first rest, r.2.commands = s.commands ++ (first ++ rest) ∧ Issued T cfg spec s.cards r.2.cards first rest
  named : ∀ code f id, r.1 = some (code, f) → f.lookup "id" = some (.str id) → id ≠ "" →
    r.2.cards.lookup (keyOf T spec) = some id
  names : ∀ f, r.1 = some (0, f) → ∃ id, f.lookup "id" = some (.str id) ∧ r.2.cards.lookup (keyOf T spec) = some id
  rows : ∀ a, Holds a s.world.tables → a.Keyed → ∃ b, Holds b r.2.world.tables ∧ b.Keyed ∧ AckTables.Grows a b ∧
    ∀ f id, r.1 = some (0, f) → r.2.cards.lookup (keyOf T spec) = some id → ∀ target ∈ targetsOf T cfg,
      b.Woken (cardTarget id target)

variable {spec : Fields} {r : Option (Int × Fields) × CanaryState ι}

/-- An answer that is not good and names no card. -/
def Bad (answer : Option (Int × Fields)) : Prop :=
  (∀ f, answer ≠ some (0, f)) ∧ ∀ code f id, answer = some (code, f) → f.lookup "id" = some (.str id) → id = ""

theorem bad_none : Bad none := ⟨fun f is => (by cases is), fun code f id is => (by cases is)⟩

theorem bad_some {code : Int} {f : Fields} (nonzero : code ≠ 0)
    (unnamed : ∀ id, f.lookup "id" = some (.str id) → id = "") :
    Bad (some (code, f)) := by
  refine ⟨fun g is => ?_, fun code' g id is => ?_⟩
  · cases is
    exact nonzero rfl
  · cases is
    exact unnamed id

theorem taskIdOf_none {f : Fields} (none : taskIdOf f = "") (id : String) (is : f.lookup "id" = some (.str id)) :
    id = "" := by
  by_contra named
  unfold taskIdOf at none
  rw [List.findSome?_cons, is] at none
  simp only [namedId, if_neg named] at none
  exact named none

/-- A call whose commands move the state and that has a bad answer. -/
theorem cardStep_badly {first : List (List String)} (moves : Moves s t first)
    (issued : Issued T cfg spec s.cards t.cards first []) {answer : Option (Int × Fields)} (bad : Bad answer) :
    CardStep T cfg spec s (answer, t) where
  cards := .inl moves.cards
  commands := ⟨first, [], by rw [List.append_nil, moves.commands], issued⟩
  named code f id is here some := absurd (bad.2 code f id is here) some
  names f is := absurd is (bad.1 f)
  rows a holds keyed := by
    obtain ⟨b, holds, keyed, grows⟩ := moves.rows a holds keyed
    exact ⟨b, holds, keyed, grows, fun f _ is => absurd is (bad.1 f)⟩

theorem cardStep_refused (s : CanaryState ι) {answer : Option (Int × Fields)} (bad : Bad answer) :
    CardStep T cfg spec s (answer, s) :=
  cardStep_badly (Moves.refl s) ⟨.inl rfl, fun _ mem => absurd mem List.not_mem_nil⟩ bad

theorem cardStep_known (known : s.cards.lookup (keyOf T spec) = some id) (served : Served T cfg id s r) :
    CardStep T cfg spec s r where
  cards := .inl served.cards
  commands := by
    obtain ⟨issued, commands, subscribing⟩ := served.commands
    refine ⟨[], issued, commands, .inl rfl, fun argv mem => ?_⟩
    exact ⟨id, served.cards.symm ▸ known, subscribing argv mem⟩
  named code f id' is here _ := by
    have same := (served.names code f is).symm.trans here
    cases same
    exact served.cards.symm ▸ known
  names f is := ⟨id, served.names 0 f is, served.cards.symm ▸ known⟩
  rows a holds keyed := by
    obtain ⟨b, holds, keyed, grows, woken⟩ := served.rows a holds keyed
    refine ⟨b, holds, keyed, grows, fun f id' is here => ?_⟩
    rw [served.cards, known] at here
    exact Option.some.inj here ▸ woken f is

theorem cardStep_new (fresh : s.cards.lookup (keyOf T spec) = none) {parent : List String}
    (known : parentArgs T s.cards spec = some parent) (moves :
    Moves s t [createCommand T cfg spec (keyOf T spec) parent])
    (served : Served T cfg id { t with cards := Dicts.set (keyOf T spec) id s.cards } r) : CardStep T cfg spec s r where
  cards := .inr ⟨fresh, id, served.cards.trans (Dicts.set_of_lookup_none fresh)⟩
  commands := by
    obtain ⟨issued, commands, subscribing⟩ := served.commands
    refine ⟨_, issued, ?_, .inr ⟨fresh, parent, known, rfl⟩, fun argv mem => ?_⟩
    · rw [commands]
      show t.commands ++ issued = _
      rw [moves.commands, List.append_assoc]
    · exact ⟨id, served.cards.symm ▸ Dicts.lookup_set_self, subscribing argv mem⟩
  named code f id' is here _ := by
    have same := (served.names code f is).symm.trans here
    cases same
    exact served.cards.symm ▸ Dicts.lookup_set_self
  names f is := ⟨id, served.names 0 f is, served.cards.symm ▸ Dicts.lookup_set_self⟩
  rows a holds keyed := by
    obtain ⟨b, holds, keyed, grows⟩ := moves.rows a holds keyed
    obtain ⟨c, holds, keyed, more, woken⟩ := served.rows b holds keyed
    refine ⟨c, holds, keyed, grows.trans more, fun f id' is here => ?_⟩
    rw [served.cards, Dicts.lookup_set_self] at here
    exact Option.some.inj here ▸ woken f is

theorem materialize_step (spares : ∀ argv, SparesRows fun w => (cfg.runner argv w).2) (reads : ∀ w, cfg.reads w = true)
    (spec : Fields) (s : CanaryState ι) : CardStep T cfg spec s (materialize T cfg spec s) := by
  unfold materialize
  dsimp only
  split
  · exact cardStep_refused s (bad_some (by decide) fun id is => by cases is)
  split
  · exact cardStep_refused s (bad_some (by decide) fun id is => by cases is)
  rw [if_pos (reads s.world)]
  split
  next known => exact cardStep_known known (knownCard_served spares _ _ s)
  next fresh =>
    split
    · exact cardStep_refused s (bad_some (by decide) fun id is => by cases is)
    next parent known =>
      have moves := issue_moves spares (createCommand T cfg spec (keyOf T spec) parent) s
      have issued (cards : List (String × String)) :
          Issued T cfg spec s.cards cards [createCommand T cfg spec (keyOf T spec) parent] [] :=
        ⟨.inr ⟨fresh, parent, known, rfl⟩, fun _ mem => absurd mem List.not_mem_nil⟩
      rcases ran : issue cfg (createCommand T cfg spec (keyOf T spec) parent) s with ⟨_ | result, t⟩
      · rw [ran] at moves
        have raised : issue cfg (createCommand T cfg spec (textOr T "" spec "idempotency_key") parent) s =
          (none, t) := ran
        rw [raised]
        exact cardStep_badly moves (issued _) bad_none
      · rw [ran] at moves
        have answered :
            issue cfg (createCommand T cfg spec (textOr T "" spec "idempotency_key") parent) s = (some result, t) := ran
        rw [answered]
        dsimp only
        split
        next none => exact cardStep_badly moves (issued _) (bad_some (by decide) (taskIdOf_none none.2))
        split
        · exact cardStep_badly moves (issued _) (bad_some (by decide) fun id is => by cases is)
        split
        · exact cardStep_badly moves (issued _) bad_none
        · exact cardStep_new fresh known moves (newCard_served spares _ _ _)

end

/-- A call of the adapter, and what others do before it. -/
structure CardCall (ι : Type) where
  passes : World ι → World ι
  spec : Fields

structure CardRecord where
  spec : Fields
  commands : List (List String)
  answer : Option (Int × Fields)

def runCards {ι : Type} (T : PyText) (cfg : CanaryAdapter ι) : List (CardCall ι) → CanaryState ι →
    List CardRecord × CanaryState ι
  | [], s => ([], s)
  | call :: rest, s =>
    let (answer, s) := materialize T cfg call.spec { s with world := call.passes s.world, commands := [] }
    let (records, last) := runCards T cfg rest s
    ({ spec := call.spec, commands := s.commands, answer } :: records, last)

/-- The answer names a card, or a card has been subscribed. -/
def CardRecord.Settled {ι : Type} (cfg : CanaryAdapter ι) (e : CardRecord) : Prop :=
  (∃ f, e.answer = some (0, f)) ∨ (∃ code f id, e.answer = some (code, f) ∧ f.lookup "id" = some (.str id) ∧ id ≠ "") ∨
    ∃ id target, notifyCommand cfg id target ∈ e.commands

/-- What a run says about one of its calls. In the end its ACK rows are `a` and its cards `cards`; in the beginning the
cards were `start`, and `earlier` are the calls before. -/
structure Recorded {ι : Type} (T : PyText) (cfg : CanaryAdapter ι) (a : AckTables)
    (start cards : List (String × String))
    (earlier : List CardRecord) (r : CardRecord) : Prop where
  named : ∀ code f id, r.answer = some (code, f) → f.lookup "id" = some (.str id) → id ≠ "" →
    cards.lookup (keyOf T r.spec) = some id
  answered : ∀ f, r.answer = some (0, f) → ∃ id, f.lookup "id" = some (.str id) ∧
    cards.lookup (keyOf T r.spec) = some id ∧ ∀ target ∈ targetsOf T cfg, a.Woken (cardTarget id target)
  issued : ∃ first rest, r.commands = first ++ rest ∧
    (first = [] ∨ ∃ parent, parentArgs T cards r.spec = some parent ∧
      first = [createCommand T cfg r.spec (keyOf T r.spec) parent]) ∧
    (first ≠ [] → start.lookup (keyOf T r.spec) = none ∧
      ∀ e ∈ earlier, keyOf T e.spec = keyOf T r.spec → ¬e.Settled cfg) ∧
    ∀ argv ∈ rest, ∃ id, cards.lookup (keyOf T r.spec) = some id ∧ ∃ target ∈ targetsOf T cfg,
      argv = notifyCommand cfg id target

def Extends (before after : List (String × String)) : Prop :=
  ∀ key id, before.lookup key = some id → after.lookup key = some id

section

variable {ι : Type} {T : PyText} {cfg : CanaryAdapter ι}

theorem CardStep.extends {s : CanaryState ι} {spec : Fields} {r : Option (Int × Fields) × CanaryState ι}
    (h : CardStep T cfg spec s r) : Extends s.cards r.2.cards := by
  intro key id here
  rcases h.cards with same | ⟨_, id', longer⟩
  · exact same ▸ here
  · rw [longer, List.lookup_append, here]
    rfl

theorem parentArgs_extends {before after : List (String × String)} (more : Extends before after) {spec : Fields}
    {parent : List String} (h : parentArgs T before spec = some parent) : parentArgs T after spec = some parent := by
  unfold parentArgs at h ⊢
  split at h
  next => exact h
  next key _ =>
    obtain ⟨id, named, is⟩ := Option.map_eq_some_iff.mp h
    obtain ⟨known, some⟩ := Option.filter_eq_some_iff.mp named
    rw [more _ _ known]
    exact Option.map_eq_some_iff.mpr ⟨id, Option.filter_eq_some_iff.mpr ⟨rfl, some⟩, is⟩

/-- The call that a run begins with, as the run ends. -/
theorem CardStep.recorded {s : CanaryState ι} {spec : Fields} {r : Option (Int × Fields) × CanaryState ι}
    (h : CardStep T cfg spec s r) (clean : s.commands = []) {b c : AckTables} {cards : List (String × String)}
    (woken : ∀ f id, r.1 = some (0, f) → r.2.cards.lookup (keyOf T spec) = some id → ∀ target ∈ targetsOf T cfg,
      b.Woken (cardTarget id target)) (grows : AckTables.Grows b c) (more : Extends r.2.cards cards) :
    Recorded T cfg c s.cards cards [] { spec, commands := r.2.commands, answer := r.1 } where
  named code f id is here some := more _ _ (h.named code f id is here some)
  answered f is := by
    obtain ⟨id, named, here⟩ := h.names f is
    exact ⟨id, named, more _ _ here, fun target mem => grows.woken _ (woken f id is here target mem)⟩
  issued := by
    obtain ⟨first, rest, commands, issued⟩ := h.commands
    rw [clean, List.nil_append] at commands
    refine ⟨first, rest, commands, ?_, fun some => ?_, fun argv mem => ?_⟩
    · rcases issued.creates with none | ⟨_, parent, known, is⟩
      · exact .inl none
      · exact .inr ⟨parent, parentArgs_extends (fun key id here => more key id (h.extends key id here)) known, is⟩
    · rcases issued.creates with none | ⟨fresh, _⟩
      · exact absurd none some
      · exact ⟨fresh, fun _ mem => absurd mem List.not_mem_nil⟩
    · obtain ⟨id, here, subscribing⟩ := issued.subscribes argv mem
      exact ⟨id, more _ _ here, subscribing⟩

/-- A call that settles a card leaves its key with one. -/
theorem CardStep.settled {s : CanaryState ι} {spec : Fields} {r : Option (Int × Fields) × CanaryState ι}
    (h : CardStep T cfg spec s r) (clean : s.commands = []) :
    CardRecord.Settled cfg { spec, commands := r.2.commands, answer := r.1 } →
      ∃ id, r.2.cards.lookup (keyOf T spec) = some id := by
  rintro (⟨f, is⟩ | ⟨code, f, id, is, here, some⟩ | ⟨id, target, mem⟩)
  · obtain ⟨id, _, here⟩ := h.names f is
    exact ⟨id, here⟩
  · exact ⟨id, h.named code f id is here some⟩
  · obtain ⟨first, rest, commands, issued⟩ := h.commands
    have mem : notifyCommand cfg id target ∈ first ++ rest := by
      rw [clean, List.nil_append] at commands
      exact commands ▸ mem
    rcases List.mem_append.mp mem with mem | mem
    · rcases issued.creates with none | ⟨_, parent, _, is⟩
      · rw [none] at mem
        cases mem
      · rw [is, List.mem_singleton] at mem
        simp [notifyCommand, createCommand] at mem
    · obtain ⟨id, here, _⟩ := issued.subscribes _ mem
      exact ⟨id, here⟩

/-- A later call of a run, seen from one call earlier. -/
theorem Recorded.earlier {a : AckTables} {start mid cards : List (String × String)} {before : List CardRecord}
    {r e : CardRecord} (h : Recorded T cfg a mid cards before r) (more : Extends start mid)
    (settled : e.Settled cfg → ∃ id, mid.lookup (keyOf T e.spec) = some id) :
    Recorded T cfg a start cards (e :: before) r where
  named := h.named
  answered := h.answered
  issued := by
    obtain ⟨first, rest, commands, creates, once, subscribes⟩ := h.issued
    refine ⟨first, rest, commands, creates, fun some => ?_, subscribes⟩
    obtain ⟨fresh, never⟩ := once some
    refine ⟨?_, fun e' mem same => ?_⟩
    · rcases known : start.lookup (keyOf T r.spec) with _ | id
      · rfl
      · rw [more _ _ known] at fresh
        cases fresh
    · rcases List.mem_cons.mp mem with rfl | mem
      · intro is
        obtain ⟨id, known⟩ := settled is
        rw [same, fresh] at known
        cases known
      · exact never e' mem same

theorem runCards_records (spares : ∀ argv, SparesRows fun w => (cfg.runner argv w).2) (reads : ∀ w, cfg.reads w = true)
    {calls : List (CardCall ι)} (others : ∀ call ∈ calls, SparesRows call.passes) {s : CanaryState ι} {a : AckTables}
    (holds : Holds a s.world.tables) (keyed : a.Keyed) :
    ∃ b, Holds b (runCards T cfg calls s).2.world.tables ∧ AckTables.Grows a b ∧
      Extends s.cards (runCards T cfg calls s).2.cards ∧
      ∀ before r after, (runCards T cfg calls s).1 = before ++ r :: after →
        Recorded T cfg b s.cards (runCards T cfg calls s).2.cards before r := by
  induction calls generalizing s a with
  | nil =>
    refine ⟨a, holds, .refl a, fun _ _ here => here, fun before r after whole => ?_⟩
    cases before <;> cases whole
  | cons call rest ih =>
    obtain ⟨b, passed, keyed, grows⟩ := others call List.mem_cons_self a s.world holds keyed
    have step := materialize_step (T := T) spares reads call.spec
      { s with world := call.passes s.world, commands := [] }
    obtain ⟨c, done, keyed, more, woken⟩ := step.rows b passed keyed
    obtain ⟨d, final, later, extended, records⟩ := ih (fun call mem => others call (List.mem_cons_of_mem _ mem)) done
      keyed
    refine ⟨d, final, (grows.trans more).trans later, fun key id here => extended key id (step.extends key id here), ?_⟩
    intro before r after whole
    rcases before with _ | ⟨e, before⟩
    · obtain ⟨rfl, _⟩ := List.cons.inj whole
      exact step.recorded rfl woken later extended
    · obtain ⟨rfl, tail⟩ := List.cons.inj whole
      exact (records before r after tail).earlier step.extends (step.settled rfl)

/-- In every run of the adapter, whatever its commands answer, raise or do elsewhere, and whichever writes and statements
fail: a key has one card, which all answers for it name and whose targets are woken for good after a good one; a card is
created only where the key has none and no call has settled one, under the card that its parent's key has; and all other
commands subscribe the card of the key. -/
theorem one_card_per_key (spares : ∀ argv, SparesRows fun w => (cfg.runner argv w).2) (reads : ∀ w, cfg.reads w = true)
    {calls : List (CardCall ι)} (others : ∀ call ∈ calls, SparesRows call.passes) {s : CanaryState ι} {a : AckTables}
    (holds : Holds a s.world.tables) (keyed : a.Keyed) :
    ∃ b, Holds b (runCards T cfg calls s).2.world.tables ∧ Extends s.cards (runCards T cfg calls s).2.cards ∧
      ∀ before r after, (runCards T cfg calls s).1 = before ++ r :: after →
        Recorded T cfg b s.cards (runCards T cfg calls s).2.cards before r := by
  obtain ⟨b, final, _, extended, records⟩ := runCards_records spares reads others holds keyed
  exact ⟨b, final, extended, records⟩

end

/-- A tool that makes one card and subscribes it. -/
def oneCard : CanaryAdapter Unit where
  notifyChats := "discord:1"
  runner argv w := (some (if argv.contains "create" then [("id", .str "t1")] else [("ok", .bool true)]), w)
  now _ := 5
  reads _ := true
  saves _ := true

def oneCardCalls : List (CardCall Unit) :=
  let spec : Fields := [("idempotency_key", .str "kanban-auto-remediation:a")]
  [⟨id, spec⟩, ⟨fun w => { w with tables := markWakes "started" w.tables }, spec⟩]

def oneCardStart : CanaryState Unit := { world := { tables := ackBoard, outside := () } }

theorem one_card_per_key_twice : ∃ a, Holds a (runCards asciiText oneCard oneCardCalls oneCardStart).2.world.tables ∧
    a.Woken (cardTarget "t1" ("discord", "1")) := by
  have same : SparesRows (fun w : World Unit => w) := fun a _ holds keyed => ⟨a, holds, keyed, .refl a⟩
  obtain ⟨a, holds, _, records⟩ := @one_card_per_key Unit asciiText oneCard (fun _ => same) (fun _ => rfl)
    oneCardCalls (fun call mem => by
      simp only [oneCardCalls, List.mem_cons, List.not_mem_nil, or_false] at mem
      rcases mem with rfl | rfl
      · exact same
      · exact fun a w holds keyed => markWakes_spares "started" a w.tables holds keyed)
    oneCardStart ⟨_, _⟩ ⟨rfl, rfl⟩ ⟨rfl, rfl, List.nodup_nil⟩
  have good : (runCards asciiText oneCard oneCardCalls oneCardStart).1.map
      (fun r => (keyOf asciiText r.spec, r.answer.map Prod.fst)) =
        [("kanban-auto-remediation:a", some 0), ("kanban-auto-remediation:a", some 0)] := by decide +kernel
  have card : (runCards asciiText oneCard oneCardCalls oneCardStart).2.cards =
      [("kanban-auto-remediation:a", "t1")] := by decide +kernel
  have targets : targetsOf asciiText oneCard = [("discord", "1")] := by decide +kernel
  obtain ⟨r, rest, whole, first, _⟩ := List.map_eq_cons_iff.mp good
  obtain ⟨key, code⟩ := Prod.mk.inj first
  obtain ⟨⟨code, f⟩, answer, zero⟩ := Option.map_eq_some_iff.mp code
  obtain rfl : code = 0 := zero
  obtain ⟨id, _, here, woken⟩ := (records [] r rest whole).answered f answer
  rw [key, card] at here
  obtain rfl : "t1" = id := Option.some.inj here
  exact ⟨a, holds, woken _ (targets ▸ List.mem_singleton_self _)⟩

end AgentflowHermes.Boards
