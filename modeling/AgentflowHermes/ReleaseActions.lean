import AgentflowHermes.Dicts
import AgentflowHermes.OutcomeEnvelope
import AgentflowHermes.ShortTexts
import AgentflowHermes.TextLines

namespace AgentflowHermes.Releases

open BacktrackRegex BacktrackRegex.Pattern

structure ReleaseDirective where
  verdict : String
  action : String
  version : String
  approved : Bool
  title : String
  notes : String
  target : String
  explicit : Bool

structure ReleaseActionConfig where
  releaseActionsEnabled : Bool := false
  applyMode : Bool := false
  allowedActions : List String := []
  allowedVersions : List String := []
  allowedVersionPattern : String := ""

/-- `compile(pattern).fullmatch(text)`: not at all where the pattern is no pattern, `none` where compiling it raises
something else. -/
abbrev FullMatch := String → String → Option Bool

section

variable (T : PyText)

/-- `_marker`. -/
def marker (text name : String) : String :=
  let wanted := lowerText (PyText.strip T.isSpace name).toList
  let named (line : List Char) : Bool :=
    line.contains ':' && lowerText (PyText.strip T.isSpace (String.ofList (line.takeWhile (· != ':')))).toList = wanted
  match (TextLines.splitlines text.toList).find? named with
  | some line => PyText.strip T.isSpace (String.ofList ((line.dropWhile (· != ':')).drop 1))
  | none => ""

def parseReleaseDirective (text : String) : ReleaseDirective :=
  let verdict := (searchGroup (verdictRe T) text.toList).map fun g => asciiUpper (String.ofList g)
  let action := marker T text "Release-Action"
  let version := marker T text "Release-Version"
  let approvedMarker := marker T text "Release-Approved"
  { verdict := verdict.getD "UNKNOWN"
    action
    version
    approved := ["true", "yes", "1"].contains (lowerText (PyText.strip T.isSpace approvedMarker).toList)
    title := shortText T (marker T text "Release-Title") 200
    notes := shortText T (marker T text "Release-Notes") 2000
    target := shortText T (marker T text "Release-Target") 200
    explicit := verdict.isSome && action != "" && version != "" && approvedMarker != "" }

/-- `_DEFAULT_VERSION_RE`, up to the end of the text. -/
def defaultVersionRe : Pattern :=
  let digits : Pattern := plus (.char T.isDigit)
  .all [one 'v', digits, one '.', digits, one '.', digits,
    opt (.seq (one '-') (plus (.char fun c => c.isAlphanum || c == '.' || c == '-'))), .test fun c => c.after.isEmpty]

/-- `_version_allowed`; `none` where it raises. -/
def versionAllowed (fullmatch : FullMatch) (version : String) (config : ReleaseActionConfig) : Option Bool :=
  if config.allowedVersions ≠ [] then some (config.allowedVersions.contains version)
  else if config.allowedVersionPattern ≠ "" then fullmatch config.allowedVersionPattern version
  else some (matchAt (defaultVersionRe T) ⟨[], version.toList⟩).isSome

end

def idempotencyKey (action version : String) : String := "release:" ++ action ++ ":" ++ version

abbrev Ledger := List (String × Json)

/-- A success receipt under a key. -/
def successReceipt (ledger : Ledger) (key : String) : Option Json :=
  (ledger.lookup key).filter fun receipt => match receipt.get? "result" with
    | some (.str result) => result = "success"
    | _ => false

/-- What a command of the runner returns; its errors are never read. -/
structure CommandResult where
  code : Int
  stdout : String

abbrev Command := List String

/-- A command with its answer, `none` where the runner raised. -/
abbrev Entry := Command × Option CommandResult

/-- What the runner works on, and what it was asked so far. -/
structure Shell (σ : Type) where
  world : σ
  transcript : List Entry := []

abbrev Runner (σ : Type) := Command → σ → Option CommandResult × σ

/-- `_safe_run`. -/
def safeRun {σ : Type} (runner : Runner σ) (argv : Command) (s : Shell σ) : Option CommandResult × Shell σ :=
  let (answer, world) := runner argv s.world
  (answer, { world, transcript := s.transcript ++ [(argv, answer)] })

/-- What a result says; `plan` is what a proposal would do, `mutations` what was done. -/
structure ReleaseResult where
  decision : String
  reason : String
  action : String
  version : String
  idempotencyKey : String := ""
  plan : Option ReleaseDirective := none
  mutations : List String := []
  receipt : Option Json := none

def ReleaseResult.success (r : ReleaseResult) : Bool := ["propose", "apply"].contains r.decision

/-- `_base_result`. -/
def baseResult (d : ReleaseDirective) (decision reason : String) (key : String := "") : ReleaseResult where
  decision := decision
  reason := reason
  action := d.action
  version := d.version
  idempotencyKey := key

def succeeded (answer : Option CommandResult) : Bool := answer.any fun result => result.code = 0

def orElse (text fallback : String) : String := if text = "" then fallback else text

def tagCheckCommand (d : ReleaseDirective) : Command := ["git", "tag", "-l", d.version]

def releaseCheckCommand (d : ReleaseDirective) : Command := ["gh", "release", "view", d.version]

def tagCommand (d : ReleaseDirective) : Command := ["git", "tag", "-a", d.version, "-m", orElse d.title d.version]

def pushCommand (d : ReleaseDirective) : Command := ["git", "push", "origin", d.version]

def releaseCommand (d : ReleaseDirective) : Command :=
  ["gh", "release", "create", d.version, "--title", orElse d.title d.version, "--notes", d.notes] ++
    if d.target = "" then [] else ["--target", d.target]

def receiptOf (d : ReleaseDirective) (key : String) : Json :=
  .obj [("action", .str d.action), ("version", .str d.version), ("idempotency_key", .str key), ("result", .str "success")]

section

variable (T : PyText) {σ : Type}

/-- The tag check found the version. -/
def tagFound (d : ReleaseDirective) (result : CommandResult) : Bool :=
  result.code = 0 && (wordsOf T.isSpace result.stdout.toList).contains d.version.toList

/-- The commands of a release that may be published. -/
def publish (d : ReleaseDirective) (key : String) (ledger : Ledger) (runner : Runner σ) (s : Shell σ) :
    (ReleaseResult × Ledger) × Shell σ :=
  let refuse (reason : String) (s : Shell σ) : (ReleaseResult × Ledger) × Shell σ :=
    ((baseResult d "refuse" reason key, ledger), s)
  let (tagCheck, s) := safeRun runner (tagCheckCommand d) s
  match tagCheck with
  | none => refuse "runner_error" s
  | some result =>
    if tagFound T d result then refuse "duplicate_tag" s
    else
      let (releaseCheck, s) := safeRun runner (releaseCheckCommand d) s
      match releaseCheck with
      | none => refuse "runner_error" s
      | some result =>
        if result.code = 0 then refuse "duplicate_release" s
        else
          let (tag, s) := safeRun runner (tagCommand d) s
          if !succeeded tag then refuse "tag_failed" s
          else
            let (push, s) := safeRun runner (pushCommand d) s
            if !succeeded push then refuse "push_failed" s
            else
              let (release, s) := safeRun runner (releaseCommand d) s
              if !succeeded release then refuse "release_create_failed" s
              else
                let result : ReleaseResult := { baseResult d "apply" "applied" key with
                  mutations := ["tag", "push", "gh_release"], receipt := some (receiptOf d key) }
                ((result, Dicts.set key (receiptOf d key) ledger), s)

/-- What a summary comes to before a command is run, or the runner that publishes it. -/
def releaseGate (fullmatch : FullMatch) (config : ReleaseActionConfig) (ledger : Ledger) (apply : Bool)
    (runner : Option (Runner σ)) (d : ReleaseDirective) : Option (Except ReleaseResult (Runner σ)) :=
  let key := idempotencyKey d.action d.version
  if !config.releaseActionsEnabled then some (.error (baseResult d "noop" "release_actions_disabled"))
  else if d.verdict ≠ "GO" then some (.error (baseResult d "refuse" "not_go"))
  else if !d.explicit then some (.error (baseResult d "refuse" "missing_directive"))
  else if !config.allowedActions.contains d.action then some (.error (baseResult d "refuse" "unknown_action"))
  else if !d.approved then some (.error (baseResult d "refuse" "missing_approval"))
  else
    match versionAllowed T fullmatch d.version config with
    | none => none
    | some false => some (.error (baseResult d "refuse" "invalid_version"))
    | some true =>
      match successReceipt ledger key with
      | some receipt =>
        some (.error { baseResult d "noop" "duplicate_receipt" key with receipt := some receipt })
      | none =>
        if !apply || !config.applyMode then
          some (.error { baseResult d "propose" "dry_run" key with plan := some d })
        else
          match runner with
          | none => some (.error (baseResult d "refuse" "no_runner" key))
          | some runner => some (.ok runner)

/-- `evaluate_release_action`, with the ledger it leaves; `none` where it raises. -/
def evaluateReleaseAction (fullmatch : FullMatch) (config : ReleaseActionConfig) (apply : Bool) (runner : Option (Runner σ))
    (summary : String) (ledger : Ledger) (s : Shell σ) : (Option ReleaseResult × Ledger) × Shell σ :=
  let d := parseReleaseDirective T summary
  match releaseGate T fullmatch config ledger apply runner d with
  | none => ((none, ledger), s)
  | some (.error result) => ((some result, ledger), s)
  | some (.ok runner) =>
    let ((result, ledger), s) := publish T d (idempotencyKey d.action d.version) ledger runner s
    ((some result, ledger), s)

end

/-- A command that changes something outside. -/
def mutating (argv : Command) : Bool :=
  [["git", "tag", "-a"], ["git", "push", "origin"], ["gh", "release", "create"]].contains (argv.take 3)

/-- The commands that publish a release, in their order. -/
def publishing (d : ReleaseDirective) : List Command := [tagCommand d, pushCommand d, releaseCommand d]

/-- The courses that publishing takes; the flag says that it was done. -/
inductive Course (T : PyText) (d : ReleaseDirective) : List Entry → Bool → Prop
  | checks (new : List Entry) (reading : ∀ e ∈ new, mutating e.1 = false) : Course T d new false
  | began (found seen : CommandResult) (free : tagFound T d found = false) (unseen : seen.code ≠ 0)
      (before : List Entry) (last : Entry) (after : List Command)
      (order : publishing d = before.map Prod.fst ++ last.1 :: after) (went : ∀ e ∈ before, succeeded e.2 = true)
      (stop : succeeded last.2 = true → after = []) :
      Course T d ((tagCheckCommand d, some found) :: (releaseCheckCommand d, some seen) :: (before ++ [last]))
        (succeeded last.2)

/-- A call of the evaluation. -/
structure Call (σ : Type) where
  config : ReleaseActionConfig
  apply : Bool
  runner : Option (Runner σ)
  summary : String

def Call.key {σ : Type} (T : PyText) (c : Call σ) : String :=
  idempotencyKey (parseReleaseDirective T c.summary).action (parseReleaseDirective T c.summary).version

def Call.evaluate {σ : Type} (T : PyText) (fullmatch : FullMatch) (c : Call σ) (ledger : Ledger) (s : Shell σ) :=
  evaluateReleaseAction T fullmatch c.config c.apply c.runner c.summary ledger s

/-- The ledger and the shell after some calls. -/
def afterCalls {σ : Type} (T : PyText) (fullmatch : FullMatch) (calls : List (Call σ)) (at' : Ledger × Shell σ) :
    Ledger × Shell σ :=
  calls.foldl (fun a c => ((c.evaluate T fullmatch a.1 a.2).1.2, (c.evaluate T fullmatch a.1 a.2).2)) at'

section

variable {T : PyText} {σ : Type} {fullmatch : FullMatch} {config : ReleaseActionConfig} {apply : Bool}
  {runner : Option (Runner σ)} {d : ReleaseDirective} {key : String} {ledger : Ledger} {s : Shell σ}

theorem safeRun_transcript (runner : Runner σ) (argv : Command) (s : Shell σ) :
    (safeRun runner argv s).2.transcript = s.transcript ++ [(argv, (safeRun runner argv s).1)] := rfl

/-- Publishing takes one of the courses, and keeps a receipt where it is done. -/
theorem publish_course (runner : Runner σ) (d : ReleaseDirective) (key : String) (ledger : Ledger) (s : Shell σ) :
    ∃ (new : List Entry) (done : Bool), Course T d new done ∧
      (publish T d key ledger runner s).2.transcript = s.transcript ++ new ∧
      (publish T d key ledger runner s).1.2 = if done then Dicts.set key (receiptOf d key) ledger else ledger := by
  unfold publish
  dsimp only
  have reading : ∀ a, ∀ e ∈ [((tagCheckCommand d, a) : Entry)], mutating e.1 = false := by
    intro a e mem
    rw [List.mem_singleton.mp mem]
    rfl
  have reading' : ∀ a b, ∀ e ∈ [((tagCheckCommand d, a) : Entry), (releaseCheckCommand d, b)], mutating e.1 = false := by
    intro a b e mem
    simp only [List.mem_cons, List.not_mem_nil, or_false] at mem
    rcases mem with rfl | rfl <;> rfl
  rcases first : safeRun runner (tagCheckCommand d) s with ⟨found, s₁⟩
  have t₁ := safeRun_transcript runner (tagCheckCommand d) s
  rw [first] at t₁
  cases found with
  | none => exact ⟨_, false, .checks _ (reading none), t₁, rfl⟩
  | some found =>
    dsimp only
    split
    next => exact ⟨_, false, .checks _ (reading (some found)), t₁, rfl⟩
    next free =>
      rcases second : safeRun runner (releaseCheckCommand d) s₁ with ⟨seen, s₂⟩
      have t₂ := safeRun_transcript runner (releaseCheckCommand d) s₁
      rw [second, t₁, List.append_assoc] at t₂
      cases seen with
      | none => exact ⟨_, false, .checks _ (reading' (some found) none), t₂, rfl⟩
      | some seen =>
        dsimp only
        split
        next => exact ⟨_, false, .checks _ (reading' (some found) (some seen)), t₂, rfl⟩
        next unseen =>
          have free : tagFound T d found = false := by simpa using free
          rcases third : safeRun runner (tagCommand d) s₂ with ⟨tag, s₃⟩
          have t₃ := safeRun_transcript runner (tagCommand d) s₂
          rw [third, t₂, List.append_assoc] at t₃
          dsimp only
          split
          next failed =>
            have failed : succeeded tag = false := by simpa using failed
            refine ⟨_, _, .began found seen free unseen [] (tagCommand d, tag) [pushCommand d, releaseCommand d] rfl ?_ ?_,
              t₃, ?_⟩
            · simp
            · simp [failed]
            · simp [failed]
          next tagged =>
            have tagged : succeeded tag = true := by simpa using tagged
            rcases fourth : safeRun runner (pushCommand d) s₃ with ⟨push, s₄⟩
            have t₄ := safeRun_transcript runner (pushCommand d) s₃
            rw [fourth, t₃, List.append_assoc] at t₄
            dsimp only
            split
            next failed =>
              have failed : succeeded push = false := by simpa using failed
              refine ⟨_, _, .began found seen free unseen [(tagCommand d, tag)] (pushCommand d, push) [releaseCommand d]
                rfl ?_ ?_, t₄, ?_⟩
              · simpa using tagged
              · simp [failed]
              · simp [failed]
            next pushed =>
              have pushed : succeeded push = true := by simpa using pushed
              rcases fifth : safeRun runner (releaseCommand d) s₄ with ⟨release, s₅⟩
              have t₅ := safeRun_transcript runner (releaseCommand d) s₄
              rw [fifth, t₄, List.append_assoc] at t₅
              dsimp only
              have course : Course T d _ _ := .began found seen free unseen [(tagCommand d, tag), (pushCommand d, push)]
                (releaseCommand d, release) [] rfl (by simp [tagged, pushed]) fun _ => rfl
              split
              next failed =>
                have failed : succeeded release = false := by simpa using failed
                exact ⟨_, _, course, t₅, by simp [failed]⟩
              next released =>
                have released : succeeded release = true := by simpa using released
                exact ⟨_, _, course, t₅, by simp [released]⟩

theorem publishing_mutating {argv : Command} (mem : argv ∈ publishing d) : mutating argv = true := by
  simp only [publishing, List.mem_cons, List.not_mem_nil, or_false] at mem
  rcases mem with rfl | rfl | rfl <;> rfl

theorem tagCheck_reads (d : ReleaseDirective) : mutating (tagCheckCommand d) = false := rfl

theorem releaseCheck_reads (d : ReleaseDirective) : mutating (releaseCheckCommand d) = false := rfl

theorem publishing_nodup (d : ReleaseDirective) : (publishing d).Nodup := by
  simp [publishing, tagCommand, pushCommand, releaseCommand]

/-- What a course changes outside, it changes after both checks found nothing. -/
theorem Course.checked {new pre post : List Entry} {done : Bool} {e : Entry} (course : Course T d new done)
    (split : new = pre ++ e :: post) (changes : mutating e.1 = true) :
    ∃ found seen, (tagCheckCommand d, some found) ∈ pre ∧ tagFound T d found = false ∧
      (releaseCheckCommand d, some seen) ∈ pre ∧ seen.code ≠ 0 := by
  cases course with
  | checks _ reading =>
    rw [reading e (by simp [split])] at changes
    cases changes
  | began found seen free unseen before last after order went stop =>
    refine ⟨found, seen, ?_, free, ?_, unseen⟩ <;> rcases pre with _ | ⟨x, _ | ⟨y, rest⟩⟩ <;>
      simp only [List.nil_append, List.cons_append, List.cons.injEq] at split
    · rw [← split.1] at changes
      cases changes
    · simp [← split.1]
    · simp [← split.1]
    · rw [← split.1] at changes
      cases changes
    · rw [← split.2.1] at changes
      cases changes
    · simp [← split.2.1]

/-- The part of a course that changes something outside. -/
theorem Course.mutations {new : List Entry} {done : Bool} (course : Course T d new done) :
    (∃ rest, publishing d = (new.filter fun e => mutating e.1).map Prod.fst ++ rest) ∧
      ∀ e ∈ (new.filter fun e => mutating e.1).dropLast, succeeded e.2 = true := by
  cases course with
  | checks _ reading =>
    have none : new.filter (fun e => mutating e.1) = [] := by simpa using reading
    rw [none]
    exact ⟨⟨_, rfl⟩, by simp⟩
  | began found seen free unseen before last after order went stop =>
    have all : ∀ e ∈ before ++ [last], mutating e.1 = true := by
      intro e mem
      refine publishing_mutating (d := d) ?_
      rw [order]
      rcases List.mem_append.mp mem with mem | mem
      · exact List.mem_append_left _ (List.mem_map_of_mem mem)
      · simp [List.mem_singleton.mp mem]
    have kept : List.filter (fun e : Entry => mutating e.1) ((tagCheckCommand d, some found) ::
        (releaseCheckCommand d, some seen) :: (before ++ [last])) = before ++ [last] := by
      rw [List.filter_cons_of_neg (by simp [tagCheck_reads]), List.filter_cons_of_neg (by simp [releaseCheck_reads])]
      exact List.filter_eq_self.mpr all
    rw [kept]
    refine ⟨⟨after, by simp [order]⟩, ?_⟩
    rw [List.dropLast_concat]
    exact went

/-- A course is done when each of its commands succeeded. -/
theorem Course.done_iff {new : List Entry} {done : Bool} (course : Course T d new done) :
    done = true ↔ ∀ argv ∈ publishing d, ∃ answer, (argv, answer) ∈ new ∧ succeeded answer = true := by
  cases course with
  | checks _ reading =>
    refine ⟨nofun, fun all => ?_⟩
    obtain ⟨answer, mem, _⟩ := all (tagCommand d) (by simp [publishing])
    have reads : mutating (tagCommand d) = false := reading _ mem
    rw [publishing_mutating (d := d) (by simp [publishing])] at reads
    cases reads
  | began found seen free unseen before last after order went stop =>
    constructor
    · intro ended argv mem
      rw [order, stop ended] at mem
      rcases List.mem_append.mp mem with mem | mem
      · obtain ⟨e, early, rfl⟩ := List.mem_map.mp mem
        exact ⟨e.2, by simp [early], went e early⟩
      · exact ⟨last.2, by simp [List.mem_singleton.mp mem], ended⟩
    · intro all
      obtain ⟨answer, mem, good⟩ := all (releaseCommand d) (by simp [publishing])
      have final : releaseCommand d ∈ last.1 :: after := by
        have ends := congrArg List.getLast? order
        rw [List.getLast?_append_of_ne_nil _ (List.cons_ne_nil _ _)] at ends
        exact List.mem_of_getLast? ends.symm
      have apart : releaseCommand d ∉ before.map Prod.fst := fun early =>
        (List.nodup_append.mp (order ▸ publishing_nodup d)).2.2 _ early _ final rfl
      simp only [List.mem_cons, List.mem_append, List.not_mem_nil, or_false, Prod.mk.injEq] at mem
      rcases mem with ⟨other, _⟩ | ⟨other, _⟩ | early | same
      · have reads := tagCheck_reads d
        rw [← other, publishing_mutating (d := d) (by simp [publishing])] at reads
        cases reads
      · have reads := releaseCheck_reads d
        rw [← other, publishing_mutating (d := d) (by simp [publishing])] at reads
        cases reads
      · exact absurd (List.mem_map_of_mem (f := Prod.fst) early) apart
      · rw [← same]
        exact good

/-- The gates that are open where a command is run. -/
structure MayPublish (T : PyText) (fullmatch : FullMatch) (config : ReleaseActionConfig) (apply : Bool) (d : ReleaseDirective)
    (ledger : Ledger) : Prop where
  enabled : config.releaseActionsEnabled = true
  go : d.verdict = "GO"
  explicit : d.explicit = true
  action : d.action ∈ config.allowedActions
  approved : d.approved = true
  version : versionAllowed T fullmatch d.version config = some true
  fresh : successReceipt ledger (idempotencyKey d.action d.version) = none
  apply : apply = true
  armed : config.applyMode = true

theorem releaseGate_ok {r : Runner σ} (h : releaseGate T fullmatch config ledger apply runner d = some (.ok r)) :
    MayPublish T fullmatch config apply d ledger ∧ runner = some r := by
  unfold releaseGate at h
  dsimp only at h
  split at h
  next => cases h
  next enabled =>
    split at h
    next => cases h
    next go =>
      split at h
      next => cases h
      next explicit =>
        split at h
        next => cases h
        next action =>
          split at h
          next => cases h
          next approved =>
            split at h
            next => cases h
            next => cases h
            next version =>
              split at h
              next => cases h
              next fresh =>
                split at h
                next => cases h
                next armed =>
                  split at h
                  next => cases h
                  next runner =>
                    cases h
                    simp only [Bool.or_eq_true, Bool.not_eq_true', not_or, Bool.not_eq_false] at armed
                    exact ⟨{
                      enabled := by simpa using enabled
                      go := by simpa using go
                      explicit := by simpa using explicit
                      action := by simpa using action
                      approved := by simpa using approved
                      version
                      fresh
                      apply := armed.1
                      armed := armed.2 }, rfl⟩

/-- A call runs nothing and keeps its ledger, or the gates are open and it takes a course. -/
theorem evaluate_course (T : PyText) (fullmatch : FullMatch) (c : Call σ) (ledger : Ledger) (s : Shell σ) :
    let d := parseReleaseDirective T c.summary
    let result := c.evaluate T fullmatch ledger s
    (result.2 = s ∧ result.1.2 = ledger) ∨
      ∃ new done, MayPublish T fullmatch c.config c.apply d ledger ∧ Course T d new done ∧
        result.2.transcript = s.transcript ++ new ∧
        result.1.2 = if done then Dicts.set (c.key T) (receiptOf d (c.key T)) ledger else ledger := by
  dsimp only
  unfold Call.evaluate evaluateReleaseAction
  dsimp only
  split
  next => exact .inl ⟨rfl, rfl⟩
  next => exact .inl ⟨rfl, rfl⟩
  next r gate =>
    obtain ⟨open', _⟩ := releaseGate_ok gate
    obtain ⟨new, done, course, ran, kept⟩ := publish_course (T := T) r (parseReleaseDirective T c.summary) (c.key T) ledger s
    exact .inr ⟨new, done, open', course, ran, kept⟩

theorem successReceipt_set : successReceipt (Dicts.set key (receiptOf d key) ledger) key = some (receiptOf d key) := by
  unfold successReceipt
  rw [Dicts.lookup_set_self]
  rfl

theorem successReceipt_set_of_ne {other : String} (apart : other ≠ key) :
    successReceipt (Dicts.set key (receiptOf d key) ledger) other = successReceipt ledger other := by
  unfold successReceipt
  rw [Dicts.lookup_set_of_ne apart]

theorem evaluate_keeps (T : PyText) (fullmatch : FullMatch) (c : Call σ) (s : Shell σ)
    (held : (successReceipt ledger key).isSome = true) :
    (successReceipt (c.evaluate T fullmatch ledger s).1.2 key).isSome = true := by
  rcases evaluate_course T fullmatch c ledger s with ⟨_, kept⟩ | ⟨new, done, _, _, _, kept⟩
  · rw [kept]
    exact held
  · rw [kept]
    cases done with
    | false => exact held
    | true =>
      rw [if_pos rfl]
      by_cases same : key = c.key T
      · rw [same, successReceipt_set]
        rfl
      · rw [successReceipt_set_of_ne same]
        exact held

theorem afterCalls_keeps (calls : List (Call σ)) (held : (successReceipt ledger key).isSome = true) :
    (successReceipt (afterCalls T fullmatch calls (ledger, s)).1 key).isSome = true := by
  induction calls generalizing ledger s with
  | nil => exact held
  | cons c rest ih =>
    exact ih (evaluate_keeps T fullmatch c s held)

/-- A release is published through every gate and both checks, in order, and once. -/
theorem release_gated (T : PyText) (fullmatch : FullMatch) (c : Call σ) (ledger : Ledger) (s : Shell σ) :
    let d := parseReleaseDirective T c.summary
    let result := c.evaluate T fullmatch ledger s
    (∃ new, result.2.transcript = s.transcript ++ new ∧
      (∀ pre e post, new = pre ++ e :: post → mutating e.1 = true →
        MayPublish T fullmatch c.config c.apply d ledger ∧
          ∃ found seen, (tagCheckCommand d, some found) ∈ pre ∧ tagFound T d found = false ∧
            (releaseCheckCommand d, some seen) ∈ pre ∧ seen.code ≠ 0) ∧
      (∃ rest, publishing d = (new.filter fun e => mutating e.1).map Prod.fst ++ rest) ∧
      (∀ e ∈ (new.filter fun e => mutating e.1).dropLast, succeeded e.2 = true) ∧
      (result.1.2 ≠ ledger ↔ ∀ argv ∈ publishing d, ∃ answer, (argv, answer) ∈ new ∧ succeeded answer = true)) ∧
    (result.1.2 ≠ ledger → result.1.2 = Dicts.set (c.key T) (receiptOf d (c.key T)) ledger) ∧
    (∀ calls : List (Call σ), ∀ later : Call σ, (successReceipt ledger (later.key T)).isSome = true →
      ∀ shell, (later.evaluate T fullmatch (afterCalls T fullmatch calls (ledger, s)).1 shell).2 = shell) := by
  dsimp only
  refine ⟨?_, ?_, ?_⟩
  · rcases evaluate_course T fullmatch c ledger s with ⟨idle, kept⟩ | ⟨new, done, open', course, ran, kept⟩
    · refine ⟨[], ?_, ?_, ⟨_, rfl⟩, ?_, ?_⟩
      · rw [idle, List.append_nil]
      · intro pre e post split
        simp at split
      · simp
      · refine ⟨fun changed => absurd kept changed, fun all => ?_⟩
        obtain ⟨_, mem, _⟩ := all _ List.mem_cons_self
        cases mem
    · refine ⟨new, ran, fun pre e post split changes => ⟨open', course.checked split changes⟩, course.mutations.1,
        course.mutations.2, ?_⟩
      rw [kept, ← course.done_iff]
      cases done with
      | false => simp
      | true =>
        refine ⟨fun _ => rfl, fun _ => Dicts.set_ne_self fun same => ?_⟩
        have fresh : successReceipt ledger (c.key T) = none := open'.fresh
        unfold successReceipt at fresh
        rw [same] at fresh
        cases fresh
  · intro changed
    rcases evaluate_course T fullmatch c ledger s with ⟨_, kept⟩ | ⟨new, done, _, _, _, kept⟩
    · exact absurd kept changed
    · cases done with
      | false => exact absurd kept changed
      | true => exact kept
  · intro calls later held shell
    have held := @afterCalls_keeps T σ fullmatch _ _ s calls held
    rcases evaluate_course T fullmatch later (afterCalls T fullmatch calls (ledger, s)).1 shell with ⟨idle, _⟩ | ⟨_, _, open', _⟩
    · exact idle
    · have fresh : successReceipt _ (later.key T) = none := open'.fresh
      rw [fresh] at held
      cases held

end

/-- A release that every gate lets through takes five commands. -/
example : ((({
    config := { releaseActionsEnabled := true, applyMode := true, allowedActions := ["gh"], allowedVersions := ["v1"] }
    apply := true
    runner := some fun argv _ => (some ⟨if argv.take 3 = ["gh", "release", "view"] then 1 else 0, ""⟩, ())
    summary := "Verdict: GO\nRelease-Action: gh\nRelease-Version: v1\nRelease-Approved: yes" } : Call Unit).evaluate
      asciiText (fun _ _ => none) [] ⟨(), []⟩).2.transcript.map Prod.fst).length = 5 := by
  decide +kernel

end AgentflowHermes.Releases
