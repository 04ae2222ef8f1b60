import AgentflowHermes.ReleaseActions

namespace AgentflowHermes.Releases

/-- What is found under the path of the receipts. -/
inductive ReceiptsFile
  | absent
  | unreadable
  | json (j : Json)

/-- `load_receipts_ledger`. -/
def loadReceiptsLedger : ReceiptsFile → Ledger
  | .json (.obj ledger) => ledger
  | _ => []

/-- What is found under the path of the summary. -/
inductive SummaryFile
  | unreadable
  | undecodable
  | text (summary : String)

/-- A call of the command, with what others do before it and whether the receipts can be written. -/
structure ReleaseRun (σ : Type) where
  passes : σ → σ := id
  file : ReceiptsFile → ReceiptsFile := id
  summary : SummaryFile
  config : Option (Except Unit ReleaseActionConfig)
  receipts : Bool
  apply : Bool
  writes : Bool

/-- What a machine keeps from call to call. -/
structure ReleaseHost (σ : Type) where
  shell : Shell σ
  file : ReceiptsFile := .absent

section

variable (T : PyText) (fullmatch : FullMatch) {σ : Type} (runner : Runner σ)

def exitCode (result : ReleaseResult) : Int := if ["propose", "apply", "noop"].contains result.decision then 0 else 2

/-- `run_release_github`: the exit code with an error or the result, `none` where it raises. -/
def runReleaseGithub (run : ReleaseRun σ) (host : ReleaseHost σ) :
    Option (Int × Except String ReleaseResult) × ReleaseHost σ :=
  match run.summary with
  | .undecodable => (none, host)
  | .unreadable => (some (2, .error "summary_read_failed"), host)
  | .text summary =>
    match run.config.getD (.ok {}) with
    | .error _ => (some (2, .error "malformed_config"), host)
    | .ok config =>
      let ledger := if run.receipts then loadReceiptsLedger host.file else []
      let armed := if run.apply && config.applyMode then some runner else none
      match evaluateReleaseAction T fullmatch config run.apply armed summary ledger host.shell with
      | ((none, _), shell) => (some (2, .error "evaluation_failed"), { host with shell })
      | ((some result, ledger), shell) =>
        if !run.receipts then (some (exitCode result, .ok result), { host with shell })
        else if run.writes then (some (exitCode result, .ok result), { shell, file := .json (.obj ledger) })
        else (none, { shell, file := .unreadable })

def nextRun (host : ReleaseHost σ) (run : ReleaseRun σ) : ReleaseHost σ :=
  (runReleaseGithub T fullmatch runner run
    { shell := { host.shell with world := run.passes host.shell.world }, file := run.file host.file }).2

def afterRuns (runs : List (ReleaseRun σ)) (host : ReleaseHost σ) : ReleaseHost σ :=
    runs.foldl (nextRun T fullmatch runner) host

end

/-- The commands that an evaluation may run. -/
def commandsOf (d : ReleaseDirective) : List Command := tagCheckCommand d :: releaseCheckCommand d :: publishing d

/-- What git says about a tag: it is made where there is none, and none of the commands removes it. -/
structure KeepsTag {σ : Type} (runner : Runner σ) (version : String) (tagged : σ → Prop) : Prop where
  makes : ∀ message w, succeeded (runner ["git", "tag", "-a", version, "-m", message] w).1 = true →
    ¬tagged w ∧ tagged (runner ["git", "tag", "-a", version, "-m", message] w).2
  keeps : ∀ d, ∀ argv ∈ commandsOf d, ∀ w, tagged w → tagged (runner argv w).2

def isPush (version : String) (e : Entry) : Bool := e.1 = ["git", "push", "origin", version]

def isCreate (version : String) (e : Entry) : Bool := e.1.take 4 = ["gh", "release", "create", version]

/-- From one shell to the next these commands of a directive were run. -/
inductive Ran {σ : Type} (runner : Runner σ) (d : ReleaseDirective) (s : Shell σ) : List Entry → Shell σ → Prop
  | nothing : Ran runner d s [] s
  | command {new : List Entry} {t : Shell σ} (argv : Command) (known : argv ∈ commandsOf d)
    (before : Ran runner d s new t) :
    Ran runner d s (new ++ [(argv, (safeRun runner argv t).1)]) (safeRun runner argv t).2

section

variable {T : PyText} {fullmatch : FullMatch} {σ : Type} {runner : Runner σ} {d : ReleaseDirective} {version : String}
  {tagged : σ → Prop} {s t : Shell σ} {new : List Entry} {done : Bool}

theorem Ran.transcript (ran : Ran runner d s new t) : t.transcript = s.transcript ++ new := by
  induction ran with
  | nothing => exact (List.append_nil _).symm
  | command argv _ _ ih => rw [safeRun_transcript, ih, List.append_assoc]

theorem Ran.keeps (git : KeepsTag runner version tagged) (ran : Ran runner d s new t) (held : tagged s.world) :
    tagged t.world := by
  induction ran with
  | nothing => exact held
  | command argv known _ ih => exact git.keeps d argv known _ ih

/-- A tag that was made was not there before, and is there from then on. -/
theorem Ran.tags (git : KeepsTag runner version tagged) (ran : Ran runner d s new t) (own : d.version = version)
    {answer : Option CommandResult} (mem : (tagCommand d, answer) ∈ new) (made : succeeded answer = true) :
    ¬tagged s.world ∧ tagged t.world := by
  induction ran with
  | nothing => cases mem
  | @command new t argv known before ih =>
    rcases List.mem_append.mp mem with mem | mem
    · obtain ⟨fresh, held⟩ := ih mem
      exact ⟨fresh, git.keeps d argv known _ held⟩
    · obtain ⟨rfl, rfl⟩ := Prod.mk.inj (List.mem_singleton.mp mem)
      have command : tagCommand d = ["git", "tag", "-a", version, "-m", orElse d.title d.version] := by
        rw [tagCommand, own]
      have made : succeeded (runner (tagCommand d) t.world).1 = true := made
      rw [command] at made ⊢
      obtain ⟨fresh, held⟩ := git.makes _ _ made
      exact ⟨fun start => fresh (before.keeps git start), held⟩

theorem publish_ran (runner : Runner σ) (d : ReleaseDirective) (key : String) (ledger : Ledger) (s : Shell σ) :
    ∃ new, Ran runner d s new (publish T d key ledger runner s).2 := by
  have tagCheck : tagCheckCommand d ∈ commandsOf d := List.mem_cons_self
  have releaseCheck : releaseCheckCommand d ∈ commandsOf d := List.mem_cons_of_mem _ List.mem_cons_self
  have tag : tagCommand d ∈ commandsOf d := by simp [commandsOf, publishing]
  have push : pushCommand d ∈ commandsOf d := by simp [commandsOf, publishing]
  have release : releaseCommand d ∈ commandsOf d := by simp [commandsOf, publishing]
  have first := Ran.command (s := s) _ tagCheck (.nothing : Ran runner d s [] s)
  have second := Ran.command _ releaseCheck first
  have third := Ran.command _ tag second
  have fourth := Ran.command _ push third
  have fifth := Ran.command _ release fourth
  unfold publish
  dsimp only
  split
  · exact ⟨_, first⟩
  split
  · exact ⟨_, first⟩
  split
  · exact ⟨_, second⟩
  split
  · exact ⟨_, second⟩
  split
  · exact ⟨_, third⟩
  split
  · exact ⟨_, fourth⟩
  split
  · exact ⟨_, fifth⟩
  · exact ⟨_, fifth⟩

theorem publish_course_ran (runner : Runner σ) (d : ReleaseDirective) (key : String) (ledger : Ledger) (s : Shell σ) :
    ∃ new done, Course T d new done ∧ Ran runner d s new (publish T d key ledger runner s).2 := by
  obtain ⟨new, done, course, transcript, _⟩ := publish_course (T := T) runner d key ledger s
  obtain ⟨new', ran⟩ := publish_ran (T := T) runner d key ledger s
  have same : new' = new := List.append_cancel_left (ran.transcript.symm.trans transcript)
  exact ⟨new, done, course, same ▸ ran⟩

/-- A call runs nothing, or it takes a course of one directive. -/
theorem runReleaseGithub_course (run : ReleaseRun σ) (host : ReleaseHost σ) :
    (runReleaseGithub T fullmatch runner run host).2.shell = host.shell ∨
      ∃ d new done, Course T d new done ∧ Ran runner d host.shell new
        (runReleaseGithub T fullmatch runner run host).2.shell := by
  have evaluated (config : ReleaseActionConfig) (summary : String) (ledger : Ledger) :
      let after := (evaluateReleaseAction T fullmatch config run.apply
        (if run.apply && config.applyMode then some runner else none) summary ledger host.shell).2
      after = host.shell ∨ ∃ d new done, Course T d new done ∧ Ran runner d host.shell new after := by
    unfold evaluateReleaseAction
    dsimp only
    split
    · exact .inl rfl
    · exact .inl rfl
    next r gate =>
      obtain ⟨_, is⟩ := releaseGate_ok gate
      obtain rfl : runner = r := by
        split at is
        · exact Option.some.inj is
        · cases is
      obtain ⟨new, done, course, ran⟩ := publish_course_ran (T := T) runner (parseReleaseDirective T summary)
        (idempotencyKey (parseReleaseDirective T summary).action (parseReleaseDirective T summary).version) ledger
          host.shell
      exact .inr ⟨_, new, done, course, ran⟩
  unfold runReleaseGithub
  split
  · exact .inl rfl
  · exact .inl rfl
  next summary _ =>
    split
    · exact .inl rfl
    next config _ =>
      have whole := evaluated config summary (if run.receipts then loadReceiptsLedger host.file else [])
      dsimp only at whole ⊢
      split
      next stopped =>
        rw [stopped] at whole
        exact whole
      next ran =>
        rw [ran] at whole
        split
        · exact whole
        split <;> exact whole

theorem reading_attempts (version : String) {e : Entry} (reading : mutating e.1 = false) :
    isPush version e = false ∧ isCreate version e = false := by
  constructor
  · refine decide_eq_false fun is => ?_
    rw [is] at reading
    cases reading
  · refine decide_eq_false fun is => ?_
    have three : e.1.take 3 = ["gh", "release", "create"] := by
      have cut := congrArg (List.take 3) is
      rwa [List.take_take] at cut
    unfold mutating at reading
    rw [three] at reading
    cases reading

theorem tag_attempts (version : String) (d : ReleaseDirective) (answer : Option CommandResult) :
    isPush version (tagCommand d, answer) = false ∧ isCreate version (tagCommand d, answer) = false := by
  constructor <;> refine decide_eq_false fun is => ?_
  · simp [tagCommand] at is
  · simp [tagCommand] at is

/-- Of the publishing commands one pushes the version of the directive, and one creates it. -/
theorem publishing_attempts {e : Entry} (mem : e.1 ∈ publishing d)
    (attempt : isPush version e = true ∨ isCreate version e = true) :
    d.version = version := by
  simp only [publishing, List.mem_cons, List.not_mem_nil, or_false] at mem
  obtain ⟨argv, answer⟩ := e
  rcases mem with rfl | rfl | rfl
  · have none := tag_attempts version d answer
    rw [none.1, none.2] at attempt
    simp at attempt
  · simpa [isPush, isCreate, pushCommand] using attempt
  · simpa [isPush, isCreate, releaseCommand] using attempt

theorem publishing_count (version : String) (d : ReleaseDirective) :
    (publishing d).countP (fun argv => decide (argv = ["git", "push", "origin", version])) ≤ 1 ∧
      (publishing d).countP (fun argv => decide (argv.take 4 = ["gh", "release", "create", version])) ≤ 1 := by
  have tag : tagCommand d ≠ ["git", "push", "origin", version] ∧
      (tagCommand d).take 4 ≠ ["gh", "release", "create", version] := by simp [tagCommand]
  have push : (pushCommand d).take 4 ≠ ["gh", "release", "create", version] := by simp [pushCommand]
  have release : releaseCommand d ≠ ["git", "push", "origin", version] := by simp [releaseCommand]
  unfold publishing
  constructor
  · rw [List.countP_cons_of_neg (by simpa using tag.1), List.countP_cons,
      List.countP_cons_of_neg (by simpa using release)]
    split <;> simp
  · rw [List.countP_cons_of_neg (by simpa using tag.2), List.countP_cons_of_neg (by simpa using push), List.countP_cons]
    split <;> simp

/-- A course that pushes or creates a version is one of a directive for it, and made its tag. -/
theorem Course.attempts (course : Course T d new done) (version : String) :
    (∀ e ∈ new, isPush version e = false ∧ isCreate version e = false) ∨
      d.version = version ∧ (∃ answer, (tagCommand d, answer) ∈ new ∧ succeeded answer = true) ∧
        new.countP (isPush version) ≤ 1 ∧ new.countP (isCreate version) ≤ 1 := by
  cases course with
  | checks _ reading => exact .inl fun e mem => reading_attempts version (reading e mem)
  | began found seen free unseen before last after order went stop =>
    have tagCheck := reading_attempts version (e := (tagCheckCommand d, some found)) (tagCheck_reads d)
    have releaseCheck := reading_attempts version (e := (releaseCheckCommand d, some seen)) (releaseCheck_reads d)
    have commands : (before ++ [last]).map Prod.fst <+: publishing d := by
      rw [order, List.map_append, List.map_singleton]
      exact ⟨after, by rw [List.append_assoc, List.singleton_append]⟩
    by_cases own : d.version = version ∧ before ≠ []
    · obtain ⟨first, rest, is⟩ := List.exists_cons_of_ne_nil own.2
      subst is
      have tag : first.1 = tagCommand d := (List.cons.inj order).1.symm
      refine .inr ⟨own.1, ⟨first.2, ?_, went first List.mem_cons_self⟩, ?_, ?_⟩
      · rw [← tag]
        simp
      · rw [List.countP_cons_of_neg (by simp [tagCheck.1]), List.countP_cons_of_neg (by simp [releaseCheck.1])]
        refine le_trans ?_ (publishing_count version d).1
        refine le_trans (le_of_eq ?_) commands.sublist.countP_le
        rw [List.countP_map]
        rfl
      · rw [List.countP_cons_of_neg (by simp [tagCheck.2]), List.countP_cons_of_neg (by simp [releaseCheck.2])]
        refine le_trans ?_ (publishing_count version d).2
        refine le_trans (le_of_eq ?_) commands.sublist.countP_le
        rw [List.countP_map]
        rfl
    · refine .inl fun e mem => ?_
      rcases List.mem_cons.mp mem with rfl | mem
      · exact tagCheck
      rcases List.mem_cons.mp mem with rfl | mem
      · exact releaseCheck
      have inside : e.1 ∈ publishing d := commands.subset (List.mem_map_of_mem mem)
      by_contra attempt
      rw [not_and_or, Bool.not_eq_false, Bool.not_eq_false] at attempt
      have version := publishing_attempts inside attempt
      have none : before = [] := by
        by_contra some
        exact own ⟨version, some⟩
      rw [none, List.nil_append] at mem
      rw [none] at order
      have tag : e.1 = tagCommand d := by
        rw [List.mem_singleton.mp mem]
        exact (List.cons.inj order).1.symm
      have never := tag_attempts d.version d e.2
      rw [← tag, version] at never
      rcases attempt with attempt | attempt
      · rw [never.1] at attempt
        cases attempt
      · rw [never.2] at attempt
        cases attempt

/-- One call: the version is pushed and created at most once, and only where its tag was not there before. -/
theorem nextRun_attempts (git : KeepsTag runner version tagged) {run : ReleaseRun σ}
    (others : ∀ w, tagged w → tagged (run.passes w)) (host : ReleaseHost σ) :
    ∃ new, (nextRun T fullmatch runner host run).shell.transcript = host.shell.transcript ++ new ∧
      (tagged host.shell.world → tagged (nextRun T fullmatch runner host run).shell.world) ∧
      ((∀ e ∈ new, isPush version e = false ∧ isCreate version e = false) ∨
        ¬tagged host.shell.world ∧ tagged (nextRun T fullmatch runner host run).shell.world ∧
          new.countP (isPush version) ≤ 1 ∧ new.countP (isCreate version) ≤ 1) := by
  rcases @runReleaseGithub_course T fullmatch σ runner run
    { shell := { host.shell with world := run.passes host.shell.world }, file := run.file host.file } with
    same | ⟨d, new, done, course, ran⟩
  · have idle : (nextRun T fullmatch runner host run).shell =
      { host.shell with world := run.passes host.shell.world } := same
    rw [idle]
    exact ⟨[], (List.append_nil _).symm, others _, .inl fun _ mem => absurd mem List.not_mem_nil⟩
  · refine ⟨new, ran.transcript, fun held => ran.keeps git (others _ held), ?_⟩
    rcases course.attempts version with none | ⟨own, ⟨answer, mem, made⟩, pushes, creates⟩
    · exact .inl none
    · obtain ⟨fresh, held⟩ := ran.tags git own mem made
      exact .inr ⟨fun before => fresh (others _ before), held, pushes, creates⟩

/-- Whatever the receipts say, are or become, whichever commands fail or raise, and whatever others do without removing
the tag: over all calls on a clone a version is pushed and created at most once, and never where its tag was there. -/
theorem released_once (git : KeepsTag runner version tagged) {runs : List (ReleaseRun σ)}
    (others : ∀ run ∈ runs, ∀ w, tagged w → tagged (run.passes w)) (host : ReleaseHost σ) :
    ∃ new, (afterRuns T fullmatch runner runs host).shell.transcript = host.shell.transcript ++ new ∧
      new.countP (isPush version) ≤ 1 ∧ new.countP (isCreate version) ≤ 1 ∧
      (tagged host.shell.world → ∀ e ∈ new, isPush version e = false ∧ isCreate version e = false) := by
  induction runs generalizing host with
  | nil =>
    exact ⟨[], (List.append_nil _).symm, Nat.zero_le _, Nat.zero_le _, fun _ _ mem => absurd mem List.not_mem_nil⟩
  | cons run rest ih =>
    obtain ⟨first, ran, keeps, attempts⟩ := @nextRun_attempts T fullmatch _ _ _ _ git _
      (others run List.mem_cons_self) host
    obtain ⟨later, whole, pushes, creates, never⟩ := ih (fun run mem => others run (List.mem_cons_of_mem _ mem))
      (nextRun T fullmatch runner host run)
    have transcript : (afterRuns T fullmatch runner (run :: rest) host).shell.transcript =
        host.shell.transcript ++ (first ++ later) := by
      rw [← List.append_assoc, ← ran, ← whole]
      rfl
    rcases attempts with none | ⟨fresh, held, firstPushes, firstCreates⟩
    · have noPush : first.countP (isPush version) = 0 := List.countP_eq_zero.mpr fun e mem => by simp [none e mem]
      have noCreate : first.countP (isCreate version) = 0 := List.countP_eq_zero.mpr fun e mem => by simp [none e mem]
      refine ⟨first ++ later, transcript, ?_, ?_, fun held e mem => ?_⟩
      · rwa [List.countP_append, noPush, Nat.zero_add]
      · rwa [List.countP_append, noCreate, Nat.zero_add]
      · rcases List.mem_append.mp mem with mem | mem
        · exact none e mem
        · exact never (keeps held) e mem
    · have noPush : later.countP (isPush version) = 0 := List.countP_eq_zero.mpr fun e mem => by simp [never held e mem]
      have noCreate : later.countP (isCreate version) = 0 :=
        List.countP_eq_zero.mpr fun e mem => by simp [never held e mem]
      refine ⟨first ++ later, transcript, ?_, ?_, fun start => absurd start fresh⟩
      · rwa [List.countP_append, noPush, Nat.add_zero]
      · rwa [List.countP_append, noCreate, Nat.add_zero]

end

/-- A clone without remote: pushing fails. -/
def lonelyClone : Runner Bool := fun argv tagged =>
  if argv.take 3 = ["git", "tag", "-a"] then (some ⟨if tagged then 128 else 0, ""⟩, true)
  else if argv = ["git", "tag", "-l", "v1"] then (some ⟨0, if tagged then "v1\n" else ""⟩, tagged)
  else (some ⟨if argv.take 3 = ["git", "push", "origin"] ∨ argv.take 3 = ["gh", "release", "view"] then 1 else 0, ""⟩,
    tagged)

def lonelyRun : ReleaseRun Bool where
  summary := .text "Verdict: GO\nRelease-Action: gh\nRelease-Version: v1\nRelease-Approved: yes"
  config := some (.ok { releaseActionsEnabled := true, applyMode := true, allowedActions := ["gh"], allowedVersions :=
    ["v1"] })
  receipts := false
  apply := true
  writes := true

theorem lonelyClone_keepsTag : KeepsTag lonelyClone "v1" fun tagged => tagged = true where
  makes message w made := by
    cases w with
    | false => exact ⟨Bool.false_ne_true, rfl⟩
    | true => cases made
  keeps d argv _ w held := by
    unfold lonelyClone
    split
    · rfl
    split <;> exact held

theorem released_once_lonely : ∃ new,
    (afterRuns asciiText (fun _ _ => none) lonelyClone [lonelyRun, lonelyRun]
    { shell := ⟨false, []⟩ }).shell.transcript = new ∧
      new.length = 5 ∧ new.countP (isPush "v1") ≤ 1 ∧ new.countP (isCreate "v1") ≤ 1 := by
  obtain ⟨new, whole, pushes, creates, _⟩ := @released_once asciiText (fun _ _ => none) _ _ _ _
    lonelyClone_keepsTag [lonelyRun, lonelyRun] (fun run mem w held => by
      simp only [List.mem_cons, List.not_mem_nil, or_false, or_self] at mem
      rw [mem]
      exact held) { shell := ⟨false, []⟩ }
  refine ⟨new, whole, ?_, pushes, creates⟩
  have five : (afterRuns asciiText (fun _ _ => none) lonelyClone [lonelyRun, lonelyRun]
      { shell := ⟨false, []⟩ }).shell.transcript.length = 5 := by decide +kernel
  rwa [whole] at five

end AgentflowHermes.Releases
