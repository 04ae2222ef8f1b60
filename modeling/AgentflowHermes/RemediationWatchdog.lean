import AgentflowHermes.Dicts
import AgentflowHermes.RealBoardAdapter

namespace AgentflowHermes.Watchdogs

open Boards

/-- What the planner makes of a source. -/
structure ScanResult where
  sourceReviewId : String
  action : String
  specs : Nat
  proposal : Bool
  failed : Bool
  blockedReasons : List String

/-- What the watchdog works with: the board's events, the planner, which may raise and do anything, whether the state file
can be read and written, and `int()`. -/
structure RemediationWatchdog (ι σ : Type) where
  board : String := "oracle-lab"
  dryRun : Bool := false
  currentMax : ι → Option Int
  loadSources : ι → Option (List (String × σ))
  scanSources : List (String × σ) → ι → Option (List ScanResult) × ι
  reads : ι → Bool
  saves : ι → Bool
  digits : List Char → Int
  int : Json → Option Int
  int_int : ∀ n, int (.int n) = some n

/-- The world, the state file, and the sources that each call has handed to the planner. -/
structure WatchState (ι σ : Type) where
  outside : ι
  data : Fields := []
  handed : List (List (String × σ)) := []

def boardsOf (data : Fields) : Fields :=
  match data.lookup "boards" with
  | some (.obj boards) => boards
  | _ => []

/-- `_board_state`. -/
def boardState (data : Fields) (board : String) : Fields :=
  match (boardsOf data).lookup board with
  | some (.obj entry) => entry
  | _ => []

/-- `_set_last_seen`. -/
def setLastSeen (data : Fields) (board : String) (value : Int) : Fields :=
  let entry := Dicts.set "last_seen_event_id" (.int value) (boardState data board)
  Dicts.set "boards" (.obj (Dicts.set board (.obj entry) (boardsOf data))) data

def eventMark : List Char := "kanban-event-".toList

/-- The digits of the first `kanban-event-<digits>` of a text. -/
def eventDigits (T : PyText) (text : List Char) : Option (List Char) :=
  text.tails.findSome? fun tail =>
    let found := (tail.drop eventMark.length).takeWhile T.isDigit
    if eventMark.isPrefixOf tail ∧ found ≠ [] then some found else none

section

variable {ι σ : Type} (T : PyText) (wd : RemediationWatchdog ι σ)

/-- `_event_id`. -/
def eventId (source : String × σ) : Int := ((eventDigits T source.1.toList).map wd.digits).getD 0

/-- `_last_seen`. -/
def lastSeen (data : Fields) : Option Int :=
  ((boardState data wd.board).lookup "last_seen_event_id").map fun value =>
    if value.truthy then (wd.int value).getD 0 else 0

def flag (b : Bool) : String := if b then "True" else "False"

def reasons (r : ScanResult) : String := " source=" ++ r.sourceReviewId ++ " reasons=" ++ ",".intercalate
    r.blockedReasons

/-- The end of `run_once`: the exit code and what is printed. -/
def report (new : Nat) (last : Int) (results : List ScanResult) : Int × String :=
  let actionable := results.filter fun r => r.action = "applied" ∧ r.specs ≠ 0
  let proposals := results.filter ScanResult.proposal
  let failures := results.filter ScanResult.failed
  if actionable.isEmpty ∧ proposals.isEmpty ∧ failures.isEmpty then (0, "")
  else
    let head := "board=" ++ wd.board ++ " dry_run=" ++ flag wd.dryRun ++ " new=" ++ toString new ++ " actionable=" ++
      toString actionable.length ++ " proposals=" ++ toString proposals.length ++ " failures=" ++
      toString failures.length ++ " last_seen=" ++ toString last
    let applied (r : ScanResult) : String :=
      "GO auto-remediation applied source=" ++ r.sourceReviewId ++ " specs=" ++ toString r.specs
    let lines := ["AGENTFLOW AUTO-REMEDIATION WATCHDOG", head] ++ (actionable.take 5).map applied ++
      (proposals.take 5).map (fun r => "NEED_MORE proposal" ++ reasons r) ++
      (failures.take 5).map fun r => "BLOCK" ++ reasons r
    (if failures.isEmpty then 0 else 1, "\n".intercalate lines)

/-- The sources of one call, from the state file that it has read; the greater ids are saved before anything is handed
over. -/
def handOver (data : Fields) (last : Int) (sources : List (String × σ)) (s : WatchState ι σ) :
    Option (Int × String) × WatchState ι σ :=
  let maxSeen := (sources.map (eventId T wd)).foldl max last
  let new := sources.filter fun source => last < eventId T wd source
  if last < maxSeen ∧ !wd.saves s.outside then (none, s)
  else
    let s := if last < maxSeen then { s with data := setLastSeen data wd.board maxSeen } else s
    if new.isEmpty then (some (0, ""), s)
    else
      let (results, outside) := wd.scanSources new s.outside
      (results.map (report wd new.length maxSeen), { s with outside, handed := s.handed ++ [new] })

/-- `run_once`: the exit code and what is printed, `none` where something raises. -/
def runOnce (s : WatchState ι σ) : Option (Int × String) × WatchState ι σ :=
  if wd.board ≠ "oracle-lab" then (some (2, "BLOCK unsupported_board board=" ++ wd.board), s)
  else
    let data := if wd.reads s.outside then s.data else []
    match wd.currentMax s.outside with
    | none => (none, s)
    | some current =>
      match lastSeen wd data with
      | none =>
        if wd.saves s.outside then
          (some (0, "initialized board=" ++ wd.board ++ " last_seen=" ++ toString current ++ " historical_replay=0"),
            { s with data := setLastSeen data wd.board current })
        else (none, s)
      | some last =>
        match wd.loadSources s.outside with
        | none => (none, s)
        | some sources => handOver T wd data last sources s

/-- Calls one after the other, each after what others do. -/
def runCalls (calls : List (ι → ι)) (s : WatchState ι σ) : WatchState ι σ :=
  calls.foldl (fun s passes => (runOnce T wd { s with outside := passes s.outside }).2) s

end

/-- From `s` to `t` batches were handed over, each of greater ids than all before, from `base` to the id now last seen. -/
structure Advances {ι σ : Type} (T : PyText) (wd : RemediationWatchdog ι σ) (base : Int) (s t : WatchState ι σ)
    (batches : List (List (String × σ))) : Prop where
  handed : t.handed = s.handed ++ batches
  last : lastSeen wd t.data = some ((batches.flatten.map (eventId T wd)).foldl max base)
  above : ∀ source ∈ batches.flatten, base < eventId T wd source
  ordered : batches.Pairwise fun early late => ∀ e ∈ early, ∀ l ∈ late, eventId T wd e < eventId T wd l

theorem greatest_le {base bound : Int} {ids : List Int} :
    ids.foldl max base ≤ bound ↔ base ≤ bound ∧ ∀ id ∈ ids, id ≤ bound := by
  rw [List.max?_le_iff (rfl : (base :: ids).max? = some _), List.forall_mem_cons]

section

variable {ι σ : Type} {T : PyText} {wd : RemediationWatchdog ι σ} {base last : Int} {s t : WatchState ι σ}
  {batches : List (List (String × σ))}

/-- What is saved is read again. -/
theorem lastSeen_set (data : Fields) (value : Int) : lastSeen wd (setLastSeen data wd.board value) = some value := by
  unfold lastSeen setLastSeen boardState boardsOf
  rw [Dicts.lookup_set_self]
  dsimp only
  rw [Dicts.lookup_set_self]
  dsimp only
  rw [Dicts.lookup_set_self, Option.map_some, wd.int_int]
  by_cases zero : value = 0
  · rw [zero]
    rfl
  · have truthy : (Json.int value).truthy = true := by simpa [Json.truthy] using zero
    rw [if_pos truthy]
    rfl

theorem Advances.refl (seen : lastSeen wd s.data = some base) : Advances T wd base s s [] :=
  ⟨(List.append_nil _).symm, seen, fun _ mem => absurd mem List.not_mem_nil, .nil⟩

/-- The greatest id of some sources is that of those which are new, where there are any. -/
theorem greatest_new (sources : List (String × σ)) :
    (sources.map (eventId T wd)).foldl max last =
      ((sources.filter fun source => last < eventId T wd source).map (eventId T wd)).foldl max last := by
  refine eq_of_forall_ge_iff fun bound => ?_
  rw [greatest_le, greatest_le, List.forall_mem_map, List.forall_mem_map]
  refine and_congr_right fun start => ?_
  constructor
  · exact fun all source mem => all source (List.mem_filter.mp mem).1
  · intro all source mem
    by_cases new : last < eventId T wd source
    · exact all source (List.mem_filter.mpr ⟨mem, decide_eq_true new⟩)
    · omega

theorem new_empty {sources : List (String × σ)} (none : ¬last < (sources.map (eventId T wd)).foldl max last) :
    (sources.filter fun source => last < eventId T wd source) = [] := by
  refine List.filter_eq_nil_iff.mpr fun source mem => ?_
  have bound := (greatest_le.mp (not_lt.mp none)).2 _ (List.mem_map_of_mem mem)
  simpa using bound

/-- One more batch, of ids above those last seen. -/
theorem Advances.append (h : Advances T wd base s t batches) (seen : lastSeen wd t.data = some last)
    {new : List (String × σ)} (above : ∀ source ∈ new, last < eventId T wd source) {u : WatchState ι σ}
    (handed : u.handed = t.handed ++ [new]) (saved : lastSeen wd u.data = some
    ((new.map (eventId T wd)).foldl max last)) :
    Advances T wd base s u (batches ++ [new]) := by
  have greatest : (batches.flatten.map (eventId T wd)).foldl max base = last := Option.some.inj (h.last.symm.trans seen)
  have bound := greatest_le.mp greatest.le
  have below (source : String × σ) (mem : source ∈ batches.flatten) : eventId T wd source ≤ last :=
    bound.2 _ (List.mem_map_of_mem mem)
  refine ⟨by rw [handed, h.handed, List.append_assoc], ?_, fun source mem => ?_, ?_⟩
  · rw [saved, List.flatten_append, List.map_append, List.foldl_append, greatest, List.flatten_singleton]
  · rw [List.flatten_append, List.flatten_singleton, List.mem_append] at mem
    rcases mem with mem | mem
    · exact h.above source mem
    · exact lt_of_le_of_lt bound.1 (above source mem)
  · refine List.pairwise_append.mpr ⟨h.ordered, List.pairwise_singleton _ _,
      fun early mem late only e inside l latest => ?_⟩
    rw [List.mem_singleton.mp only] at latest
    exact lt_of_le_of_lt (below e (List.mem_flatten.mpr ⟨early, mem, inside⟩)) (above l latest)

/-- One hand-over after others. -/
theorem Advances.handOver (h : Advances T wd base s t batches) (seen : lastSeen wd t.data = some last)
    (sources : List (String × σ)) : ∃ batches', Advances T wd base s
    (handOver T wd t.data last sources t).2 batches' := by
  unfold Watchdogs.handOver
  dsimp only
  by_cases greater : last < (sources.map (eventId T wd)).foldl max last
  · simp only [if_pos greater]
    split
    · exact ⟨batches, h⟩
    split
    next none =>
      rw [greatest_new, List.isEmpty_iff.mp none] at greater
      exact absurd greater (lt_irrefl _)
    next =>
      refine ⟨_, h.append seen (fun source mem => of_decide_eq_true (List.mem_filter.mp mem).2) rfl ?_⟩
      exact (lastSeen_set _ _).trans (congrArg some (greatest_new sources))
  · simp only [if_neg greater, new_empty greater]
    rw [if_neg fun h => greater h.1]
    exact ⟨batches, h⟩

/-- One call after others, where something was last seen. -/
theorem Advances.runOnce (reads : ∀ w, wd.reads w = true) (h : Advances T wd base s t batches) :
    ∃ batches', Advances T wd base s (runOnce T wd t).2 batches' := by
  unfold Watchdogs.runOnce
  dsimp only
  split
  · exact ⟨batches, h⟩
  rw [if_pos (reads t.outside)]
  split
  · exact ⟨batches, h⟩
  rw [h.last]
  dsimp only
  split
  · exact ⟨batches, h⟩
  next sources _ => exact h.handOver h.last sources

theorem Advances.passes (h : Advances T wd base s t batches) (outside : ι) :
    Advances T wd base s { t with outside } batches :=
  ⟨h.handed, h.last, h.above, h.ordered⟩

theorem Advances.runCalls (reads : ∀ w, wd.reads w = true) (calls : List (ι → ι)) (h : Advances T wd base s t batches) :
    ∃ batches', Advances T wd base s (runCalls T wd calls t) batches' := by
  induction calls generalizing t batches with
  | nil => exact ⟨batches, h⟩
  | cons passes rest ih =>
    obtain ⟨_, stepped⟩ := (h.passes (passes t.outside)).runOnce reads
    exact ih stepped

/-- The first call that is not stopped sets the id last seen and hands nothing over. -/
theorem runOnce_first (reads : ∀ w, wd.reads w = true) (fresh : lastSeen wd s.data = none) :
    (runOnce T wd s).2 = s ∨ ∃ current, wd.currentMax s.outside = some current ∧
      Advances T wd current s (runOnce T wd s).2 [] := by
  unfold Watchdogs.runOnce
  dsimp only
  split
  · exact .inl rfl
  rw [if_pos (reads s.outside)]
  split
  · exact .inl rfl
  next current known =>
    rw [fresh]
    dsimp only
    split
    · exact .inr ⟨current, known, (List.append_nil _).symm, lastSeen_set _ _, fun _ mem =>
        absurd mem List.not_mem_nil, .nil⟩
    · exact .inl rfl

/-- In every run, whatever the board, the planner and others do and whichever calls raise: once an id is last seen, all that
is handed to the planner has greater ids, each batch greater ones than the batches before, up to the id that is now last
seen; and before that nothing is handed over, the first id last seen being the greatest of the board at that call. -/
theorem events_handed_once (reads : ∀ w, wd.reads w = true) (calls : List (ι → ι)) (s : WatchState ι σ) :
    match lastSeen wd s.data with
    | some base => ∃ batches, Advances T wd base s (runCalls T wd calls s) batches
    | none => (lastSeen wd (runCalls T wd calls s).data = none ∧ (runCalls T wd calls s).handed = s.handed) ∨
      ∃ before passes after base batches, calls = before ++ passes :: after ∧
        wd.currentMax (passes (runCalls T wd before s).outside) = some base ∧
        Advances T wd base s (runCalls T wd calls s) batches := by
  cases seen : lastSeen wd s.data with
  | some base => exact (Advances.refl seen).runCalls reads calls
  | none =>
    dsimp only
    induction calls generalizing s with
    | nil => exact .inl ⟨seen, rfl⟩
    | cons passes rest ih =>
      rcases runOnce_first (T := T) reads (s := { s with outside := passes s.outside }) seen with same |
        ⟨base, known, first⟩
      · have stepped : runCalls T wd (passes :: rest) s = runCalls T wd rest { s with outside := passes s.outside } :=
          by
          unfold Watchdogs.runCalls
          rw [List.foldl_cons, same]
        rw [stepped]
        rcases ih { s with outside := passes s.outside } seen with none |
          ⟨before, passes', after, base, batches, is, known, h⟩
        · exact .inl none
        · refine .inr ⟨passes :: before, passes', after, base, batches, by rw [is, List.cons_append], ?_, ?_⟩
          · unfold Watchdogs.runCalls at known ⊢
            rw [List.foldl_cons, same]
            exact known
          · exact ⟨h.handed, h.last, h.above, h.ordered⟩
      · obtain ⟨batches, h⟩ := first.runCalls reads rest
        exact .inr ⟨[], passes, rest, base, batches, rfl, known, h.handed, h.last, h.above, h.ordered⟩

end

/-- A board whose events are all handed to a planner that has nothing to say. -/
def quietPlanner : RemediationWatchdog (List (String × Unit)) Unit where
  currentMax events := some events.length
  loadSources events := some events
  scanSources _ events := (some [], events)
  reads _ := true
  saves _ := true
  digits found := found.foldl (fun n c => n * 10 + (c.toNat - 48 : Int)) 0
  int
    | .int n => some n
    | _ => none
  int_int _ := rfl

def reviewed : WatchState (List (String × Unit)) Unit where
  outside := [("review kanban-event-4", ())]
  data := setLastSeen [] "oracle-lab" 4

def reviews : List (List (String × Unit) → List (String × Unit)) :=
  [fun events => events ++ [("review kanban-event-12", ()), ("kanban-event-5", ())], id,
    fun events => events ++ [("kanban-event-13x", ())]]

theorem events_handed_once_reviews :
    (∃ batches, Advances asciiText quietPlanner 4 reviewed (runCalls asciiText quietPlanner reviews reviewed) batches) ∧
      (runCalls asciiText quietPlanner reviews reviewed).handed =
        [[("review kanban-event-12", ()), ("kanban-event-5", ())], [("kanban-event-13x", ())]] := by
  have run := @events_handed_once _ _ asciiText quietPlanner (fun _ => rfl) reviews reviewed
  have seen : lastSeen quietPlanner reviewed.data = some 4 := lastSeen_set [] 4
  rw [seen] at run
  exact ⟨run, by decide +kernel⟩

end AgentflowHermes.Watchdogs
