import AgentflowHermes.ConfigSurvival

namespace AgentflowHermes.Config

open TextLines

section

variable {T : PyText} (v : ConfigValues T)

/-- The transition of some values. -/
def ConfigValues.theTransition : Roadmap.Transition where
  transitionId := v.transition.1
  roadmapId := v.roadmap
  fromSlice := v.fromSlice.1
  toSlice := v.toSlice.1
  sliceTemplate := kinds v.template
  policyRefs := ["design_opus", "implementation_default"]
  maxChainDepth := 3
  version := v.version
  templatePreset := (v.templatePreset.map Subtype.val).getD ""
  goalAnchor := (v.goalAnchor.map Subtype.val).getD ""

/-- The config of some values, in a file at a path. -/
def ConfigValues.config (path : String) : RepoRoadmapConfig where
  enabled := true
  killSwitch := false
  board := v.board.1
  applyMode := v.applyMode
  sameBoardOnly := true
  allowedTransitions := [v.transition.1]
  transitions := [(v.transition.1, v.theTransition)]
  implAssignee := v.implAssignee.1
  reviewAssignee := v.reviewAssignee.1
  ackTriggerAgent := v.reviewAssignee.1
  trustedAssignees := [v.reviewAssignee.1]
  expectedOrigin := v.origin.1
  expectedReturnTo := v.returnTo.1
  maxChainDepth := 3
  maxPromotionsPerRoadmap := 6
  promoteCooldownSeconds := 900
  requireReviewEdge := true
  requireAckEdge := true
  requireTrustedAssignee := true
  requireOriginMatch := true
  requirePolicyResolution := true
  sourceRef := path

end

section

variable {r : Reader} (v : ConfigValues r.text)

/-- The name that a setting has in a config that is loaded. -/
def readAs (r : Reader) (x : String) : String := r.text.strOr (some (nameValue r x.toList)) ""

def listedAs (r : Reader) (x : String) : String := r.text.str (nameValue r x.toList)

/-- The config that is loaded where the lines of the texts are what they were. -/
def ConfigValues.loaded (path : String) : RepoRoadmapConfig :=
  { v.config path with
    board := readAs r v.board.1
    allowedTransitions := [listedAs r v.transition.1]
    transitions := [(v.transition.1, { v.theTransition with
      roadmapId := readAs r v.roadmap
      fromSlice := readAs r v.fromSlice.1
      toSlice := readAs r v.toSlice.1 })]
    implAssignee := readAs r v.implAssignee.1
    reviewAssignee := readAs r v.reviewAssignee.1
    ackTriggerAgent := if readAs r v.reviewAssignee.1 = "" then listedAs r v.reviewAssignee.1 else readAs r v.reviewAssignee.1
    trustedAssignees := [listedAs r v.reviewAssignee.1] }

variable (doc : Documented r)

theorem payload_eq (transitions : Json) : v.payload r transitions = [
    ("enabled", nameValue r "true".toList), ("kill_switch", nameValue r "false".toList),
    ("board", nameValue r v.board.1.toList), ("same_board_only", nameValue r "true".toList),
    ("apply_mode", nameValue r (if v.applyMode then "true" else "false").toList), ("expected_origin", .str v.origin.1),
    ("expected_return_to", .str v.returnTo.1), ("impl_assignee", nameValue r v.implAssignee.1.toList),
    ("review_assignee", nameValue r v.reviewAssignee.1.toList), ("ack_trigger_agent", nameValue r "true".toList),
    ("trusted_assignees", .arr [nameValue r v.reviewAssignee.1.toList]),
    ("allowed_transitions", .arr [nameValue r v.transition.1.toList]), ("max_chain_depth", nameValue r "3".toList),
    ("max_promotions_per_roadmap", nameValue r "6".toList), ("promote_cooldown_seconds", nameValue r "900".toList),
    ("require_review_edge", nameValue r "true".toList), ("require_ack_edge", nameValue r "true".toList),
    ("require_trusted_assignee", nameValue r "true".toList), ("require_origin_match", nameValue r "true".toList),
    ("require_policy_resolution", nameValue r "true".toList), ("transitions", transitions)] := by
  simp [ConfigValues.payload, withEntries, ConfigValues.before, ConfigValues.after, nameEntry, quotedEntry, Dicts.set]

theorem nameValue_true : nameValue r "true".toList = .bool true := by
  unfold nameValue
  rw [if_pos (by decide)]

theorem nameValue_false : nameValue r "false".toList = .bool false := by
  unfold nameValue
  rw [if_neg (by decide), if_pos (by decide)]

theorem Origin.given (x : Origin) : x.1 ≠ "" := by
  obtain ⟨s, origin⟩ := x
  rintro rfl
  exact absurd origin (by decide)

theorem strOr_str {s : String} (given : s ≠ "") : r.text.strOr (some (.str s)) "" = s := by
  have truthy : (Json.str s).truthy = true := by simpa [Json.truthy] using given
  unfold PyText.strOr
  dsimp only
  rw [if_pos truthy, r.text.str_str]

theorem Origin.read (x : Origin) : r.text.strOr (some (.str x.1)) "" = x.1 := strOr_str x.given

theorem Ident.given (x : Ident) : x.1 ≠ "" := by
  obtain ⟨s, ident⟩ := x
  rintro rfl
  exact absurd ident (by decide)

include doc

theorem nameValue_digits {x : String} (ident : isIdent x = true) (digits : (x.toList.all isNumeral) = true)
    (words : (trueWords ++ falseWords ++ nullWords).contains (lowerText x.toList) = false) :
    nameValue r x.toList = .int (numeral x.toList) := by
  rw [List.all_eq_true] at digits
  rw [List.contains_eq_mem, decide_eq_false_iff_not, List.mem_append, List.mem_append, not_or, not_or] at words
  have whole := (isInt_name doc (key_nameLike ident)).mpr digits
  unfold nameValue
  rw [if_neg (by simpa using words.1.1), if_neg (by simpa using words.1.2), if_neg (by simpa using words.2), if_pos whole,
    decimal_numeral digits]

omit doc in
/-- An identifier that no reader takes for a number or a word. -/
def isWordy (x : String) : Bool :=
  isIdent x && (x.toList.head?.map isNumeral == some false) &&
    !(trueWords ++ falseWords ++ nullWords).contains (lowerText x.toList)

theorem nameValue_wordy {x : String} (wordy : isWordy x = true) : nameValue r x.toList = .str x := by
  unfold isWordy at wordy
  simp only [Bool.and_eq_true, Bool.not_eq_true', beq_iff_eq] at wordy
  have first : ∀ c ∈ x.toList.head?, ('0' ≤ c && c ≤ '9') = false := by
    intro c mem
    have head := wordy.1.2
    rw [mem] at head
    exact Option.some.inj head
  rw [nameValue_word doc (key_nameLike wordy.1.1) first wordy.2, String.ofList_toList]

theorem config_loaded (path : String) (value : Json) :
    configOf r path (v.payload r value) [(v.transition.1, { v.theTransition with
      roadmapId := readAs r v.roadmap
      fromSlice := readAs r v.fromSlice.1
      toSlice := readAs r v.toSlice.1 })] = v.loaded path := by
  have three : nameValue r "3".toList = .int 3 := nameValue_digits doc (by decide) (by decide) (by decide)
  have six : nameValue r "6".toList = .int 6 := nameValue_digits doc (by decide) (by decide) (by decide)
  have seconds : nameValue r "900".toList = .int 900 := nameValue_digits doc (by decide) (by decide) (by decide)
  have mode : nameValue r (if v.applyMode then "true" else "false").toList = .bool v.applyMode := by
    cases v.applyMode with
    | true => exact nameValue_true
    | false => exact nameValue_false
  rw [payload_eq, three, six, seconds, mode, nameValue_true, nameValue_false]
  unfold configOf ConfigValues.loaded
  simp [List.lookup_cons, boolOr, intOr, strTuple, ackTriggerAgent, Origin.read, ConfigValues.config, readAs, listedAs]
  rfl

omit doc in
theorem fields_eq : v.fields r = [("roadmap_id", nameValue r v.roadmap.toList), ("from_slice", nameValue r v.fromSlice.1.toList),
    ("to_slice", nameValue r v.toSlice.1.toList)] ++
    v.templatePreset.toList.map (fun preset => ("template_preset", nameValue r preset.1.toList)) ++
    v.goalAnchor.toList.map (fun anchor => ("goal_anchor", .str anchor.1)) ++ [
      ("slice_template", .arr ((kinds v.template).map fun kind => nameValue r kind.toList)),
      ("policy_refs", .arr [nameValue r "design_opus".toList, nameValue r "implementation_default".toList]),
      ("max_chain_depth", nameValue r "3".toList), ("version", nameValue r v.version.toList)] := by
  unfold ConfigValues.fields ConfigValues.transitionEntries ConfigValues.transitionEnd
  cases v.templatePreset with
  | none =>
    cases v.goalAnchor with
    | none => simp [withEntries, nameEntry, Dicts.set, refItems, nameItem, ConfigValues.kindItems, kinds]
    | some anchor => simp [withEntries, nameEntry, quotedEntry, Dicts.set, refItems, nameItem, ConfigValues.kindItems, kinds]
  | some preset =>
    cases v.goalAnchor with
    | none => simp [withEntries, nameEntry, Dicts.set, refItems, nameItem, ConfigValues.kindItems, kinds]
    | some anchor => simp [withEntries, nameEntry, quotedEntry, Dicts.set, refItems, nameItem, ConfigValues.kindItems, kinds]

omit doc in
theorem presets_wordy : ∀ p ∈ Roadmap.presets, isWordy p.name = true ∧ ∀ kind ∈ p.sliceTemplate, isWordy kind = true := by
  decide

omit doc in
theorem preset_wordy {preset : Ident} (given : v.templatePreset = some preset) : isWordy preset.1 = true := by
  have resolved := v.resolved
  rw [given] at resolved
  obtain ⟨p, known, _, _, named⟩ := kinds_resolved resolved
  have name : p.name = preset.1 := by
    refine named fun empty => ?_
    obtain ⟨s, ident⟩ := preset
    obtain rfl : s = "" := empty
    exact absurd ident (by decide)
  rw [← name]
  exact (presets_wordy p known).1

theorem kinds_read : (kinds v.template).map (fun kind => nameValue r kind.toList) = (kinds v.template).map .str := by
  obtain ⟨p, known, same, _⟩ := kinds_resolved v.resolved
  rw [same]
  exact List.map_congr_left fun kind mem => nameValue_wordy doc ((presets_wordy p known).2 kind mem)

omit doc in
theorem strItems_strs {xs : List String} (given : xs ≠ []) : strItems r (some (.arr (xs.map .str))) = .ok xs := by
  obtain ⟨x, rest, rfl⟩ := List.exists_cons_of_ne_nil given
  have texts : (x :: rest).map (r.text.str ∘ Json.str) = x :: rest := by
    have same : r.text.str ∘ Json.str = id := funext fun s => r.text.str_str s
    rw [same, List.map_id]
  have truthy : (Json.arr ((x :: rest).map Json.str)).truthy = true := rfl
  unfold strItems
  rw [Option.filter_some, if_pos truthy]
  dsimp only [Json.iter?]
  rw [List.map_map, texts]

omit doc in
/-- The settings of a transition that only some have. -/
theorem fields_given : (v.fields r).lookup "template_preset" = v.templatePreset.map (fun name => nameValue r name.1.toList) ∧
    (v.fields r).lookup "goal_anchor" = v.goalAnchor.map (fun text => .str text.1) := by
  rw [fields_eq]
  cases v.templatePreset with
  | none => cases v.goalAnchor with
    | none => simp [List.lookup_cons]
    | some text => simp [List.lookup_cons]
  | some name => cases v.goalAnchor with
    | none => simp [List.lookup_cons]
    | some text => simp [List.lookup_cons]

omit doc in
theorem fields_constant : (v.fields r).lookup "transition_id" = none ∧
    (v.fields r).lookup "roadmap_id" = some (nameValue r v.roadmap.toList) ∧
    (v.fields r).lookup "from_slice" = some (nameValue r v.fromSlice.1.toList) ∧
    (v.fields r).lookup "to_slice" = some (nameValue r v.toSlice.1.toList) ∧
    (v.fields r).lookup "slice_template" = some (.arr ((kinds v.template).map fun kind => nameValue r kind.toList)) ∧
    (v.fields r).lookup "policy_refs" =
      some (.arr [nameValue r "design_opus".toList, nameValue r "implementation_default".toList]) ∧
    (v.fields r).lookup "max_chain_depth" = some (nameValue r "3".toList) ∧
    (v.fields r).lookup "version" = some (nameValue r v.version.toList) := by
  rw [fields_eq]
  cases v.templatePreset with
  | none => cases v.goalAnchor with
    | none => simp [List.lookup_cons]
    | some text => simp [List.lookup_cons]
  | some name => cases v.goalAnchor with
    | none => simp [List.lookup_cons]
    | some text => simp [List.lookup_cons]

theorem preset_read : r.text.strOr ((v.fields r).lookup "template_preset") "" = (v.templatePreset.map Subtype.val).getD "" := by
  rw [(fields_given v).1]
  cases given : v.templatePreset with
  | none => rfl
  | some name =>
    have read := nameValue_wordy doc (preset_wordy v given)
    exact (congrArg (fun value => r.text.strOr (some value) "") read).trans (strOr_str name.given)

omit doc in
theorem anchor_read : r.text.strOr ((v.fields r).lookup "goal_anchor") "" = (v.goalAnchor.map Subtype.val).getD "" := by
  rw [(fields_given v).2]
  cases v.goalAnchor with
  | none => rfl
  | some text => exact text.read

theorem transition_loaded : loadTransition r v.transition.1 (.obj (v.fields r)) = .ok { v.theTransition with
    roadmapId := readAs r v.roadmap
    fromSlice := readAs r v.fromSlice.1
    toSlice := readAs r v.toSlice.1 } := by
  have three : nameValue r "3".toList = .int 3 := nameValue_digits doc (by decide) (by decide) (by decide)
  have design := nameValue_wordy doc (x := "design_opus") (by decide)
  have implementation := nameValue_wordy doc (x := "implementation_default") (by decide)
  have version : nameValue r v.version.toList = .str v.version := by
    refine nameValue_wordy doc ?_
    unfold ConfigValues.version
    split
    · decide
    · decide
  have kindsGiven : kinds v.template ≠ [] := fun empty => v.template.nonempty (List.map_eq_nil_iff.mp empty)
  have versioned : r.text.strOr (some (.str v.version)) "" = v.version := strOr_str (Ident.given ⟨_, version_ident v⟩)
  have refs : strItems r (some (.arr [.str "design_opus", .str "implementation_default"])) =
      .ok ["design_opus", "implementation_default"] :=
    @strItems_strs r ["design_opus", "implementation_default"] (List.cons_ne_nil _ _)
  obtain ⟨transitionId, roadmap, fromSlice, toSlice, steps, policy, depth, template⟩ := fields_constant v
  unfold loadTransition
  dsimp only
  rw [steps, kinds_read v doc, strItems_strs kindsGiven]
  dsimp only [bind, Except.bind]
  rw [preset_read v doc, anchor_read, resolved_again v.resolved]
  dsimp only
  rw [policy, design, implementation, refs, transitionId, roadmap, fromSlice, toSlice, depth, three, template, version, versioned]
  rfl

theorem render_comment : r.loads v.render = none := by
  refine doc.comment _ ?_
  obtain ⟨rest, lines⟩ : ∃ rest, (v.head ++ v.tail ++ [""]).map String.toList =
      "# agentflow-hermes repo-config roadmap GO autopromoter.".toList :: rest := ⟨_, rfl⟩
  rw [ConfigValues.render, String.toList_intercalate, lines, String.toList_ofList]
  cases rest with
  | nil => rfl
  | cons line rest => rfl

omit doc in
theorem payload_transitions (transitions : Json) : (v.payload r transitions).lookup "transitions" = some transitions := by
  unfold ConfigValues.payload
  exact Dicts.lookup_set_self

theorem load_parsed {path : String} {fields : List (String × Json)}
    (parsed : parseMinimalYaml r v.render = .ok (.obj fields)) : loadRepoRoadmapConfig r path v.render =
      (loadTransitions r (fields.lookup "transitions")).map fun transitions => configOf r path fields transitions := by
  unfold loadRepoRoadmapConfig loadConfigPayload
  dsimp only
  rw [render_comment v doc, parsed]
  rfl

omit doc in
theorem loadTransitions_one {key : String} {value : Json} :
    loadTransitions r (some (.obj [(key, value)])) = (loadTransition r key value).map fun t => [(key, t)] := by
  unfold loadTransitions
  dsimp only
  rw [List.foldlM_cons]
  cases loadTransition r key value with
  | error e => rfl
  | ok t => rfl

/-- A config whose texts are of one line and whose transition has no colon is loaded. -/
theorem load_whole (plain : v.OneLine) (whole : ':' ∉ v.transition.1.toList) (path : String) :
    loadRepoRoadmapConfig r path v.render = .ok (v.loaded path) := by
  rw [load_parsed v doc (parse_whole doc v plain whole), payload_transitions v]
  rw [loadTransitions_one, transition_loaded v doc, Except.map, Except.map, config_loaded v doc]

/-- One whose transition has a colon is not. -/
theorem load_split (plain : v.OneLine) (colon : ':' ∈ v.transition.1.toList) (path : String) (config : RepoRoadmapConfig) :
    loadRepoRoadmapConfig r path v.render ≠ .ok config := by
  intro loaded
  rcases parse_split doc v plain colon with ⟨e, failed⟩ | ⟨key, value, scalar, parsed⟩
  · unfold loadRepoRoadmapConfig loadConfigPayload at loaded
    dsimp only at loaded
    rw [render_comment v doc, failed] at loaded
    cases loaded
  · rw [load_parsed v doc parsed, payload_transitions v] at loaded
    have refused : loadTransition r key value = .error (.invalidTransition key) := by
      cases value with
      | obj fields => exact absurd rfl (scalar fields)
      | null | bool | int | float | str | arr => rfl
    rw [loadTransitions_one, refused] at loaded
    cases loaded

end

/-! Which values are loaded back. -/

section

variable {r : Reader} (doc : Documented r)

include doc

theorem strOr_unbroken {fields : List (String × Json)} (oneLine : ∀ f ∈ fields, OneLine f.2) (key : String) :
    Unbroken (r.text.strOr (fields.lookup key) "") := by
  have empty : Unbroken "" := fun c mem => absurd mem List.not_mem_nil
  unfold PyText.strOr
  cases found : fields.lookup key with
  | none => exact empty
  | some value =>
    obtain ⟨before, after, split, _⟩ := List.lookup_eq_some_iff.mp found
    have mem : (key, value) ∈ fields := by
      rw [split]
      exact List.mem_append_right _ List.mem_cons_self
    dsimp only
    split
    · exact text_unbroken doc (oneLine _ mem)
    · exact empty

theorem loadTransition_unbroken {key : String} {value : Json} {t : Roadmap.Transition} (oneLine : OneLine value)
    (loaded : loadTransition r key value = .ok t) : Unbroken t.goalAnchor := by
  cases oneLine with
  | obj fields =>
    unfold loadTransition at loaded
    dsimp only at loaded
    obtain ⟨steps, _, loaded⟩ := bind_ok' loaded
    split at loaded
    · cases loaded
    · obtain ⟨refs, _, loaded⟩ := bind_ok' loaded
      cases loaded
      exact strOr_unbroken doc fields "goal_anchor"
  | str | float | null | bool | int | arr => cases loaded

theorem loadTransitions_unbroken {value : Option Json} (oneLine : ∀ j ∈ value, OneLine j)
    {transitions : List (String × Roadmap.Transition)} (loaded : loadTransitions r value = .ok transitions) :
    ∀ t ∈ transitions, Unbroken t.2.goalAnchor := by
  unfold loadTransitions at loaded
  split at loaded
  next fields =>
    cases oneLine _ rfl with
    | obj fieldsOneLine =>
      have run : ∀ (fields : List (String × Json)) (before after : List (String × Roadmap.Transition)),
          (∀ f ∈ fields, OneLine f.2) → (∀ t ∈ before, Unbroken t.2.goalAnchor) →
          fields.foldlM (fun transitions f => do
            let transition ← loadTransition r f.1 f.2
            return Dicts.set f.1 transition transitions) before = Except.ok after →
          ∀ t ∈ after, Unbroken t.2.goalAnchor := by
        intro fields
        induction fields with
        | nil =>
          intro before after _ clear same
          cases same
          exact clear
        | cons f fields ih =>
          intro before after oneLine clear step
          rw [List.foldlM_cons] at step
          obtain ⟨now, one, step⟩ := bind_ok' step
          obtain ⟨t, transition, same⟩ := bind_ok' one
          cases same
          refine ih _ after (fun g mem => oneLine g (List.mem_cons_of_mem _ mem)) (fun u mem => ?_) step
          rcases Dicts.mem_set mem with rfl | mem
          · exact loadTransition_unbroken doc (oneLine f List.mem_cons_self) transition
          · exact clear u mem
      exact run fields [] transitions fieldsOneLine (fun _ none' => absurd none' List.not_mem_nil) loaded
  next =>
    cases loaded
    exact fun _ none' => absurd none' List.not_mem_nil

variable {v : ConfigValues r.text}

/-- A config that is loaded back has texts of one line. -/
theorem loaded_oneLine {path : String} (loaded : loadRepoRoadmapConfig r path v.render = .ok (v.config path)) : v.OneLine := by
  unfold loadRepoRoadmapConfig loadConfigPayload at loaded
  dsimp only at loaded
  rw [render_comment v doc] at loaded
  obtain ⟨fields, payload, loaded⟩ := bind_ok' loaded
  obtain ⟨transitions, given, loaded⟩ := bind_ok' loaded
  have same : configOf r path fields transitions = v.config path := Except.ok.inj loaded
  have oneLine : ∀ f ∈ fields, OneLine f.2 := by
    cases parsed : parseMinimalYaml r v.render with
    | error e =>
      rw [parsed] at payload
      cases payload
    | ok value =>
      rw [parsed] at payload
      cases parsed_oneLine doc parsed with
      | obj fields =>
        cases payload
        exact fields
      | str | float | null | bool | int | arr => cases payload
  have origin : r.text.strOr (fields.lookup "expected_origin") "" = v.origin.1 := congrArg RepoRoadmapConfig.expectedOrigin same
  have returnTo : r.text.strOr (fields.lookup "expected_return_to") "" = v.returnTo.1 :=
    congrArg RepoRoadmapConfig.expectedReturnTo same
  have listed : transitions = [(v.transition.1, v.theTransition)] := congrArg RepoRoadmapConfig.transitions same
  refine ⟨origin ▸ strOr_unbroken doc oneLine _, returnTo ▸ strOr_unbroken doc oneLine _, fun anchor named => ?_⟩
  have clear := loadTransitions_unbroken doc (fun j mem => ?_) given
  · rw [listed] at clear
    have one : Unbroken ((v.goalAnchor.map Subtype.val).getD "") := clear _ List.mem_cons_self
    rw [Option.mem_def.mp named] at one
    exact one
  · obtain ⟨before, after, split, _⟩ := List.lookup_eq_some_iff.mp mem
    exact oneLine ("transitions", j) (split ▸ List.mem_append_right _ List.mem_cons_self)

/-- What the values have to be for a config to say what they are. -/
structure ConfigValues.Survives (r : Reader) (v : ConfigValues r.text) : Prop where
  oneLine : v.OneLine
  whole : ':' ∉ v.transition.1.toList
  transition : Listed r v.transition.1
  board : Plain r v.board.1
  roadmap : Plain r v.roadmap
  fromSlice : Plain r v.fromSlice.1
  toSlice : Plain r v.toSlice.1
  implAssignee : Plain r v.implAssignee.1
  reviewAssignee : Plain r v.reviewAssignee.1

theorem loaded_config {path : String} : v.loaded path = v.config path ↔
    Listed r v.transition.1 ∧ Plain r v.board.1 ∧ Plain r v.roadmap ∧ Plain r v.fromSlice.1 ∧ Plain r v.toSlice.1 ∧
      Plain r v.implAssignee.1 ∧ Plain r v.reviewAssignee.1 := by
  have listed (x : Ident) : listedAs r x.1 = x.1 ↔ Listed r x.1 := listed_iff doc x.nameLike
  have plain (x : Ident) : readAs r x.1 = x.1 ↔ Plain r x.1 := plain_iff doc x.nameLike
  have roadmap : readAs r v.roadmap = v.roadmap ↔ Plain r v.roadmap := plain_iff doc (roadmap_nameLike v)
  rw [← listed, ← plain, ← roadmap, ← plain, ← plain, ← plain, ← plain]
  constructor
  · intro same
    unfold ConfigValues.loaded ConfigValues.config ConfigValues.theTransition at same
    simp only [RepoRoadmapConfig.mk.injEq, List.cons.injEq, Prod.mk.injEq, Roadmap.Transition.mk.injEq, and_true, true_and] at same
    obtain ⟨board, transition, ⟨roadmap, fromSlice, toSlice⟩, impl, review, _⟩ := same
    exact ⟨transition, board, roadmap, fromSlice, toSlice, impl, review⟩
  · rintro ⟨transition, board, roadmap, fromSlice, toSlice, impl, review⟩
    have trusted : listedAs r v.reviewAssignee.1 = v.reviewAssignee.1 := (listed _).mpr ((plain _).mp review).1
    unfold ConfigValues.loaded
    rw [transition, board, roadmap, fromSlice, toSlice, impl, review, trusted, if_neg v.reviewAssignee.given]
    rfl

/-- A config that is rendered is loaded back as its values exactly where they survive what a config makes of texts. -/
theorem rendered_loads_iff {f : ConfigFlags} (accepted : f.accept r.text = .ok v) :
    (∀ path, ∃ text, renderRoadmapConfig r.text f = .ok text ∧ loadRepoRoadmapConfig r path text = .ok (v.config path)) ↔
      v.Survives r := by
  have rendered : renderRoadmapConfig r.text f = .ok v.render := by rw [renderRoadmapConfig, accepted, Except.map]
  constructor
  · intro loads
    obtain ⟨text, same, loaded⟩ := loads ""
    obtain rfl : v.render = text := Except.ok.inj (rendered.symm.trans same)
    have oneLine := loaded_oneLine doc loaded
    by_cases whole : ':' ∈ v.transition.1.toList
    · exact absurd loaded (load_split v doc oneLine whole "" _)
    · rw [load_whole v doc oneLine whole] at loaded
      obtain ⟨transition, board, roadmap, fromSlice, toSlice, impl, review⟩ := (loaded_config doc).mp (Except.ok.inj loaded)
      exact ⟨oneLine, whole, transition, board, roadmap, fromSlice, toSlice, impl, review⟩
  · rintro ⟨oneLine, whole, transition, board, roadmap, fromSlice, toSlice, impl, review⟩ path
    have same : v.loaded path = v.config path := (loaded_config doc).mpr ⟨transition, board, roadmap, fromSlice, toSlice, impl, review⟩
    exact ⟨v.render, rendered, (load_whole v doc oneLine whole path).trans (congrArg Except.ok same)⟩

end

/-! A reader of ASCII. -/

theorem digit_unbroken {c : Char} (digit : c.isDigit = true) : lineBreak c = false := by
  have range : ('0' ≤ c && c ≤ '9') = true := digit
  have letter : isLetterOrDigit c = true := by rw [isLetterOrDigit, range, Bool.or_true]
  exact seen_unbroken (isLetterOrDigit_seen letter).1

theorem toString_unbroken (n : Nat) : Unbroken (toString n) := by
  intro c mem
  rw [Nat.toString_eq_ofList_toDigits, String.toList_ofList] at mem
  exact digit_unbroken (Nat.isDigit_of_mem_toDigits (by decide) (by decide) mem)

theorem isInt_unbroken {cs : List Char} (whole : isInt asciiReader cs = true) : ∀ c ∈ cs, lineBreak c = false := by
  unfold isInt isNumber at whole
  intro c mem
  split at whole
  next dash =>
    obtain ⟨_, digits⟩ := Bool.and_eq_true_iff.mp whole
    cases cs with
    | nil => cases mem
    | cons d cs =>
      rcases List.mem_cons.mp mem with rfl | mem
      · rw [Option.some.inj dash]
        decide
      · exact digit_unbroken (List.all_eq_true.mp digits c mem)
  next =>
    obtain ⟨_, digits⟩ := Bool.and_eq_true_iff.mp whole
    exact digit_unbroken (List.all_eq_true.mp digits c mem)

theorem isFloat_unbroken {cs : List Char} (real : isFloat asciiReader cs = true) : ∀ c ∈ cs, lineBreak c = false := by
  unfold isFloat isNumber at real
  simp only [Bool.and_eq_true, beq_iff_eq] at real
  obtain ⟨⟨whole, point⟩, _, digits⟩ := real
  intro c mem
  rw [← List.takeWhile_append_dropWhile (p := (· != '.')) (l := cs)] at mem
  rcases List.mem_append.mp mem with mem | mem
  · exact isInt_unbroken whole c mem
  · cases rest : cs.dropWhile (· != '.') with
    | nil =>
      rw [rest] at mem
      cases mem
    | cons d rest' =>
      rw [rest] at mem point digits
      rcases List.mem_cons.mp mem with rfl | mem
      · rw [Option.some.inj point]
        decide
      · exact digit_unbroken (List.all_eq_true.mp digits c mem)

theorem asciiReader_documented : Documented asciiReader where
  blank := by decide
  solid c visible := by
    have low : '!' ≤ c := of_decide_eq_true (Bool.and_eq_true_iff.mp visible).1
    have apart : (c == ' ') = false := by
      rw [beq_eq_false_iff_ne]
      rintro rfl
      exact absurd low (by decide)
    have high : ¬c ≤ '\r' := fun high => absurd (Char.le_trans low high) (by decide)
    have space : asciiReader.text.isSpace c = (c == ' ' || ('\t' ≤ c && c ≤ '\r')) := rfl
    rw [space, apart, decide_eq_false high, Bool.and_false, Bool.or_false]
  digit c visible := rfl
  comment _ _ := rfl
  number _ _ _ := rfl
  strBool b := by cases b <;> rfl
  strNull := rfl
  strInt n := rfl
  strFloat _ := rfl
  float cs real c mem := by
    have chars : (asciiReader.float cs).toList = cs := String.toList_ofList
    rw [chars] at mem
    exact isFloat_unbroken real c mem
  strOther j notStr notFloat := by
    cases j with
    | null => exact unbroken_literal rfl
    | bool b => cases b with
      | true => exact unbroken_literal rfl
      | false => exact unbroken_literal rfl
    | int n => cases n with
      | ofNat n => exact toString_unbroken n
      | negSucc n => exact unbroken_append.mpr ⟨unbroken_literal rfl, toString_unbroken (n + 1)⟩
    | float f => exact absurd rfl (notFloat f)
    | str s => exact absurd rfl (notStr s)
    | arr => exact unbroken_literal rfl
    | obj => exact unbroken_literal rfl
  deep := by decide

/-- Flags whose values survive, and flags with a board that is read as a word. -/
def someFlags (board : String) : ConfigFlags where
  board
  origin := "ops"
  transition := "a>b"
  fromSlice := "a"
  toSlice := "b"

theorem rendered_loads_main : ∃ v, (someFlags "main").accept asciiReader.text = .ok v ∧
    ((∀ path, ∃ text, renderRoadmapConfig asciiReader.text (someFlags "main") = .ok text ∧
      loadRepoRoadmapConfig asciiReader path text = .ok (v.config path)) ↔ v.Survives asciiReader) := by
  cases accepted : (someFlags "main").accept asciiReader.text with
  | error e =>
    have fine : ((someFlags "main").accept asciiReader.text).toOption.isSome = true := by decide +kernel
    rw [accepted] at fine
    cases fine
  | ok v => exact ⟨v, rfl, rendered_loads_iff asciiReader_documented accepted⟩

/-- A board of the name of a truth value is loaded back as another. -/
theorem rendered_board_lost : ¬∀ (f : ConfigFlags) (v : ConfigValues asciiReader.text), f.accept asciiReader.text = .ok v →
    ∀ path, ∃ text, renderRoadmapConfig asciiReader.text f = .ok text ∧
      loadRepoRoadmapConfig asciiReader path text = .ok (v.config path) := by
  intro loads
  cases accepted : (someFlags "yes").accept asciiReader.text with
  | error e =>
    have fine : ((someFlags "yes").accept asciiReader.text).toOption.isSome = true := by decide +kernel
    rw [accepted] at fine
    cases fine
  | ok v =>
    have values : (((someFlags "yes").accept asciiReader.text).toOption.map fun v =>
        (v.board.1, v.origin.1, v.returnTo.1, v.transition.1, v.goalAnchor.isNone)) = some ("yes", "ops", "ops", "a>b", true) := by
      decide +kernel
    rw [accepted] at values
    obtain ⟨board, origin, returnTo, transition, anchor⟩ : v.board.1 = "yes" ∧ v.origin.1 = "ops" ∧ v.returnTo.1 = "ops" ∧
        v.transition.1 = "a>b" ∧ v.goalAnchor.isNone = true := by simpa using Option.some.inj values
    have oneLine : v.OneLine := by
      refine ⟨?_, ?_, fun text given => ?_⟩
      · rw [origin]
        exact unbroken_literal rfl
      · rw [returnTo]
        exact unbroken_literal rfl
      · rw [Option.mem_def.mp given] at anchor
        cases anchor
    have whole : ':' ∉ v.transition.1.toList := by
      rw [transition]
      decide
    obtain ⟨text, rendered, loaded⟩ := loads _ v accepted ""
    rw [renderRoadmapConfig, accepted] at rendered
    obtain rfl : v.render = text := Except.ok.inj rendered
    rw [load_whole v asciiReader_documented oneLine whole] at loaded
    have same : readAs asciiReader v.board.1 = v.board.1 := congrArg RepoRoadmapConfig.board (Except.ok.inj loaded)
    rw [board] at same
    exact absurd same (by decide)

end AgentflowHermes.Config
