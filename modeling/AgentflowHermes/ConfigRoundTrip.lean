import AgentflowHermes.RenderedConfig

namespace AgentflowHermes.Config

open TextLines

section

variable {r : Reader} (doc : Documented r)

/-- An entry with a value that is written as it is, and one in quotes. -/
def nameEntry (r : Reader) (key x : String) : Entry := ⟨key.toList, x.toList, nameValue r x.toList⟩

def quotedEntry (key x : String) : Entry := ⟨key.toList, quoted x.toList, .str x⟩

theorem key_nameLike {key : String} (ident : isIdent key = true) : NameLike key.toList := Ident.nameLike ⟨key, ident⟩

theorem Ident.length_le (x : Ident) : x.1.toList.length ≤ 121 := by
  obtain ⟨s, ident⟩ := x
  unfold isIdent at ident
  cases chars : s.toList with
  | nil => simp
  | cons c rest =>
    rw [chars] at ident
    simp only [Bool.and_eq_true, decide_eq_true_eq] at ident
    rw [List.length_cons]
    omega

theorem Ident.short (x : Ident) : x.1.toList.length ≤ 4300 := Nat.le_trans x.length_le (by decide)

theorem Origin.unquoted (x : Origin) : ∀ c ∈ x.1.toList, c ≠ '"' := by
  obtain ⟨s, origin⟩ := x
  unfold isOrigin at origin
  simp only [Bool.and_eq_true, List.all_eq_true] at origin
  intro c mem
  have other := origin.2 c mem
  rintro rfl
  exact absurd other (by decide)

include doc

theorem nameEntry_good {key x : String} (ident : isIdent key = true) (whole : ':' ∉ key.toList) (name : NameLike x.toList)
    (short : x.toList.length ≤ 4300) : (nameEntry r key x).Good r :=
  ⟨key_nameLike ident, whole, name.tidy doc, parseScalar_name doc name short⟩

theorem quotedEntry_good {key : String} (x : Origin) (ident : isIdent key = true) (whole : ':' ∉ key.toList) :
    (quotedEntry key x.1).Good r :=
  ⟨key_nameLike ident, whole, quoted_tidy doc x.unquoted, (parseScalar_quoted doc).trans (by rw [String.ofList_toList]; rfl)⟩

/-- A comment, which a line may be as a whole. -/
theorem cleanLine_comment {line : String} (comment : line.toList.head? = some '#') : cleanLine r line.toList = none := by
  have mark := doc.solid '#' (by decide)
  obtain ⟨cs, chars⟩ : ∃ cs, line.toList = '#' :: cs := by
    cases chars : line.toList with
    | nil =>
      rw [chars] at comment
      cases comment
    | cons c cs =>
      rw [chars] at comment
      exact ⟨cs, by rw [Option.some.inj comment]⟩
  have kept := rstrip_cons mark cs
  have stripped := rstrip_cons mark (rstrip r.text.isSpace cs)
  unfold cleanLine
  dsimp only
  rw [chars, kept, strip, List.dropWhile_cons_of_neg (by rw [mark]; decide), stripped, if_pos (.inr rfl)]

end

section

variable {r : Reader} (v : ConfigValues r.text)

/-- The entries of a config, in the order of its lines. -/
def ConfigValues.before (r : Reader) (v : ConfigValues r.text) : List Entry := [
  nameEntry r "enabled" "true", nameEntry r "kill_switch" "false", nameEntry r "board" v.board.1,
  nameEntry r "same_board_only" "true", nameEntry r "apply_mode" (if v.applyMode then "true" else "false"),
  quotedEntry "expected_origin" v.origin.1, quotedEntry "expected_return_to" v.returnTo.1,
  nameEntry r "impl_assignee" v.implAssignee.1, nameEntry r "review_assignee" v.reviewAssignee.1,
  nameEntry r "ack_trigger_agent" "true"]

def ConfigValues.after (r : Reader) : List Entry := [
  nameEntry r "max_chain_depth" "3", nameEntry r "max_promotions_per_roadmap" "6",
  nameEntry r "promote_cooldown_seconds" "900", nameEntry r "require_review_edge" "true",
  nameEntry r "require_ack_edge" "true", nameEntry r "require_trusted_assignee" "true",
  nameEntry r "require_origin_match" "true", nameEntry r "require_policy_resolution" "true"]

def ConfigValues.transitionEntries (r : Reader) (v : ConfigValues r.text) : List Entry :=
  [nameEntry r "roadmap_id" v.roadmap, nameEntry r "from_slice" v.fromSlice.1, nameEntry r "to_slice" v.toSlice.1] ++
  v.templatePreset.toList.map (fun preset => nameEntry r "template_preset" preset.1) ++
  v.goalAnchor.toList.map (fun anchor => quotedEntry "goal_anchor" anchor.1)

def ConfigValues.transitionEnd (r : Reader) (v : ConfigValues r.text) : List Entry :=
  [nameEntry r "max_chain_depth" "3", nameEntry r "version" v.version]

/-- The item of a name. -/
def nameItem (r : Reader) (x : String) : List Char × Json := (x.toList, nameValue r x.toList)

def ConfigValues.kindItems (r : Reader) (v : ConfigValues r.text) : List (List Char × Json) :=
  v.template.steps.map fun step => nameItem r step.kind

def refItems (r : Reader) : List (List Char × Json) := [nameItem r "design_opus", nameItem r "implementation_default"]

def items (n : Nat) (xs : List (List Char × Json)) : List (List Char) := xs.map fun x => itemLine n x.1

/-- The lines of the one transition. -/
def ConfigValues.transitionLines (r : Reader) (v : ConfigValues r.text) : List (List Char) :=
  (v.transitionEntries r).map (Entry.line 4) ++ (headLine 4 "slice_template".toList :: (items 6 (v.kindItems r) ++
    (headLine 4 "policy_refs".toList :: (items 6 (refItems r) ++ (v.transitionEnd r).map (Entry.line 4)))))

def ConfigValues.cleaned (r : Reader) (v : ConfigValues r.text) : List (List Char) :=
  (v.before r).map (Entry.line 0) ++ (headLine 0 "trusted_assignees".toList :: (items 2 [nameItem r v.reviewAssignee.1] ++
    (headLine 0 "allowed_transitions".toList :: (items 2 [nameItem r v.transition.1] ++
      ((ConfigValues.after r).map (Entry.line 0) ++ (headLine 0 "transitions".toList ::
        headLine 2 v.transition.1.toList :: v.transitionLines r))))))

end

/-! The lines of a rendered config. -/

/-- Lines, with what is left of them. -/
def Cleans (r : Reader) (lines : List String) (cleaned : List (List Char)) : Prop :=
  (lines.map String.toList).filterMap (cleanLine r) = cleaned

section

variable {r : Reader} (doc : Documented r) {lines : List String} {cleaned : List (List Char)}

theorem Cleans.append {others : List String} {after : List (List Char)} (first : Cleans r lines cleaned)
    (second : Cleans r others after) : Cleans r (lines ++ others) (cleaned ++ after) := by
  unfold Cleans at first second ⊢
  rw [List.map_append, List.filterMap_append, first, second]

theorem Cleans.blank (rest : Cleans r lines cleaned) : Cleans r ("" :: lines) cleaned :=
  (List.filterMap_cons_none rfl).trans rest

theorem Cleans.keep {line : String} {kept : List Char} (same : cleanLine r line.toList = some kept)
    (rest : Cleans r lines cleaned) : Cleans r (line :: lines) (kept :: cleaned) := by
  unfold Cleans at rest ⊢
  rw [List.map_cons, List.filterMap_cons_some same, rest]

include doc

theorem Cleans.comment {chars : List Char} (rest : Cleans r lines cleaned) :
    Cleans r (String.ofList ('#' :: chars) :: lines) cleaned :=
  (List.filterMap_cons_none (cleanLine_comment doc (by rw [String.toList_ofList, List.head?_cons]))).trans rest

variable {n : Nat} {k chars : List Char} {x : String}

theorem Cleans.constant (good : (nameEntry r (String.ofList k) x).Good r) {value : List Char} (given : x = String.ofList value)
    (same : chars = List.replicate n ' ' ++ (k ++ ':' :: ' ' :: value)) (rest : Cleans r lines cleaned) :
    Cleans r (String.ofList chars :: lines) ((nameEntry r (String.ofList k) x).line n :: cleaned) := by
  refine .keep ?_ rest
  have line : (String.ofList chars).toList = (nameEntry r (String.ofList k) x).line n := by
    rw [String.toList_ofList, same, given, nameEntry, Entry.line, entryLine, String.toList_ofList, String.toList_ofList]
  rw [line]
  exact cleanLine_entry doc n good.name good.tidy

theorem Cleans.named (good : (nameEntry r (String.ofList k) x).Good r)
    (same : chars = List.replicate n ' ' ++ (k ++ [':', ' '])) (rest : Cleans r lines cleaned) :
    Cleans r ((String.ofList chars ++ x) :: lines) ((nameEntry r (String.ofList k) x).line n :: cleaned) := by
  refine .keep ?_ rest
  have line : (String.ofList chars ++ x).toList = (nameEntry r (String.ofList k) x).line n := by
    rw [String.toList_append, String.toList_ofList, same, nameEntry, Entry.line, entryLine, String.toList_ofList,
      List.append_assoc, List.append_assoc]
    rfl
  rw [line]
  exact cleanLine_entry doc n good.name good.tidy

theorem Cleans.quoted (good : (quotedEntry (String.ofList k) x).Good r)
    (same : chars = List.replicate n ' ' ++ (k ++ [':', ' ', '"'])) (rest : Cleans r lines cleaned) :
    Cleans r ((String.ofList chars ++ x ++ "\"") :: lines) ((quotedEntry (String.ofList k) x).line n :: cleaned) := by
  refine .keep ?_ rest
  have line : (String.ofList chars ++ x ++ "\"").toList = (quotedEntry (String.ofList k) x).line n := by
    have mark : "\"".toList = ['"'] := String.toList_ofList
    rw [String.toList_append, String.toList_append, String.toList_ofList, same, quotedEntry, Entry.line, entryLine, mark]
    dsimp only
    rw [String.toList_ofList, List.append_assoc, List.append_assoc, List.append_assoc, Config.quoted]
    rfl
  rw [line]
  exact cleanLine_entry doc n good.name good.tidy

theorem Cleans.head (name : NameLike x.toList) (same : chars = List.replicate n ' ') (rest : Cleans r lines cleaned) :
    Cleans r ((String.ofList chars ++ x ++ ":") :: lines) (headLine n x.toList :: cleaned) := by
  refine .keep ?_ rest
  have line : (String.ofList chars ++ x ++ ":").toList = headLine n x.toList := by
    rw [String.toList_append, String.toList_append, String.toList_ofList, same, headLine, List.append_assoc]
    rfl
  rw [line]
  exact cleanLine_head doc n name

theorem Cleans.title (ident : isIdent (String.ofList k) = true) (same : chars = List.replicate n ' ' ++ (k ++ [':']))
    (rest : Cleans r lines cleaned) :
    Cleans r (String.ofList chars :: lines) (headLine n (String.ofList k).toList :: cleaned) := by
  refine .keep ?_ rest
  have line : (String.ofList chars).toList = headLine n (String.ofList k).toList := by
    rw [String.toList_ofList, same, headLine, String.toList_ofList]
  rw [line]
  exact cleanLine_head doc n (key_nameLike ident)

theorem Cleans.item (name : NameLike x.toList) (same : chars = List.replicate n ' ' ++ ['-', ' '])
    (rest : Cleans r lines cleaned) : Cleans r ((String.ofList chars ++ x) :: lines) (itemLine n x.toList :: cleaned) := by
  refine .keep ?_ rest
  have line : (String.ofList chars ++ x).toList = itemLine n x.toList := by
    rw [String.toList_append, String.toList_ofList, same, itemLine, List.append_assoc]
    rfl
  rw [line]
  exact cleanLine_item doc n (name.tidy doc)

theorem Cleans.constantItem (ident : isIdent (String.ofList k) = true)
    (same : chars = List.replicate n ' ' ++ ('-' :: ' ' :: k)) (rest : Cleans r lines cleaned) :
    Cleans r (String.ofList chars :: lines) (itemLine n (String.ofList k).toList :: cleaned) := by
  refine .keep ?_ rest
  have line : (String.ofList chars).toList = itemLine n (String.ofList k).toList := by
    rw [String.toList_ofList, same, itemLine, String.toList_ofList]
  rw [line]
  exact cleanLine_item doc n ((key_nameLike ident).tidy doc)

theorem Cleans.items {xs : List String} (same : chars = List.replicate n ' ' ++ ['-', ' '])
    (names : ∀ x ∈ xs, NameLike x.toList) :
    Cleans r (xs.map fun x => String.ofList chars ++ x) (Config.items n (xs.map (nameItem r))) := by
  induction xs with
  | nil => rfl
  | cons x xs ih =>
    exact .item doc (names x List.mem_cons_self) same (ih fun y mem => names y (List.mem_cons_of_mem _ mem))

end

section

variable {r : Reader} (doc : Documented r) (v : ConfigValues r.text)

theorem roadmap_nameLike : NameLike v.roadmap.toList := by
  unfold ConfigValues.roadmap
  cases v.roadmapId with
  | some roadmap => exact roadmap.nameLike
  | none =>
    obtain ⟨c, rest, chars, letter, others⟩ := v.board.nameLike
    refine ⟨c, rest ++ ".roadmap".toList, ?_, letter, fun d mem => ?_⟩
    · exact (String.toList_append ..).trans (by rw [chars, List.cons_append])
    · rcases List.mem_append.mp mem with mem | mem
      · exact others d mem
      · exact List.all_eq_true.mp (by decide : ".roadmap".toList.all isIdentChar = true) d mem

theorem roadmap_short : v.roadmap.toList.length ≤ 4300 := by
  unfold ConfigValues.roadmap
  cases v.roadmapId with
  | some roadmap => exact roadmap.short
  | none =>
    have board := v.board.length_le
    have joined : (v.board.1 ++ ".roadmap").toList.length = v.board.1.toList.length + 8 := by
      rw [String.toList_append, List.length_append]
      rfl
    exact Nat.le_trans (Nat.le_of_eq joined) (by omega)

theorem version_ident : isIdent v.version = true := by
  unfold ConfigValues.version
  split
  · decide
  · decide

include doc

theorem constant_good {key value : String} (ident : isIdent key = true) (whole : ':' ∉ key.toList) (ident' : isIdent value = true) :
    (nameEntry r key value).Good r := nameEntry_good doc ident whole (key_nameLike ident') (Ident.short ⟨value, ident'⟩)

theorem ident_good {key : String} (x : Ident) (ident : isIdent key = true) (whole : ':' ∉ key.toList) :
    (nameEntry r key x.1).Good r := nameEntry_good doc ident whole x.nameLike x.short

theorem before_good : ∀ e ∈ v.before r, e.Good r := by
  have mode : isIdent (if v.applyMode then "true" else "false") = true := by
    split
    · decide
    · decide
  simp only [ConfigValues.before, List.forall_mem_cons]
  refine ⟨constant_good doc (by decide) (by decide) (by decide), constant_good doc (by decide) (by decide) (by decide),
    ident_good doc v.board (by decide) (by decide), constant_good doc (by decide) (by decide) (by decide),
    constant_good doc (by decide) (by decide) mode, quotedEntry_good doc v.origin (by decide) (by decide),
    quotedEntry_good doc v.returnTo (by decide) (by decide), ident_good doc v.implAssignee (by decide) (by decide),
    ident_good doc v.reviewAssignee (by decide) (by decide), constant_good doc (by decide) (by decide) (by decide),
    fun _ none' => absurd none' List.not_mem_nil⟩

theorem after_good : ∀ e ∈ ConfigValues.after r, e.Good r := by
  simp only [ConfigValues.after, List.forall_mem_cons]
  refine ⟨?_, ?_, ?_, ?_, ?_, ?_, ?_, ?_, fun _ none' => absurd none' List.not_mem_nil⟩
  all_goals exact constant_good doc (by decide) (by decide) (by decide)

theorem transitionEntries_good : ∀ e ∈ v.transitionEntries r, e.Good r := by
  intro e mem
  rcases List.mem_append.mp mem with mem | mem
  · rcases List.mem_append.mp mem with mem | mem
    · simp only [List.mem_cons, List.not_mem_nil, or_false] at mem
      rcases mem with rfl | rfl | rfl
      · exact nameEntry_good doc (by decide) (by decide) (roadmap_nameLike v) (roadmap_short v)
      · exact ident_good doc v.fromSlice (by decide) (by decide)
      · exact ident_good doc v.toSlice (by decide) (by decide)
    · obtain ⟨preset, _, rfl⟩ := List.mem_map.mp mem
      exact ident_good doc preset (by decide) (by decide)
  · obtain ⟨anchor, _, rfl⟩ := List.mem_map.mp mem
    exact quotedEntry_good doc anchor (by decide) (by decide)

theorem transitionEnd_good : ∀ e ∈ v.transitionEnd r, e.Good r := by
  simp only [ConfigValues.transitionEnd, List.forall_mem_cons]
  exact ⟨constant_good doc (by decide) (by decide) (by decide), constant_good doc (by decide) (by decide) (version_ident v),
    fun _ none' => absurd none' List.not_mem_nil⟩

theorem head_cleans : Cleans r v.head ((v.before r).map (Entry.line 0) ++ (headLine 0 "trusted_assignees".toList ::
    (items 2 [nameItem r v.reviewAssignee.1] ++ (headLine 0 "allowed_transitions".toList ::
      (items 2 [nameItem r v.transition.1] ++ ((ConfigValues.after r).map (Entry.line 0) ++
        [headLine 0 "transitions".toList, headLine 2 v.transition.1.toList])))))) := by
  have first := before_good doc v
  have second := after_good doc
  simp only [ConfigValues.before, List.forall_mem_cons] at first
  simp only [ConfigValues.after, List.forall_mem_cons] at second
  obtain ⟨enabled, killSwitch, board, sameBoard, applyMode, origin, returnTo, impl, review, ack, _⟩ := first
  obtain ⟨depth, promotions, cooldown, reviewEdge, ackEdge, trusted, originMatch, policy, _⟩ := second
  refine .comment doc (.comment doc (.comment doc (.comment doc (.comment doc ?_))))
  refine .constant doc enabled rfl rfl (.constant doc killSwitch rfl rfl (.blank (.comment doc ?_)))
  refine .named doc board rfl (.constant doc sameBoard rfl rfl (.blank (.comment doc (.comment doc ?_))))
  refine .named doc applyMode rfl (.blank (.quoted doc origin rfl (.quoted doc returnTo rfl (.blank ?_))))
  refine .named doc impl rfl (.named doc review rfl (.comment doc (.constant doc ack rfl rfl ?_)))
  refine .title doc (by decide) rfl (.item doc v.reviewAssignee.nameLike rfl (.blank ?_))
  refine .title doc (by decide) rfl (.item doc v.transition.nameLike rfl (.blank ?_))
  refine .constant doc depth rfl rfl (.constant doc promotions rfl rfl (.constant doc cooldown rfl rfl ?_))
  refine .constant doc reviewEdge rfl rfl (.constant doc ackEdge rfl rfl (.constant doc trusted rfl rfl ?_))
  refine .constant doc originMatch rfl rfl (.constant doc policy rfl rfl (.blank (.title doc (by decide) rfl ?_)))
  exact .head doc v.transition.nameLike rfl rfl

end

/-! The kinds of the steps that a preset has. -/

section

open Roadmap

variable {T : PyText} {preset goalAnchor : String} {template : ResolvedTemplate T}

def kinds (template : ResolvedTemplate T) : List String := template.steps.map TemplateStep.kind

theorem kinds_resolved (resolved : resolveTemplate T preset [] goalAnchor = .ok template) :
    ∃ p ∈ presets, kinds template = p.sliceTemplate ∧ (preset = "" → p = legacyPreset) ∧ (preset ≠ "" → p.name = preset) := by
  unfold resolveTemplate at resolved
  split at resolved
  next bare =>
    have steps := validateResolved_steps resolved
    refine ⟨legacyPreset, List.mem_cons_self, ?_, fun _ => rfl, absurd bare⟩
    rw [kinds, steps]
    decide
  next given =>
    cases found : presets.find? fun p => p.name == preset with
    | none =>
      rw [found] at resolved
      cases resolved
    | some p =>
      rw [found] at resolved
      dsimp only at resolved
      rw [if_neg (by simp)] at resolved
      have known := List.mem_of_find?_eq_some found
      have name : p.name = preset := by simpa using List.find?_some found
      refine ⟨p, known, ?_, fun bare => absurd bare given, fun _ => name⟩
      rw [kinds, validateResolved_steps resolved, (presets_kinds p known).1]

/-- The steps that a preset has are those that it is resolved with. -/
theorem resolved_again (resolved : resolveTemplate T preset [] goalAnchor = .ok template) :
    resolveTemplate T preset (kinds template) goalAnchor = .ok template := resolve_again resolved

theorem kinds_ident (resolved : resolveTemplate T preset [] goalAnchor = .ok template) :
    ∀ kind ∈ kinds template, isIdent kind = true := by
  obtain ⟨p, known, same, _⟩ := kinds_resolved resolved
  rw [same]
  exact (by decide : ∀ p ∈ presets, ∀ kind ∈ p.sliceTemplate, isIdent kind = true) p known

end

section

variable {r : Reader} (doc : Documented r) (v : ConfigValues r.text)

include doc

theorem tail_cleans : Cleans r v.tail (v.transitionLines r) := by
  have entries := transitionEntries_good doc v
  simp only [ConfigValues.transitionEntries, List.forall_mem_append, List.forall_mem_cons] at entries
  obtain ⟨⟨⟨roadmap, fromSlice, toSlice, _⟩, preset⟩, anchor⟩ := entries
  have ends := transitionEnd_good doc v
  simp only [ConfigValues.transitionEnd, List.forall_mem_cons] at ends
  obtain ⟨depth, version, _⟩ := ends
  have first : Cleans r (["    roadmap_id: " ++ v.roadmap, "    from_slice: " ++ v.fromSlice.1,
      "    to_slice: " ++ v.toSlice.1] ++ v.templatePreset.toList.map (fun preset => "    template_preset: " ++ preset.1) ++
      v.goalAnchor.toList.map (fun anchor => "    goal_anchor: \"" ++ anchor.1 ++ "\""))
      ((v.transitionEntries r).map (Entry.line 4)) := by
    rw [ConfigValues.transitionEntries, List.map_append, List.map_append]
    refine .append (.append ?_ ?_) ?_
    · exact .named doc roadmap rfl (.named doc fromSlice rfl (.named doc toSlice rfl rfl))
    · cases given : v.templatePreset with
      | none => exact rfl
      | some name =>
        rw [given] at preset
        exact .named doc (preset _ List.mem_cons_self) rfl rfl
    · cases given : v.goalAnchor with
      | none => exact rfl
      | some text =>
        rw [given] at anchor
        exact .quoted doc (anchor _ List.mem_cons_self) rfl rfl
  have steps : Cleans r (v.template.steps.map fun step => "      - " ++ step.kind) (items 6 (v.kindItems r)) := by
    have listed : Cleans r ((kinds v.template).map fun kind => "      - " ++ kind)
        (items 6 ((kinds v.template).map (nameItem r))) :=
      .items doc rfl fun kind mem => key_nameLike (kinds_ident v.resolved kind mem)
    rwa [kinds, List.map_map, List.map_map] at listed
  unfold ConfigValues.tail ConfigValues.transitionLines
  rw [List.append_assoc, List.append_assoc]
  refine .append first ?_
  rw [List.singleton_append]
  refine .title doc (by decide) rfl (.append steps ?_)
  refine .title doc (by decide) rfl ?_
  refine .constantItem doc (by decide) rfl (.constantItem doc (by decide) rfl ?_)
  exact .constant doc depth rfl rfl (.named doc version rfl rfl)

end

end AgentflowHermes.Config
