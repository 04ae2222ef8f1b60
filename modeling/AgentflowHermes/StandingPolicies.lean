import AgentflowHermes.ResolverErrors
import Mathlib.Data.List.Nodup

namespace AgentflowHermes

/-- No two rows are the same version of one policy. -/
def OneRowEach (rows : List StandingPolicy) : Prop := (rows.map fun p => (p.policyId, p.version)).Nodup

/-- The standing policies of a store; a unique index keeps their versions apart. -/
structure PolicyStore where
  rows : List StandingPolicy
  unique : OneRowEach rows

namespace PolicyStore

def empty : PolicyStore := ⟨[], .nil⟩

/-- `coalesce(max(version), 0)` over the rows of one id. -/
def latestVersion (rows : List StandingPolicy) (policyId : String) : Int :=
  ((rows.filter fun p => p.policyId == policyId).map (·.version)).max?.getD 0

theorem version_le_latest {rows : List StandingPolicy} {p : StandingPolicy} (h : p ∈ rows) :
    p.version ≤ latestVersion rows p.policyId := by
  unfold latestVersion
  have mem : p.version ∈ (rows.filter fun q => q.policyId == p.policyId).map (·.version) :=
    List.mem_map_of_mem (List.mem_filter.mpr ⟨h, by simp⟩)
  cases most : ((rows.filter fun q => q.policyId == p.policyId).map (·.version)).max? with
  | none =>
    rw [List.max?_eq_none_iff] at most
    rw [most] at mem
    cases mem
  | some m => exact (List.max?_le_iff most).mp (Int.le_refl m) _ mem

/-- `create_standing_policy`: the next version of its id. -/
def createStandingPolicy (s : PolicyStore) (policyId ownerRef projectScope actionScope : String)
    (conditions : List (String × Json)) (decision : Json) (enabled : Bool) : PolicyStore where
  rows := s.rows ++
    [⟨policyId, latestVersion s.rows policyId + 1, ownerRef, projectScope, actionScope, conditions, decision, enabled⟩]
  unique := by
    unfold OneRowEach
    rw [List.map_append, List.nodup_append]
    refine ⟨s.unique, by simp, fun k hk k' hk' => ?_⟩
    obtain ⟨p, hp, rfl⟩ := List.mem_map.mp hk
    have new : k' = (policyId, latestVersion s.rows policyId + 1) := by simpa using hk'
    have below := version_le_latest hp
    rw [new]
    intro same
    obtain ⟨id, version⟩ := Prod.mk.inj same
    rw [id] at below
    omega

end PolicyStore

/-- Each condition is met by what stands under its name. -/
def Met (T : PyText) (conditions : Json) (p : StandingPolicy) : Prop :=
  ∀ c ∈ p.conditions, T.equal ((conditions.get? c.1).getD .null) c.2 = true

/-- What `latest_by_id` holds once it has gone through `seen`. -/
structure Newest (seen latest : List StandingPolicy) : Prop where
  taken : ∀ p ∈ latest, p ∈ seen
  newest : ∀ p ∈ latest, ∀ q ∈ seen, q.policyId = p.policyId → q.version ≤ p.version
  covers : ∀ q ∈ seen, ∃ p ∈ latest, p.policyId = q.policyId

section

variable {seen latest : List StandingPolicy}

theorem Newest.take (h : Newest seen latest) (row : StandingPolicy) :
    Newest (seen ++ [row]) (takeLatest latest row) := by
  unfold takeLatest
  by_cases known : latest.any fun p => p.policyId == row.policyId
  · rw [if_pos known]
    have keepsId (p : StandingPolicy) :
        (if p.policyId = row.policyId ∧ p.version < row.version then row else p).policyId = p.policyId := by
      split
      next newer => exact newer.1.symm
      next => rfl
    refine ⟨fun p hp => ?_, fun p hp q hq same => ?_, fun q hq => ?_⟩
    · obtain ⟨old, hold, rfl⟩ := List.mem_map.mp hp
      split
      · simp
      · exact List.mem_append_left _ (h.taken old hold)
    · obtain ⟨old, hold, rfl⟩ := List.mem_map.mp hp
      rw [keepsId] at same
      have before : q ∈ seen → q.version ≤ old.version := fun hq => h.newest old hold q hq same
      rcases List.mem_append.mp hq with hq | hq
      · have := before hq
        split
        next newer => omega
        next => exact this
      · rw [List.mem_singleton] at hq
        subst hq
        split
        next => exact Int.le_refl _
        next older =>
          have : ¬old.version < q.version := fun lt => older ⟨same.symm, lt⟩
          omega
    · have found : ∃ p ∈ latest, p.policyId = q.policyId := by
        rcases List.mem_append.mp hq with hq | hq
        · exact h.covers q hq
        · rw [List.mem_singleton.mp hq]
          simpa using known
      obtain ⟨p, hp, same⟩ := found
      exact ⟨_, List.mem_map_of_mem hp, (keepsId p).trans same⟩
  · rw [if_neg known]
    have new : ∀ p ∈ latest, p.policyId ≠ row.policyId := by simpa using known
    refine ⟨fun p hp => ?_, fun p hp q hq same => ?_, fun q hq => ?_⟩
    · rcases List.mem_append.mp hp with hp | hp
      · exact List.mem_append_left _ (h.taken p hp)
      · exact List.mem_append_right _ hp
    · rcases List.mem_append.mp hp with hp | hp <;> rcases List.mem_append.mp hq with hq | hq
      · exact h.newest p hp q hq same
      · rw [List.mem_singleton.mp hq] at same
        exact absurd same.symm (new p hp)
      · rw [List.mem_singleton.mp hp] at same
        obtain ⟨p', hp', same'⟩ := h.covers q hq
        exact absurd (same'.trans same) (new p' hp')
      · cases List.mem_singleton.mp hp
        cases List.mem_singleton.mp hq
        exact Int.le_refl _
    · rcases List.mem_append.mp hq with hq | hq
      · obtain ⟨p, hp, same⟩ := h.covers q hq
        exact ⟨p, List.mem_append_left _ hp, same⟩
      · exact ⟨q, List.mem_append_right _ hq, rfl⟩

theorem Newest.fold (h : Newest seen latest) (rows : List StandingPolicy) :
    Newest (seen ++ rows) (rows.foldl takeLatest latest) := by
  induction rows generalizing seen latest with
  | nil =>
    rw [List.append_nil]
    exact h
  | cons row rest ih =>
    have later := ih (h.take row)
    rw [List.append_assoc] at later
    exact later

theorem newest_latestById (rows : List StandingPolicy) : Newest (rows.filter fun p => p.enabled) (latestById rows) :=
  @Newest.fold [] [] ⟨by simp, by simp, by simp⟩ _

/-- The rows that are matched are the enabled ones without a newer enabled version. -/
theorem mem_latestById {rows : List StandingPolicy} (unique : OneRowEach rows) {p : StandingPolicy} :
    p ∈ latestById rows ↔
      p ∈ rows ∧ p.enabled ∧ ∀ q ∈ rows, q.policyId = p.policyId → q.enabled → q.version ≤ p.version := by
  have all := newest_latestById rows
  constructor
  · intro hp
    have taken := List.mem_filter.mp (all.taken p hp)
    exact ⟨taken.1, taken.2, fun q hq same enabled => all.newest p hp q (List.mem_filter.mpr ⟨hq, enabled⟩) same⟩
  · rintro ⟨hp, enabled, newest⟩
    have mine := List.mem_filter.mpr ⟨hp, enabled⟩
    obtain ⟨p', hp', same⟩ := all.covers p mine
    have taken := List.mem_filter.mp (all.taken p' hp')
    have below := newest p' taken.1 same taken.2
    have above := all.newest p' hp' p mine same.symm
    by_cases one : p' = p
    · exact one ▸ hp'
    · refine absurd (List.inj_on_of_nodup_map unique taken.1 hp ?_) one
      exact Prod.ext same (Int.le_antisymm below above)

end

section

variable {T : PyText} {conditions : Json}

theorem conditionsMatch_ok {cs : List (String × Json)} {b : Bool} (h : conditionsMatch T conditions cs = .ok b) :
    b = true ↔ ∀ c ∈ cs, T.equal ((conditions.get? c.1).getD .null) c.2 = true := by
  induction cs with
  | nil =>
    cases h
    simp
  | cons c rest ih =>
    unfold conditionsMatch at h
    split at h
    · cases h
    · split at h
      next equal => rw [ih h, List.forall_mem_cons, and_iff_right equal]
      next differs =>
        cases h
        exact iff_of_false (by simp) fun all => differs (all c List.mem_cons_self)

theorem conditionsMatch_error {cs : List (String × Json)} {e : PyError} (h : conditionsMatch T conditions cs = .error e) :
    e = .attributeError ∧ ¬conditions.isDict := by
  induction cs with
  | nil => cases h
  | cons c rest ih =>
    unfold conditionsMatch at h
    split at h
    next noDict =>
      cases h
      exact ⟨rfl, by simpa using noDict⟩
    · split at h
      · exact ih h
      · cases h

variable {owner project action : String}

theorem inScope_iff {p : StandingPolicy} : InScope owner project action p = true ↔
    ¬(p.ownerRef ≠ owner ∨ p.projectScope ≠ project ∨ p.actionScope ≠ action) := by
  simp only [InScope, Bool.and_eq_true, beq_iff_eq, not_or, ne_eq, Decidable.not_not, and_assoc]

theorem findMatch_some {rows : List StandingPolicy} {p : StandingPolicy}
    (h : findMatch T owner project action conditions rows = .ok (some p)) :
    p ∈ rows ∧ InScope owner project action p ∧ Met T conditions p := by
  induction rows with
  | nil => cases h
  | cons row rest ih =>
    have later (h : findMatch T owner project action conditions rest = .ok (some p)) :
        p ∈ row :: rest ∧ InScope owner project action p ∧ Met T conditions p :=
      ⟨List.mem_cons_of_mem _ (ih h).1, (ih h).2⟩
    unfold findMatch at h
    split at h
    · exact later h
    next inside =>
      obtain ⟨matched, hm, h⟩ := bind_ok' h
      cases matched with
      | true =>
        cases h
        exact ⟨List.mem_cons_self, inScope_iff.mpr inside, (conditionsMatch_ok hm).mp rfl⟩
      | false => exact later h

theorem findMatch_none {rows : List StandingPolicy}
    (h : findMatch T owner project action conditions rows = .ok none) :
    ∀ p ∈ rows, InScope owner project action p → ¬Met T conditions p := by
  induction rows with
  | nil => simp
  | cons row rest ih =>
    rw [List.forall_mem_cons]
    unfold findMatch at h
    split at h
    next outside => exact ⟨fun inside => absurd outside (inScope_iff.mp inside), ih h⟩
    · obtain ⟨matched, hm, h⟩ := bind_ok' h
      cases matched with
      | true => cases h
      | false => exact ⟨fun _ met => by simpa using (conditionsMatch_ok hm).mpr met, ih h⟩

theorem findMatch_error {rows : List StandingPolicy} {e : PyError}
    (h : findMatch T owner project action conditions rows = .error e) : e = .attributeError ∧ ¬conditions.isDict := by
  induction rows with
  | nil => cases h
  | cons row rest ih =>
    unfold findMatch at h
    split at h
    · exact ih h
    · cases hm : conditionsMatch T conditions row.conditions with
      | error e' =>
        rw [hm] at h
        cases h
        exact conditionsMatch_error hm
      | ok matched =>
        rw [hm] at h
        cases matched with
        | true => cases h
        | false => exact ih h

end

end AgentflowHermes
