import AgentflowHermes.OutcomeCompiler

namespace AgentflowHermes

namespace InputContract

variable {c k : InputContract} {name : String} {f g : InputField} {values : List (String × Json)} {resolved : List String}

theorem known_mem (h : c.known name = some f) : f ∈ c.fields ∧ f.name = name := by
  have mem := List.mem_of_find?_eq_some h
  have named := List.find?_some h
  exact ⟨List.mem_reverse.mp mem, beq_iff_eq.mp named⟩

/-- The contract has the name for a field that the owner fills. -/
def Owns (c : InputContract) (name : String) : Prop := ∃ f, c.known name = some f ∧ f.authority = .owner

/-- The submission is accepted as it is. -/
def Accepted (c : InputContract) (values : List (String × Json)) : Prop := (c.validateOwnerSubmission values).2 = []

theorem valueError_none {value : Json} :
    c.valueError name value = none ↔ ∃ f, c.known name = some f ∧ f.authority = .owner ∧ allows f value := by
  unfold valueError
  cases c.known name with
  | none => simp
  | some f =>
    by_cases owner : f.authority = .owner
    · cases allowed : allows f value <;> simp [owner, allowed]
    · simp [owner]

theorem accepted_iff : c.Accepted values ↔
    (∀ v ∈ values, ∃ f, c.known v.1 = some f ∧ f.authority = .owner ∧ allows f v.2) ∧
      ∀ o ∈ c.ownerFields, ∀ f, c.known o.name = some f → f.required → ∃ v ∈ values, v.1 = o.name := by
  have decided : c.Accepted values ↔ (values.filterMap fun v => c.valueError v.1 v.2) = [] ∧
      ((c.ownerFields.map InputField.name).eraseDups.filter fun name =>
        (c.known name).any (fun f => f.required) && !values.any fun v => v.1 == name) = [] := by
    unfold Accepted validateOwnerSubmission
    dsimp only
    split
    next h =>
      rw [List.append_eq_nil_iff, List.map_eq_nil_iff] at h
      simp [h]
    next h =>
      simp
  rw [decided, List.filterMap_eq_nil_iff, List.filter_eq_nil_iff]
  refine and_congr ⟨fun h v hv => valueError_none.mp (h v hv), fun h v hv => valueError_none.mpr (h v hv)⟩ ?_
  constructor
  · intro h o ho f hf required
    have provided := h o.name (List.mem_eraseDups.mpr (List.mem_map_of_mem ho))
    simpa [hf, required] using provided
  · intro h name hname
    obtain ⟨o, ho, rfl⟩ := List.mem_map.mp (List.mem_eraseDups.mp hname)
    cases hf : c.known o.name with
    | none => simp
    | some f =>
      by_cases required : f.required
      · simpa [required] using h o ho f hf required
      · simp [required]

theorem Accepted.fields (h : c.Accepted values) : (c.validateOwnerSubmission values).1 = values := by
  unfold Accepted validateOwnerSubmission at h
  unfold validateOwnerSubmission
  dsimp only at h ⊢
  split
  next => rfl
  next wrong =>
    rw [if_neg wrong] at h
    exact absurd h wrong

/-- The translation `k` of the contract `c`, when the fields of `resolved` are answered already: it lets
the owner fill no field of another authority and give no value that is not allowed, and asks for what
is required. -/
structure Carries (c k : InputContract) (resolved : List String) : Prop where
  authority : ∀ name f g, k.known name = some f → f.authority = .owner → c.known name = some g → g.authority = .owner
  allowed : ∀ name f g, k.known name = some f → f.authority = .owner → c.known name = some g →
    g.allowedValues = [] ∨ f.allowedValues ≠ [] ∧ ∀ x ∈ f.allowedValues, x ∈ g.allowedValues
  required : ∀ name g, c.known name = some g → g.authority = .owner → g.required →
    name ∈ resolved ∨ ∃ f, k.known name = some f ∧ f.authority = .owner ∧ f.required

/-- An answer as the contract wants it: a field of another contract must be asked, and one that is not
given resolved. -/
structure Respects (c : InputContract) (asked resolved : String → Prop) (values : List (String × Json)) : Prop where
  owner : ∀ v ∈ values, c.Owns v.1 ∨ c.known v.1 = none ∧ asked v.1
  allowed : ∀ v ∈ values, ∀ g, c.known v.1 = some g → allows g v.2
  required : ∀ name g, c.known name = some g → g.authority = .owner → g.required →
    resolved name ∨ ∃ v ∈ values, v.1 = name

theorem Respects.mono {asked asked' resolved resolved' : String → Prop} (h : c.Respects asked resolved values)
    (more : ∀ name, asked name → asked' name) (more' : ∀ name, resolved name → resolved' name) :
    c.Respects asked' resolved' values where
  owner v hv := (h.owner v hv).imp (fun own => own) fun new => ⟨new.1, more _ new.2⟩
  allowed := h.allowed
  required name g hg owner required := (h.required name g hg owner required).imp (more' name) fun given => given

theorem Carries.refl (c : InputContract) (resolved : List String) : Carries c c resolved where
  authority name f g hf owner hg := by
    obtain rfl := Option.some.inj (hf.symm.trans hg)
    exact owner
  allowed name f g hf owner hg := by
    obtain rfl := Option.some.inj (hf.symm.trans hg)
    exact (Classical.em (f.allowedValues = [])).imp (fun none => none) fun some => ⟨some, fun x hx => hx⟩
  required name g hg owner required := .inr ⟨g, hg, owner, required⟩

theorem allows_iff {value : Json} : allows f value ↔ f.allowedValues = [] ∨ ∃ x ∈ f.allowedValues, value = .str x := by
  unfold allows
  rw [Bool.or_eq_true, List.isEmpty_iff]
  cases value <;> simp

/-- What the translation accepts, the contract accepts. -/
theorem Carries.respects (h : Carries c k resolved) (accepted : k.Accepted values) :
    c.Respects k.Owns (· ∈ resolved) values := by
  obtain ⟨valid, complete⟩ := accepted_iff.mp accepted
  constructor
  · intro v hv
    obtain ⟨f, hf, owner, _⟩ := valid v hv
    cases hg : c.known v.1 with
    | none => exact .inr ⟨rfl, f, hf, owner⟩
    | some g => exact .inl ⟨g, hg, h.authority _ f g hf owner hg⟩
  · intro v hv g hg
    obtain ⟨f, hf, owner, allowed⟩ := valid v hv
    rcases h.allowed _ f g hf owner hg with free | ⟨bound, subset⟩
    · exact allows_iff.mpr (.inl free)
    · obtain ⟨x, hx, value⟩ := (allows_iff.mp allowed).resolve_left bound
      exact allows_iff.mpr (.inr ⟨x, subset x hx, value⟩)
  · intro name g hg owner required
    refine (h.required name g hg owner required).imp (fun known => known) ?_
    rintro ⟨f, hf, own, asks⟩
    obtain ⟨mem, rfl⟩ := known_mem hf
    exact complete f (List.mem_filter.mpr ⟨mem, by simp [own]⟩) f hf asks

/-- The submission with one value set. -/
def setValue (values : List (String × Json)) (name : String) (value : Json) : List (String × Json) :=
  (name, value) :: values.filter fun v => v.1 != name

theorem Accepted.set (h : c.Accepted values) (hf : c.known name = some f) (owner : f.authority = .owner) {value : Json}
    (allowed : allows f value) : c.Accepted (setValue values name value) := by
  obtain ⟨valid, complete⟩ := accepted_iff.mp h
  refine accepted_iff.mpr ⟨fun v hv => ?_, fun o ho g hg required => ?_⟩
  · rcases List.mem_cons.mp hv with rfl | hv
    · exact ⟨f, hf, owner, allowed⟩
    · exact valid v (List.mem_filter.mp hv).1
  · obtain ⟨v, hv, named⟩ := complete o ho g hg required
    by_cases same : v.1 = name
    · exact ⟨(name, value), List.mem_cons_self, same.symm.trans named⟩
    · exact ⟨v, List.mem_cons_of_mem _ (List.mem_filter.mpr ⟨hv, by simpa using same⟩), named⟩

/-- A value that is not required may be left out. -/
theorem Accepted.drop (h : c.Accepted values) (free : ∀ f, c.known name = some f → f.authority = .owner → f.required = false) :
    c.Accepted (values.filter fun v => v.1 != name) := by
  obtain ⟨valid, complete⟩ := accepted_iff.mp h
  refine accepted_iff.mpr ⟨fun v hv => valid v (List.mem_filter.mp hv).1, fun o ho g hg required => ?_⟩
  obtain ⟨v, hv, named⟩ := complete o ho g hg required
  refine ⟨v, List.mem_filter.mpr ⟨hv, ?_⟩, named⟩
  suffices v.1 ≠ name by simpa using this
  intro same
  obtain ⟨f, hf, owner, _⟩ := valid v hv
  have optional := free f (same ▸ hf) owner
  rw [named, hg] at hf
  obtain rfl := Option.some.inj hf
  rw [required] at optional
  cases optional

/-- A translation that accepts anything at all accepts only what the contract wants if and only if it carries
the contract. -/
theorem respects_iff_carries (nonvacuous : ∃ values, k.Accepted values) :
    (∀ values, k.Accepted values → c.Respects k.Owns (· ∈ resolved) values) ↔ Carries c k resolved := by
  refine ⟨fun respects => ?_, fun carries values => carries.respects⟩
  obtain ⟨base, hbase⟩ := nonvacuous
  have set : ∀ {name f value}, k.known name = some f → f.authority = .owner → allows f value →
      c.Respects k.Owns (· ∈ resolved) (setValue base name value) := fun hf owner allowed =>
    respects _ (hbase.set hf owner allowed)
  constructor
  · intro name f g hf owner hg
    have sample : ∃ value, allows f value := by
      cases hx : f.allowedValues with
      | nil => exact ⟨.null, allows_iff.mpr (.inl hx)⟩
      | cons x xs => exact ⟨.str x, allows_iff.mpr (.inr ⟨x, hx ▸ List.mem_cons_self, rfl⟩)⟩
    obtain ⟨value, allowed⟩ := sample
    rcases (set hf owner allowed).owner (name, value) List.mem_cons_self with ⟨g', hg', own⟩ | ⟨unknown, _⟩
    · obtain rfl := Option.some.inj (hg.symm.trans hg')
      exact own
    · rw [hg] at unknown
      cases unknown
  · intro name f g hf owner hg
    refine (Classical.em (g.allowedValues = [])).imp (fun free => free) fun bound => ?_
    have only : ∀ value, allows f value → ∃ x ∈ g.allowedValues, value = .str x := fun value allowed =>
      (allows_iff.mp ((set hf owner allowed).allowed (name, value) List.mem_cons_self g hg)).resolve_left bound
    constructor
    · intro free
      obtain ⟨x, _, text⟩ := only .null (allows_iff.mpr (.inl free))
      cases text
    · intro x hx
      obtain ⟨y, hy, text⟩ := only (.str x) (allows_iff.mpr (.inr ⟨x, hx, rfl⟩))
      cases text
      exact hy
  · intro name g hg owner required
    by_cases asked : ∃ f, k.known name = some f ∧ f.authority = .owner ∧ f.required
    · exact .inr asked
    · have free : ∀ f, k.known name = some f → f.authority = .owner → f.required = false := fun f hf own => by
        cases hr : f.required with
        | false => rfl
        | true => exact absurd ⟨f, hf, own, hr⟩ asked
      rcases (respects _ (hbase.drop free)).required name g hg owner required with known | ⟨v, hv, named⟩
      · exact .inl known
      · have dropped := (List.mem_filter.mp hv).2
        rw [named] at dropped
        simp at dropped

section Dynamic

/-- The requirement a dict by names keeps. -/
def lastNamed (requirements : List Requirement) (name : String) : Option Requirement :=
  requirements.reverse.find? fun q => q.name == name

/-- The requirement names an owner field of the contract, if it names a field, and its values are allowed. -/
structure CarriesField (q : Requirement) (g : InputField) : Prop where
  authority : g.authority = .owner
  allowed : g.allowedValues = [] ∨ q.allowedValues ≠ [] ∧ ∀ x ∈ q.allowedValues, x ∈ g.allowedValues

/-- The requirements carry the contract: what the owner is asked are fields of the contract as it has them, and
what it requires is asked for or resolved. -/
structure CarriesList (c : InputContract) (requirements : List Requirement) (resolved : List String) : Prop where
  fields : ∀ name q g, lastNamed requirements name = some q → q.authority = "owner" → c.known name = some g → CarriesField q g
  required : ∀ name g, c.known name = some g → g.authority = .owner → g.required →
    name ∈ resolved ∨ ∃ q, lastNamed requirements name = some q ∧ q.authority = "owner" ∧ q.required

theorem ofString?_owner {s : String} : FieldAuthority.ofString? s = some .owner ↔ s = "owner" := by
  constructor
  · intro h
    have named := List.find?_some h
    exact (beq_iff_eq.mp named).symm
  · rintro rfl
    decide

theorem fieldFromRequirement_name {q : Requirement} (h : fieldFromRequirement q = some f) : f.name = q.name := by
  obtain ⟨authority, _, rfl⟩ := Option.map_eq_some_iff.mp h
  rfl

theorem fields_some {requirements : List Requirement} {fields : List InputField}
    (h : requirements.mapM fieldFromRequirement = some fields) : ∀ q ∈ requirements, ∃ f, fieldFromRequirement q = some f := by
  induction requirements generalizing fields with
  | nil => exact fun q hq => absurd hq List.not_mem_nil
  | cons q rest ih =>
    rw [List.mapM_cons] at h
    simp only [bind, Option.bind_eq_some_iff, pure, Option.some.injEq] at h
    obtain ⟨f, hf, later, hlater, _⟩ := h
    intro q' hq'
    rcases List.mem_cons.mp hq' with rfl | hq'
    · exact ⟨f, hf⟩
    · exact ih hlater q' hq'

theorem find?_fields {requirements : List Requirement} {fields : List InputField}
    (h : requirements.mapM fieldFromRequirement = some fields) (name : String) :
    (fields.reverse.find? fun f => f.name == name) = (lastNamed requirements name).bind fieldFromRequirement := by
  unfold lastNamed
  induction requirements generalizing fields with
  | nil =>
    cases h
    rfl
  | cons q rest ih =>
    rw [List.mapM_cons] at h
    simp only [bind, Option.bind_eq_some_iff, pure, Option.some.injEq] at h
    obtain ⟨f, hf, later, hlater, rfl⟩ := h
    rw [List.reverse_cons, List.reverse_cons, List.find?_append, List.find?_append, ih hlater]
    have same := fieldFromRequirement_name hf
    cases found : rest.reverse.find? fun q => q.name == name with
    | none => by_cases named : q.name = name <;> simp [same, named, hf]
    | some q' =>
      have known := ih hlater
      rw [found] at known
      cases hf' : fieldFromRequirement q' with
      | some f' => simp [hf']
      | none =>
        have mem := List.mem_reverse.mp (List.mem_of_find?_eq_some found)
        obtain ⟨f', known'⟩ := fields_some hlater q' mem
        rw [hf'] at known'
        cases known'

variable {ref role : String} {requirements : List Requirement}

/-- The owner fields of a dynamic contract are the requirements of that authority. -/
theorem dynamic_owner_iff (h : dynamicOwnerInput ref role requirements = some k) :
    (k.known name = some f ∧ f.authority = .owner) ↔ ∃ q, lastNamed requirements name = some q ∧ q.authority = "owner" ∧
      f = { name := q.name, authority := .owner, required := q.required, allowedValues := q.allowedValues,
            kind := q.kind, question := q.question } := by
  obtain ⟨fields, hfields, rfl⟩ := Option.map_eq_some_iff.mp h
  show ((fields.reverse.find? fun f => f.name == name) = some f ∧ _) ↔ _
  rw [find?_fields hfields, Option.bind_eq_some_iff]
  constructor
  · rintro ⟨⟨q, hq, hf⟩, owner⟩
    obtain ⟨authority, ha, rfl⟩ := Option.map_eq_some_iff.mp hf
    obtain rfl : authority = .owner := owner
    exact ⟨q, hq, ofString?_owner.mp ha, rfl⟩
  · rintro ⟨q, hq, owner, rfl⟩
    refine ⟨⟨q, hq, ?_⟩, rfl⟩
    unfold fieldFromRequirement
    rw [ofString?_owner.mpr owner]
    rfl

/-- A dynamic contract carries what its requirements carry. -/
theorem carries_dynamic_iff (h : dynamicOwnerInput ref role requirements = some k) :
    Carries c k resolved ↔ CarriesList c requirements resolved := by
  constructor
  · intro carries
    refine ⟨fun name q g hq owner hg => ?_, fun name g hg owner required => ?_⟩
    · obtain ⟨hf, own⟩ := (dynamic_owner_iff h).mpr ⟨q, hq, owner, rfl⟩
      exact ⟨carries.authority _ _ _ hf own hg, carries.allowed _ _ _ hf own hg⟩
    · refine (carries.required name g hg owner required).imp (fun known => known) ?_
      rintro ⟨f, hf, own, asks⟩
      obtain ⟨q, hq, owner', rfl⟩ := (dynamic_owner_iff h).mp ⟨hf, own⟩
      exact ⟨q, hq, owner', asks⟩
  · intro carries
    refine ⟨fun name f g hf own hg => ?_, fun name f g hf own hg => ?_, fun name g hg owner required => ?_⟩
    · obtain ⟨q, hq, owner, rfl⟩ := (dynamic_owner_iff h).mp ⟨hf, own⟩
      exact (carries.fields name q g hq owner hg).authority
    · obtain ⟨q, hq, owner, rfl⟩ := (dynamic_owner_iff h).mp ⟨hf, own⟩
      exact (carries.fields name q g hq owner hg).allowed
    · refine (carries.required name g hg owner required).imp (fun known => known) ?_
      rintro ⟨q, hq, owner', asks⟩
      obtain ⟨hf, own⟩ := (dynamic_owner_iff h).mpr ⟨q, hq, owner', rfl⟩
      exact ⟨_, hf, own, asks⟩

/-- The requirement an owner field is asked by when the outcome names none. -/
def fieldRequirement (f : InputField) : Requirement :=
  { name := f.name, kind := f.kind, authority := f.authority.value, question := f.question }

/-- The contract allows the owner any value. -/
def AnyValue (c : InputContract) : Prop :=
  ∀ o ∈ c.ownerFields, ∀ g, c.known o.name = some g → g.authority = .owner ∧ g.allowedValues = []

theorem lastNamed_fields {o : InputField} (ho : o ∈ c.ownerFields) :
    ∃ q, lastNamed (c.ownerFields.map fieldRequirement) o.name = some q ∧ q.authority = "owner" ∧ q.required ∧
      q.allowedValues = [] := by
  cases found : lastNamed (c.ownerFields.map fieldRequirement) o.name with
  | none =>
    have absent := List.find?_eq_none.mp found (fieldRequirement o) (List.mem_reverse.mpr (List.mem_map_of_mem ho))
    simp [fieldRequirement] at absent
  | some q =>
    obtain ⟨p, hp, rfl⟩ := List.mem_map.mp (List.mem_reverse.mp (List.mem_of_find?_eq_some found))
    have owner : p.authority = .owner := by simpa using (List.mem_filter.mp hp).2
    exact ⟨_, rfl, by rw [fieldRequirement, owner]; rfl, rfl, rfl⟩

/-- The owner's own fields, asked for as requirements, carry the contract only where it allows any value. -/
theorem carriesList_fields_iff : CarriesList c (c.ownerFields.map fieldRequirement) resolved ↔ AnyValue c := by
  constructor
  · intro carries o ho g hg
    obtain ⟨q, hq, owner, _, free⟩ := lastNamed_fields ho
    have field := carries.fields _ q g hq owner hg
    exact ⟨field.authority, field.allowed.resolve_right fun bound => bound.1 free⟩
  · intro any
    refine ⟨fun name q g hq _ hg => ?_, fun name g hg owner _ => .inr ?_⟩
    · obtain ⟨o, ho, rfl⟩ := List.mem_map.mp (List.mem_reverse.mp (List.mem_of_find?_eq_some hq))
      have named : o.name = name := by simpa [fieldRequirement] using List.find?_some hq
      obtain ⟨own, free⟩ := any o ho g (named ▸ hg)
      exact ⟨own, .inl free⟩
    · obtain ⟨mem, rfl⟩ := known_mem hg
      obtain ⟨q, hq, own, asked, _⟩ := lastNamed_fields (List.mem_filter.mpr ⟨mem, by simp [owner]⟩)
      exact ⟨q, hq, own, asked⟩

end Dynamic

end InputContract

end AgentflowHermes
