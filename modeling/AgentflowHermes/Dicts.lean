import Mathlib.Data.List.Basic

namespace Dicts

variable {κ ν : Type} [DecidableEq κ]

/-- An insertion into a dictionary: a key that is there keeps its place. -/
def set (key : κ) (value : ν) : List (κ × ν) → List (κ × ν)
  | [] => [(key, value)]
  | (k, v) :: rest => if k = key then (key, value) :: rest else (k, v) :: set key value rest

section

variable {key other : κ} {value : ν} {d : List (κ × ν)}

@[simp] theorem lookup_set_self : (set key value d).lookup key = some value := by
  induction d with
  | nil => simp [set]
  | cons entry rest ih =>
    obtain ⟨k, v⟩ := entry
    by_cases same : k = key
    · simp [set, same]
    · have apart : (key == k) = false := by simpa using fun h => same h.symm
      simp only [set, if_neg same, List.lookup_cons, apart]
      exact ih

theorem lookup_set_of_ne (apart : other ≠ key) : (set key value d).lookup other = d.lookup other := by
  induction d with
  | nil =>
    have apart' : (other == key) = false := by simpa using apart
    simp [set, List.lookup_cons, apart']
  | cons entry rest ih =>
    obtain ⟨k, v⟩ := entry
    by_cases same : k = key
    · have apart' : (other == key) = false := by simpa using apart
      simp [set, same, List.lookup_cons, apart']
    · simp only [set, if_neg same, List.lookup_cons, ih]

theorem lookup_set : (set key value d).lookup other = if other = key then some value else d.lookup other := by
  split
  next same => rw [same, lookup_set_self]
  next apart => exact lookup_set_of_ne apart

/-- A new key comes last. -/
theorem set_of_lookup_none (absent : d.lookup key = none) : set key value d = d ++ [(key, value)] := by
  induction d with
  | nil => rfl
  | cons entry rest ih =>
    obtain ⟨k, v⟩ := entry
    by_cases same : k = key
    · simp [same] at absent
    · have apart : (key == k) = false := by simpa using fun h => same h.symm
      have later : rest.lookup key = none := by simpa [List.lookup_cons, apart] using absent
      simp only [set, if_neg same, List.cons_append, ih later]

theorem mem_set {entry : κ × ν} (mem : entry ∈ set key value d) : entry = (key, value) ∨ entry ∈ d := by
  induction d with
  | nil => exact .inl (List.mem_singleton.mp mem)
  | cons first rest ih =>
    rw [set] at mem
    split at mem
    · exact (List.mem_cons.mp mem).imp id (List.mem_cons_of_mem _)
    · rcases List.mem_cons.mp mem with rfl | later
      · exact .inr List.mem_cons_self
      · exact (ih later).imp id (List.mem_cons_of_mem _)

/-- A value that is as good as the one it replaces. -/
theorem map_set {μ : Type} {f : ν → μ} {old : ν} (there : d.lookup key = some old) (same : f value = f old) :
    (set key value d).map (fun entry => (entry.1, f entry.2)) = d.map fun entry => (entry.1, f entry.2) := by
  induction d with
  | nil => cases there
  | cons entry rest ih =>
    obtain ⟨k, v⟩ := entry
    by_cases is : k = key
    · have found : v = old := by simpa [is] using there
      simp [set, is, found, same]
    · have apart : (key == k) = false := by simpa using fun h => is h.symm
      have later : rest.lookup key = some old := by simpa [List.lookup_cons, apart] using there
      simp only [set, if_neg is, List.map_cons, ih later]

theorem set_set {old : ν} : set key value (set key old d) = set key value d := by
  induction d with
  | nil => simp [set]
  | cons entry rest ih =>
    obtain ⟨k, v⟩ := entry
    by_cases same : k = key
    · simp [set, same]
    · simp only [set, if_neg same, ih]

theorem lookup_map {μ : Type} (f : ν → μ) :
    (d.map fun entry => (entry.1, f entry.2)).lookup key = (d.lookup key).map f := by
  induction d with
  | nil => rfl
  | cons entry rest ih =>
    obtain ⟨k, v⟩ := entry
    by_cases same : key = k
    · simp [same]
    · have apart : (key == k) = false := by simpa using same
      simp only [List.map_cons, List.lookup_cons, apart, ih]

/-- Insertions of keys that are all different. -/
theorem lookup_foldl_set {entries : List (κ × ν)} (distinct : (entries.map Prod.fst).Nodup) :
    (entries.foldl (fun d entry => set entry.1 entry.2 d) d).lookup key = (entries.lookup key).or (d.lookup key) := by
  induction entries generalizing d with
  | nil => simp
  | cons entry rest ih =>
    obtain ⟨k, v⟩ := entry
    obtain ⟨new, distinct'⟩ := List.nodup_cons.mp distinct
    rw [List.foldl_cons, ih distinct']
    by_cases same : key = k
    · have absent : rest.lookup key = none := by
        rw [List.lookup_eq_none_iff]
        intro p mem
        have other : key ≠ p.1 := fun is => new (List.mem_map.mpr ⟨p, mem, is ▸ same⟩)
        simpa using other
      subst same
      rw [absent, lookup_set_self, List.lookup_cons, beq_self_eq_true]
      rfl
    · have apart : (key == k) = false := by simpa using same
      rw [lookup_set_of_ne same, List.lookup_cons, apart]

theorem lookup_of_mem {entries : List (κ × ν)} (distinct : (entries.map Prod.fst).Nodup) (mem : (key, value) ∈ entries) :
    entries.lookup key = some value := by
  induction entries with
  | nil => cases mem
  | cons entry rest ih =>
    obtain ⟨new, distinct'⟩ := List.nodup_cons.mp distinct
    rcases List.mem_cons.mp mem with rfl | later
    · simp
    · have apart : (key == entry.1) = false := by
        have other : key ≠ entry.1 := fun is => new (List.mem_map.mpr ⟨_, later, is⟩)
        simpa using other
      rw [List.lookup_cons, apart, ih distinct' later]

theorem mem_of_lookup (found : d.lookup key = some value) : (key, value) ∈ d := by
  obtain ⟨before, after, split, _⟩ := List.lookup_eq_some_iff.mp found
  rw [split]
  exact List.mem_append_right _ List.mem_cons_self

theorem set_ne_self (changed : d.lookup key ≠ some value) : set key value d ≠ d := by
  intro same
  have now : (set key value d).lookup key = some value := lookup_set_self
  rw [same] at now
  exact changed now

end

end Dicts
