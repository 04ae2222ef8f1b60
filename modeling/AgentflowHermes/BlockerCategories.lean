import AgentflowHermes.LiveSanitize
import AgentflowHermes.UnsafeBlockers
import Mathlib.Data.List.Infix

namespace AgentflowHermes

open BacktrackRegex BacktrackRegex.Pattern

/-- A word read letter by letter, whatever their case. -/
def foldedPrefix : List Char → List Char → Bool
  | [], _ => true
  | _ :: _, [] => false
  | letter :: letters, c :: cs => foldsTo letter c && foldedPrefix letters cs

theorem run_letters_some {β : Type} {letters : List Char} {k : List Char → Cursor → Option β} {g : List Char} {c : Cursor} {x : β}
    (h : (Pattern.all (letters.map fun letter => .char (foldsTo letter))).run k g c = some x) :
    foldedPrefix letters c.after = true := by
  induction letters generalizing k g c with
  | nil => rfl
  | cons letter letters ih =>
    have first : ∃ (k' : List Char → Cursor → Option β), (Pattern.char (foldsTo letter)).run k' g c = some x ∧
        ∀ g' d, k' g' d = some x → foldedPrefix letters d.after = true := by
      cases letters with
      | nil => exact ⟨k, h, fun _ _ _ => rfl⟩
      | cons next rest => exact ⟨_, h, fun _ _ more => ih more⟩
    obtain ⟨k', read, rest⟩ := first
    unfold Pattern.run at read
    cases after : c.after with
    | nil =>
      rw [after] at read
      cases read
    | cons y ys =>
      rw [after] at read
      dsimp only at read
      split at read
      next folds => exact Bool.and_eq_true_iff.mpr ⟨folds, rest _ _ read⟩
      next => cases read

/-- A word that is read nowhere in a text. -/
theorem absent_word_of {word : String} {text : List Char} (nowhere : text.tails.all (fun s => !foldedPrefix word.toList s) = true) :
    Absent (lit word) text := by
  refine ⟨fun k g c behind => ?_⟩
  rw [Option.eq_none_iff_forall_ne_some]
  intro x found
  have read := run_letters_some found
  have never := List.all_eq_true.mp nowhere c.after ((List.mem_tails _ _).mpr behind)
  rw [read] at never
  cases never

section

variable {T : PyText}

theorem mem_unsafeBlockerCategories {ps : List String} {name : String} : name ∈ unsafeBlockerCategories T ps ↔
    ∃ category ∈ unsafeCategories T, category.1 = name ∧ ∃ p ∈ ps, search category.2 p.toList := by
  unfold unsafeBlockerCategories
  rw [List.mem_mergeSort, List.mem_map]
  constructor
  · rintro ⟨category, mem, rfl⟩
    obtain ⟨known, found⟩ := List.mem_filter.mp mem
    exact ⟨category, known, rfl, List.any_eq_true.mp found⟩
  · rintro ⟨category, known, rfl, found⟩
    exact ⟨category, List.mem_filter.mpr ⟨known, List.any_eq_true.mpr found⟩, rfl⟩

@[simp] theorem unsafeBlockerCategories_nil : unsafeBlockerCategories T [] = [] := by
  rw [List.eq_nil_iff_forall_not_mem]
  intro name mem
  obtain ⟨_, _, _, p, none', _⟩ := mem_unsafeBlockerCategories.mp mem
  cases none'

theorem unsafeBlockerCategories_subset {ps qs : List String} (within : ∀ p ∈ ps, p ∈ qs)
    (safe : unsafeBlockerCategories T qs = []) : unsafeBlockerCategories T ps = [] := by
  rw [List.eq_nil_iff_forall_not_mem] at safe ⊢
  intro name mem
  obtain ⟨category, known, same, p, given, found⟩ := mem_unsafeBlockerCategories.mp mem
  exact safe name (mem_unsafeBlockerCategories.mpr ⟨category, known, same, p, within p given, found⟩)

/-- The phrases that match no category add none. -/
theorem unsafeBlockerCategories_filter (ps : List String) :
    unsafeBlockerCategories T (ps.filter fun p => unsafeBlockerCategories T [p] ≠ []) = unsafeBlockerCategories T ps := by
  unfold unsafeBlockerCategories
  congr 2
  refine List.filter_congr fun category known => ?_
  rw [Bool.eq_iff_iff, List.any_eq_true, List.any_eq_true]
  constructor
  · rintro ⟨p, mem, found⟩
    exact ⟨p, (List.mem_filter.mp mem).1, found⟩
  · rintro ⟨p, mem, found⟩
    have own : category.1 ∈ unsafeBlockerCategories T [p] :=
      mem_unsafeBlockerCategories.mpr ⟨category, known, rfl, p, List.mem_singleton.mpr rfl, found⟩
    refine ⟨p, List.mem_filter.mpr ⟨mem, decide_eq_true fun none' => ?_⟩, found⟩
    unfold unsafeBlockerCategories at none' own
    rw [none'] at own
    cases own

def knownBlockers : List String := ["stale_inline_route", "stale_trust_grant_wording", "missing_subscription", "stale_final_fanin"]

theorem detectBlockers_known {text name : String} (mem : name ∈ detectBlockers T text) : name ∈ knownBlockers := by
  obtain ⟨known, found, rfl⟩ := List.mem_map.mp mem
  have listed : known.1 ∈ (blockerPatterns T).map (·.1) := List.mem_map_of_mem (List.mem_filter.mp found).1
  exact listed

theorem bounded_absent {rs : List Pattern} {text : List Char} (each : ∀ r ∈ rs, Absent r text) : Absent (T.bounded (.any rs)) text :=
  Absent.all (List.mem_cons_of_mem _ List.mem_cons_self) (Absent.any each)

section

variable {name : String} (mem : name ∈ knownBlockers)

include mem

theorem known_absent (word : String)
    (nowhere : (knownBlockers.all fun name => name.toList.tails.all fun s => !foldedPrefix word.toList s) = true) :
    Absent (lit word) name.toList := absent_word_of (List.all_eq_true.mp nowhere name mem)

theorem known_credentials : Absent (credentialsRe T) name.toList := by
  have off := known_absent mem
  refine bounded_absent fun r hr => ?_
  simp only [List.mem_cons, List.not_mem_nil, or_false] at hr
  rcases hr with rfl | rfl | rfl | rfl | rfl | rfl | rfl | rfl | rfl | rfl | rfl | rfl | rfl
  · exact (off "credential" (by decide)).seq_left
  · exact off "secret" (by decide)
  · exact off "secrets" (by decide)
  · exact Absent.all List.mem_cons_self (off "api" (by decide))
  · exact Absent.all List.mem_cons_self (off "access" (by decide))
  · exact Absent.all List.mem_cons_self (off "private" (by decide))
  · exact Absent.all List.mem_cons_self (off "ssh" (by decide))
  · exact off "password" (by decide)
  · exact off "passphrase" (by decide)
  · exact off "token" (by decide)
  · exact off "oauth" (by decide)
  · exact (off ".env" (by decide)).seq_left
  · exact Absent.all List.mem_cons_self (off "env" (by decide))

theorem known_destructive : Absent (destructiveRe T) name.toList := by
  have off := known_absent mem
  refine bounded_absent fun r hr => ?_
  simp only [List.mem_cons, List.not_mem_nil, or_false] at hr
  rcases hr with rfl | rfl | rfl | rfl | rfl | rfl | rfl | rfl | rfl | rfl | rfl | rfl | rfl
  · exact off "destructive" (by decide)
  · exact Absent.all List.mem_cons_self (off "data" (by decide))
  · exact off "irreversible" (by decide)
  · exact off "unrecoverable" (by decide)
  · exact off "delete" (by decide)
  · exact off "deletion" (by decide)
  · exact off "drop" (by decide)
  · exact off "truncate" (by decide)
  · exact off "wipe" (by decide)
  · exact off "purge" (by decide)
  · exact off "destroy" (by decide)
  · exact Absent.all List.mem_cons_self (off "rm" (by decide))
  · exact Absent.all List.mem_cons_self (off "drop" (by decide))

theorem known_ownerProof : Absent (ownerProofRe T) name.toList := by
  have off := known_absent mem
  refine Absent.any fun r hr => ?_
  simp only [List.mem_cons, List.not_mem_nil, or_false] at hr
  rcases hr with rfl | rfl | rfl
  · refine Absent.all List.mem_cons_self (bounded_absent fun r hr => ?_)
    simp only [List.mem_cons, List.not_mem_nil, or_false] at hr
    rcases hr with rfl | rfl | rfl | rfl
    · exact off "owner" (by decide)
    · exact off "operator" (by decide)
    · exact off "human" (by decide)
    · exact off "user" (by decide)
  · exact Absent.all (List.mem_cons_of_mem _ List.mem_cons_self) (Absent.all List.mem_cons_self (off "owner" (by decide)))
  · refine bounded_absent fun r hr => ?_
    simp only [List.mem_cons, List.not_mem_nil, or_false] at hr
    rcases hr with rfl | rfl
    · exact Absent.all List.mem_cons_self (off "sign" (by decide))
    · exact off "attestation" (by decide)

theorem known_liveMoney : Absent (liveMoneyRe T) name.toList := by
  have off := known_absent mem
  refine Absent.any fun r hr => ?_
  simp only [List.mem_cons, List.not_mem_nil, or_false] at hr
  rcases hr with rfl | rfl
  · refine bounded_absent fun r hr => ?_
    simp only [List.mem_cons, List.not_mem_nil, or_false] at hr
    rcases hr with rfl | rfl | rfl | rfl | rfl | rfl | rfl | rfl | rfl | rfl | rfl | rfl | rfl | rfl | rfl | rfl
    · exact off "money" (by decide)
    · exact off "monetary" (by decide)
    · exact off "financial" (by decide)
    · exact off "finance" (by decide)
    · exact (off "fund" (by decide)).seq_left
    · exact off "payment" (by decide)
    · exact off "payout" (by decide)
    · exact Absent.all List.mem_cons_self (off "pay" (by decide))
    · exact off "invoice" (by decide)
    · exact off "billing" (by decide)
    · exact off "charge" (by decide)
    · exact off "refund" (by decide)
    · exact Absent.all List.mem_cons_self (off "wire" (by decide))
    · exact Absent.all List.mem_cons_self (off "live" (by decide))
    · exact off "purchase" (by decide)
    · exact off "transaction" (by decide)
  · have dollar : (knownBlockers.all fun name => !name.toList.contains '$') = true := by decide
    have never := List.all_eq_true.mp dollar name mem
    exact (absent_char fun inside => by simp [inside] at never).seq_left

end

/-- The names of the known blockers are of no unsafe category. -/
theorem detectBlockers_safe {text : String} : unsafeBlockerCategories T (detectBlockers T text) = [] := by
  rw [List.eq_nil_iff_forall_not_mem]
  intro category mem
  obtain ⟨pair, known, rfl, name, named, found⟩ := mem_unsafeBlockerCategories.mp mem
  have listed := detectBlockers_known named
  have absent : Absent pair.2 name.toList := by
    unfold unsafeCategories at known
    simp only [List.mem_cons, List.not_mem_nil, or_false] at known
    rcases known with rfl | rfl | rfl | rfl
    · exact known_credentials listed
    · exact known_destructive listed
    · exact known_ownerProof listed
    · exact known_liveMoney listed
  rw [absent.search] at found
  cases found

end

end AgentflowHermes
