import AgentflowHermes.BacktrackRegex

namespace BacktrackRegex

namespace Pattern

variable {β : Type} {p : Char → Bool} {x : β}

/-- One turn of the repetition of a class. -/
def classTurn (p : Char → Bool) (g : List Char) (k : Cursor → Option β) (c : Cursor) : Option β :=
  (char p).run (fun _ d => k d) g c

theorem repeatClass_some {g : List Char} {k : Cursor → Option β} {n : Nat} {c : Cursor}
    (h : repeatMatch true (classTurn p g) k n c = some x) :
    ∃ w d, w.all p = true ∧ c.after = w ++ d.after ∧ d.before = w.reverse ++ c.before ∧ k d = some x := by
  induction n generalizing c with
  | zero => exact ⟨[], c, rfl, rfl, rfl, h⟩
  | succ n ih =>
    unfold repeatMatch at h
    rw [if_pos rfl] at h
    rcases Option.or_eq_some_iff.mp h with more | ⟨_, done⟩
    · unfold classTurn run at more
      split at more
      next => cases more
      next y ys read =>
        split at more
        next holds =>
          dsimp only at more
          split at more
          next =>
            obtain ⟨w, d, all, after, before, found⟩ := ih more
            refine ⟨y :: w, d, ?_, ?_, ?_, found⟩
            · rw [List.all_cons, holds, all, Bool.and_self]
            · rw [read, List.cons_append, ← after]
            · rw [before, List.reverse_cons, List.append_assoc]
              rfl
          next => cases more
        next => cases more
    · exact ⟨[], c, rfl, rfl, rfl, done⟩

theorem repeatClass_longest {g w rest before : List Char} {k : Cursor → Option β} {n : Nat} (enough : w.length ≤ n)
    (all : w.all p = true) (stop : rest.head?.all (fun y => !p y) = true) (h : k ⟨w.reverse ++ before, rest⟩ = some x) :
    repeatMatch true (classTurn p g) k n ⟨before, w ++ rest⟩ = some x := by
  induction w generalizing n before with
  | nil =>
    cases n with
    | zero => exact h
    | succ n =>
      unfold repeatMatch
      rw [if_pos rfl]
      have none : classTurn p g (fun d => if d.after.length < ([] ++ rest).length then repeatMatch true (classTurn p g) k n d
          else none) ⟨before, [] ++ rest⟩ = none := by
        unfold classTurn run
        cases rest with
        | nil => rfl
        | cons y ys =>
          have off : p y = false := by simpa using stop
          dsimp only [List.nil_append]
          rw [if_neg (by simp [off])]
      rw [none, Option.none_or]
      exact h
  | cons y ys ih =>
    rw [List.all_cons, Bool.and_eq_true] at all
    cases n with
    | zero => cases enough
    | succ n =>
      have later : repeatMatch true (classTurn p g) k n ⟨y :: before, ys ++ rest⟩ = some x := ih (Nat.le_of_succ_le_succ enough) all.2 (by
        rw [List.reverse_cons, List.append_assoc] at h
        exact h)
      unfold repeatMatch
      rw [if_pos rfl]
      have read : classTurn p g (fun d => if d.after.length < (y :: ys ++ rest).length then
          repeatMatch true (classTurn p g) k n d else none) ⟨before, y :: ys ++ rest⟩ = some x := by
        unfold classTurn run
        dsimp only [List.cons_append]
        rw [if_pos all.1, if_pos (by simp)]
        exact later
      rw [read, Option.some_or]

/-- `([..]+)` matches some characters of the class, and its group are these. -/
theorem run_span_some {k : List Char → Cursor → Option β} {g : List Char} {c : Cursor}
    (h : (group (plus (char p))).run k g c = some x) :
    ∃ w d, w ≠ [] ∧ w.all p = true ∧ c.after = w ++ d.after ∧ d.before = w.reverse ++ c.before ∧ k w d = some x := by
  have first : (char p).run (fun g' e => (star (char p)).run
      (fun _ d => k (c.after.take (c.after.length - d.after.length)) d) g' e) g c = some x := h
  unfold run at first
  split at first
  next => cases first
  next y ys read =>
    split at first
    next holds =>
      obtain ⟨w, d, all, after, before, found⟩ := repeatClass_some first
      dsimp only at after before
      have text : c.after = (y :: w) ++ d.after := by rw [read, after]; rfl
      refine ⟨y :: w, d, List.cons_ne_nil _ _, ?_, text, ?_, ?_⟩
      · rw [List.all_cons, holds, all, Bool.and_self]
      · rw [before, List.reverse_cons, List.append_assoc]
        rfl
      · dsimp only at found
        rw [text, List.length_append, Nat.add_sub_cancel, List.take_left] at found
        exact found
    next => cases first

/-- `([..]+)` matches as many characters as it can, where the rest of the pattern lets it. -/
theorem run_span_longest {k : List Char → Cursor → Option β} {g w rest before : List Char} (some' : w ≠ [])
    (all : w.all p = true) (stop : rest.head?.all (fun y => !p y) = true)
    (h : k w ⟨w.reverse ++ before, rest⟩ = some x) :
    (group (plus (char p))).run k g ⟨before, w ++ rest⟩ = some x := by
  cases w with
  | nil => exact absurd rfl some'
  | cons y ys =>
    rw [List.all_cons, Bool.and_eq_true] at all
    show (char p).run (fun g' e => (star (char p)).run
      (fun _ d => k ((y :: ys ++ rest).take ((y :: ys ++ rest).length - d.after.length)) d) g' e) g
        ⟨before, y :: ys ++ rest⟩ = some x
    unfold run
    dsimp only [List.cons_append]
    rw [if_pos all.1]
    refine repeatClass_longest (g := g) (by simp) all.2 stop ?_
    have taken : (y :: (ys ++ rest)).take ((y :: (ys ++ rest)).length - rest.length) = y :: ys := by
      rw [← List.cons_append, List.length_append, Nat.add_sub_cancel, List.take_left]
    rw [List.reverse_cons, List.append_assoc] at h
    dsimp only
    rw [taken]
    exact h

/-- What a pattern reads from one place it can read from a place like it. -/
inductive Respects (R : Cursor → Cursor → Prop) : Pattern → Prop
  | empty : Respects R .empty
  | char (p : Char → Bool) (step : ∀ c c' x xs, R c c' → c.after = x :: xs → p x = true →
      ∃ x' xs', c'.after = x' :: xs' ∧ p x' = true ∧ R ⟨x :: c.before, xs⟩ ⟨x' :: c'.before, xs'⟩) : Respects R (.char p)
  | seq {a b : Pattern} (first : Respects R a) (second : Respects R b) : Respects R (.seq a b)
  | alt {a b : Pattern} (left : Respects R a) (right : Respects R b) : Respects R (.alt a b)
  | star {a : Pattern} (turn : Respects R a) : Respects R (.star a)
  | lazyStar {a : Pattern} (turn : Respects R a) : Respects R (.lazyStar a)
  | group {a : Pattern} (inner : Respects R a) : Respects R (.group a)
  | test (p : Cursor → Bool) (kept : ∀ c c', R c c' → p c = true → p c' = true) : Respects R (.test p)

section

variable {R : Cursor → Cursor → Prop} {extra : Nat}

theorem repeatMatch_isSome {greedy : Bool} {m : (Cursor → Option β) → Cursor → Option β} {k : Cursor → Option β} {n : Nat}
    {c : Cursor} : (repeatMatch greedy m k (n + 1) c).isSome =
      ((m (fun d => if d.after.length < c.after.length then repeatMatch greedy m k n d else none) c).isSome ||
        (k c).isSome) := by
  rw [repeatMatch]
  cases greedy with
  | true => rw [if_pos rfl, Option.isSome_or]
  | false => rw [if_neg (by decide), Option.isSome_or, Bool.or_comm]

theorem repeatMatch_carried (longer : ∀ c c', R c c' → c'.after.length = c.after.length + extra) {greedy : Bool}
    {m m' : (Cursor → Option β) → Cursor → Option β} {k k' : Cursor → Option β}
    (turn : ∀ (l l' : Cursor → Option β) (c c' : Cursor), R c c' →
      (∀ d d', R d d' → (l d).isSome = true → (l' d').isSome = true) → (m l c).isSome = true → (m' l' c').isSome = true)
    (last : ∀ d d', R d d' → (k d).isSome = true → (k' d').isSome = true) {n n' : Nat} (enough : n ≤ n') {c c' : Cursor}
    (like : R c c') (found : (repeatMatch greedy m k n c).isSome = true) :
    (repeatMatch greedy m' k' n' c').isSome = true := by
  induction n generalizing n' c c' with
  | zero =>
    cases n' with
    | zero => exact last c c' like found
    | succ n' =>
      rw [repeatMatch_isSome, last c c' like found, Bool.or_true]
  | succ n ih =>
    obtain ⟨n', rfl⟩ : ∃ j, n' = j + 1 := ⟨n' - 1, by omega⟩
    rw [repeatMatch_isSome, Bool.or_eq_true] at found ⊢
    rcases found with more | stop
    · refine .inl (turn _ _ c c' like ?_ more)
      intro d d' like' again
      split at again
      next shorter =>
        have shorter' : d'.after.length < c'.after.length := by
          rw [longer _ _ like', longer _ _ like]
          omega
        rw [if_pos shorter']
        exact ih (by omega) like' again
      next => cases again
    · exact .inr (last c c' like stop)

/-- A match is carried over to a place like the one where it begins. -/
theorem run_carried (longer : ∀ c c', R c c' → c'.after.length = c.after.length + extra) {r : Pattern}
    (respects : Respects R r) {k k' : List Char → Cursor → Option β} {g g' : List Char} {c c' : Cursor} (like : R c c')
    (then' : ∀ h h' d d', R d d' → (k h d).isSome = true → (k' h' d').isSome = true)
    (found : (r.run k g c).isSome = true) : (r.run k' g' c').isSome = true := by
  induction respects generalizing k k' g g' c c' with
  | empty => exact then' _ _ _ _ like found
  | char p step =>
    unfold run at found ⊢
    split at found
    next => cases found
    next x xs text =>
      split at found
      next holds =>
        obtain ⟨x', xs', text', holds', like'⟩ := step c c' x xs like text holds
        rw [text']
        dsimp only
        rw [if_pos holds']
        exact then' _ _ _ _ like' found
      next => cases found
  | seq first second ihFirst ihSecond =>
    exact ihFirst like (fun h h' d d' like' later => ihSecond like' then' later) found
  | alt left right ihLeft ihRight =>
    unfold run at found ⊢
    rw [Option.isSome_or, Bool.or_eq_true] at found ⊢
    rcases found with found | found
    · exact .inl (ihLeft like then' found)
    · exact .inr (ihRight like then' found)
  | star turn ih =>
    have enough : c.after.length ≤ c'.after.length := by
      rw [longer _ _ like]
      omega
    exact repeatMatch_carried longer (fun l l' d d' like' on more => ih like' (fun _ _ e e' => on e e') more)
      (fun d d' like' => then' g g' d d' like') enough like found
  | lazyStar turn ih =>
    have enough : c.after.length ≤ c'.after.length := by
      rw [longer _ _ like]
      omega
    exact repeatMatch_carried longer (fun l l' d d' like' on more => ih like' (fun _ _ e e' => on e e') more)
      (fun d d' like' => then' g g' d d' like') enough like found
  | group inner ih => exact ih like (fun _ _ d d' like' => then' _ _ d d' like') found
  | test p kept =>
    unfold run at found ⊢
    split at found
    next holds =>
      rw [if_pos (kept c c' like holds)]
      exact then' _ _ _ _ like found
    next => cases found

theorem Respects.all {rs : List Pattern} (each : ∀ r ∈ rs, Respects R r) : Respects R (Pattern.all rs) := by
  induction rs with
  | nil => exact .empty
  | cons r rest ih =>
    cases rest with
    | nil => exact each r List.mem_cons_self
    | cons r' rest => exact .seq (each r List.mem_cons_self) (ih fun s mem => each s (List.mem_cons_of_mem _ mem))

end

end Pattern

/-- A pattern is found in a text where it matches at one of its places. -/
theorem search_iff {r : Pattern} {text : List Char} :
    search r text = true ↔ ∃ pre post, text = pre ++ post ∧ (matchAt r ⟨pre.reverse, post⟩).isSome = true := by
  have from' : ∀ before after, (searchFrom r before after).isSome = true ↔
      ∃ pre post, after = pre ++ post ∧ (matchAt r ⟨pre.reverse ++ before, post⟩).isSome = true := by
    intro before after
    induction after generalizing before with
    | nil =>
      unfold searchFrom
      constructor
      · intro found
        exact ⟨[], [], rfl, by simpa using found⟩
      · rintro ⟨pre, post, split', matched⟩
        obtain ⟨rfl, rfl⟩ := List.nil_eq_append_iff.mp split'
        simpa using matched
    | cons x xs ih =>
      unfold searchFrom
      constructor
      · intro found
        split at found
        next m matched => exact ⟨[], x :: xs, rfl, by rw [List.reverse_nil, List.nil_append, matched]; rfl⟩
        next =>
          obtain ⟨pre, post, rfl, matched⟩ := (ih _).mp found
          exact ⟨x :: pre, post, rfl, by simpa using matched⟩
      · rintro ⟨pre, post, split', matched⟩
        split
        next => rfl
        next missed =>
          cases pre with
          | nil =>
            rw [List.nil_append] at split'
            subst split'
            rw [List.reverse_nil, List.nil_append, missed] at matched
            cases matched
          | cons y ys =>
            simp only [List.cons_append, List.cons.injEq] at split'
            obtain ⟨rfl, rfl⟩ := split'
            exact (ih _).mpr ⟨ys, post, rfl, by simpa using matched⟩
  simpa [search] using from' [] text

end BacktrackRegex
