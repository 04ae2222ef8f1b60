import Mathlib.Algebra.Group.Defs
import Mathlib.Logic.Relation

namespace CrashProgram

/-- A program over a durable state `σ`. Every `write` is one committed transaction and its
continuation gets the state the transaction started from; a `call` leaves the process and
waits for a response. Nothing but the state survives when a program is cut off. -/
inductive Prog (σ : Type) {Req : Type} (Resp : Req → Type) (α : Type) : Type
  | pure (a : α)
  | raise (e : String)
  | read (k : σ → Prog σ Resp α)
  | write (f : σ → σ) (k : σ → Prog σ Resp α)
  | call (q : Req) (k : Resp q → Prog σ Resp α)

section

variable {σ Req : Type} {Resp : Req → Type} {α β γ ι : Type}

namespace Prog

def bind : Prog σ Resp α → (α → Prog σ Resp β) → Prog σ Resp β
  | .pure a, g => g a
  | .raise e, _ => .raise e
  | .read k, g => .read fun s => (k s).bind g
  | .write f k, g => .write f fun s => (k s).bind g
  | .call q k, g => .call q fun r => (k r).bind g

instance : Monad (Prog σ Resp) where
  pure := .pure
  bind := .bind

@[simp] theorem pure_bind' (a : α) (g : α → Prog σ Resp β) : ((.pure a : Prog σ Resp α) >>= g) = g a := rfl

@[simp] theorem raise_bind (e : String) (g : α → Prog σ Resp β) : ((.raise e : Prog σ Resp α) >>= g) = .raise e := rfl

@[simp] theorem read_bind (k : σ → Prog σ Resp α) (g : α → Prog σ Resp β) :
    (.read k >>= g) = .read fun s => k s >>= g := rfl

@[simp] theorem write_bind (f : σ → σ) (k : σ → Prog σ Resp α) (g : α → Prog σ Resp β) :
    (.write f k >>= g) = .write f fun s => k s >>= g := rfl

theorem bind_assoc (p : Prog σ Resp α) (g : α → Prog σ Resp β) (h : β → Prog σ Resp γ) :
    (p >>= g) >>= h = p >>= fun a => g a >>= h := by
  induction p with
  | pure a => rfl
  | raise e => rfl
  | read k ih => exact congrArg Prog.read (funext ih)
  | write f k ih => exact congrArg (Prog.write f) (funext ih)
  | call q k ih => exact congrArg (Prog.call q) (funext ih)

/-- Read a value off the current state. -/
def get (f : σ → α) : Prog σ Resp α := .read fun s => .pure (f s)

/-- One committed transaction that also returns a value. -/
def txn (op : σ → α × σ) : Prog σ Resp α := .write (fun s => (op s).2) fun s => .pure (op s).1

def ask (q : Req) : Prog σ Resp (Resp q) := .call q .pure

/-- Run a body over a list and collect what it returns. -/
def forEach (body : α → Prog σ Resp β) : List α → Prog σ Resp (List β)
  | [] => .pure []
  | x :: xs => body x >>= fun y => forEach body xs >>= fun ys => .pure (y :: ys)

end Prog

/-- One visible action: a call, with the state it is made in, or a commit, with the state it leads to. -/
inductive Act (Req σ : Type)
  | call (q : Req) (s : σ)
  | commit (s : σ)

/-- The executions of a program under the responses `ok` allows: the actions, the result, which is
`none` when the program was cut off, and the state left behind. -/
inductive Exec (ok : ∀ q, Resp q → Prop) :
    Prog σ Resp α → σ → List (Act Req σ) → Option (Except String α) → σ → Prop
  | cut {p s} : Exec ok p s [] none s
  | pure {a s} : Exec ok (.pure a) s [] (some (.ok a)) s
  | raise {e s} : Exec ok (.raise e) s [] (some (.error e)) s
  | read {k s tr o t} : Exec ok (k s) s tr o t → Exec ok (.read k) s tr o t
  | write {f k s tr o t} : Exec ok (k s) (f s) tr o t → Exec ok (.write f k) s (.commit (f s) :: tr) o t
  | call {q k r s tr o t} : ok q r → Exec ok (k r) s tr o t →
      Exec ok (.call q k) s (.call q s :: tr) o t

/-- An environment with a state of its own that answers every call. -/
abbrev Env {Req : Type} (Resp : Req → Type) (ι : Type) := (q : Req) → ι → Resp q × ι

def Env.Allowed (E : Env Resp ι) (ok : ∀ q, Resp q → Prop) : Prop := ∀ q i, ok q (E q i).1

/-- The complete run of a program against an environment. -/
def run (E : Env Resp ι) : Prog σ Resp α → ι → σ → Except String α × ι × σ
  | .pure a, i, s => (.ok a, i, s)
  | .raise e, i, s => (.error e, i, s)
  | .read k, i, s => run E (k s) i s
  | .write f k, i, s => run E (k s) i (f s)
  | .call q k, i, s => run E (k (E q i).1) (E q i).2 s

section Run

variable {E : Env Resp ι} {i : ι} {s : σ}

@[simp] theorem run_pure (a : α) : run E (.pure a : Prog σ Resp α) i s = (.ok a, i, s) := rfl

@[simp] theorem run_pure' (a : α) : run E (Pure.pure a : Prog σ Resp α) i s = (.ok a, i, s) := rfl

@[simp] theorem run_raise (e : String) : run E (.raise e : Prog σ Resp α) i s = (.error e, i, s) := rfl

@[simp] theorem run_read (k : σ → Prog σ Resp α) : run E (.read k) i s = run E (k s) i s := rfl

@[simp] theorem run_write (f : σ → σ) (k : σ → Prog σ Resp α) :
    run E (.write f k) i s = run E (k s) i (f s) := rfl

@[simp] theorem run_call (q : Req) (k : Resp q → Prog σ Resp α) :
    run E (.call q k) i s = run E (k (E q i).1) (E q i).2 s := rfl

theorem run_bind {p : Prog σ Resp α} {g : α → Prog σ Resp β} :
    run E (p >>= g) i s =
      match run E p i s with
      | (.ok a, j, t) => run E (g a) j t
      | (.error e, j, t) => (.error e, j, t) := by
  induction p generalizing i s with
  | pure a => rfl
  | raise e => rfl
  | read k ih => exact ih s
  | write f k ih => exact ih s
  | call q k ih => exact ih (E q i).1

theorem run_bind_ok {p : Prog σ Resp α} {g : α → Prog σ Resp β} {a : α} {j : ι} {t : σ}
    (h : run E p i s = (.ok a, j, t)) : run E (p >>= g) i s = run E (g a) j t := by
  rw [run_bind, h]

end Run

/-- The same run stopped right before it would commit transaction number `n + 1`. -/
def crash (E : Env Resp ι) : Nat → Prog σ Resp α → ι → σ → ι × σ
  | _, .pure _, i, s => (i, s)
  | _, .raise _, i, s => (i, s)
  | n, .read k, i, s => crash E n (k s) i s
  | 0, .write _ _, i, s => (i, s)
  | n + 1, .write f k, i, s => crash E n (k s) i (f s)
  | n, .call q k, i, s => crash E n (k (E q i).1) (E q i).2 s

theorem run_exec {E : Env Resp ι} {ok : ∀ q, Resp q → Prop} (allowed : E.Allowed ok)
    (p : Prog σ Resp α) (i : ι) (s : σ) :
    ∃ tr, Exec ok p s tr (some (run E p i s).1) (run E p i s).2.2 := by
  induction p generalizing i s with
  | pure a => exact ⟨[], .pure⟩
  | raise e => exact ⟨[], .raise⟩
  | read k ih =>
    obtain ⟨tr, h⟩ := ih s i s
    exact ⟨tr, .read h⟩
  | write f k ih =>
    obtain ⟨tr, h⟩ := ih s i (f s)
    exact ⟨_, .write h⟩
  | call q k ih =>
    obtain ⟨tr, h⟩ := ih (E q i).1 (E q i).2 s
    exact ⟨_, .call (allowed q i) h⟩

theorem crash_exec {E : Env Resp ι} {ok : ∀ q, Resp q → Prop} (allowed : E.Allowed ok)
    (n : Nat) (p : Prog σ Resp α) (i : ι) (s : σ) :
    ∃ tr, Exec ok p s tr none (crash E n p i s).2 := by
  induction p generalizing n i s with
  | pure a => exact ⟨[], by cases n <;> exact .cut⟩
  | raise e => exact ⟨[], by cases n <;> exact .cut⟩
  | read k ih =>
    obtain ⟨tr, h⟩ := ih s n i s
    exact ⟨tr, by cases n <;> exact .read h⟩
  | write f k ih =>
    cases n with
    | zero => exact ⟨[], .cut⟩
    | succ n =>
      obtain ⟨tr, h⟩ := ih s n i (f s)
      exact ⟨_, .write h⟩
  | call q k ih =>
    obtain ⟨tr, h⟩ := ih (E q i).1 n (E q i).2 s
    exact ⟨_, by cases n <;> exact .call (allowed q i) h⟩

end

section

variable {σ Req : Type} {Resp : Req → Type} {α β γ : Type}

/-- Transactions committed one after the other. -/
def commitAll (fs : List (σ → σ)) (s : σ) : σ := fs.foldl (fun s f => f s) s

/-- A program that, under answers that do not change, commits the same transactions in every state. -/
inductive Straight (E : Env Resp Unit) : Prog σ Resp α → List (σ → σ) → Prop
  | pure {a : α} : Straight E (.pure a) []
  | write {f : σ → σ} {k : σ → Prog σ Resp α} {fs : List (σ → σ)} (h : ∀ s, Straight E (k s) fs) :
      Straight E (.write f k) (f :: fs)
  | call {q : Req} {k : Resp q → Prog σ Resp α} {fs : List (σ → σ)} (h : Straight E (k (E q ()).1) fs) :
      Straight E (.call q k) fs

variable {E : Env Resp Unit} {p : Prog σ Resp α} {fs gs : List (σ → σ)}

theorem Straight.run (h : Straight E p fs) (s : σ) : (run E p () s).2.2 = commitAll fs s := by
  induction h generalizing s with
  | pure => rfl
  | write _ ih => exact ih s _
  | call _ ih => exact ih s

theorem Straight.crash (h : Straight E p fs) (n : Nat) (s : σ) : (crash E n p () s).2 = commitAll (fs.take n) s := by
  induction h generalizing n s with
  | pure => cases n <;> rfl
  | write _ ih =>
    cases n with
    | zero => rfl
    | succ n => exact ih s n _
  | call _ ih =>
    have rest := ih n s
    cases n <;> exact rest

end

variable {σ Req : Type} {Resp : Req → Type} {α β ι M : Type} [AddMonoid M]

/-- What the calls of a complete run weigh together. -/
def cost (w : Req → M) (E : Env Resp ι) : Prog σ Resp α → ι → σ → M
  | .pure _, _, _ => 0
  | .raise _, _, _ => 0
  | .read k, i, s => cost w E (k s) i s
  | .write f k, i, s => cost w E (k s) i (f s)
  | .call q k, i, s => w q + cost w E (k (E q i).1) (E q i).2 s

/-- The complete run of `p` returns `a` in `t`, and its calls weigh `n`. -/
structure Completes (w : Req → M) (E : Env Resp ι) (p : Prog σ Resp α) (i : ι) (s : σ) (a : α) (j : ι) (t : σ) (n : M) :
    Prop where
  run : CrashProgram.run E p i s = (.ok a, j, t)
  cost : CrashProgram.cost w E p i s = n

variable {w : Req → M} {E : Env Resp ι} {i j k : ι} {s t u : σ} {m n : M} {a : α} {b : β}

theorem cost_bind_ok {p : Prog σ Resp α} {g : α → Prog σ Resp β} (h : run E p i s = (.ok a, j, t)) :
    cost w E (p >>= g) i s = cost w E p i s + cost w E (g a) j t := by
  induction p generalizing i s with
  | pure b =>
    cases h
    exact (zero_add _).symm
  | raise e => cases h
  | read k ih => exact ih s h
  | write f k ih => exact ih s h
  | call q k ih =>
    show w q + cost w E (k (E q i).1 >>= g) (E q i).2 s = w q + cost w E (k (E q i).1) (E q i).2 s + _
    rw [ih _ h, add_assoc]

theorem completes_pure (a : α) (i : ι) (s : σ) : Completes w E (.pure a) i s a i s 0 := ⟨rfl, rfl⟩

theorem completes_get (f : σ → α) (i : ι) (s : σ) : Completes w E (Prog.get f) i s (f s) i s 0 := ⟨rfl, rfl⟩

theorem completes_txn (op : σ → α × σ) (i : ι) (s : σ) : Completes w E (Prog.txn op) i s (op s).1 i (op s).2 0 :=
  ⟨rfl, rfl⟩

theorem completes_ask (q : Req) (i : ι) (s : σ) : Completes w E (.call q .pure : Prog σ Resp (Resp q)) i s (E q i).1
    (E q i).2 s (w q) :=
  ⟨rfl, add_zero _⟩

theorem Completes.bind {p : Prog σ Resp α} {g : α → Prog σ Resp β} (first : Completes w E p i s a j t m)
    (next : Completes w E (g a) j t b k u n) : Completes w E (p >>= g) i s b k u (m + n) where
  run := (run_bind_ok first.run).trans next.run
  cost := by rw [cost_bind_ok first.run, first.cost, next.cost]

/-- A step without weight before the rest of a program. -/
theorem Completes.before {p : Prog σ Resp α} {g : α → Prog σ Resp β} (first : Completes w E p i s a j t 0)
    (next : Completes w E (g a) j t b k u n) : Completes w E (p >>= g) i s b k u n := by
  have both := first.bind next
  rwa [zero_add] at both

/-- A step without weight after a program. -/
theorem Completes.after {p : Prog σ Resp α} {g : α → Prog σ Resp β} (first : Completes w E p i s a j t m)
    (next : Completes w E (g a) j t b k u 0) : Completes w E (p >>= g) i s b k u m := by
  have both := first.bind next
  rwa [add_zero] at both

/-- A loop stops at the first element whose turn raises. -/
theorem run_forEach_raise {body : α → Prog σ Resp β} {x : α} {e : String} {r : ι × σ} {ys : List β} (pre post : List α)
    (before : run E (Prog.forEach body pre) i s = (.ok ys, j, t)) (stops : run E (body x) j t = (.error e, r)) :
    run E (Prog.forEach body (pre ++ x :: post)) i s = (.error e, r) := by
  induction pre generalizing i s ys with
  | nil =>
    cases before
    show run E (body x >>= _) j t = _
    rw [run_bind, stops]
  | cons y pre ih =>
    have first : run E (body y >>= fun z => Prog.forEach body pre >>= fun zs => .pure (z :: zs)) i s =
      (.ok ys, j, t) := before
    show run E (body y >>= fun z => Prog.forEach body (pre ++ x :: post) >>= fun zs => .pure (z :: zs)) i s = _
    rw [run_bind] at first ⊢
    split at first
    next z k u there =>
      rw [run_bind] at first
      split at first
      next zs l v inner =>
        cases first
        show run E (Prog.forEach body (pre ++ x :: post) >>= _) k u = _
        rw [run_bind, ih inner]
      next => cases first
    next => cases first

end CrashProgram
