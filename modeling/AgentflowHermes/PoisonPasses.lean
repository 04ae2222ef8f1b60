import AgentflowHermes.IngestCursor
import AgentflowHermes.TurnErrors

namespace AgentflowHermes

open CrashProgram

section

variable {events : List BoardEvent} {limit : Nat} {last : Int}

end

/-- What grows below a bound stays as it is in the end. -/
theorem settles {f : Nat → Int} {bound : Int} (mono : ∀ k, f k ≤ f (k + 1)) (below : ∀ k, f k < bound) :
    ∃ n, ∀ k, f (n + k) = f n := by
  induction h : (bound - f 0).toNat using Nat.strongRecOn generalizing f with
  | ind m ih =>
    by_cases moves : ∃ k, f k ≠ f 0
    · obtain ⟨k, hk⟩ := moves
      have up : ∀ j, f 0 ≤ f j := fun j => by
        induction j with
        | zero => exact Int.le_refl _
        | succ j ihj => exact Int.le_trans ihj (mono j)
      have hup := up k
      have hb := below k
      have smaller : (bound - f (k + 0)).toNat < m := by
        rw [Nat.add_zero]
        omega
      obtain ⟨n, hn⟩ := ih _ smaller (f := fun j => f (k + j)) (fun j => mono (k + j)) (fun j => below (k + j)) rfl
      exact ⟨k + n, fun j => by rw [Nat.add_assoc]; exact hn j⟩
    · exact ⟨0, fun k => by rw [Nat.zero_add]; exact Decidable.not_not.mp fun hk => moves ⟨k, hk⟩⟩

section

variable {ι : Type} (T : PyText) (cfg : IngestConfig) (E : Env Response ι)

variable {T cfg E}

/-- Every event the loop has passed had its turn, and its route did not fail. -/
theorem Routes.turn {events rest : List BoardEvent} {done : List IngestEntry} {c d : ι × Store} {ev : BoardEvent}
    (routes : Routes T cfg E events done c d) (h : ev ∈ events) :
    ∃ b r e, TurnAt T cfg E (events ++ rest) c ev b ∧ run E (routeEvent T cfg ev) b.1 b.2 = (.ok r, e) ∧ ¬r.entry.Failed := by
  induction routes with
  | nil => cases h
  | @cons x evs r entries i s c' d hr hf later ih =>
    rcases List.mem_cons.mp h with rfl | h
    · exact ⟨(i, s), r, c', ⟨[], evs ++ rest, [], rfl, .nil⟩, hr, hf⟩
    · obtain ⟨b, r', e, ⟨before, after, done, heq, routes⟩, hr', hf'⟩ := ih h
      exact ⟨b, r', e, ⟨x :: before, after, r.entry :: done, by rw [List.cons_append, heq]; rfl, .cons hr hf routes⟩, hr', hf'⟩

end

section

variable {ι : Type} (T : PyText) (cfg : IngestConfig) (E : Env Response ι) (events : List BoardEvent) (limit : Nat)
  (c : ι × Store)

end

section

variable {T : PyText} {cfg : IngestConfig} {ι : Type} {E : Env Response ι} {events : List BoardEvent} {limit : Nat}
  {c : ι × Store}

theorem Stops.route {x : BoardEvent} {later : List BoardEvent} {last : List IngestEntry} {a d : ι × Store}
    (stops : Stops T cfg E (x :: later) last a d) :
    ∃ r b, run E (routeEvent T cfg x) a.1 a.2 = (.ok r, b) ∧ r.entry.Failed := by
  cases stops with
  | failed hr hf => exact ⟨_, _, hr, hf⟩

end

section Samples

end Samples

end AgentflowHermes
