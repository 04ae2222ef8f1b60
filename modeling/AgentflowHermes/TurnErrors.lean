import AgentflowHermes.OwnerInstances
import AgentflowHermes.OwnerRoutes
import AgentflowHermes.ResolverErrors

namespace AgentflowHermes

open CrashProgram RowTable

def Present (id : Nat) (s : Store) : Prop := ∃ i ∈ s.instances.rows, i.id = id

theorem Present.getInstance {id : Nat} {s : Store} (h : Present id s) : ∃ i, s.getInstance id = some i ∧ i.id = id := by
  obtain ⟨i, mem, hid⟩ := h
  cases hg : s.getInstance id with
  | none =>
    have other := find?_none hg i mem
    simp [hid] at other
  | some j => exact ⟨j, rfl, (get?_eq_some.mp hg).2⟩

section

variable {ι α : Type} {E : Env Response ι} {i : ι} {s : Store}

end

section

variable (T : PyText) (policies : List StandingPolicy) (cfg : IngestConfig)

end

section

variable {T : PyText} {policies : List StandingPolicy} {cfg : IngestConfig} {ι : Type} {E : Env Response ι} {i : ι}
  {s : Store} {ev : BoardEvent} {o : CompiledOutcome}

end

end AgentflowHermes
