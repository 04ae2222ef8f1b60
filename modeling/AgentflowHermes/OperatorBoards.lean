import AgentflowHermes.BoardEntries

namespace AgentflowHermes

open CrashProgram RowTable

section

variable {T : PyText} {s : Store} {id : Nat} {board : String} {i : Instance}
  {contracts : String → Option InputContract} {submission : Submission}

theorem cliAdapter_named (h : board ≠ "") : cliAdapter board = some { board := board } := if_neg h

/-- With its adapter a retry goes through to the rows. -/
theorem retry_exec (hi : s.getInstance id = some i) (named : board ≠ "") {tr : List (Act Request Store)}
    {o : Option (Except String (Option CommandResult))} {t : Store}
    (e : Exec (fun _ _ => True) ((BoardEntry.retry id board).perform T) s tr o t) :
    Exec (fun _ _ => True) (continuationRetry id { board := board } >>= fun outcomes =>
      pure (some (.retried outcomes))) s tr o t := by
  unfold BoardEntry.perform runContinuationRetry at e
  dsimp only at e
  rw [Prog.bind_assoc] at e
  have first := exec_get_bind e
  rw [hi] at first
  dsimp only at first
  rw [cliAdapter_named named] at first
  dsimp only at first
  rw [Prog.bind_assoc] at first
  exact first

theorem submit_exec (hi : s.getInstance id = some i) {contract : InputContract}
    (goes : submitErrors contracts submission i = .inl contract) (named : board ≠ "") {tr : List (Act Request Store)}
    {o : Option (Except String (Option CommandResult))} {t : Store}
    (e : Exec (fun _ _ => True) ((BoardEntry.submit contracts id submission board).perform T) s tr o t) :
    Exec (fun _ _ => True) (OwnerInputHandler.onReceipt i submission (some { board := board }) contract >>= fun r =>
      pure (some (.submitted r))) s tr o t := by
  unfold BoardEntry.perform runContinuationSubmit at e
  dsimp only at e
  rw [Prog.bind_assoc] at e
  have first := exec_get_bind e
  rw [hi] at first
  dsimp only at first
  rw [goes] at first
  dsimp only at first
  rw [cliAdapter_named named] at first
  dsimp only at first
  rw [Prog.bind_assoc] at first
  exact first

/-- Refused: nothing was done, and errors are what is answered. -/
def Refused (tr : List (Act Request Store)) (o : Option (Except String (Option CommandResult))) : Prop :=
  tr = [] ∧ ∀ r, o = some r → ∃ errors, r = .ok (some (.refused errors))

theorem refused_of_pure {errors : List String} {tr : List (Act Request Store)}
    {o : Option (Except String (Option CommandResult))} {t : Store}
    (e : Exec (fun _ _ => True) ((.pure (some (.refused errors)) : Run (Option CommandResult))) s tr o t) : Refused tr o :=
  have ⟨silent, answer⟩ := exec_pure e
  ⟨silent, fun r hr => ⟨errors, answer r hr⟩⟩

theorem retry_refused (stops : board = "" ∨ s.getInstance id = none) {tr : List (Act Request Store)}
    {o : Option (Except String (Option CommandResult))} {t : Store}
    (e : Exec (fun _ _ => True) ((BoardEntry.retry id board).perform T) s tr o t) : Refused tr o := by
  unfold BoardEntry.perform runContinuationRetry at e
  dsimp only at e
  rw [Prog.bind_assoc] at e
  have first := exec_get_bind e
  cases hi : s.getInstance id with
  | none =>
    rw [hi] at first
    exact refused_of_pure first
  | some i =>
    rcases stops with rfl | none
    · rw [hi] at first
      exact refused_of_pure first
    · rw [hi] at none
      cases none

theorem submit_refused (stops : board = "" ∨ ∀ i, s.getInstance id = some i → (submitErrors contracts submission i).isRight)
    {tr : List (Act Request Store)} {o : Option (Except String (Option CommandResult))} {t : Store}
    (e : Exec (fun _ _ => True) ((BoardEntry.submit contracts id submission board).perform T) s tr o t) : Refused tr o := by
  unfold BoardEntry.perform runContinuationSubmit at e
  dsimp only at e
  rw [Prog.bind_assoc] at e
  have first := exec_get_bind e
  cases hi : s.getInstance id with
  | none =>
    rw [hi] at first
    exact refused_of_pure first
  | some i =>
    rw [hi] at first
    dsimp only at first
    cases goes : submitErrors contracts submission i with
    | inr errors =>
      rw [goes] at first
      exact refused_of_pure first
    | inl contract =>
      rcases stops with rfl | stops
      · rw [goes] at first
        exact refused_of_pure first
      · have right := stops i hi
        rw [goes] at right
        cases right

/-- Some execution runs to its end. -/
theorem exists_exec (p : Run (Option CommandResult)) (s : Store) : ∃ tr r t, Exec (fun _ _ => True) p s tr (some r) t := by
  obtain ⟨tr, e⟩ := @run_exec _ _ _ _ _ (steadyEnv 0 { success := true } true) (fun _ _ => True) (fun _ _ => trivial) p () s
  exact ⟨tr, _, _, e⟩

/-- What goes through to an executor is not refused. -/
theorem not_refused {α : Type} {p : Run α} {result : α → CommandResult} (done : ∀ a errors, result a ≠ .refused errors)
    {tr : List (Act Request Store)} {r : Except String (Option CommandResult)} {t : Store}
    (e : Exec (fun _ _ => True) (p >>= fun a => pure (some (result a))) s tr (some r) t) : ¬Refused tr (some r) := by
  rintro ⟨_, answer⟩
  obtain ⟨errors, rfl⟩ := answer r rfl
  have returns : Returns (fun r => ∀ errors, r ≠ some (.refused errors)) (p >>= fun a => pure (some (result a))) :=
    returns_bind fun a errors same => done a errors (Option.some.inj same)
  exact returns.exec e errors rfl

variable {entry : BoardEntry}

theorem refuses_of_right (right : entry.OperatorRight s) {id : Nat} {board : String} {i : Instance}
    (names : entry.operator = some (id, board)) (hi : s.getInstance id = some i) (other : i.board ≠ board)
    {tr : List (Act Request Store)} {o : Option (Except String (Option CommandResult))} {t : Store}
    (e : Exec (fun _ _ => True) (entry.perform T) s tr o t) : Refused tr o := by
  cases entry with
  | ingest => cases names
  | reconcile => cases names
  | retry id' board' =>
    cases names
    exact retry_refused (right.imp_right fun right => absurd (right i hi) other) e
  | submit contracts id' submission board' =>
    cases names
    refine submit_refused (right.imp_right fun right j hj => ?_) e
    obtain rfl : i = j := Option.some.inj (hi.symm.trans hj)
    exact (right i hi).resolve_left other

/-- A command that would reach its adapter under another board is not refused. -/
theorem right_of_stays (stays : StaysOnBoard T entry s) : entry.OperatorRight s := by
  obtain ⟨tr, r, t, e⟩ := exists_exec (entry.perform T) s
  cases entry with
  | ingest => trivial
  | reconcile => trivial
  | retry id board =>
    by_cases named : board = ""
    · exact .inl named
    · refine .inr fun i hi => Decidable.byContradiction fun other => ?_
      exact not_refused (fun _ _ => by simp) (retry_exec hi named e) (stays.refuses id board i rfl hi other e)
  | submit contracts id submission board =>
    by_cases named : board = ""
    · exact .inl named
    · refine .inr fun i hi => Decidable.or_iff_not_imp_left.mpr fun other => ?_
      cases goes : submitErrors contracts submission i with
      | inr errors => rfl
      | inl contract =>
        have refused := stays.refuses id board i rfl hi other e
        exact absurd refused (not_refused (fun _ _ => by simp) (submit_exec hi goes named e))

/-- The same when what the program returns is only wrapped. -/
theorem onItsBoard_of_wp_map {α β : Type} {p : Run β} {f : β → α} {board : String} {receipt : Nat} {filed : String → Prop}
    (h : wp (boardTerms board receipt filed) p (fun _ _ => True) s) {tr : List (Act Request Store)}
    {o : Option (Except String α)} {t : Store} (e : Exec (fun _ _ => True) (p >>= fun b => pure (f b)) s tr o t) :
    OnItsBoard tr := by
  have mapped : wp (boardTerms board receipt filed) (p >>= fun b => pure (f b)) (fun _ _ => True) s :=
    wp_bind.mpr (wp_mono h fun b u hu _ => wp_pure' (f b) |>.mpr ⟨hu, trivial⟩)
  exact onItsBoard_of_wp mapped e

theorem calls_of_right (right : entry.OperatorRight s) (wired : entry.Wired)
    (keys : UniqueBy s.outbox fun o => o.idempotencyKey) (foreign : entry.NoForeignRow T s)
    {tr : List (Act Request Store)} {o : Option (Except String (Option CommandResult))} {t : Store}
    (e : Exec (fun _ _ => True) (entry.perform T) s tr o t) : OnItsBoard tr := by
  have silent : Refused tr o → OnItsBoard tr := by
    rintro ⟨rfl, _⟩ a row m u mem
    cases mem
  cases entry with
  | ingest cfg fetch =>
    have turn := wp_ingest_board wired foreign
    exact onItsBoard_of_wp_map turn e
  | reconcile adapterByBoard =>
    have turn := @wp_reconcile_board s "" _ wired
    exact onItsBoard_of_wp_map turn e
  | retry id board =>
    rcases right with stops | right
    · exact silent (retry_refused (.inl stops) e)
    · by_cases named : board = ""
      · exact silent (retry_refused (.inl named) e)
      · cases hi : s.getInstance id with
        | none => exact silent (retry_refused (.inr hi) e)
        | some i =>
          have turn := wp_retry_board hi keys { board := board } (right i hi).symm
          exact onItsBoard_of_wp_map turn (retry_exec hi named e)
  | submit contracts id submission board =>
    rcases right with stops | right
    · exact silent (submit_refused (.inl stops) e)
    · by_cases named : board = ""
      · exact silent (submit_refused (.inl named) e)
      · cases hi : s.getInstance id with
        | none => exact silent (submit_refused (.inr fun i h => by rw [hi] at h; cases h) e)
        | some i =>
          cases goes : submitErrors contracts submission i with
          | inr errors =>
            refine silent (submit_refused (.inr fun j hj => ?_) e)
            obtain rfl : i = j := Option.some.inj (hi.symm.trans hj)
            rw [goes]
            rfl
          | inl contract =>
            have same : i.board = board := (right i hi).resolve_right (by rw [goes]; simp)
            have turn := @wp_submit_board T s board id i hi contracts submission foreign { board := board } same.symm contract
            exact onItsBoard_of_wp_map turn (submit_exec hi goes named e)

/-- Over a ledger in which no other board's row holds the step's keys, what keeps mutations on their board is that
an operator names the board of the instance. -/
theorem staysOnBoard_iff (wired : entry.Wired) (keys : UniqueBy s.outbox fun o => o.idempotencyKey)
    (foreign : entry.NoForeignRow T s) : StaysOnBoard T entry s ↔ entry.OperatorRight s :=
  ⟨right_of_stays, fun right => ⟨calls_of_right right wired keys foreign, fun _ _ _ names hi other _ _ _ e =>
    refuses_of_right right names hi other e⟩⟩

end

section Samples

/-- A ledger with one continuation, on board "a", whose first mutation is still pending. -/
def pendingOnBoardA : Store :=
  { Store.empty with
    instances := Table.empty.insert fun id =>
      { board := "a", sourceTaskId := "t1", sourceEventId := "e1", id := id, state := .materializing }
    outbox := Table.empty.insert (Store.NewOutbox.row ⟨none, .createTask, [], "k"⟩ 1) }

theorem staysOnBoard_iff_right : StaysOnBoard asciiText (.retry 1 "a") pendingOnBoardA := by
  refine (@staysOnBoard_iff asciiText pendingOnBoardA (.retry 1 "a") trivial ?_ trivial).mpr (.inr ?_)
  · exact List.pairwise_singleton _ _
  · rintro i ⟨⟩
    rfl

/-- The command is given another board than the instance's and retries all the same. -/
theorem retry_other_board : ¬StaysOnBoard asciiText (.retry 1 "b") pendingOnBoardA := by
  intro stays
  rcases right_of_stays stays with named | right
  · exact absurd named (by decide)
  · exact absurd (right _ rfl) (by decide)

end Samples

end AgentflowHermes
