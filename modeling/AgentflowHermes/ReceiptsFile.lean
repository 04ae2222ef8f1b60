import AgentflowHermes.RoadmapAtomic
import AgentflowHermes.RoadmapCourses
import Mathlib.Logic.Relation

namespace AgentflowHermes.Roadmap

open Relation

/-- What a read of the receipts file gives: the items of its JSON object, a receipt that is no dict being `none`.
A file that is missing, unreadable or cut short gives nothing. -/
abbrev ReceiptsText := Option (List (String × Option AppliedGraph))

namespace ApplyLedger

def keys (applied : ApplyLedger) : List String := applied.map Prod.fst

/-- A dict assignment. -/
def put (applied : ApplyLedger) (key : String) (graph : AppliedGraph) : ApplyLedger :=
  if (applied.lookup key).isSome then applied.map fun f => if f.1 = key then (key, graph) else f
  else applied ++ [(key, graph)]

def putItems (applied : ApplyLedger) (items : List (String × Option AppliedGraph)) : ApplyLedger :=
  items.foldl (fun applied item => item.2.elim applied (applied.put item.1)) applied

end ApplyLedger

def loadRoadmapApplyLedger (path : String) (text : ReceiptsText) : ApplyLedger :=
  if path = "" then [] else ApplyLedger.putItems [] (text.getD [])

/-- `_seed_apply_ledger`; `found` is whether the path exists. -/
def seedApplyLedger (applied : ApplyLedger) (found : Bool) (text : ReceiptsText) : ApplyLedger :=
  if !found then applied else applied.putItems (text.getD [])

/-- What `_persist_roadmap_apply_ledger` and `_persist_apply_ledger` write. -/
def persistedText (applied : ApplyLedger) : ReceiptsText := some (applied.map fun f => (f.1, some f.2))

/-- The two programs load the same ledger from a file. -/
theorem seedApplyLedger_eq {path : String} (named : path ≠ "") {found : Bool} {text : ReceiptsText}
    (absent : found = false → text = none) : seedApplyLedger [] found text = loadRoadmapApplyLedger path text := by
  unfold seedApplyLedger loadRoadmapApplyLedger
  rw [if_neg named]
  cases found with
  | true => rfl
  | false =>
    rw [absent rfl]
    rfl

section

variable {applied : ApplyLedger} {key other : String} {graph : AppliedGraph}

theorem lookup_isSome : (applied.lookup key).isSome ↔ key ∈ applied.keys := by
  induction applied with
  | nil => simp [ApplyLedger.keys]
  | cons f rest ih =>
    unfold ApplyLedger.keys at ih ⊢
    rw [List.lookup_cons, List.map_cons, List.mem_cons]
    by_cases same : key = f.1
    · simp [same]
    · have differs : (key == f.1) = false := beq_eq_false_iff_ne.mpr same
      rw [differs]
      simp [same, ih]

theorem mem_keys_put : key ∈ (applied.put other graph).keys ↔ key = other ∨ key ∈ applied.keys := by
  unfold ApplyLedger.put
  split
  next known =>
    have there := lookup_isSome.mp known
    have same : (applied.map fun f => if f.1 = other then (other, graph) else f).map Prod.fst = applied.map Prod.fst := by
      rw [List.map_map]
      refine List.map_congr_left fun f _ => ?_
      show (if f.1 = other then (other, graph) else f).1 = f.1
      split
      next eq => exact eq.symm
      next => rfl
    unfold ApplyLedger.keys at there ⊢
    rw [same]
    constructor
    · exact .inr
    · rintro (rfl | h)
      · exact there
      · exact h
  next =>
    unfold ApplyLedger.keys
    rw [List.map_append, List.mem_append, or_comm]
    simp

theorem mem_keys_putItems {items : List (String × Option AppliedGraph)} :
    key ∈ (applied.putItems items).keys ↔ key ∈ applied.keys ∨ ∃ graph, (key, some graph) ∈ items := by
  induction items generalizing applied with
  | nil => simp [ApplyLedger.putItems]
  | cons item rest ih =>
    obtain ⟨name, receipt⟩ := item
    cases receipt with
    | none =>
      have skipped : applied.putItems ((name, none) :: rest) = applied.putItems rest := rfl
      rw [skipped, ih]
      simp
    | some graph =>
      have assigned : applied.putItems ((name, some graph) :: rest) = (applied.put name graph).putItems rest := rfl
      rw [assigned, ih, mem_keys_put]
      constructor
      · rintro ((rfl | h) | ⟨g, h⟩)
        · exact .inr ⟨graph, List.mem_cons_self⟩
        · exact .inl h
        · exact .inr ⟨g, List.mem_cons_of_mem _ h⟩
      · rintro (h | ⟨g, h⟩)
        · exact .inl (.inr h)
        · rcases List.mem_cons.mp h with same | h
          · cases same
            exact .inl (.inl rfl)
          · exact .inr ⟨g, h⟩

/-- What is written whole is loaded again, key by key. -/
theorem mem_keys_load {path : String} (named : path ≠ "") :
    key ∈ (loadRoadmapApplyLedger path (persistedText applied)).keys ↔ key ∈ applied.keys := by
  unfold loadRoadmapApplyLedger
  rw [if_neg named, mem_keys_putItems]
  simp [persistedText, ApplyLedger.keys]

theorem mem_keys_record {T : PyText} :
    key ∈ (applied.record T other graph).keys ↔ key = safeDurableRef T other ∨ key ∈ applied.keys :=
  mem_keys_put

end

inductive PassProgram
  | daemon
  | cli
  deriving DecidableEq

/-- Where a pass is: it may evaluate its next event, owes the rewrite that follows a promotion, or has opened the
file for a rewrite, which cuts it to nothing. -/
inductive PassStage
  | evaluating
  | owing
  | rewriting
  deriving DecidableEq

/-- A pass of the daemon over a board, or of `roadmap promote` or `roadmap watch`. -/
structure ReceiptsPass where
  program : PassProgram
  applied : ApplyLedger
  stage : PassStage := .evaluating

/-- The daemon rewrites the file after each promotion, the CLI once at the end. -/
def ReceiptsPass.promoted (p : ReceiptsPass) (applied : ApplyLedger) : ReceiptsPass :=
  { p with applied := applied, stage := if p.program = .daemon then .owing else .evaluating }

def ReceiptsPass.MayTruncate (p : ReceiptsPass) : Prop :=
  p.program = .daemon ∧ p.stage = .owing ∨ p.program = .cli ∧ p.stage = .evaluating

/-- The daemon goes on after a rewrite; a run of the CLI is over. -/
def ReceiptsPass.finished (p : ReceiptsPass) : Option ReceiptsPass :=
  if p.program = .daemon then some { p with stage := .evaluating } else none

/-- What has happened: a create call for a promotion key, a key recorded as applied, a file rewritten to its end. -/
inductive ReceiptsEntry
  | created (key : String)
  | recorded (key : String)
  | written (applied : ApplyLedger)

/-- The key a promotion goes by. -/
def ApplyAnswer.key : ApplyAnswer → String
  | proposalOnly proposal _ _ => applyKeyFromProposal proposal
  | failed _ key _ _ => key
  | duplicate _ key _ => key
  | applied _ _ graph => graph.idempotencyKey

/-- An adapter that counts its create calls. -/
def GraphAdapter.counted {σ : Type} (adapter : GraphAdapter σ) : GraphAdapter (σ × Nat) where
  createGraph c board := ((adapter.createGraph c board.1).1, (adapter.createGraph c board.1).2, board.2 + 1)
  recordSourceReceipt receipt board := (adapter.recordSourceReceipt receipt board.1, board.2)

section

variable (T : PyText)

/-- The entries of a promotion that made this many create calls. -/
def promotionEntries (answer : ApplyAnswer) (creates : Nat) : List ReceiptsEntry :=
  (if creates = 0 then [] else [.created (safeDurableRef T answer.key)]) ++
    if answer.isApplied then [.recorded (safeDurableRef T answer.key)] else []

/-- One receipts file, the passes under way over it, and what has happened. A pass is `current` when it read the file
whole at its load, with no key unsaved elsewhere, and no other pass has recorded a key since; it is `unsaved` from
recording a key to the end of the rewrite. -/
structure Receipts where
  text : ReceiptsText
  passes : Nat → Option ReceiptsPass
  log : List ReceiptsEntry
  current : Nat → Prop
  unsaved : Nat → Prop

namespace Receipts

def setPass (w : Receipts) (i : Nat) (p : Option ReceiptsPass) : Receipts :=
  { w with passes := fun j => if j = i then p else w.passes j }

def Recorded (w : Receipts) (key : String) : Prop := .recorded key ∈ w.log

/-- A file with nothing under way; the keys it holds count as recorded. -/
def start (path : String) (text : ReceiptsText) : Receipts where
  text := text
  passes _ := none
  log := (loadRoadmapApplyLedger path text).keys.map .recorded
  current _ := False
  unsaved _ := False

end Receipts

inductive ReceiptsMove
  | load (i : Nat) (program : PassProgram) (readable : Bool)
  | promote (i : Nat)
  | truncate (i : Nat)
  | finish (i : Nat)
  | stop (i : Nat)
  | damage

/-- Passes load the file, promote, and rewrite it, each at its own pace; they end or are killed anywhere, and the file
may be cut short or removed by others. -/
inductive Receipts.Step (path : String) : Receipts → ReceiptsMove → Receipts → Prop
  | load {w : Receipts} (i : Nat) (program : PassProgram) (readable : Bool) (free : w.passes i = none) :
      Step path w (.load i program readable)
        { w.setPass i (some ⟨program, loadRoadmapApplyLedger path (if readable then w.text else none), .evaluating⟩) with
          current := fun j => if j = i then
              ((readable ∧ w.text.isSome) ∨ ∀ key, ¬w.Recorded key) ∧ ∀ k, ¬w.unsaved k
            else w.current j }
  | promote {w : Receipts} {i : Nat} {p : ReceiptsPass} {σ : Type} (registry : Option Registry) (policy : Option Policy)
      (adapter : Option (GraphAdapter σ)) (ev : PromotionEvent) (ledger : PromotionLedger) (board : σ)
      {answer : ApplyAnswer} {t : ApplyState (σ × Nat)} (running : w.passes i = some p) (stage : p.stage = .evaluating)
      (result : applyRoadmapPromotion T registry policy (adapter.map GraphAdapter.counted) ev ⟨ledger, p.applied, (board, 0)⟩ =
        .ok (answer, t)) :
      Step path w (.promote i)
        { w.setPass i (some (p.promoted t.applied)) with
          log := w.log ++ promotionEntries T answer t.board.2
          current := fun j => w.current j ∧ (answer.isApplied → j = i)
          unsaved := fun j => w.unsaved j ∨ (answer.isApplied ∧ j = i) }
  | truncate {w : Receipts} {i : Nat} {p : ReceiptsPass} (running : w.passes i = some p) (may : p.MayTruncate) :
      Step path w (.truncate i) { w.setPass i (some { p with stage := .rewriting }) with text := none }
  | finish {w : Receipts} {i : Nat} {p : ReceiptsPass} (running : w.passes i = some p) (stage : p.stage = .rewriting) :
      Step path w (.finish i)
        { w.setPass i p.finished with
          text := persistedText p.applied
          log := w.log ++ [.written p.applied]
          unsaved := fun j => w.unsaved j ∧ j ≠ i }
  | stop {w : Receipts} (i : Nat) :
      Step path w (.stop i) { w.setPass i none with unsaved := fun j => w.unsaved j ∧ j ≠ i }
  | damage {w : Receipts} : Step path w .damage { w with text := none }

/-- A pass promotes and rewrites only while it is current, and is killed with a key unsaved only in the rewrite. -/
def Receipts.Careful (w : Receipts) : ReceiptsMove → Prop
  | .promote i | .truncate i | .finish i => w.current i
  | .stop i => w.unsaved i → ∃ p, w.passes i = some p ∧ p.stage = .rewriting
  | _ => True

def Receipts.Moves (path : String) (guard : Receipts → ReceiptsMove → Prop) (w w' : Receipts) : Prop :=
  ∃ m, guard w m ∧ w.Step T path m w'

end

/-- An entry goes with the keys recorded before it. -/
def ReceiptsEntry.Mindful (before : List ReceiptsEntry) : ReceiptsEntry → Prop
  | created key => .recorded key ∉ before
  | recorded _ => True
  | written applied => ∀ key, .recorded key ∈ before → key ∈ applied.keys

/-- No key recorded as applied is ever forgotten: no later create call is made for it, no later rewrite lacks it, and
with nothing unsaved a file that can be read holds it. -/
structure Receipts.Remembered (path : String) (w : Receipts) : Prop where
  log : ∀ before entry after, w.log = before ++ entry :: after → entry.Mindful before
  file : w.text.isSome → (∀ i, ¬w.unsaved i) → ∀ key, w.Recorded key → key ∈ (loadRoadmapApplyLedger path w.text).keys

section

variable {T : PyText} {path : String} {w w' : Receipts}

/-- A promotion calls the adapter only for a key it does not know, and adds no other key. -/
theorem promotion_keys (plain : T.Plain) {σ : Type} {registry : Option Registry} {policy : Option Policy}
    {adapter : Option (GraphAdapter (σ × Nat))} {ev : PromotionEvent} {ledger : PromotionLedger} {known : ApplyLedger}
    {board : σ} {answer : ApplyAnswer} {t : ApplyState (σ × Nat)}
    (result : applyRoadmapPromotion T registry policy adapter ev ⟨ledger, known, (board, 0)⟩ = .ok (answer, t)) :
    (t.board.2 ≠ 0 → safeDurableRef T answer.key ∉ known.keys) ∧
      (answer.isApplied = true → ∀ key, key ∈ t.applied.keys ↔ key = safeDurableRef T answer.key ∨ key ∈ known.keys) ∧
      (answer.isApplied = false → t.applied = known) := by
  have way := applied plain registry policy adapter ev ⟨ledger, known, (board, 0)⟩
  rw [result] at way
  have unknown : ∀ key, known.get T key = none → safeDurableRef T key ∉ known.keys := by
    intro key missing there
    have present := lookup_isSome.mpr there
    have absent : known.lookup (safeDurableRef T key) = none := missing
    rw [absent] at present
    cases present
  cases way with
  | duplicate r graph proposal keyed found => exact ⟨fun calls => absurd rfl calls, nofun, fun _ => rfl⟩
  | declined r proposal refused => exact ⟨fun calls => absurd rfl calls, nofun, fun _ => rfl⟩
  | disabled p new judged unarmed => exact ⟨fun calls => absurd rfl calls, nofun, fun _ => rfl⟩
  | stopped p reason judged other bare => exact ⟨fun calls => absurd rfl calls, nofun, fun _ => rfl⟩
  | failed p g failure board judged missing created => exact ⟨fun _ => unknown p.key missing, nofun, fun _ => rfl⟩
  | applied p g tasks board new judged armed missing created =>
    exact ⟨fun _ => unknown p.key missing, fun _ key => mem_keys_record, nofun⟩

/-- What carries a careful run: a current pass knows every recorded key, and no other has one unsaved. -/
structure Receipts.Sound (path : String) (w : Receipts) : Prop extends w.Remembered path where
  held : ∀ i p, w.passes i = some p → w.current i → ∀ key, w.Recorded key → key ∈ p.applied.keys
  alone : ∀ i j, w.current i → w.unsaved j → i = j
  cut : ∀ i p, w.passes i = some p → p.stage = .rewriting → w.unsaved i → w.text = none

theorem mindful_append {log added : List ReceiptsEntry}
    (old : ∀ before entry after, log = before ++ entry :: after → entry.Mindful before)
    (new : ∀ before entry after, added = before ++ entry :: after → entry.Mindful (log ++ before)) :
    ∀ before entry after, log ++ added = before ++ entry :: after → entry.Mindful before := by
  intro before entry after split
  rcases List.append_eq_append_iff.mp split with ⟨more, rfl, rfl⟩ | ⟨more, rfl, rest⟩
  · exact new more entry after rfl
  · cases more with
    | nil => 
      have fresh := new [] entry after rest.symm
      rwa [List.append_nil, List.append_nil] at fresh
    | cons first more =>
      rw [List.cons_append] at rest
      obtain ⟨rfl, _⟩ := List.cons.inj rest
      exact old before entry more rfl

theorem recorded_promotionEntries {answer : ApplyAnswer} {creates : Nat} {key : String}
    (h : ReceiptsEntry.recorded key ∈ promotionEntries T answer creates) :
    answer.isApplied = true ∧ key = safeDurableRef T answer.key := by
  rcases List.mem_append.mp h with h | h
  · split at h
    next => cases h
    next => cases List.mem_singleton.mp h
  · split at h
    next yes =>
      cases List.mem_singleton.mp h
      exact ⟨yes, rfl⟩
    next => cases h

theorem mindful_promotionEntries {log : List ReceiptsEntry} {answer : ApplyAnswer} {creates : Nat}
    (fresh : creates ≠ 0 → .recorded (safeDurableRef T answer.key) ∉ log) :
    ∀ before entry after, promotionEntries T answer creates = before ++ entry :: after → entry.Mindful (log ++ before) := by
  intro before entry after split
  cases entry with
  | recorded key => trivial
  | written applied =>
    have mem : ReceiptsEntry.written applied ∈ promotionEntries T answer creates := split ▸ by simp
    unfold promotionEntries at mem
    split_ifs at mem <;> simp at mem
  | created key =>
    have last : ∀ before, (if answer.isApplied then [ReceiptsEntry.recorded (safeDurableRef T answer.key)] else []) ≠
        before ++ .created key :: after := by
      intro before same
      have mem : ReceiptsEntry.created key ∈
          (if answer.isApplied then [ReceiptsEntry.recorded (safeDurableRef T answer.key)] else []) := same ▸ by simp
      split_ifs at mem <;> simp at mem
    unfold promotionEntries at split
    by_cases silent : creates = 0
    · rw [if_pos silent] at split
      exact absurd split (last before)
    · rw [if_neg silent] at split
      cases before with
      | nil =>
        obtain ⟨same, _⟩ := List.cons.inj split
        cases same
        rw [List.append_nil]
        exact fresh silent
      | cons first rest =>
        obtain ⟨_, tail⟩ := List.cons.inj split
        exact absurd tail (last rest)

theorem Receipts.Sound.step (plain : T.Plain) (named : path ≠ "") (h : w.Sound path) {m : ReceiptsMove}
    (careful : w.Careful m) (step : w.Step T path m w') : w'.Sound path := by
  cases step with
  | load i program readable free =>
    refine ⟨⟨h.log, h.file⟩, ?_, ?_, ?_⟩
    · intro j q (hq : (if j = i then _ else w.passes j) = some q) current key hk
      split at hq
      next same =>
        cases hq
        obtain ⟨read, settled⟩ : (((readable = true ∧ w.text.isSome) ∨ ∀ key, ¬w.Recorded key) ∧ ∀ k, ¬w.unsaved k) := by
          simpa [same] using current
        rcases read with ⟨rfl, whole⟩ | nothing
        · exact h.file whole settled key hk
        · exact absurd hk (nothing key)
      next other => exact h.held j q hq (by simpa [other] using current) key hk
    · intro j k current unsaved
      by_cases same : j = i
      · obtain ⟨_, settled⟩ : (((readable = true ∧ w.text.isSome) ∨ ∀ key, ¬w.Recorded key) ∧ ∀ k, ¬w.unsaved k) := by
          simpa [same] using current
        exact absurd unsaved (settled k)
      · exact h.alone j k (by simpa [same] using current) unsaved
    · intro j q (hq : (if j = i then _ else w.passes j) = some q) stage unsaved
      split at hq
      next =>
        cases hq
        cases stage
      next => exact h.cut j q hq stage unsaved
  | @promote i p σ registry policy adapter ev ledger board answer t running stage result =>
    obtain ⟨fresh, records, keeps⟩ := promotion_keys plain result
    have current : w.current i := careful
    have knows := h.held i p running current
    have recorded : ∀ key, ReceiptsEntry.recorded key ∈ w.log ++ promotionEntries T answer t.board.2 →
        w.Recorded key ∨ answer.isApplied = true ∧ key = safeDurableRef T answer.key := by
      intro key hk
      exact (List.mem_append.mp hk).imp_right recorded_promotionEntries
    refine ⟨⟨mindful_append h.log ?_, ?_⟩, ?_, ?_, ?_⟩
    · refine mindful_promotionEntries fun calls hk => ?_
      exact fresh calls (knows _ hk)
    · intro whole settled key hk
      have idle : ¬answer.isApplied = true := fun yes => settled i (.inr ⟨yes, rfl⟩)
      have old := (recorded key hk).resolve_right fun new => idle new.1
      exact h.file whole (fun j hj => settled j (.inl hj)) key old
    · intro j q (hq : (if j = i then _ else w.passes j) = some q) still key hk
      split at hq
      next =>
        cases hq
        show key ∈ t.applied.keys
        cases yes : answer.isApplied with
        | true =>
          refine (records yes key).mpr ?_
          exact (recorded key hk).elim (fun old => .inr (knows key old)) fun new => .inl new.2
        | false =>
          rw [keeps yes]
          exact knows key ((recorded key hk).resolve_right fun new => absurd new.1 (by simp [yes]))
      next other =>
        have old := (recorded key hk).resolve_right fun new => other (still.2 new.1)
        exact h.held j q hq still.1 key old
    · intro j k still unsaved
      rcases unsaved with unsaved | ⟨yes, rfl⟩
      · exact h.alone j k still.1 unsaved
      · exact still.2 yes
    · intro j q (hq : (if j = i then _ else w.passes j) = some q) rewriting unsaved
      split at hq
      next =>
        cases hq
        have there : (if p.program = .daemon then PassStage.owing else .evaluating) = .rewriting := rewriting
        split at there <;> cases there
      next other =>
        rcases unsaved with unsaved | ⟨_, same⟩
        · exact h.cut j q hq rewriting unsaved
        · exact absurd same other
  | @truncate i p running may =>
    refine ⟨⟨h.log, nofun⟩, ?_, h.alone, fun _ _ _ _ _ => rfl⟩
    intro j q (hq : (if j = i then _ else w.passes j) = some q) current key hk
    split at hq
    next same =>
      cases hq
      subst same
      exact h.held j p running current key hk
    next => exact h.held j q hq current key hk
  | @finish i p running stage =>
    have knows := h.held i p running careful
    have recorded : ∀ key, ReceiptsEntry.recorded key ∈ w.log ++ [.written p.applied] → w.Recorded key := by
      intro key hk
      rcases List.mem_append.mp hk with hk | hk
      · exact hk
      · cases List.mem_singleton.mp hk
    refine ⟨⟨mindful_append h.log ?_, ?_⟩, ?_, ?_, ?_⟩
    · intro before entry after split
      cases before with
      | nil =>
        obtain ⟨rfl, _⟩ := List.cons.inj split
        intro key hk
        rw [List.append_nil] at hk
        exact knows key hk
      | cons first rest =>
        obtain ⟨_, none⟩ := List.cons.inj split
        exact absurd none.symm (by simp)
    · intro _ _ key hk
      exact (mem_keys_load named).mpr (knows key (recorded key hk))
    · intro j q (hq : (if j = i then p.finished else w.passes j) = some q) current key hk
      split at hq
      next =>
        unfold ReceiptsPass.finished at hq
        split at hq
        next =>
          cases hq
          exact knows key (recorded key hk)
        next => cases hq
      next => exact h.held j q hq current key (recorded key hk)
    · exact fun j k current unsaved => h.alone j k current unsaved.1
    · intro j q (hq : (if j = i then p.finished else w.passes j) = some q) rewriting unsaved
      split at hq
      next same => exact absurd same unsaved.2
      next other => exact absurd (h.alone i j careful unsaved.1).symm other
  | stop i =>
    refine ⟨⟨h.log, ?_⟩, ?_, ?_, ?_⟩
    · intro whole settled key hk
      by_cases unsaved : w.unsaved i
      · obtain ⟨p, running, stage⟩ := careful unsaved
        have gone := h.cut i p running stage unsaved
        have whole : w.text.isSome := whole
        rw [gone] at whole
        cases whole
      · refine h.file whole (fun j hj => ?_) key hk
        by_cases same : j = i
        · exact unsaved (same ▸ hj)
        · exact settled j ⟨hj, same⟩
    · intro j q (hq : (if j = i then _ else w.passes j) = some q) current key hk
      split at hq
      next => cases hq
      next => exact h.held j q hq current key hk
    · exact fun j k current unsaved => h.alone j k current unsaved.1
    · intro j q (hq : (if j = i then _ else w.passes j) = some q) stage unsaved
      split at hq
      next => cases hq
      next => exact h.cut j q hq stage unsaved.1
  | damage => exact ⟨⟨h.log, nofun⟩, h.held, h.alone, fun _ _ _ _ _ => rfl⟩

theorem Receipts.Moves.tail {g : Receipts → ReceiptsMove → Prop} {start : Receipts} {m : ReceiptsMove}
    (run : ReflTransGen (Receipts.Moves T path g) start w) (meets : g w m) (step : w.Step T path m w') :
    ReflTransGen (Receipts.Moves T path g) start w' := ReflTransGen.tail run ⟨m, meets, step⟩

theorem Receipts.Sound.run (plain : T.Plain) (named : path ≠ "") (h : w.Sound path)
    (run : ReflTransGen (Receipts.Moves T path Receipts.Careful) w w') : w'.Sound path := by
  induction run with
  | refl => exact h
  | tail _ moves ih =>
    obtain ⟨m, careful, step⟩ := moves
    exact ih.step plain named careful step

/-- The receipts file forgets nothing in a run whose passes promote and rewrite only while they are current. -/
theorem receipts_remembered (plain : T.Plain) (named : path ≠ "") (text : ReceiptsText)
    (run : ReflTransGen (Receipts.Moves T path Receipts.Careful) (Receipts.start path text) w) : w.Remembered path := by
  have start : (Receipts.start path text).Sound path := by
    refine ⟨⟨?_, ?_⟩, nofun, nofun, nofun⟩
    · intro before entry after split
      have mem : entry ∈ (loadRoadmapApplyLedger path text).keys.map ReceiptsEntry.recorded := by
        have same : (loadRoadmapApplyLedger path text).keys.map ReceiptsEntry.recorded = before ++ entry :: after := split
        rw [same]
        simp
      obtain ⟨key, _, rfl⟩ := List.mem_map.mp mem
      trivial
    · intro _ _ key hk
      obtain ⟨key', there, same⟩ := List.mem_map.mp hk
      cases same
      exact there
  exact (start.run plain named run).toRemembered

end

section Samples

def openBoard : GraphAdapter Unit where
  createGraph _ _ := ({ success := true, taskId := "n1" }, ())
  recordSourceReceipt _ _ := ()

/-- The promotion of a GO event that no ledger knows. -/
def freshPromotion : Except String (ApplyAnswer × ApplyState (Unit × Nat)) :=
  applyRoadmapPromotion asciiText (some (sliceRegistry "north-star")) (some armedPolicy) ((some openBoard).map GraphAdapter.counted)
    (goEvent "a1") ⟨[], [], ((), 0)⟩

theorem freshPromotion_applied : ∃ answer t, freshPromotion = .ok (answer, t) ∧ answer.isApplied = true ∧ t.board.2 ≠ 0 := by
  have applies : freshPromotion.toOption.any (fun r => r.1.isApplied && r.2.board.2 != 0) = true := by decide +kernel
  cases result : freshPromotion with
  | error e =>
    rw [result] at applies
    cases applies
  | ok r =>
    rw [result] at applies
    have both : (r.1.isApplied && r.2.board.2 != 0) = true := applies
    obtain ⟨yes, calls⟩ := Bool.and_eq_true_iff.mp both
    exact ⟨r.1, r.2, rfl, yes, bne_iff_ne.mp calls⟩

variable {w : Receipts} {i : Nat} {p : ReceiptsPass} {answer : ApplyAnswer} {t : ApplyState (Unit × Nat)}

theorem promotes_fresh (result : freshPromotion = .ok (answer, t)) (running : w.passes i = some p)
    (stage : p.stage = .evaluating) (unread : p.applied = []) :
    w.Step asciiText "receipts.json" (.promote i)
      { w.setPass i (some (p.promoted t.applied)) with
        log := w.log ++ promotionEntries asciiText answer t.board.2
        current := fun j => w.current j ∧ (answer.isApplied → j = i)
        unsaved := fun j => w.unsaved j ∨ (answer.isApplied ∧ j = i) } := by
  refine .promote (some (sliceRegistry "north-star")) (some armedPolicy) (some openBoard) (goEvent "a1") [] () running stage ?_
  rw [unread]
  exact result

theorem freshEntries (yes : answer.isApplied = true) (calls : t.board.2 ≠ 0) : promotionEntries asciiText answer t.board.2 =
    [.created (safeDurableRef asciiText answer.key), .recorded (safeDurableRef asciiText answer.key)] := by
  unfold promotionEntries
  rw [if_neg calls, if_pos yes]
  rfl

/-- One daemon pass over a file that is not there yet, to the end of its rewrite. -/
theorem firstPass (result : freshPromotion = .ok (answer, t)) : ∃ w : Receipts,
    ReflTransGen (Receipts.Moves asciiText "receipts.json" Receipts.Careful) (Receipts.start "receipts.json" none) w ∧
      w.log = promotionEntries asciiText answer t.board.2 ++ [.written t.applied] ∧ (∀ i, i ≠ 0 → w.passes i = none) := by
  have nothing : ∀ key, ¬(Receipts.start "receipts.json" none).Recorded key := fun key h => nomatch h
  have current : ((true ∧ (Receipts.start "receipts.json" none).text.isSome) ∨
      ∀ key, ¬(Receipts.start "receipts.json" none).Recorded key) ∧ ∀ k, ¬(Receipts.start "receipts.json" none).unsaved k :=
    ⟨.inr nothing, fun _ => id⟩
  have loaded := Receipts.Moves.tail (g := Receipts.Careful) (m := .load 0 .daemon true) .refl trivial
    (@Receipts.Step.load asciiText "receipts.json" (Receipts.start "receipts.json" none) 0 .daemon true rfl)
  have promoted := Receipts.Moves.tail loaded (m := .promote 0) current (promotes_fresh result rfl rfl rfl)
  have truncated := Receipts.Moves.tail promoted (m := .truncate 0) ⟨current, fun _ => rfl⟩
    (.truncate rfl (.inl ⟨rfl, rfl⟩))
  have finished := Receipts.Moves.tail truncated (m := .finish 0) ⟨current, fun _ => rfl⟩ (.finish rfl rfl)
  refine ⟨_, finished, rfl, fun i other => ?_⟩
  simp only [Receipts.setPass, other, if_false]
  rfl

theorem receipts_remembered_once : ∃ w : Receipts, (∃ key, w.Recorded key) ∧ w.Remembered "receipts.json" := by
  obtain ⟨answer, t, result, yes, calls⟩ := freshPromotion_applied
  obtain ⟨w, run, log, _⟩ := firstPass result
  refine ⟨w, ⟨safeDurableRef asciiText answer.key, ?_⟩, receipts_remembered asciiText_plain (by decide) none run⟩
  unfold Receipts.Recorded
  rw [log, freshEntries yes calls]
  simp

/-- A run of the CLI is killed while it rewrites the file, and the next pass creates the graph again. -/
theorem receipts_forgotten : ¬∀ text w, ReflTransGen (Receipts.Moves asciiText "receipts.json" fun _ _ => True)
    (Receipts.start "receipts.json" text) w → w.Remembered "receipts.json" := by
  intro claim
  obtain ⟨answer, t, result, yes, calls⟩ := freshPromotion_applied
  obtain ⟨w, run, log, free⟩ := firstPass result
  have allowed : ∀ u v, Receipts.Moves asciiText "receipts.json" Receipts.Careful u v →
      Receipts.Moves asciiText "receipts.json" (fun _ _ => True) u v := by
    rintro u v ⟨m, _, step⟩
    exact ⟨m, trivial, step⟩
  have first := ReflTransGen.mono allowed _ _ run
  have loaded := Receipts.Moves.tail first trivial (.load 1 .cli true (free 1 (by decide)))
  have truncated := Receipts.Moves.tail loaded (m := .truncate 1) trivial (.truncate rfl (.inr ⟨rfl, rfl⟩))
  have killed := Receipts.Moves.tail truncated trivial (.stop 1)
  have again := Receipts.Moves.tail killed trivial (.load 2 .daemon true (free 2 (by decide)))
  have promoted := Receipts.Moves.tail again (m := .promote 2) trivial (promotes_fresh result rfl rfl rfl)
  have mindful := (claim none _ promoted).log w.log (.created (safeDurableRef asciiText answer.key))
    [.recorded (safeDurableRef asciiText answer.key)] (congrArg (w.log ++ ·) (freshEntries yes calls))
  have known : ReceiptsEntry.recorded (safeDurableRef asciiText answer.key) ∈ w.log := by
    rw [log, freshEntries yes calls]
    simp
  exact mindful known

end Samples

end AgentflowHermes.Roadmap
