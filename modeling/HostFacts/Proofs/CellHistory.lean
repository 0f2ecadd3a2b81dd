import HostFacts.Cell
import HostFacts.World
import Mathlib.Data.List.DropRight

/-!
# What a cell shows follows from its history

A cell keeps one value or none, but all that it shows can be read off the uses that it had: reading
it calls the resolver exactly if no use has settled it since it was last cleared, and otherwise
answers with the value of the latest use that did. The resolver is a script, so each of its calls
may end in its own way, and a value may be anything, also one that stands for nothing.

* `Cell.current?`: the value that a history leaves, by the uses alone;
* `Cell.Use.Obeys`: what a use shows after a history;
* `Cell.Follows.use`: one use keeps the cell in step with its history;
* **`Cell.shows_what_history_says`**: every use of a run obeys the uses before it.
-/

namespace HostFacts

/-- Calls a script. -/
def Script.call {α : Type} : Act (Script α) α := fun s => (s.ends s.calls, ⟨s.ends, s.calls + 1⟩)

namespace Cell

variable {α : Type}

/-! ## Histories -/

/-- A use of a cell with what it showed: how it ended, and how often the resolver was called. -/
structure Use (α : Type) where
  step : Step α
  answer : Except Fault (Option α)
  calls : Nat

namespace Use

/-- The value that a use settles the cell at: what was read, or what was set. -/
def settles? : Use α → Option α
  | ⟨.get, .ok a, _⟩ => a
  | ⟨.override value, _, _⟩ => value
  | ⟨.force value, _, _⟩ => some value
  | _ => none

/-- Whether a use clears the cell. -/
def clears : Use α → Bool
  | ⟨.reset, _, _⟩ | ⟨.override none, _, _⟩ => true
  | _ => false

/-- Whether the resolver was called and gave a value. -/
def resolves (u : Use α) : Bool := 0 < u.calls && u.answer.isOk

end Use

/-- The uses since the cell was last cleared, or since it was made. -/
def sinceCleared (uses : List (Use α)) : List (Use α) := uses.rtakeWhile fun u => !u.clears

/-- The value of the latest use that settled the cell, if it was not cleared since. -/
def current? (uses : List (Use α)) : Option α :=
  ((sinceCleared uses).filterMap Use.settles?).getLast?

/-- How often the resolver was called. -/
def totalCalls : List (Use α) → Nat
  | [] => 0
  | u :: uses => u.calls + totalCalls uses

/-- **What a use shows after a history.** Reading calls the resolver once, or not at all; setting
and clearing never do, and answer nothing. -/
structure Use.Obeys (script : Script α) (past : List (Use α)) (u : Use α) : Prop where
  /-- Reading calls the resolver if nothing has settled the cell since it was last cleared. -/
  calls_iff : u.step = .get → (u.calls = 1 ↔ ∀ x ∈ sinceCleared past, x.settles? = none)
  calls_le : u.calls ≤ 1
  /-- It then ends as that call of the resolver does. -/
  resolved : u.step = .get → u.calls = 1 →
    u.answer = (script.ends (script.calls + totalCalls past)).map some
  /-- Otherwise it answers with the value of the latest use that settled the cell. -/
  kept : u.step = .get → u.calls = 0 → ∃ a, current? past = some a ∧ u.answer = .ok (some a)
  other : u.step ≠ .get → u.calls = 0 ∧ u.answer = .ok none

/-! ## Runs -/

/-- Uses a cell over a scripted resolver. -/
def use (step : Step α) (s : Cell α × Script α) : Use α × Cell α × Script α :=
  let (answer, s') := run Script.call step s
  (⟨step, answer, s'.2.calls - s.2.calls⟩, s')

/-- The cell and its resolver after a run. -/
def after : List (Step α) → Cell α × Script α → Cell α × Script α
  | [], s => s
  | step :: steps, s => after steps (use step s).2

/-- The uses of a run. -/
def history : List (Step α) → Cell α × Script α → List (Use α)
  | [], _ => []
  | step :: steps, s => (use step s).1 :: history steps (use step s).2

variable {script : Script α} {past : List (Use α)} {s : Cell α × Script α}

theorem map_step_history : ∀ (steps : List (Step α)) (s : Cell α × Script α),
    (history steps s).map Use.step = steps
  | [], _ => rfl
  | step :: steps, s => congrArg (step :: ·) (map_step_history steps (use step s).2)

/-- A history that falls into two parts comes from a run that does. -/
theorem exists_of_history_eq_append : ∀ {steps : List (Step α)} {s : Cell α × Script α}
    {l r : List (Use α)}, history steps s = l ++ r →
    ∃ a b, steps = a ++ b ∧ history a s = l ∧ history b (after a s) = r
  | steps, s, [], r, h => ⟨[], steps, rfl, rfl, h⟩
  | [], s, u :: l, r, h => by simp [history] at h
  | step :: steps, s, u :: l, r, h => by
    rw [history, List.cons_append, List.cons.injEq] at h
    obtain ⟨a, b, rfl, ha, hb⟩ := exists_of_history_eq_append h.2
    exact ⟨step :: a, b, rfl, by rw [history, ha, h.1], hb⟩

/-! ## The value that a history leaves -/

theorem current?_append (u : Use α) :
    current? (past ++ [u]) = if u.clears then none else u.settles?.or (current? past) := by
  unfold current? sinceCleared
  rw [List.rtakeWhile_concat]
  cases hc : u.clears with
  | true => rfl
  | false =>
    simp only [Bool.not_false, if_true, Bool.false_eq_true, if_false, List.filterMap_append]
    cases hu : u.settles? with
    | none => simp [hu]
    | some a => simp [hu]

theorem current?_eq_none_iff :
    current? past = none ↔ ∀ u ∈ sinceCleared past, u.settles? = none := by
  rw [current?, List.getLast?_eq_none_iff, List.filterMap_eq_nil_iff]

theorem totalCalls_append (u : Use α) : totalCalls (past ++ [u]) = totalCalls past + u.calls := by
  induction past with
  | nil => simp [totalCalls]
  | cons x past ih => rw [List.cons_append, totalCalls, totalCalls, ih, Nat.add_assoc]

/-! ## One use -/

/-- Reading a settled cell calls nothing. -/
theorem use_get_settled (a : α) (script : Script α) :
    use .get (settled a, script) = (⟨.get, .ok (some a), 0⟩, (settled a, script)) := by
  show ((⟨.get, .ok (some a), script.calls - script.calls⟩ : Use α), (settled a, script)) = _
  rw [Nat.sub_self]

/-- Reading an empty cell settles it at what the resolver gives, if it gives something. -/
theorem use_get_empty (script : Script α) :
    use .get (empty, script) =
      (⟨.get, (script.ends script.calls).map some, 1⟩,
        (ofOption (script.ends script.calls).toOption, ⟨script.ends, script.calls + 1⟩)) := by
  have hc : script.calls + 1 - script.calls = 1 := Nat.add_sub_cancel_left _ _
  have hr : run Script.call .get (empty, script) = ((script.ends script.calls).map some,
      (ofOption (script.ends script.calls).toOption, ⟨script.ends, script.calls + 1⟩)) := by
    simp only [run, read, Script.call, Act.bind_apply, Act.get_apply, Act.zoom]
    rcases script.ends script.calls with e | a <;> rfl
  unfold use
  rw [hr]
  simp only [hc]

/-- Setting and clearing call nothing. -/
theorem use_of_ne_get {step : Step α} (h : step ≠ .get) (c : Cell α) (script : Script α) :
    use step (c, script) =
      (⟨step, .ok none, 0⟩, (ofOption (Use.settles? ⟨step, .ok none, 0⟩), script)) := by
  have hc : script.calls - script.calls = 0 := Nat.sub_self _
  cases step with
  | get => exact absurd rfl h
  | _ =>
    show ((⟨_, .ok none, script.calls - script.calls⟩ : Use α), (_, script)) = _
    rw [hc]
    rfl

/-! ## Runs follow their history -/

/-- The cell holds what the past uses left, and the resolver was called for these only. -/
structure Follows (script : Script α) (past : List (Use α)) (s : Cell α × Script α) : Prop where
  cell : s.1 = ofOption (current? past)
  resolver : s.2 = ⟨script.ends, script.calls + totalCalls past⟩

theorem follows_start (script : Script α) : Follows script [] (empty, script) := ⟨rfl, rfl⟩

/-- **A use shows what the uses before it say**, whichever it is. -/
theorem Follows.obeys (h : Follows script past s) (step : Step α) :
    (use step s).1.Obeys script past := by
  obtain ⟨c, script'⟩ := s
  obtain ⟨rfl, rfl⟩ : c = ofOption (current? past) ∧ script' = _ := ⟨h.cell, h.resolver⟩
  by_cases hg : step = .get
  · subst hg
    cases hc : current? past with
    | none =>
      rw [ofOption, use_get_empty]
      exact ⟨fun _ => ⟨fun _ => current?_eq_none_iff.mp hc, fun _ => rfl⟩, Nat.le_refl 1,
        fun _ _ => rfl, fun _ h => absurd h Nat.one_ne_zero, fun h => absurd rfl h⟩
    | some a =>
      rw [ofOption, use_get_settled]
      refine ⟨fun _ => ⟨fun h => absurd h Nat.zero_ne_one, fun h => ?_⟩, Nat.zero_le 1,
        fun _ h => absurd h Nat.zero_ne_one, fun _ _ => ⟨a, hc, rfl⟩, fun h => absurd rfl h⟩
      rw [current?_eq_none_iff.mpr h] at hc
      cases hc
  · rw [use_of_ne_get hg]
    exact ⟨fun h => absurd h hg, Nat.zero_le 1, fun h => absurd h hg, fun h => absurd h hg,
      fun _ => ⟨rfl, rfl⟩⟩

/-- **One more use keeps the cell in step with its history.** -/
theorem Follows.use (h : Follows script past s) (step : Step α) :
    Follows script (past ++ [(use step s).1]) (use step s).2 := by
  obtain ⟨c, script'⟩ := s
  obtain ⟨rfl, rfl⟩ : c = ofOption (current? past) ∧ script' = _ := ⟨h.cell, h.resolver⟩
  by_cases hg : step = .get
  · subst hg
    cases hc : current? past with
    | none =>
      rw [ofOption, use_get_empty]
      refine ⟨?_, by rw [totalCalls_append, Nat.add_assoc]⟩
      rw [current?_append, hc]
      rcases script.ends _ with e | a <;> rfl
    | some a =>
      rw [ofOption, use_get_settled]
      exact ⟨by rw [current?_append, hc]; rfl, by rw [totalCalls_append]; rfl⟩
  · rw [use_of_ne_get hg]
    refine ⟨?_, by rw [totalCalls_append]; rfl⟩
    rw [current?_append]
    cases step with
    | get => exact absurd rfl hg
    | override value => cases value <;> rfl
    | force value => rfl
    | reset => rfl

theorem Follows.after : ∀ {steps : List (Step α)} {past : List (Use α)} {s : Cell α × Script α},
    Follows script past s → Follows script (past ++ history steps s) (after steps s)
  | [], past, s, h => by
    rw [history, List.append_nil]
    exact h
  | step :: steps, past, s, h => by
    rw [history, List.append_cons]
    exact (h.use step).after

/-- Every use of a run obeys the uses before it. -/
theorem Follows.history_obeys (h : Follows script past s) {steps : List (Step α)}
    {before rest : List (Use α)} {u : Use α} (hu : history steps s = before ++ u :: rest) :
    u.Obeys script (past ++ before) := by
  obtain ⟨a, b, -, rfl, hb⟩ := exists_of_history_eq_append hu
  cases b with
  | nil => cases hb
  | cons step b =>
    obtain ⟨rfl, -⟩ := List.cons.inj hb
    exact h.after.obeys step

/-! ## The resolver succeeds once -/

/-- As long as nothing clears the cell the resolver succeeds once at most, and not at all if the
cell is settled already. -/
theorem countP_resolves_le : ∀ (steps : List (Step α)) (s : Cell α × Script α),
    (∀ u ∈ history steps s, u.clears = false) →
      (history steps s).countP Use.resolves ≤ if s.1.isSettled then 0 else 1
  | [], s, _ => by simp [history]
  | step :: steps, (c, script), h => by
    have ih := countP_resolves_le steps (Cell.use step (c, script)).2
      fun u hu => h u (List.mem_cons_of_mem _ hu)
    have hn := h _ List.mem_cons_self
    rw [history, List.countP_cons]
    by_cases hg : step = .get
    · subst hg
      cases c with
      | settled a =>
        rw [use_get_settled] at ih ⊢
        exact ih
      | empty =>
        rw [use_get_empty] at ih ⊢
        rcases hr : script.ends script.calls with e | a <;> rw [hr] at ih
        · exact ih
        · exact Nat.add_le_add_right ih 1
    · rw [use_of_ne_get hg] at ih hn ⊢
      cases step with
      | get => exact absurd rfl hg
      | reset => cases hn
      | override value =>
        cases value with
        | none => cases hn
        | some a => exact ih.trans (Nat.zero_le _)
      | force a => exact ih.trans (Nat.zero_le _)

/-- **What a cell shows follows from its history.** Every use of a run obeys the uses before it; the
cell is settled exactly if a use has settled it since it was last cleared; and as long as it is not
cleared, the resolver succeeds at most once. -/
theorem shows_what_history_says (script : Script α) (steps : List (Step α)) :
    let uses := history steps (.empty, script)
    uses.map Use.step = steps ∧
      (∀ past u rest, uses = past ++ u :: rest → u.Obeys script past) ∧
      ((after steps (.empty, script)).1.isSettled = true ↔
        ∃ u ∈ sinceCleared uses, u.settles? ≠ none) ∧
      ∀ past cycle rest, uses = past ++ cycle ++ rest → (∀ u ∈ cycle, u.clears = false) →
        cycle.countP Use.resolves ≤ 1 := by
  intro uses
  refine ⟨map_step_history _ _, fun past u rest h => (follows_start script).history_obeys h, ?_,
    fun past cycle rest h hc => ?_⟩
  · have hcell : (after steps (.empty, script)).1 = ofOption (current? uses) :=
      (follows_start script).after.cell
    have hn : current? uses = none ↔ ∀ u ∈ sinceCleared uses, u.settles? = none :=
      current?_eq_none_iff
    rw [hcell]
    cases hu : current? uses with
    | none => simpa [ofOption, isSettled] using hn.mp hu
    | some a =>
      rw [hu] at hn
      simpa [ofOption, isSettled] using hn
  · rw [List.append_assoc] at h
    obtain ⟨a, b, -, -, hb⟩ := exists_of_history_eq_append h
    obtain ⟨a', b', -, rfl, -⟩ := exists_of_history_eq_append hb
    exact (countP_resolves_le a' _ hc).trans (by split <;> simp)

example : (history [.get, .force none, .get, .override none, .get, .get]
    (.empty, (⟨fun k => if k = 0 then .error .nullCharacter else .ok (some 7), 0⟩ :
      Script (Option Nat)))).map (fun u => (u.answer.toOption, u.calls)) =
    [(none, 1), (some none, 0), (some (some none), 0), (some none, 0), (some (some (some 7)), 1),
      (some (some (some 7)), 0)] := rfl

end Cell

end HostFacts
