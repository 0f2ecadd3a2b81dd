import HostFacts.Proofs.Asking

/-!
# Runs

A run is a list of moves: operations are called, and between two calls the properties, the
environments or the source of working directories may be changed from outside. Each move has an
outcome: the answer or the fault, and the events on the way, that is the properties read, the
providers called and the lines logged.

* `exists_of_trace_eq_append`, `exists_of_trace_eq_cons`: the runs behind the parts of a trace;
* `after_of_forall_step`: what each move of a run keeps, the run keeps;
* `Fact.run_set_of_ok`, `Fact.run_set_of_error`: what the setter of a fact does;
* `Op.source_run`, `exists_mapping_after`: calls change no properties; a plain mapping stays one.
-/

namespace HostFacts

open Act Query

/-- A context in its surroundings. -/
abbrev Scene := Context × World

/-- One move of a run. -/
inductive Move where
  | call (op : Op)
  /-- A source of working directories is handed over and plugged in. -/
  | plug (source : Script (Option String))
  /-- A property of a plain mapping is set. -/
  | put (name value : String)
  /-- A property of a plain mapping is removed. -/
  | erase (name : String)
  | setVariable (o : Origin) (name value : String)
  | unsetVariable (o : Origin) (name : String)

/-- How a move ended, and what happened on the way, in order. -/
structure Outcome where
  answer : Except Fault Value
  events : List Event

namespace Move

/-- What a move does; changes from outside answer null. -/
def run : Move → Query Value
  | call op => op.run
  | plug source => do
    let (_, w) ← Act.get
    Act.modify fun s => (s.1, s.2.addSource source)
    setDirectorySource (some w.sources.length)
    return .null
  | put name value => do
    update fun c => { c with source := c.source.put name value }
    return .null
  | erase name => do
    update fun c => { c with source := c.source.erase name }
    return .null
  | setVariable o name value => do
    Act.modify fun s => (s.1, s.2.setVariable o name value)
    return .null
  | unsetVariable o name => do
    Act.modify fun s => (s.1, s.2.unsetVariable o name)
    return .null

/-- Makes a move. The journal is begun anew, so it holds the events of this move only. -/
def step (m : Move) (s : Scene) : Outcome × Scene :=
  let (r, s') := m.run (s.1, s.2.clear)
  (⟨r, s'.2.journal.reverse⟩, s')

theorem step_fst (m : Move) (s : Scene) :
    (m.step s).1 =
      ⟨(m.run (s.1, s.2.clear)).1, (m.run (s.1, s.2.clear)).2.2.journal.reverse⟩ := rfl

theorem step_call {op : Op} {c c' : Context} {w w' : World} {r : Except Fault Value}
    (h : op.run (c, w.clear) = (r, (c', w'))) :
    (call op).step (c, w) = (⟨r, w'.journal.reverse⟩, (c', w')) := by
  have hr : (call op).run (c, w.clear) = (r, (c', w')) := h
  unfold step
  rw [hr]

end Move

/-- The scene after a run. -/
def after : List Move → Scene → Scene
  | [], s => s
  | m :: ms, s => after ms (m.step s).2

/-- The moves of a run with their outcomes. -/
def trace : List Move → Scene → List (Move × Outcome)
  | [], _ => []
  | m :: ms, s => (m, (m.step s).1) :: trace ms (m.step s).2

/-! ## Runs in parts -/

/-- A trace that falls into two parts comes from a run that does. -/
theorem exists_of_trace_eq_append : ∀ {moves : List Move} {s : Scene}
    {l r : List (Move × Outcome)}, trace moves s = l ++ r →
    ∃ a b, moves = a ++ b ∧ trace a s = l ∧ trace b (after a s) = r
  | moves, s, [], r, h => ⟨[], moves, rfl, rfl, h⟩
  | [], s, e :: l, r, h => by simp [trace] at h
  | m :: ms, s, e :: l, r, h => by
    rw [trace, List.cons_append, List.cons.injEq] at h
    obtain ⟨a, b, rfl, ha, hb⟩ := exists_of_trace_eq_append h.2
    exact ⟨m :: a, b, rfl, by rw [trace, ha, h.1], hb⟩

/-- A trace that begins with a move comes from a run that does. -/
theorem exists_of_trace_eq_cons {moves : List Move} {m : Move} {o : Outcome}
    {s : Scene} {l : List (Move × Outcome)} (h : trace moves s = (m, o) :: l) :
    ∃ ms, moves = m :: ms ∧ o = (m.step s).1 ∧ trace ms (m.step s).2 = l := by
  cases moves with
  | nil => simp [trace] at h
  | cons m' ms =>
    rw [trace, List.cons.injEq, Prod.mk.injEq] at h
    obtain ⟨⟨rfl, rfl⟩, hl⟩ := h
    exact ⟨ms, rfl, rfl, hl⟩

/-- **A property that no move of a run takes away holds after the run.** -/
theorem after_of_forall_step {P : Scene → Prop} {Q : Move → Outcome → Prop}
    (hstep : ∀ s m, P s → Q m (m.step s).1 → P (m.step s).2) :
    ∀ (moves : List Move) (s : Scene), P s → (∀ e ∈ trace moves s, Q e.1 e.2) → P (after moves s)
  | [], _, hs, _ => hs
  | m :: ms, s, hs, hQ => by
    have hm : Q m (m.step s).1 := hQ (m, (m.step s).1) List.mem_cons_self
    exact after_of_forall_step hstep ms (m.step s).2 (hstep s m hs hm)
      fun e he => hQ e (List.mem_cons_of_mem _ he)

theorem after_append : ∀ (a b : List Move) (s : Scene), after (a ++ b) s = after b (after a s)
  | [], _, _ => rfl
  | m :: a, b, s => after_append a b (m.step s).2

/-- A step does not depend on the journal that it finds. -/
theorem trace_clear (moves : List Move) (c : Context) (w : World) :
    trace moves (c, w.clear) = trace moves (c, w) := by
  cases moves <;> rfl

/-! ## Setters -/

/-- The six setters that a reset calls leave a context that knows nothing. -/
theorem run_reset (c : Context) (w : World) :
    Op.reset.run (c, w) = (.ok .null, (Context.new c.source, w)) := rfl

theorem run_setDirectorySource (id : Option Nat) (c : Context) (w : World) :
    (Op.setDirectorySource id).run (c, w) =
      (.ok .null, ({ c with directorySource := id }, w)) := rfl

namespace Fact

/-- What a call of the setter of a fact leaves in its cell, or the fault it ends with; nothing for
all other calls. -/
def set? : (F : Fact) → Op → Option (Except Fault (Cell F.Val))
  | osType, .setOsType value =>
    some (.ok (Cell.ofOption (value.map fun v => OsFamily.normalize (some v))))
  | constrainedRuntime, .setConstrainedRuntime value => some (.ok (Cell.ofOption value))
  | alternateVm, .setAlternateVm value => some (.ok (Cell.ofOption value))
  | user, .setUser value => some (.ok (Cell.ofOption value))
  | version, .setVersion value => some (.ok (Cell.ofOption value))
  | version, .setVersionText raw =>
    some ((Version.parse (some (Version.sanitize raw))).map Cell.settled)
  | _, _ => none

/-- Whether a call is one of the setter of a fact. -/
def isSetter (F : Fact) (op : Op) : Bool := (F.set? op).isSome

theorem run_setVersionText (raw : String) (c : Context) (w : World) :
    (Op.setVersionText raw).run (c, w) =
      match Version.parse (some (Version.sanitize raw)) with
      | .ok v => (.ok .null, (version.put (.settled v) c, w))
      | .error e => (.error e, (c, w)) := by
  simp only [Op.run, setVersionText, bind_assoc]
  rw [bind_apply, ofExcept_apply]
  cases Version.parse (some (Version.sanitize raw)) with
  | error e => rfl
  | ok v => rfl

/-- **A setter leaves the cell that its argument gives.** -/
theorem run_set_of_ok {F : Fact} {op : Op} {a : Cell F.Val} (h : F.set? op = some (.ok a))
    (c : Context) (w : World) : op.run (c, w) = (.ok .null, (F.put a c, w)) := by
  cases F <;> cases op <;> simp only [set?, Option.some.injEq, Except.ok.injEq, reduceCtorEq] at h
  case version.setVersionText raw =>
    rw [run_setVersionText]
    cases hp : Version.parse (some (Version.sanitize raw)) with
    | error e => rw [hp] at h; cases h
    | ok v => rw [hp] at h; cases h; rfl
  all_goals subst h; rfl

/-- A setter that fails leaves all as it was. -/
theorem run_set_of_error {F : Fact} {op : Op} {e : Fault} (h : F.set? op = some (.error e))
    (c : Context) (w : World) : op.run (c, w) = (.error e, (c, w)) := by
  cases F <;> cases op <;> simp only [set?, Option.some.injEq, reduceCtorEq] at h
  case version.setVersionText raw =>
    rw [run_setVersionText]
    cases hp : Version.parse (some (Version.sanitize raw)) with
    | error e => rw [hp] at h; cases h; rfl
    | ok v => rw [hp] at h; cases h

/-- The setter of a fact touches its cell only. -/
theorem parts_of_set {F : Fact} {op : Op} {r : Except Fault (Cell F.Val)} (h : F.set? op = some r) :
    op.parts = [.fact F] := by
  cases F <;> cases op <;> first | rfl | simp [set?] at h

/-- Every setting is of one fact, of the source of directories, or of all. -/
theorem exists_set_of_isSetting {op : Op} (h : op.isSetting = true) :
    op = .reset ∨ (∃ id, op = .setDirectorySource id) ∨
      ∃ (F : Fact) (r : _), F.set? op = some r := by
  cases op with
  | reset => exact Or.inl rfl
  | setDirectorySource id => exact Or.inr (Or.inl ⟨id, rfl⟩)
  | setOsType _ => exact Or.inr (Or.inr ⟨osType, _, rfl⟩)
  | setConstrainedRuntime _ => exact Or.inr (Or.inr ⟨constrainedRuntime, _, rfl⟩)
  | setAlternateVm _ => exact Or.inr (Or.inr ⟨alternateVm, _, rfl⟩)
  | setUser _ => exact Or.inr (Or.inr ⟨user, _, rfl⟩)
  | setVersion _ => exact Or.inr (Or.inr ⟨version, _, rfl⟩)
  | setVersionText _ => exact Or.inr (Or.inr ⟨version, _, rfl⟩)
  | _ => simp [Op.isSetting] at h

end Fact

/-! ## Property sources -/

/-- No call gives a context other properties. -/
theorem Op.source_run (op : Op) (s : Scene) : (op.run s).2.1.source = s.1.source := by
  obtain ⟨c, w⟩ := s
  cases hop : op.isSetting with
  | false => exact (Query.within_run Query.within_extends hop (c, w)).source
  | true =>
    rcases Fact.exists_set_of_isSetting hop with rfl | ⟨id, rfl⟩ | ⟨F, e | a, hF⟩
    · rfl
    · rfl
    · rw [Fact.run_set_of_error hF]
    · rw [Fact.run_set_of_ok hF]
      exact Fact.source_put a

/-- A context over a plain mapping stays over one. -/
theorem exists_mapping_after {s : Scene} (hs : ∃ entries, s.1.source = .mapping entries)
    (moves : List Move) : ∃ entries, (after moves s).1.source = .mapping entries := by
  refine after_of_forall_step (P := fun s => ∃ entries, s.1.source = .mapping entries)
    (Q := fun _ _ => True) (fun s m hs _ => ?_) moves s hs fun _ _ => trivial
  obtain ⟨entries, hs⟩ := hs
  cases m with
  | call op => exact ⟨entries, (op.source_run (s.1, s.2.clear)).trans hs⟩
  | put name value => exact ⟨_, congrArg (Source.put name value) hs⟩
  | erase name => exact ⟨_, congrArg (Source.erase name) hs⟩
  | plug _ | setVariable _ _ _ | unsetVariable _ _ => exact ⟨entries, hs⟩

end HostFacts
