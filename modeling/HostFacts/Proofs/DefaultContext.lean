import HostFacts.Proofs.CommandProperties
import HostFacts.Proofs.Settled
import HostFacts.Registry

/-!
# The life of the default context

A program asks for the default context, calls operations on it, and installs contexts or discards
the default one, while the surroundings change in any way. The default context is made when it is
asked for and there is none, of what the surroundings hold at that moment. It then stays the default
one until another is installed; if it cannot be made, nothing is installed.

A turn of the program leaves a context alone unless it is a call and the context is the default one,
and then it is a move of a run on that context (`Stage.get_step`). So what is known of runs on one
context carries over to programs with many.

* `Context.create_eq_iff_makes`: what is made by default (`Context.Makes`);
* `Stage.default_eq_iff_serves`, `Stage.onDefault_eq_iff_answers`: which context serves (`Serves`),
  and what a call on it does (`Answers`);
* `Stage.length_after`, `Stage.creations_le_one`: while nothing is installed, it is made once at
  most;
* `Stage.fact_comes_back`: a fact of a context comes back with the context;
* **`Stage.default_context_lasts`**: all of this for every point of every program.
-/

namespace HostFacts

open Act HostFacts.Property

/-! ## Making a context -/

namespace Context

/-- The line that is logged before a property file is loaded. -/
def loadingLine (path : String) : LogLine :=
  ⟨.debug, .context, s!"Loading platform properties from {path}"⟩

/-- What is made by default, and the surroundings afterwards. -/
inductive Makes (w : World) : Except Fault Context → World → Prop
  /-- Without a variable, or with one that is empty, there is no file. -/
  | plain (h : (w.environ .process).get? configVariable = none ∨
      (w.environ .process).get? configVariable = some "") :
    Makes w (.ok (new (.table .empty))) w
  /-- Else the properties are what the file holds. -/
  | file {path : String} {pairs : List (String × String)}
    (h : (w.environ .process).get? configVariable = some path) (hp : path ≠ "")
    (hf : Table.Holds w.files (Path.normal path) pairs) :
    Makes w (.ok (new (.table ⟨.ofList pairs, .process⟩)))
      ((w.record (.log (loadingLine path))).record
        (.log (Table.loadedLine (Path.normal path) ⟨.ofList pairs, .process⟩)))
  /-- A file that does not load is the end of it. -/
  | bad {path : String} {e : Fault} (h : (w.environ .process).get? configVariable = some path)
    (hp : path ≠ "") (he : (Table.load .process path w).1 = .error e) :
    Makes w (.error e) (w.record (.log (loadingLine path)))

variable {w w' : World} {r : Except Fault Context}

theorem create_of_path {path : String} (h : (w.environ .process).get? configVariable = some path)
    (hp : path ≠ "") : create w = (Table.load .process path >>= fun t => pure (new (.table t)))
      (w.record (.log (loadingLine path))) := by
  have hg : (Act.get : Act World World) w = (.ok w, w) := rfl
  unfold create
  rw [bind_of_ok hg, h]
  simp only
  rfl

theorem create_of_makes (h : Makes w r w') : create w = (r, w') := by
  cases h with
  | plain h =>
    have hg : (Act.get : Act World World) w = (.ok w, w) := rfl
    unfold create
    rw [bind_of_ok hg]
    rcases h with h | h <;> simp only [h] <;> rfl
  | @file path pairs h hp hf =>
    have hl : (Table.load .process path (w.record (.log (loadingLine path)))).1 =
        .ok ⟨.ofList pairs, .process⟩ := Table.load_eq_ok_iff.mpr ⟨pairs, hf, rfl⟩
    rw [create_of_path h hp, bind_of_ok (Table.load_of_ok hl)]
    rfl
  | @bad path e h hp he =>
    have hl : (Table.load .process path (w.record (.log (loadingLine path)))).1 = .error e := by
      rw [← he, Table.fst_load, Table.fst_load]
      rfl
    rw [create_of_path h hp]
    exact bind_of_error (Table.load_of_error hl)

theorem exists_makes (w : World) : ∃ r w', Makes w r w' := by
  cases h : (w.environ .process).get? configVariable with
  | none => exact ⟨_, _, .plain (Or.inl h)⟩
  | some path =>
    by_cases hp : path = ""
    · exact ⟨_, _, .plain (Or.inr (h.trans (congrArg some hp)))⟩
    · cases hl : (Table.load .process path w).1 with
      | error e => exact ⟨_, _, .bad h hp hl⟩
      | ok t =>
        obtain ⟨pairs, hf, -⟩ := Table.load_eq_ok_iff.mp hl
        exact ⟨_, _, .file h hp hf⟩

/-- **What is made by default is what the rules say.** -/
theorem create_eq_iff_makes : create w = (r, w') ↔ Makes w r w' :=
  eq_iff_of_rules create_of_makes (exists_makes w)

end Context

/-! ## Registries -/

namespace Registry

variable {registry : Registry} {id : Nat}

/-- The context with a number that was given out. -/
theorem get_set (h : id < registry.contexts.length) (other : Nat) (c : Context) :
    ({ registry with contexts := registry.contexts.set other c } : Registry).get id =
      if other = id then c else registry.get id := by
  unfold Registry.get
  rw [List.getElem?_set]
  split
  · rename_i ho
    subst ho
    simp [h]
  · rfl

theorem get_add (h : id < registry.contexts.length) (c : Context) (current : Option Nat) :
    ({ registry.add c with current } : Registry).get id = registry.get id := by
  unfold Registry.get Registry.add
  rw [List.getElem?_append_left h]

/-- Whether there is a default context in the second registry only. -/
def gains (before after : Registry) : Nat :=
  if before.current.isNone && after.current.isSome then 1 else 0

theorem gains_le_one (before after : Registry) : gains before after ≤ 1 := by
  unfold gains
  split <;> decide

theorem gains_self (registry : Registry) : gains registry registry = 0 := by
  cases h : registry.current <;> simp [gains, h]

end Registry

/-! ## Turns -/

/-- A program between two turns: the contexts that were made, and the surroundings. -/
abbrev Stage := Registry × World

/-- A turn of a program. -/
inductive Turn where
  /-- The default context is asked for. -/
  | get
  /-- An operation is called on the default context. -/
  | call (op : Op)
  /-- A context is installed by its number, or the default one is discarded. -/
  | install (id : Option Nat)
  /-- A context over some properties is made, but not installed. -/
  | make (source : Source)
  /-- The surroundings change. -/
  | change (f : World → World)

namespace Turn

/-- Whether a turn installs a context or discards one. -/
def isInstall : Turn → Bool
  | install _ => true
  | _ => false

/-- Whether a turn makes a context that is not installed. -/
def isMake : Turn → Bool
  | make _ => true
  | _ => false

/-- What a turn does; contexts are answered with their numbers. -/
def run : Turn → Session Value
  | get => do return .int (← Session.default)
  | call op => Session.onDefault op.run
  | install id => do
    Session.install id
    return .null
  | make source => do return .int (← Session.add (Context.new source))
  | change f => do
    Act.modify fun s => (s.1, f s.2)
    return .null

/-- Makes a turn. The journal is begun anew, so it holds the events of this turn only. -/
def step (t : Turn) (s : Stage) : Outcome × Stage :=
  let (r, s') := t.run (s.1, s.2.clear)
  (⟨r, s'.2.journal.reverse⟩, s')

end Turn

namespace Stage

/-- The stage after some turns. -/
def after : List Turn → Stage → Stage
  | [], s => s
  | t :: ts, s => after ts (t.step s).2

/-- A turn with its outcome and the contexts afterwards. -/
structure Entry where
  turn : Turn
  outcome : Outcome
  registry : Registry

/-- The turns with what came of them. -/
def trace : List Turn → Stage → List Entry
  | [], _ => []
  | t :: ts, s => ⟨t, (t.step s).1, (t.step s).2.1⟩ :: trace ts (t.step s).2

/-- How often a default context is made. -/
def creations : List Turn → Stage → Nat
  | [], _ => 0
  | t :: ts, s =>
    (if t.isInstall then 0 else s.1.gains (t.step s).2.1) + creations ts (t.step s).2

/-! ## Which context serves -/

/-- Which context is the default one, and the stage afterwards. -/
inductive Serves (s : Stage) : Except Fault Nat → Stage → Prop
  /-- The one that is installed. -/
  | installed {id : Nat} (h : s.1.current = some id) : Serves s (.ok id) s
  /-- Else the one that is made of what the surroundings hold, and it is installed. -/
  | made {c : Context} {w : World} (h : s.1.current = none) (hc : Context.Makes s.2 (.ok c) w) :
    Serves s (.ok s.1.contexts.length)
      ({ s.1.add c with current := some s.1.contexts.length }, w)
  /-- If it cannot be made, nothing is installed. -/
  | failed {e : Fault} {w : World} (h : s.1.current = none) (hc : Context.Makes s.2 (.error e) w) :
    Serves s (.error e) (s.1, w)

variable {s s' s₁ : Stage} {r : Except Fault Nat} {id : Nat}

theorem default_of_current (h : s.1.current = some id) : Session.default s = (.ok id, s) := by
  have hg : (Act.get : Act Stage Stage) s = (.ok s, s) := rfl
  unfold Session.default
  rw [bind_of_ok hg]
  simp only [h]
  rfl

theorem default_of_none (h : s.1.current = none) :
    Session.default s =
      match Context.create s.2 with
      | (.ok c, w) => (.ok s.1.contexts.length,
        ({ s.1.add c with current := some s.1.contexts.length }, w))
      | (.error e, w) => (.error e, (s.1, w)) := by
  have hg : (Act.get : Act Stage Stage) s = (.ok s, s) := rfl
  unfold Session.default
  rw [bind_of_ok hg]
  simp only [h]
  rw [bind_apply]
  unfold Act.zoom
  rcases Context.create s.2 with ⟨_ | c, w⟩ <;> rfl

theorem default_of_serves (h : Serves s r s') : Session.default s = (r, s') := by
  cases h with
  | installed h => exact default_of_current h
  | made h hc => rw [default_of_none h, Context.create_of_makes hc]
  | failed h hc => rw [default_of_none h, Context.create_of_makes hc]

theorem exists_serves (s : Stage) : ∃ r s', Serves s r s' := by
  cases h : s.1.current with
  | some id => exact ⟨_, _, .installed h⟩
  | none =>
    obtain ⟨e | c, w, hm⟩ := Context.exists_makes s.2
    · exact ⟨_, _, .failed h hm⟩
    · exact ⟨_, _, .made h hm⟩

/-- **The default context is the one that the rules say.** -/
theorem default_eq_iff_serves : Session.default s = (r, s') ↔ Serves s r s' :=
  eq_iff_of_rules default_of_serves (exists_serves s)

/-- A context that serves is the default one afterwards. -/
theorem Serves.current (h : Serves s (.ok id) s') : s'.1.current = some id := by
  cases h with
  | installed h => exact h
  | made => rfl

/-- What a call on the default context answers, and the stage afterwards. -/
inductive Answers (op : Op) (s : Stage) : Except Fault Value → Stage → Prop
  /-- Without a default context there is no answer. -/
  | failed {e : Fault} {s' : Stage} (h : Serves s (.error e) s') : Answers op s (.error e) s'
  /-- Else the operation runs on the default context, and on no other. -/
  | served {id : Nat} {s₁ : Stage} {r : Except Fault Value} {c : Context} {w : World}
    (h : Serves s (.ok id) s₁) (hr : op.run (s₁.1.get id, s₁.2) = (r, (c, w))) :
    Answers op s r ({ s₁.1 with contexts := s₁.1.contexts.set id c }, w)

theorem onDefault_of_answers {op : Op} {r : Except Fault Value} (h : Answers op s r s') :
    Session.onDefault op.run s = (r, s') := by
  unfold Session.onDefault
  cases h with
  | failed h => exact bind_of_error (default_of_serves h)
  | served h hr =>
    rw [bind_of_ok (default_of_serves h)]
    unfold Act.zoom
    rw [hr]

theorem exists_answers (op : Op) (s : Stage) : ∃ r s', Answers op s r s' := by
  obtain ⟨e | id, s₁, hs⟩ := exists_serves s
  · exact ⟨_, _, .failed hs⟩
  · exact ⟨_, _, .served hs rfl⟩

/-- **A call is one on the default context.** -/
theorem onDefault_eq_iff_answers {op : Op} {r : Except Fault Value} :
    Session.onDefault op.run s = (r, s') ↔ Answers op s r s' :=
  eq_iff_of_rules onDefault_of_answers (exists_answers op s)

/-! ## One turn -/

variable {t : Turn}

theorem step_of_run {r : Except Fault Value} (h : t.run (s.1, s.2.clear) = (r, s')) :
    t.step s = (⟨r, s'.2.journal.reverse⟩, s') := by
  unfold Turn.step
  rw [h]

theorem step_get (h : Serves (s.1, s.2.clear) r s') :
    Turn.get.step s = (⟨r.map fun id : Nat => Value.int id, s'.2.journal.reverse⟩, s') := by
  refine step_of_run ?_
  show (Session.default >>= fun id => pure (Value.int id)) _ = _
  cases r with
  | error e => exact bind_of_error (default_of_serves h)
  | ok id => exact bind_of_ok (default_of_serves h)

theorem step_call {op : Op} {r : Except Fault Value} (h : Answers op (s.1, s.2.clear) r s') :
    (Turn.call op).step s = (⟨r, s'.2.journal.reverse⟩, s') :=
  step_of_run (onDefault_of_answers h)

/-- Asking for the default context makes a context only if there is a new default one. -/
theorem Serves.length (h : Serves s r s') :
    s'.1.contexts.length = s.1.contexts.length + s.1.gains s'.1 := by
  cases h with
  | installed => rw [Registry.gains_self, Nat.add_zero]
  | failed => rw [Registry.gains_self, Nat.add_zero]
  | @made c _ h _ => simp [Registry.gains, h, Registry.add]

/-- Asking for the default context changes no context that is there. -/
theorem Serves.get (h : Serves s r s') (hid : id < s.1.contexts.length) :
    s'.1.get id = s.1.get id := by
  cases h with
  | installed => rfl
  | failed => rfl
  | made => exact Registry.get_add hid _ _

theorem length_step (t : Turn) (s : Stage) : (t.step s).2.1.contexts.length =
    s.1.contexts.length + (if t.isMake then 1 else 0) +
      (if t.isInstall then 0 else s.1.gains (t.step s).2.1) := by
  cases t with
  | install other => rfl
  | change f => exact (congrArg (s.1.contexts.length + ·) s.1.gains_self).symm
  | make source =>
    show (s.1.contexts ++ [Context.new source]).length = s.1.contexts.length + 1 + s.1.gains s.1
    rw [Registry.gains_self, List.length_append]
    rfl
  | get =>
    obtain ⟨r, s', hs⟩ := exists_serves (s.1, s.2.clear)
    rw [step_get hs]
    exact hs.length
  | call op =>
    obtain ⟨r, s', ha⟩ := exists_answers op (s.1, s.2.clear)
    rw [step_call ha]
    cases ha with
    | failed hs => exact hs.length
    | served hs hr => exact (List.length_set ..).trans hs.length

theorem lt_length_step (hid : id < s.1.contexts.length) :
    id < (t.step s).2.1.contexts.length := by
  rw [length_step]
  omega

/-- **A turn leaves a context alone, unless it is a call and the context is the default one.** Then
it is a move of a run on this context. -/
theorem get_step (t : Turn) (s : Stage) (hid : id < s.1.contexts.length) :
    (t.step s).2.1.get id = s.1.get id ∨
      ∃ op, t = .call op ∧ (t.step s).2.1.current = some id ∧
        (Move.call op).step (s.1.get id, s.2) =
          ((t.step s).1, ((t.step s).2.1.get id, (t.step s).2.2)) := by
  cases t with
  | install other => exact Or.inl rfl
  | change f => exact Or.inl rfl
  | make source => exact Or.inl (Registry.get_add hid _ _)
  | get =>
    obtain ⟨r, s', hs⟩ := exists_serves (s.1, s.2.clear)
    rw [step_get hs]
    exact Or.inl (hs.get hid)
  | call op =>
    obtain ⟨r, s', ha⟩ := exists_answers op (s.1, s.2.clear)
    rw [step_call ha]
    cases ha with
    | failed hs => exact Or.inl (hs.get hid)
    | @served other s₁ _ c w hs hr =>
      have hlen : id < s₁.1.contexts.length := by
        rw [hs.length]
        exact Nat.lt_add_right _ hid
      have hset := Registry.get_set hlen other c
      by_cases ho : other = id
      · -- a context that was there already is the default one only if it is installed
        subst ho
        rw [if_pos rfl] at hset
        refine Or.inr ⟨op, rfl, hs.current, ?_⟩
        cases hs with
        | installed =>
          rw [Move.step_call hr]
          simp only [hset]
        | made => exact absurd hid (Nat.lt_irrefl _)
      · rw [if_neg ho] at hset
        exact Or.inl (hset.trans (hs.get hid))

theorem source_step (t : Turn) (hid : id < s.1.contexts.length) :
    ((t.step s).2.1.get id).source = (s.1.get id).source := by
  obtain h | ⟨op, -, -, hm⟩ := get_step t s hid
  · rw [h]
  · have hs : ((Move.call op).step (s.1.get id, s.2)).2.1.source = (s.1.get id).source :=
      op.source_run (s.1.get id, s.2.clear)
    rwa [hm] at hs

theorem current_step (h : s.1.current = some id) (ht : t.isInstall = false) :
    (t.step s).2.1.current = some id := by
  have hs : Serves (s.1, s.2.clear) (.ok id) (s.1, s.2.clear) := .installed h
  cases t with
  | install other => cases ht
  | make source => exact h
  | change f => exact h
  | get =>
    rw [step_get hs]
    exact h
  | call op =>
    rw [step_call (.served hs rfl)]
    exact h

/-! ## Many turns -/

/-- A property that no turn takes away holds after all turns. -/
theorem after_of_forall_step {P : Stage → Prop} {Q : Entry → Prop}
    (hstep : ∀ s t, P s → Q ⟨t, (t.step s).1, (t.step s).2.1⟩ → P (t.step s).2)
    {turns : List Turn} (hs : P s) (hQ : ∀ e ∈ trace turns s, Q e) : P (after turns s) := by
  induction turns generalizing s with
  | nil => exact hs
  | cons t ts ih =>
    rw [trace, List.forall_mem_cons] at hQ
    exact ih (hstep s t hs hQ.1) hQ.2

theorem isInstall_of_mem_trace {turns : List Turn} (h : ∀ t ∈ turns, t.isInstall = false) :
    ∀ e ∈ trace turns s, e.turn.isInstall = false := by
  induction turns generalizing s with
  | nil => simp [trace]
  | cons t ts ih =>
    rw [List.forall_mem_cons] at h
    rw [trace, List.forall_mem_cons]
    exact ⟨h.1, ih h.2⟩

variable {turns : List Turn}

/-- While nothing is installed, the default context stays the default one. -/
theorem current_after (h : s.1.current = some id) (ht : ∀ t ∈ turns, t.isInstall = false) :
    (after turns s).1.current = some id :=
  after_of_forall_step (P := fun s => s.1.current = some id)
    (Q := fun e => e.turn.isInstall = false) (fun _ _ => current_step) h (isInstall_of_mem_trace ht)

theorem source_after (hid : id < s.1.contexts.length) (turns : List Turn) :
    ((after turns s).1.get id).source = (s.1.get id).source := by
  induction turns generalizing s with
  | nil => rfl
  | cons t ts ih => exact (ih (lt_length_step hid)).trans (source_step t hid)

/-- Every context was made by a turn of its own or as a default one. -/
theorem length_after (turns : List Turn) (s : Stage) : (after turns s).1.contexts.length =
    s.1.contexts.length + turns.countP Turn.isMake + creations turns s := by
  induction turns generalizing s with
  | nil => rfl
  | cons t ts ih =>
    rw [after, ih, length_step, List.countP_cons, creations]
    omega

theorem creations_of_current (h : s.1.current = some id) (ht : ∀ t ∈ turns, t.isInstall = false) :
    creations turns s = 0 := by
  induction turns generalizing s with
  | nil => rfl
  | cons t ts ih =>
    obtain ⟨htt, hts⟩ := List.forall_mem_cons.mp ht
    rw [creations, ih (current_step h htt) hts]
    simp [Registry.gains, h]

/-- **While nothing is installed, a default context is made once at most.** -/
theorem creations_le_one (ht : ∀ t ∈ turns, t.isInstall = false) : creations turns s ≤ 1 := by
  induction turns generalizing s with
  | nil => exact Nat.zero_le 1
  | cons t ts ih =>
    obtain ⟨htt, hts⟩ := List.forall_mem_cons.mp ht
    rw [creations, htt]
    cases hc : (t.step s).2.1.current with
    | none => simpa [Registry.gains, hc] using ih hts
    | some id =>
      rw [creations_of_current hc hts]
      exact s.1.gains_le_one _

/-- A context that is never the default one stays as it is. -/
theorem get_after (hid : id < s.1.contexts.length)
    (h : ∀ e ∈ trace turns s, e.registry.current ≠ some id) :
    (after turns s).1.get id = s.1.get id := by
  refine (after_of_forall_step (P := fun s' => id < s'.1.contexts.length ∧ s'.1.get id = s.1.get id)
    (Q := fun e => e.registry.current ≠ some id) (fun s' t hs hn => ?_) ⟨hid, rfl⟩ h).2
  obtain hg | ⟨op, -, hc, -⟩ := get_step t s' hs.1
  · exact ⟨lt_length_step hs.1, hg.trans hs.2⟩
  · exact absurd hc hn

/-! ## Facts of a context -/

variable {F : Fact} {a : F.Val} {op : Op}

/-- A turn that gives up what a context knows of a fact: a call that frees the fact, where the
context is the default one. -/
def Frees (id : Nat) (F : Fact) (e : Entry) : Prop :=
  e.registry.current = some id ∧ ∃ op, e.turn = .call op ∧ F.Frees (.call op) e.outcome

/-- A settled fact of a context survives every turn that does not give it up. -/
theorem cell_after (hid : id < s.1.contexts.length) (hF : F.cell (s.1.get id) = .settled a)
    (hn : ∀ e ∈ trace turns s, ¬ Frees id F e) :
    F.cell ((after turns s).1.get id) = .settled a := by
  refine (after_of_forall_step
    (P := fun s => id < s.1.contexts.length ∧ F.cell (s.1.get id) = .settled a)
    (Q := fun e => ¬ Frees id F e) (fun s t hs hn => ?_) ⟨hid, hF⟩ hn).2
  refine ⟨lt_length_step hs.1, ?_⟩
  obtain hg | ⟨op, rfl, hc, hm⟩ := get_step t s hs.1
  · rw [hg]
    exact hs.2
  · -- the call is one on this context, and it does not free the fact
    have hf : ¬ F.Frees (.call op) ((Move.call op).step (s.1.get id, s.2)).1 := by
      rw [hm]
      exact fun h => hn ⟨hc, op, rfl, h⟩
    have hk := Fact.cell_step_of_not_frees (s := (s.1.get id, s.2)) hs.2 hf
    rwa [hm] at hk

/-- A call that settles a fact settles it in the default context. -/
theorem cell_of_settles (h : F.Settles a (.call op) ((Turn.call op).step s).1)
    (hc : ((Turn.call op).step s).2.1.current = some id)
    (hid : id < ((Turn.call op).step s).2.1.contexts.length) :
    F.cell (((Turn.call op).step s).2.1.get id) = .settled a := by
  obtain ⟨r, s', ha⟩ := exists_answers op (s.1, s.2.clear)
  rw [step_call ha] at h hc hid ⊢
  cases ha with
  | failed => cases h
  | @served other s₁ _ c w hs hr =>
    obtain rfl : other = id := Option.some.inj (hs.current.symm.trans hc)
    have hlen : other < s₁.1.contexts.length := by simpa using hid
    have hcell := Fact.cell_run_of_settles (s := (s₁.1.get other, s₁.2)) h (by rw [hr])
    rw [hr] at hcell
    rw [Registry.get_set hlen, if_pos rfl]
    exact hcell

/-- The getter of a fact that the default context has settled answers at once. -/
theorem step_getter (hc : s.1.current = some id) (hF : F.cell (s.1.get id) = .settled a) :
    ((Turn.call F.getter).step s).1 = ⟨.ok (F.toValue a), []⟩ := by
  have hr : F.getter.run (s.1.get id, s.2.clear) =
      (.ok (F.toValue a), (s.1.get id, s.2.clear)) := by
    rw [Fact.run_getter, bind_of_ok (Fact.ask_of_settled hF)]
    rfl
  have hs : Serves (s.1, s.2.clear) (.ok id) (s.1, s.2.clear) := .installed hc
  rw [step_call (.served hs hr)]
  rfl

/-- **A fact comes back with its context.** What a context knows, it answers at once when it is the
default one again, whatever happened in between, as long as the fact was not given up in it. -/
theorem fact_comes_back (hid : id < s.1.contexts.length) (hF : F.cell (s.1.get id) = .settled a)
    (hn : ∀ e ∈ trace turns s, ¬ Frees id F e) (hc : (after turns s).1.current = some id) :
    ((Turn.call F.getter).step (after turns s)).1 = ⟨.ok (F.toValue a), []⟩ :=
  step_getter hc (cell_after hid hF hn)

/-! ## The law -/

/-- If no default context can be made, nothing is installed, and the next try is a new one. -/
theorem serves_of_serves_error {e : Fault} (h : Serves s (.error e) s') :
    s'.1 = s.1 ∧ ∀ w c w', Context.Makes w (.ok c) w' →
      Serves (s'.1, w) (.ok s.1.contexts.length)
        ({ s.1.add c with current := some s.1.contexts.length }, w') := by
  cases h with
  | failed h => exact ⟨rfl, fun w c w' hw => .made h hw⟩

/-- **The default context lasts.** At every point of a program:

* the default context is the one that is installed, or else one that is made of what the
  surroundings hold at this moment, and it is installed; every call is one on this context;
* if it cannot be made, nothing is installed, and the next try is made in the surroundings of its
  own time;
* while nothing is installed, at most one default context is made, and once there is one, no change
  of the surroundings replaces it or its properties;
* to install a context changes no context, and a context that is not the default one stays as it is;
* what a context knows of a fact, by its getter or its setter, comes back with the context. -/
theorem default_context_lasts (s : Stage) :
    (∀ r s', Session.default s = (r, s') ↔ Serves s r s') ∧
    (∀ w r w', Context.create w = (r, w') ↔ Context.Makes w r w') ∧
    (∀ op r s', Session.onDefault op.run s = (r, s') ↔ Answers op s r s') ∧
    (∀ e s', Session.default s = (.error e, s') → s'.1 = s.1 ∧ ∀ w c w',
      Context.Makes w (.ok c) w' → Session.default (s'.1, w) = (.ok s.1.contexts.length,
        ({ s.1.add c with current := some s.1.contexts.length }, w'))) ∧
    (∀ turns, (after turns s).1.contexts.length =
      s.1.contexts.length + turns.countP Turn.isMake + creations turns s) ∧
    (∀ turns, (∀ t ∈ turns, t.isInstall = false) → creations turns s ≤ 1 ∧
      ∀ id, s.1.current = some id → creations turns s = 0 ∧
        (Turn.get.step (after turns s)).1 = ⟨.ok (.int id), []⟩ ∧
        (id < s.1.contexts.length →
          ((after turns s).1.get id).source = (s.1.get id).source)) ∧
    (∀ id, ((Turn.install id).step s).2.1 = { s.1 with current := id }) ∧
    (∀ turns id, id < s.1.contexts.length →
      (∀ e ∈ trace turns s, e.registry.current ≠ some id) →
      (after turns s).1.get id = s.1.get id) ∧
    (∀ op id (F : Fact) (a : F.Val), let s' := ((Turn.call op).step s).2
      F.Settles a (.call op) ((Turn.call op).step s).1 → s'.1.current = some id →
      id < s'.1.contexts.length → F.cell (s'.1.get id) = .settled a) ∧
    (∀ turns id (F : Fact) (a : F.Val), id < s.1.contexts.length →
      F.cell (s.1.get id) = .settled a → (∀ e ∈ trace turns s, ¬ Frees id F e) →
      (after turns s).1.current = some id →
      ((Turn.call F.getter).step (after turns s)).1 = ⟨.ok (F.toValue a), []⟩) := by
  refine ⟨fun _ _ => default_eq_iff_serves, fun _ _ _ => Context.create_eq_iff_makes,
    fun _ _ _ => onDefault_eq_iff_answers, fun e s' h => ?failed, fun turns => length_after turns s,
    fun turns ht => ⟨creations_le_one ht, fun id h => ⟨creations_of_current h ht, ?asked,
      fun hid => source_after hid turns⟩⟩,
    fun _ => rfl, fun _ _ => get_after, fun _ _ _ _ => cell_of_settles,
    fun _ _ _ _ => fact_comes_back⟩
  case failed =>
    obtain ⟨hs, hmade⟩ := serves_of_serves_error (default_eq_iff_serves.mp h)
    exact ⟨hs, fun w c w' hw => default_of_serves (hmade w c w' hw)⟩
  case asked =>
    have hs : Serves _ (.ok id) _ := .installed (s := ((after turns s).1, (after turns s).2.clear))
      (current_after h ht)
    rw [step_get hs]
    rfl

/-- A detected user comes back when another context was installed and given another user; and where
a file was missing, the next try makes the default context. -/
theorem detected_user_comes_back :
    let ann : Stage := (⟨[Context.new (.mapping (.ofList [("user.name", "ann")]))], some 0⟩, .empty)
    let s := ((Turn.call .user).step ann).2
    let misled := World.setVariable .process configVariable "missing.yml"
    let turns : List Turn := [.make (.mapping .empty), .install (some 1),
      .call (.setUser (some "bob")), .change misled, .install (some 0)]
    ((Turn.call .user).step (after turns s)).1 = ⟨.ok (.text "ann"), []⟩ ∧
      ∃ e w, Session.default (.empty, misled .empty) = (.error e, (.empty, w)) ∧
        Session.default (.empty, .empty) =
          (.ok 0, (⟨[Context.new (.table .empty)], some 0⟩, .empty)) := by
  intro ann s misled turns
  have hF : Fact.user.cell (s.1.get 0) = .settled "ann" :=
    (default_context_lasts ann).2.2.2.2.2.2.2.2.1 .user 0 .user "ann" (.read _) rfl (by decide)
  have hn : ∀ e ∈ trace turns s, ¬ Frees 0 .user e := by
    intro e he hf
    obtain ⟨hc, op, hop, -⟩ := hf
    simp only [turns, trace, List.mem_cons, List.not_mem_nil, or_false] at he
    rcases he with rfl | rfl | rfl | rfl | rfl
    · cases hop
    · cases hop
    · cases hc
    · cases hop
    · cases hop
  refine ⟨(default_context_lasts s).2.2.2.2.2.2.2.2.2 turns 0 .user "ann" (by decide) hF hn rfl, ?_⟩
  have hd : ∃ e w, Session.default (.empty, misled .empty) = (.error e, (.empty, w)) :=
    ⟨_, _, rfl⟩
  obtain ⟨e, w, hd⟩ := hd
  exact ⟨e, w, hd,
    ((default_context_lasts _).2.2.2.1 e _ hd).2 .empty _ _ (.plain (Or.inl rfl))⟩

end Stage

end HostFacts
