import HostFacts.Proofs.Effects

/-!
# The five facts

Five facts of a context are remembered in cells: the type of the operating system, the two traits,
the user and the version. `Fact.ask` is the one rule by which all of them are answered: a settled
cell answers at once, and an empty one is resolved by working the fact out.

* `Fact.ask_of_settled`: a settled fact is answered without touching anything;
* `Fact.ask_of_empty`: an unsettled one is answered by its full resolution;
* `Context.Extends`: a context that knows at least as much as another one.
-/

namespace HostFacts

open Act Query

/-- The facts that a context remembers. -/
inductive Fact where
  | osType
  | constrainedRuntime
  | alternateVm
  | user
  | version
  deriving DecidableEq, Repr

namespace Fact

/-- What a fact is answered with. -/
abbrev Val : Fact → Type
  | osType => String
  | constrainedRuntime => Bool
  | alternateVm => Bool
  | user => String
  | version => Version

/-- The cell of a fact. -/
def cell : (F : Fact) → Context → Cell F.Val
  | osType => Context.osType
  | constrainedRuntime => Context.constrainedRuntime
  | alternateVm => Context.alternateVm
  | user => Context.user
  | version => Context.version

/-- The context with another cell for a fact. -/
def put : (F : Fact) → Cell F.Val → Context → Context
  | osType => fun cell c => { c with osType := cell }
  | constrainedRuntime => fun cell c => { c with constrainedRuntime := cell }
  | alternateVm => fun cell c => { c with alternateVm := cell }
  | user => fun cell c => { c with user := cell }
  | version => fun cell c => { c with version := cell }

/-- How a fact is worked out when it is not known. -/
def workOut : (F : Fact) → Query F.Val
  | osType => detectOsType
  | constrainedRuntime => detect .constrainedRuntime
  | alternateVm => detect .alternateVm
  | user => detectUser
  | version => detectVersion

/-- The value of a fact as an answer. -/
def toValue : (F : Fact) → F.Val → Value
  | osType => .text
  | constrainedRuntime => .bool
  | alternateVm => .bool
  | user => .text
  | version => .version

/-- The operation that asks for a fact. -/
def getter : Fact → Op
  | osType => .osType
  | constrainedRuntime => .isConstrainedRuntime
  | alternateVm => .isAlternateVm
  | user => .user
  | version => .version

/-- Asks for a fact. -/
def ask (F : Fact) : Query F.Val := remember F.cell F.put F.workOut

/-- Works a fact out and settles it, whatever was known before. -/
def resolve (F : Fact) : Query F.Val := do
  let a ← F.workOut
  update (F.put (.settled a))
  return a

variable {F G : Fact} {c : Context}

theorem run_getter (F : Fact) : F.getter.run = do return F.toValue (← F.ask) := by
  cases F <;> rfl

theorem toValue_injective : Function.Injective F.toValue := by
  intro a b h
  cases F <;> exact (by injection h)

/-! ## Cells of a context -/

@[simp] theorem cell_put (a : Cell F.Val) : F.cell (F.put a c) = a := by cases F <;> rfl

theorem cell_put_of_ne (h : F ≠ G) (a : Cell F.Val) : G.cell (F.put a c) = G.cell c := by
  cases F <;> cases G <;> first | rfl | exact absurd rfl h

@[simp] theorem put_cell : F.put (F.cell c) c = c := by cases F <;> rfl

@[simp] theorem source_put (a : Cell F.Val) : (F.put a c).source = c.source := by cases F <;> rfl

@[simp] theorem directorySource_put (a : Cell F.Val) :
    (F.put a c).directorySource = c.directorySource := by cases F <;> rfl

@[simp] theorem cell_new (source : Source) : F.cell (Context.new source) = .empty := by
  cases F <;> rfl

@[simp] theorem cell_withSource (source : Source) : F.cell { c with source } = F.cell c := by
  cases F <;> rfl

@[simp] theorem cell_withDirectorySource (directorySource : Option Nat) :
    F.cell { c with directorySource } = F.cell c := by cases F <;> rfl

/-! ## Asking -/

variable {w : World}

/-- **A settled fact is answered at once**, and nothing changes, not even the surroundings. -/
theorem ask_of_settled {a : F.Val} (h : F.cell c = .settled a) :
    F.ask (c, w) = (.ok a, (c, w)) := by
  have hp : F.put (.settled a) c = c := by rw [← h, put_cell]
  have hc : context (c, w) = (.ok c, (c, w)) := rfl
  unfold ask remember
  rw [bind_of_ok hc, h]
  show (.ok a, (F.put (.settled a) c, w)) = (Except.ok a, (c, w))
  rw [hp]

/-- **An unsettled fact is resolved in full.** -/
theorem ask_of_empty (h : F.cell c = .empty) : F.ask (c, w) = F.resolve (c, w) := by
  have hc : context (c, w) = (.ok c, (c, w)) := rfl
  unfold ask remember
  rw [bind_of_ok hc, h]
  show ((F.workOut >>= fun a => pure (a, Cell.settled a)) >>= _) (c, w) = _
  rw [bind_assoc]
  rfl

theorem resolve_of_ok {c' : Context} {w' : World} {a : F.Val}
    (h : F.workOut (c, w) = (.ok a, (c', w'))) :
    F.resolve (c, w) = (.ok a, (F.put (.settled a) c', w')) := bind_of_ok h

theorem resolve_of_error {c' : Context} {w' : World} {e : Fault}
    (h : F.workOut (c, w) = (.error e, (c', w'))) : F.resolve (c, w) = (.error e, (c', w')) :=
  bind_of_error h

theorem fst_resolve (s : Context × World) : (F.resolve s).1 = (F.workOut s).1 := by
  rcases hx : F.workOut s with ⟨e | a, s'⟩
  · rw [resolve_of_error hx]
  · rw [resolve_of_ok hx]

/-- The answer is what the cell holds or what working the fact out gives. -/
theorem fst_ask (s : Context × World) :
    (F.ask s).1 =
      match F.cell s.1 with
      | .settled a => .ok a
      | .empty => (F.workOut s).1 := by
  cases hc : F.cell s.1 with
  | settled a => rw [ask_of_settled hc]
  | empty => rw [ask_of_empty hc, fst_resolve]

/-- A fact that was answered is settled afterwards. -/
theorem cell_of_ask_ok {c' : Context} {w' : World} {a : F.Val}
    (h : F.ask (c, w) = (.ok a, (c', w'))) : F.cell c' = .settled a := by
  cases hc : F.cell c with
  | settled b =>
    rw [ask_of_settled hc] at h
    cases h
    exact hc
  | empty =>
    rw [ask_of_empty hc] at h
    rcases hx : F.workOut (c, w) with ⟨e | b, c₁, w₁⟩
    · rw [resolve_of_error hx] at h
      cases h
    · rw [resolve_of_ok hx] at h
      cases h
      exact cell_put _

/-- A fact that was not answered was not known, and could not be worked out. -/
theorem workOut_of_ask_error {s s' : Context × World} {e : Fault} (h : F.ask s = (.error e, s')) :
    F.cell s.1 = .empty ∧ F.workOut s = (.error e, s') := by
  cases hc : F.cell s.1 with
  | settled a =>
    rw [ask_of_settled hc] at h
    cases h
  | empty =>
    rw [ask_of_empty hc] at h
    rcases bind_eq_error_iff.mp h with hx | ⟨a, t, -, ha⟩
    · exact ⟨rfl, hx⟩
    · cases ha

end Fact

/-! ## What a context knows -/

/-- A context that knows all that another one knows, and reads from the same places. -/
structure Context.Extends (c c' : Context) : Prop where
  source : c'.source = c.source
  directorySource : c'.directorySource = c.directorySource
  cell : ∀ (F : Fact) (a : F.Val), F.cell c = .settled a → F.cell c' = .settled a

namespace Context

instance : IsPreorder Context Extends where
  refl _ := ⟨rfl, rfl, fun _ _ h => h⟩
  trans _ _ _ h h' :=
    ⟨h'.source.trans h.source, h'.directorySource.trans h.directorySource,
      fun F a ha => h'.cell F a (h.cell F a ha)⟩

/-- Settling a fact that was not settled forgets nothing. -/
theorem Extends.put {c c' : Context} {F : Fact} (h : c.Extends c') (hF : F.cell c = .empty)
    (a : F.Val) : c.Extends (F.put (.settled a) c') := by
  refine ⟨(Fact.source_put _).trans h.source, (Fact.directorySource_put _).trans h.directorySource,
    fun G b hb => ?_⟩
  by_cases hFG : F = G
  · subst hFG
    rw [hF] at hb
    cases hb
  · rw [Fact.cell_put_of_ne hFG]
    exact h.cell G b hb

end Context

end HostFacts
