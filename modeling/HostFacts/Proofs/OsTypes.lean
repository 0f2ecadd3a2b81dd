import HostFacts.Proofs.LetterCase
import HostFacts.Proofs.Settled

/-!
# Types of operating systems are normal forms

Two ways lead into the cell for the type of the operating system, detection and the setter, and both
take the normal form of a name. So whatever is known of it is a normal form, and to set the type
that was read changes nothing.

The invariant is one of any fact: what is guaranteed of each value that its detection and its
setters give (`Fact.Gives`) holds of all that a run leaves in its cell (`Fact.only_after`).

* `OsFamily.normal_normalize`: the normal form of a name is a normal form;
* `Context.KeepsOnly`, `Fact.within_keepsOnly`: asking brings in detected values only;
* `Fact.only_step`, `Fact.only_after`: the invariant for one move and for runs;
* **`os_type_read_is_normal`**: the law for types of operating systems.
-/

namespace HostFacts

open Act Query HostFacts.Text

/-! ## Normal forms -/

namespace OsFamily

/-- A name that is its own normal form. -/
def Normal (osType : String) : Prop := normalize (some osType) = osType

/-- **The normal form of a name is a normal form.** -/
theorem normal_normalize (name : Option String) : Normal (normalize name) := by
  have hl : (normalize name).toList = lower (trim (name.getD "").toList) := toList_onChars _ _
  have hn : normalize (some (normalize name)) =
    String.ofList (lower (trim (normalize name).toList)) := rfl
  unfold Normal
  rw [hn, hl, trim_lower, lower_lower]
  rfl

end OsFamily

/-! ## Values that a fact can be known with -/

/-- Detection and the setters of a fact give values of a kind only. -/
structure Fact.Gives (F : Fact) (P : F.Val → Prop) : Prop where
  detected : ∀ s s' a, F.workOut s = (.ok a, s') → P a
  set : ∀ op a, F.set? op = some (.ok (.settled a)) → P a

/-- A fact is not known, or known with a value of a kind. -/
def Fact.Only (F : Fact) (P : F.Val → Prop) (c : Context) : Prop :=
  ∀ a, F.cell c = .settled a → P a

/-- From one context to the next, a fact is still known with values of a kind only. -/
def Context.KeepsOnly (F : Fact) (P : F.Val → Prop) (c c' : Context) : Prop :=
  F.Only P c → F.Only P c'

instance (F : Fact) (P : F.Val → Prop) : IsPreorder Context (Context.KeepsOnly F P) where
  refl _ h := h
  trans _ _ _ h h' hc := h' (h hc)

namespace Fact

variable {F G : Fact} {P : F.Val → Prop} {c : Context}

theorem only_new (source : Source) : F.Only P (Context.new source) := by
  intro a ha
  rw [cell_new] at ha
  cases ha

theorem only_put {cell : Cell F.Val} (h : ∀ a, cell = .settled a → P a) :
    F.Only P (F.put cell c) := by
  intro a ha
  rw [cell_put] at ha
  exact h a ha

theorem only_put_of_ne (h : G ≠ F) (hc : F.Only P c) (cell : Cell G.Val) :
    F.Only P (G.put cell c) := by
  intro a ha
  rw [cell_put_of_ne h] at ha
  exact hc a ha

/-- **Asking for a fact makes known only what detection gives.** -/
theorem within_keepsOnly (hF : F.Gives P) (G : Fact) :
    Within (onContext (Context.KeepsOnly F P)) G.ask := by
  refine within_ask (fun G s s' a _ hx hs hP => ?_) G
  by_cases hGF : G = F
  · subst hGF
    refine only_put fun b hb => ?_
    obtain rfl : a = b := Cell.settled.inj hb
    exact hF.detected s s' a hx
  · exact only_put_of_ne hGF (hs hP) _

/-- A call keeps a fact at values of a kind, if detection and setters give no others. -/
theorem only_run (hF : F.Gives P) {s : Scene} (hs : F.Only P s.1) (op : Op) :
    F.Only P (op.run s).2.1 := by
  cases hop : op.isSetting with
  | false =>
    have hk : Context.KeepsOnly F P s.1 (op.run s).2.1 := within_run (within_keepsOnly hF) hop s
    exact hk hs
  | true =>
    rcases exists_set_of_isSetting hop with rfl | ⟨id, rfl⟩ | ⟨G, e | b, hG⟩
    · exact only_new s.1.source
    · exact fun a ha => hs a ((cell_withDirectorySource _).symm.trans ha)
    · rw [run_set_of_error hG]
      exact hs
    · rw [run_set_of_ok hG]
      by_cases hGF : G = F
      · subst hGF
        refine only_put fun a ha => hF.set op a ?_
        rw [hG, ha]
      · exact only_put_of_ne hGF hs b

/-- **One move keeps a fact at values of a kind**, if detection and setters give no others. -/
theorem only_step (hF : F.Gives P) {s : Scene} (hs : F.Only P s.1) (m : Move) :
    F.Only P (m.step s).2.1 := by
  cases m with
  | plug _ => exact fun a ha => hs a ((cell_withDirectorySource _).symm.trans ha)
  | put _ _ | erase _ => exact fun a ha => hs a ((cell_withSource _).symm.trans ha)
  | setVariable _ _ _ | unsetVariable _ _ => exact hs
  | call op => exact only_run hF (s := (s.1, s.2.clear)) hs op

/-- **In a run from a new context a fact is known with values of a kind only**, if detection and
setters give no others. -/
theorem only_after (hF : F.Gives P) (source : Source) (w : World) (moves : List Move) :
    F.Only P (after moves (Context.new source, w)).1 :=
  after_of_forall_step (P := fun s => F.Only P s.1) (Q := fun _ _ => True)
    (fun _ m hs _ => only_step hF hs m) moves _ (only_new source) fun _ _ => trivial

end Fact

/-! ## Types of operating systems -/

/-- **Detection and the setter give normal forms.** -/
theorem gives_normal : Fact.osType.Gives OsFamily.Normal where
  detected s s' osType h := by
    obtain ⟨raw, s₁, -, h⟩ := bind_eq_ok_iff.mp h
    have hr : readOsType raw s₁ = (.ok (OsFamily.normalize raw), (readOsType raw s₁).2) := rfl
    rw [hr] at h
    obtain rfl : OsFamily.normalize raw = osType := Except.ok.inj (congrArg Prod.fst h)
    exact OsFamily.normal_normalize raw
  set op osType h := by
    cases op <;> simp only [Fact.set?, Option.some.injEq, Except.ok.injEq, reduceCtorEq] at h
    case setOsType value =>
      cases value with
      | none => cases h
      | some name =>
        obtain rfl : OsFamily.normalize (some name) = osType := Cell.settled.inj h
        exact OsFamily.normal_normalize (some name)

/-- What the getter answers with is known afterwards. -/
theorem osType_of_run {s s' : Scene} {osType : String}
    (h : Op.osType.run s = (.ok (.text osType), s')) : s'.1.osType = .settled osType := by
  have hs : Fact.osType.Settles osType (.call .osType) ⟨.ok (.text osType), []⟩ := .read []
  have hc := Fact.cell_run_of_settles (s := s) hs (by rw [h])
  rwa [h] at hc

/-- **The type of an operating system is a stable normal form.** To normalise a name twice is to do
it once. So in a run from a new context every type that the getter answers with, set or detected, is
its own normal form, and to set it then leaves all as the getter left it. -/
theorem os_type_read_is_normal :
    (∀ name : Option String,
      OsFamily.normalize (some (OsFamily.normalize name)) = OsFamily.normalize name) ∧
    ∀ (source : Source) (w : World) (moves : List Move) (osType : String) (s : Scene),
      Op.osType.run (after moves (Context.new source, w)) = (.ok (.text osType), s) →
      OsFamily.normalize (some osType) = osType ∧
      (Op.setOsType (some osType)).run s = (.ok .null, s) := by
  refine ⟨OsFamily.normal_normalize, fun source w moves osType s h => ?_⟩
  have hs : s.1.osType = .settled osType := osType_of_run h
  have hk : Fact.osType.Only OsFamily.Normal s.1 := by
    have hafter := Fact.only_run gives_normal (Fact.only_after gives_normal source w moves) .osType
    rwa [h] at hafter
  have hn : OsFamily.normalize (some osType) = osType := hk osType hs
  refine ⟨hn, ?_⟩
  have hset : Fact.osType.set? (.setOsType (some osType)) = some (.ok (.settled osType)) := by
    rw [Fact.set?, Option.map_some, hn]
    rfl
  have hput : Fact.osType.put (.settled osType) s.1 = s.1 := by
    rw [← hs]
    exact Fact.put_cell
  have hrun := Fact.run_set_of_ok hset s.1 s.2
  rwa [hput] at hrun

/-- A name with capitals that become several characters, or another one at the end of a word. -/
theorem os_type_set_and_read :
    let s := after [.call (.setOsType (some " \u0130OS ΟΔΟΣ\u00a0"))]
      (Context.new (.mapping .empty), World.empty)
    Op.osType.run s = (.ok (.text "i\u0307os οδος"), s) ∧
      (Op.setOsType (some "i\u0307os οδος")).run s = (.ok .null, s) := by
  intro s
  have hn : OsFamily.normalize (some " \u0130OS ΟΔΟΣ\u00a0") = "i\u0307os οδος" := by
    decide +kernel
  have hr : Op.osType.run s = (.ok (.text "i\u0307os οδος"), s) := by
    rw [← hn]
    rfl
  exact ⟨hr, (os_type_read_is_normal.2 _ _ _ _ _ hr).2⟩

end HostFacts
