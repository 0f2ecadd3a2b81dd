import HostFacts.Report
import Mathlib.Order.Defs.Unbundled

/-!
# What actions do to the state

An action changes the state whether it answers or ends with a fault. `Act.Within R` says that the
states before and after are always related by `R`, and a preorder is kept by running actions one
after the other. `bind_eq_ok_iff` and `bind_eq_error_iff` take a sequence of actions apart.

Results:
* `Act.eq_iff_of_rules`: sound rules that leave no state out describe an action;
* `Act.Within.bind`, `Act.Within.attempt`: what two actions keep, both in a row keep, and a fault
  that is caught undoes nothing;
* `Act.Alike.bind`: two actions in a row end alike if each of them does;
* `Act.Ends.bind`: if neither changes how the other ends, they end as they would alone;
* `Act.FailsOnly.bind`: two actions in a row fail in the ways in which each of them does;
* `Query.within_ofWorld` and its companions: what only asks the surroundings changes no context.
-/

namespace HostFacts

namespace Act

variable {σ τ α β : Type}

/-! ## Taking a sequence apart -/

theorem bind_eq_ok_iff {x : Act σ α} {f : α → Act σ β} {s s' : σ} {b : β} :
    (x >>= f) s = (.ok b, s') ↔ ∃ a t, x s = (.ok a, t) ∧ f a t = (.ok b, s') := by
  rw [bind_apply]
  constructor
  · intro h
    split at h
    · exact ⟨_, _, ‹_›, h⟩
    · simp at h
  · rintro ⟨a, t, hx, hf⟩
    rw [hx]
    exact hf

theorem bind_eq_error_iff {x : Act σ α} {f : α → Act σ β} {s s' : σ} {e : Fault} :
    (x >>= f) s = (.error e, s') ↔
      x s = (.error e, s') ∨ ∃ a t, x s = (.ok a, t) ∧ f a t = (.error e, s') := by
  rw [bind_apply]
  constructor
  · intro h
    split at h
    · exact Or.inr ⟨_, _, ‹_›, h⟩
    · obtain ⟨rfl, rfl⟩ := by simpa using h
      exact Or.inl ‹_›
  · rintro (hx | ⟨a, t, hx, hf⟩)
    · rw [hx]
    · rw [hx]
      exact hf

theorem bind_assoc {γ : Type} (x : Act σ α) (f : α → Act σ β) (g : β → Act σ γ) :
    x >>= f >>= g = x >>= fun a => f a >>= g := by
  funext s
  simp only [bind_apply]
  rcases x s with ⟨_ | a, t⟩ <;> rfl

theorem fst_map (x : Act σ α) (f : α → β) (s : σ) :
    ((do return f (← x) : Act σ β) s).1 = (x s).1.map f := by
  rw [bind_apply]
  rcases x s with ⟨_ | a, t⟩ <;> rfl

theorem fst_map_of_ok {x : Act σ α} {s : σ} {a : α} (h : (x s).1 = .ok a) (f : α → β) :
    ((do return f (← x) : Act σ β) s).1 = .ok (f a) := by
  rw [fst_map, h]
  rfl

theorem fst_map_eq_error_iff {x : Act σ α} {s : σ} {e : Fault} (f : α → β) :
    ((do return f (← x) : Act σ β) s).1 = .error e ↔ (x s).1 = .error e := by
  rw [fst_map]
  cases (x s).1 <;> simp [Except.map]

/-- What is made of an answer fails only as the answer does. -/
theorem map_eq_error_iff {x : Act σ α} {s s' : σ} {e : Fault} (f : α → β) :
    (do return f (← x) : Act σ β) s = (.error e, s') ↔ x s = (.error e, s') := by
  rw [bind_eq_error_iff]
  constructor
  · rintro (hx | ⟨a, t, -, ha⟩)
    · exact hx
    · cases ha
  · exact Or.inl

theorem exceptBind_ok (a : α) (g : α → Except Fault β) : (Except.ok a >>= g) = g a := rfl

/-- Of two results in a row, the whole is an answer if both are. -/
theorem exceptBind_eq_ok_iff {r : Except Fault α} {g : α → Except Fault β} {b : β} :
    (r >>= g) = .ok b ↔ ∃ a, r = .ok a ∧ g a = .ok b := by
  cases r <;> simp [bind, Except.bind]

theorem exceptBind_eq_error_iff {r : Except Fault α} {g : α → Except Fault β} {e : Fault} :
    (r >>= g) = .error e ↔ r = .error e ∨ ∃ a, r = .ok a ∧ g a = .error e := by
  cases r <;> simp [bind, Except.bind]

theorem exceptMapError_eq_ok_iff {ε ε' : Type} {r : Except ε α} {f : ε → ε'} {a : α} :
    r.mapError f = .ok a ↔ r = .ok a := by
  cases r with
  | error e => exact ⟨nofun, nofun⟩
  | ok b =>
    show Except.ok b = Except.ok a ↔ Except.ok b = Except.ok a
    rw [Except.ok.injEq, Except.ok.injEq]

/-- Rules describe what an action does in a state if they are sound and say something about it. -/
theorem eq_iff_of_rules {x : Act σ α} {s s' : σ} {r : Except Fault α}
    {R : Except Fault α → σ → Prop} (sound : ∀ {r s'}, R r s' → x s = (r, s'))
    (total : ∃ r s', R r s') : x s = (r, s') ↔ R r s' := by
  refine ⟨fun h => ?_, sound⟩
  obtain ⟨r₁, s₁, hR⟩ := total
  obtain ⟨rfl, rfl⟩ := Prod.mk.inj (h.symm.trans (sound hR))
  exact hR

/-! ## Relations between the states before and after -/

/-- The states before and after the action are always related, whether it answers or not. -/
def Within (R : σ → σ → Prop) (x : Act σ α) : Prop := ∀ s, R s (x s).2

variable {R : σ → σ → Prop}

section Preorder

variable [IsPreorder σ R]

theorem within_pure (a : α) : Within R (pure a : Act σ α) := refl_of R

theorem within_fail (e : Fault) : Within R (fail e : Act σ α) := refl_of R

theorem Within.bind {x : Act σ α} {f : α → Act σ β} (hx : Within R x)
    (hf : ∀ a, Within R (f a)) : Within R (x >>= f) := by
  intro s
  have h := hx s
  rw [bind_apply]
  split <;> rename_i heq <;> rw [heq] at h
  · exact trans_of R h (hf _ _)
  · exact h

omit [IsPreorder σ R] in
theorem Within.attempt {x : Act σ α} (hx : Within R x) : Within R (attempt x) := hx

end Preorder

/-! ## Actions that end alike -/

/-- From related states the action ends alike, and in related states. -/
def Alike (R : σ → σ → Prop) (x : Act σ α) : Prop :=
  ∀ s s', R s s' → (x s').1 = (x s).1 ∧ R (x s).2 (x s').2

theorem alike_pure (a : α) : Alike R (pure a : Act σ α) := fun _ _ h => ⟨rfl, h⟩

theorem Alike.bind {x : Act σ α} {f : α → Act σ β} (hx : Alike R x) (hf : ∀ a, Alike R (f a)) :
    Alike R (x >>= f) := by
  intro s s' h
  obtain ⟨hr, ht⟩ := hx s s' h
  rw [bind_apply, bind_apply]
  generalize x s = y at *
  generalize x s' = z at *
  obtain ⟨r, t⟩ := y
  obtain ⟨r', t'⟩ := z
  obtain rfl : r' = r := hr
  cases r' with
  | error e => exact ⟨rfl, ht⟩
  | ok a => exact hf a t t' ht

theorem alike_fail (e : Fault) : Alike R (fail e : Act σ α) := fun _ _ h => ⟨rfl, h⟩

theorem Alike.attempt {x : Act σ α} (hx : Alike R x) : Alike R (attempt x) :=
  fun s s' h => ⟨congrArg Except.ok (hx s s' h).1, (hx s s' h).2⟩

/-! ## Actions with a fixed answer -/

/-- In all states of a class the action ends in this way, and does not lead out of the class. -/
def Ends (P : σ → Prop) (x : Act σ α) (r : Except Fault α) : Prop :=
  ∀ s, P s → (x s).1 = r ∧ P (x s).2

/-- In all states of a class the action ends in one way. -/
def Fixed (P : σ → Prop) (x : Act σ α) : Prop := ∃ r, Ends P x r

section Fixed

variable {P : σ → Prop} {x : Act σ α} {f : α → Act σ β} {r : Except Fault α}

theorem ends_pure (a : α) : Ends P (pure a : Act σ α) (.ok a) := fun _ hs => ⟨rfl, hs⟩

theorem ends_fail (e : Fault) : Ends P (fail e : Act σ α) (.error e) := fun _ hs => ⟨rfl, hs⟩

/-- Actions in a row end as the ends of the single actions give. -/
theorem Ends.bind {g : α → Except Fault β} (hx : Ends P x r) (hf : ∀ a, Ends P (f a) (g a)) :
    Ends P (x >>= f) (r >>= g) := by
  intro s hs
  obtain ⟨h, ht⟩ := hx s hs
  rcases hxs : x s with ⟨_ | a, t⟩ <;> rw [hxs] at h ht <;> subst h
  · rw [bind_of_error hxs]
    exact ⟨rfl, ht⟩
  · rw [bind_of_ok hxs]
    exact hf a t ht

theorem Ends.bind_ok {a : α} {r' : Except Fault β} (hx : Ends P x (.ok a)) (hf : Ends P (f a) r') :
    Ends P (x >>= f) r' := by
  intro s hs
  obtain ⟨h, ht⟩ := hx s hs
  rw [bind_of_ok (Prod.ext h rfl)]
  exact hf _ ht

theorem Ends.attempt (hx : Ends P x r) : Ends P (attempt x) (.ok r) :=
  fun s hs => ⟨congrArg Except.ok (hx s hs).1, (hx s hs).2⟩

theorem Fixed.bind (hx : Fixed P x) (hf : ∀ a, Fixed P (f a)) : Fixed P (x >>= f) :=
  ⟨_, hx.choose_spec.bind fun a => (hf a).choose_spec⟩

theorem Fixed.attempt (hx : Fixed P x) : Fixed P (attempt x) := ⟨_, hx.choose_spec.attempt⟩

/-- An action with one end has the end that it has in any of the states. -/
theorem Fixed.ends (hx : Fixed P x) {s : σ} (hs : P s) : Ends P x (x s).1 := by
  obtain ⟨r, hr⟩ := hx
  rw [(hr s hs).1]
  exact hr

end Fixed

/-! ## Actions that can fail in some ways only -/

/-- In all states of a class only faults of a kind end the action, and it does not lead out of the
class. -/
def FailsOnly (P : σ → Prop) (E : Fault → Prop) (x : Act σ α) : Prop :=
  ∀ s, P s → P (x s).2 ∧ ∀ e, (x s).1 = .error e → E e

section FailsOnly

variable {P : σ → Prop} {E E' : Fault → Prop} {x : Act σ α} {f : α → Act σ β}

theorem failsOnly_pure (a : α) : FailsOnly P E (pure a : Act σ α) := fun _ hs => ⟨hs, nofun⟩

theorem failsOnly_fail {e : Fault} (h : E e) : FailsOnly P E (fail e : Act σ α) := by
  refine fun s hs => ⟨hs, fun e' he => ?_⟩
  cases he
  exact h

theorem failsOnly_ofExcept {r : Except Fault α} (h : ∀ e, r = .error e → E e) :
    FailsOnly P E (ofExcept r : Act σ α) := fun _ hs => ⟨hs, h⟩

theorem FailsOnly.mono (hx : FailsOnly P E x) (h : ∀ e, E e → E' e) : FailsOnly P E' x :=
  fun s hs => ⟨(hx s hs).1, fun e he => h e ((hx s hs).2 e he)⟩

theorem FailsOnly.bind (hx : FailsOnly P E x) (hf : ∀ a, FailsOnly P E (f a)) :
    FailsOnly P E (x >>= f) := by
  intro s hs
  obtain ⟨ht, he⟩ := hx s hs
  rcases hxs : x s with ⟨e | a, t⟩ <;> rw [hxs] at ht he
  · rw [bind_of_error hxs]
    refine ⟨ht, fun e' h => ?_⟩
    cases h
    exact he e rfl
  · rw [bind_of_ok hxs]
    exact hf a t ht

theorem FailsOnly.map (hx : FailsOnly P E x) (g : α → β) : FailsOnly P E (do return g (← x)) :=
  hx.bind fun _ => failsOnly_pure _

end FailsOnly

end Act

namespace Query

open Act

variable {α : Type} {R : Context → Context → Prop}

/-- States whose contexts are related; the surroundings do not matter. -/
def onContext (R : Context → Context → Prop) (s s' : Context × World) : Prop := R s.1 s'.1

variable [IsPreorder Context R]

instance : IsPreorder (Context × World) (onContext R) where
  refl s := refl_of R s.1
  trans _ _ _ h h' := trans_of R h h'

theorem within_ofWorld (x : Act World α) : Within (onContext R) (ofWorld x) :=
  fun s => refl_of R s.1

theorem within_context : Within (onContext R) context := fun s => refl_of R s.1

theorem within_lookup (name : String) : Within (onContext R) (lookup name) :=
  within_context.bind fun _ => within_ofWorld _

theorem resolve_apply (first second : String) (c : Context) (w : World) :
    resolve first second (c, w) =
      ((c.source.resolve first (some second) w).1,
        (c, (c.source.resolve first (some second) w).2)) := rfl

theorem within_note (level : Level) (logger : Logger) (message : String) :
    Within (onContext R) (note level logger message) := within_ofWorld _

theorem within_workingDirectory : Within (onContext R) workingDirectory := by
  have unknown : Within (onContext R) workingDirectory.unknown :=
    (within_note _ _ _).bind fun _ => within_pure _
  refine within_context.bind fun c => ?_
  split
  · exact (within_ofWorld _).bind fun _ => within_pure _
  · refine (within_lookup _).bind fun value => ?_
    split
    · split
      · exact unknown
      · exact within_pure _
    · exact unknown

end Query

end HostFacts
