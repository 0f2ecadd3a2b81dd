import HostFacts.Proofs.Effects

/-!
# The layers of a table

`Table.Sees` says rule by rule what a table sees under a name, and what looking costs: an explicit
entry hides everything, a set variable hides the provider, and a provider is called once.

* **`Table.lookup_eq_iff_sees`**: a lookup is what the rules say, and nothing else;
* `Table.Sees.environ`, `Table.Sees.provider_of_ne`: looking touches the provider of the name only;
* `Source.lookup_frame`, `Source.lookup_alike`: so lookups of different names do not interfere.
-/

namespace HostFacts

open HostFacts.Property Act

/-- A failure of the system, of a key or of loading, or a special case of one of these, means that
what was asked for is not there. -/
def Fault.MeansAbsence (e : Fault) : Prop :=
  ∃ kind ∈ e.kind?, ∃ general ∈ [FailureKind.system, .key, .loading], kind.isA general = true

theorem Fault.isAbsence_iff {e : Fault} : e.isAbsence = true ↔ e.MeansAbsence := by
  unfold isAbsence MeansAbsence
  cases e.kind? with
  | none => simp
  | some kind => simp [FailureKind.isAbsence, or_assoc]

/-- The line that is logged when a provider fails because something is not there. -/
def absenceLine (name : String) (e : Fault) : LogLine :=
  ⟨.debug, .properties, s!"System property {name} unavailable: {e.message}"⟩

namespace Table

/-- What a table sees under a name that may have a variable, and the surroundings afterwards. -/
inductive Sees (t : Table) (w : World) (name : String) (carrier : Option String) :
    Except Fault (Option String) → World → Prop
  /-- An explicit entry counts, even a blank one. -/
  | explicit {v : String} (h : t.explicit.get? name = some v) :
    Sees t w name carrier (.ok (some v)) w
  /-- Else the variable counts if it is set, even a blank one. -/
  | environment {x v : String} (he : t.explicit.get? name = none) (hx : carrier = some x)
    (h : (t.environ w).get? x = some v) : Sees t w name carrier (.ok (some v)) w
  /-- Without a provider there is nothing. -/
  | nothing (he : t.explicit.get? name = none) (hv : carrier.bind (t.environ w).get? = none)
    (h : (t.providers w).get? name = none) : Sees t w name carrier (.ok none) w
  /-- Else the provider is asked, which may answer nothing. -/
  | provided {script : Script (Option String)} {v : Option String}
    (he : t.explicit.get? name = none) (hv : carrier.bind (t.environ w).get? = none)
    (hp : (t.providers w).get? name = some script) (h : script.ends script.calls = .ok v) :
    Sees t w name carrier (.ok v) (w.called t.layers.providers name script)
  /-- A failure that means absence counts as nothing. -/
  | absent {script : Script (Option String)} {e : Fault}
    (he : t.explicit.get? name = none) (hv : carrier.bind (t.environ w).get? = none)
    (hp : (t.providers w).get? name = some script) (h : script.ends script.calls = .error e)
    (ha : e.MeansAbsence) :
    Sees t w name carrier (.ok none)
      ((w.called t.layers.providers name script).record (.log (absenceLine name e)))
  /-- Any other failure ends the lookup. -/
  | failed {script : Script (Option String)} {e : Fault}
    (he : t.explicit.get? name = none) (hv : carrier.bind (t.environ w).get? = none)
    (hp : (t.providers w).get? name = some script) (h : script.ends script.calls = .error e)
    (ha : ¬ e.MeansAbsence) :
    Sees t w name carrier (.error e) (w.called t.layers.providers name script)

variable {t : Table} {w w' w₁ : World} {name : String} {carrier : Option String}
  {r : Except Fault (Option String)}

/-- Some rule always applies. -/
theorem exists_sees (t : Table) (w : World) (name : String) (carrier : Option String) :
    ∃ r w', t.Sees w name carrier r w' := by
  cases he : t.explicit.get? name with
  | some v => exact ⟨_, _, .explicit he⟩
  | none =>
    cases hv : carrier.bind (t.environ w).get? with
    | some v =>
      obtain ⟨x, hx, h⟩ := Option.bind_eq_some_iff.mp hv
      exact ⟨_, _, .environment he hx h⟩
    | none =>
      cases hp : (t.providers w).get? name with
      | none => exact ⟨_, _, .nothing he hv hp⟩
      | some script =>
        cases h : script.ends script.calls with
        | ok v => exact ⟨_, _, .provided he hv hp h⟩
        | error e =>
          by_cases ha : e.MeansAbsence
          · exact ⟨_, _, .absent he hv hp h ha⟩
          · exact ⟨_, _, .failed he hv hp h ha⟩

/-! ## Lookups follow the rules -/

theorem lookup_of_not_explicit (he : t.explicit.get? name = none)
    (hv : (variableFor? name).bind (t.environ w).get? = none) :
    t.lookup name w = t.lookupSystem name w := by
  have hv : variableValue? (t.environ w) name = none := hv
  simp only [lookup, he, bind_apply, get_apply, hv]

theorem lookupSystem_of_provider {script : Script (Option String)}
    (hp : (t.providers w).get? name = some script) :
    t.lookupSystem name w =
      (match script.ends script.calls with
        | .ok value => (.ok value, w.called t.layers.providers name script)
        | .error e =>
          if e.isAbsence then
            (.ok none, (w.called t.layers.providers name script).record (.log (absenceLine name e)))
          else (.error e, w.called t.layers.providers name script)) := by
  have hc : attempt (callProvider t.layers.providers name script) w =
      (.ok (script.ends script.calls), w.called t.layers.providers name script) := rfl
  simp only [lookupSystem, bind_apply, get_apply, hp, hc]
  cases script.ends script.calls with
  | ok v => rfl
  | error e =>
    by_cases ha : e.isAbsence = true
    · simp only [if_pos ha]
      rfl
    · simp only [if_neg ha]
      rfl

theorem lookup_of_sees (h : t.Sees w name (variableFor? name) r w') :
    t.lookup name w = (r, w') := by
  cases h with
  | explicit h => simp only [lookup, h, pure_apply]
  | @environment x v he hx h =>
    have hv : variableValue? (t.environ w) name = some v := by rw [variableValue?, hx]; exact h
    simp only [lookup, he, bind_apply, get_apply, hv, pure_apply]
  | nothing he hv h =>
    rw [lookup_of_not_explicit he hv]
    simp only [lookupSystem, bind_apply, get_apply, h, pure_apply]
  | provided he hv hp h => rw [lookup_of_not_explicit he hv, lookupSystem_of_provider hp, h]
  | absent he hv hp h ha =>
    rw [lookup_of_not_explicit he hv, lookupSystem_of_provider hp, h]
    exact if_pos (Fault.isAbsence_iff.mpr ha)
  | failed he hv hp h ha =>
    rw [lookup_of_not_explicit he hv, lookupSystem_of_provider hp, h]
    exact if_neg (mt Fault.isAbsence_iff.mp ha)

/-- **A lookup is what the rules say.** -/
theorem lookup_eq_iff_sees :
    t.lookup name w = (r, w') ↔ t.Sees w name (variableFor? name) r w' :=
  eq_iff_of_rules lookup_of_sees (exists_sees t w name (variableFor? name))

/-! ## What a lookup touches -/

theorem Sees.environ (h : t.Sees w name carrier r w') : w'.environ = w.environ := by
  cases h <;> rfl

theorem Sees.sources (h : t.Sees w name carrier r w') : w'.sources = w.sources := by
  cases h <;> rfl

/-- Looking a name up leaves the providers of other names alone. -/
theorem Sees.provider_of_ne (h : t.Sees w name carrier r w') {other : String}
    (hne : other ≠ name) (o : Origin) :
    (w'.providers o).get? other = (w.providers o).get? other := by
  cases h
  case explicit | environment | nothing => rfl
  all_goals exact World.get?_providers_called_of_ne (Or.inr hne)

/-- Looking a name up leaves the tables of providers of other origins alone. -/
theorem Sees.providers_of_ne (h : t.Sees w name carrier r w') {o : Origin}
    (hne : o ≠ t.layers.providers) : w'.providers o = w.providers o := by
  cases h
  case explicit | environment | nothing => rfl
  all_goals exact Origin.update_of_ne hne

/-- Of the explicit entries only the one under the name matters. -/
theorem Sees.of_explicit (h : t.Sees w name carrier r w') {t' : Table}
    (ht : t'.explicit.get? name = t.explicit.get? name) (hl : t'.layers = t.layers) :
    t'.Sees w name carrier r w' := by
  obtain ⟨explicit, layers⟩ := t'
  obtain rfl : layers = t.layers := hl
  cases h with
  | explicit h => exact .explicit (ht.trans h)
  | environment he hx h => exact .environment (ht.trans he) hx h
  | nothing he hv h => exact .nothing (ht.trans he) hv h
  | provided he hv hp h => exact .provided (ht.trans he) hv hp h
  | absent he hv hp h ha => exact .absent (ht.trans he) hv hp h ha
  | failed he hv hp h ha => exact .failed (ht.trans he) hv hp h ha

/-- What is seen under a name depends on the environment and on the provider of the name only. -/
theorem Sees.congr (h : t.Sees w name carrier r w') (he : t.environ w₁ = t.environ w)
    (hp : (t.providers w₁).get? name = (t.providers w).get? name) :
    ∃ w₂, t.Sees w₁ name carrier r w₂ ∧
      (t.providers w₂).get? name = (t.providers w').get? name := by
  have hc (script : Script (Option String)) :
      (t.providers (w₁.called t.layers.providers name script)).get? name =
        (t.providers (w.called t.layers.providers name script)).get? name :=
    World.get?_providers_called.trans World.get?_providers_called.symm
  have hb : carrier.bind (t.environ w₁).get? = carrier.bind (t.environ w).get? := by rw [he]
  cases h with
  | explicit h => exact ⟨_, .explicit h, hp⟩
  | environment h hx hv => exact ⟨_, .environment h hx (by rw [he]; exact hv), hp⟩
  | nothing h hv hn => exact ⟨_, .nothing h (hb.trans hv) (hp.trans hn), hp⟩
  | provided h hv hs hr => exact ⟨_, .provided h (hb.trans hv) (hp.trans hs) hr, hc _⟩
  | absent h hv hs hr ha => exact ⟨_, .absent h (hb.trans hv) (hp.trans hs) hr ha, hc _⟩
  | failed h hv hs hr ha => exact ⟨_, .failed h (hb.trans hv) (hp.trans hs) hr ha, hc _⟩

end Table

/-! ## Surroundings that agree on some names -/

/-- The environments are the same, and so are the providers of the given names. -/
structure World.Agree (names : List String) (w w' : World) : Prop where
  environ : w'.environ = w.environ
  provider : ∀ o, ∀ name ∈ names, (w'.providers o).get? name = (w.providers o).get? name

instance (names : List String) : IsPreorder World (World.Agree names) where
  refl _ := ⟨rfl, fun _ _ _ => rfl⟩
  trans _ _ _ h h' :=
    ⟨h'.environ.trans h.environ, fun o n hn => (h'.provider o n hn).trans (h.provider o n hn)⟩

namespace Source

variable {names : List String} {name first second : String}

/-- A lookup leaves the other names alone. -/
theorem lookup_frame (s : Source) (h : name ∉ names) :
    Within (World.Agree names) (s.lookup name) := by
  intro w
  cases s with
  | mapping entries => exact ⟨rfl, fun _ _ _ => rfl⟩
  | table t =>
    have hs := Table.lookup_eq_iff_sees.mp (Prod.eta (t.lookup name w)).symm
    exact ⟨hs.environ, fun o n hn => hs.provider_of_ne (fun e => h (e ▸ hn)) o⟩

/-- A lookup ends alike in surroundings that agree on its name, and they agree afterwards. -/
theorem lookup_alike (s : Source) (h : name ∈ names) :
    Alike (World.Agree names) (s.lookup name) := by
  intro w w₁ hw
  cases s with
  | mapping entries => exact ⟨rfl, hw.environ, hw.provider⟩
  | table t =>
    have hs := Table.lookup_eq_iff_sees.mp (Prod.eta (t.lookup name w)).symm
    obtain ⟨w₂, hs₁, hp⟩ := hs.congr (congrFun hw.environ _) (hw.provider _ name h)
    show (t.lookup name w₁).1 = _ ∧ World.Agree names _ (t.lookup name w₁).2
    rw [Table.lookup_of_sees hs₁]
    refine ⟨rfl, hs₁.environ.trans (hw.environ.trans hs.environ.symm), fun o n hn => ?_⟩
    by_cases hne : n = name
    · subst hne
      by_cases ho : o = t.layers.providers
      · rw [ho]
        exact hp
      · have h₁ := congrArg (Entries.get? · n) (hs₁.providers_of_ne ho)
        have h := congrArg (Entries.get? · n) (hs.providers_of_ne ho)
        exact h₁.trans ((hw.provider o n hn).trans h.symm)
    · exact (hs₁.provider_of_ne hne o).trans
        ((hw.provider o n hn).trans (hs.provider_of_ne hne o).symm)

theorem resolve_frame (s : Source) (h₁ : first ∉ names) (h₂ : second ∉ names) :
    Within (World.Agree names) (s.resolve first (some second)) := by
  refine (s.lookup_frame h₁).bind fun value => ?_
  split
  · exact within_pure _
  · exact s.lookup_frame h₂

theorem resolve_alike (s : Source) (h₁ : first ∈ names) (h₂ : second ∈ names) :
    Alike (World.Agree names) (s.resolve first (some second)) := by
  refine (s.lookup_alike h₁).bind fun value => ?_
  split
  · exact alike_pure _
  · exact s.lookup_alike h₂

end Source

end HostFacts
