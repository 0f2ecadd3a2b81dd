import HostFacts.Proofs.Laziness

/-!
# The names of a table are what lookups see

A lookup goes from the name of a property to its variable, while the names of a table are found the
other way, from the variables that are set to the override properties. The two ways agree except
where no way back is known: a variable may belong to a name that is no override property, and that
name is seen by a lookup but is none of the names of the table.

The providers are taken to end the same way each time, if need be with a failure that means absence
(`Providers.Reliable`). Then all that is asked of a table is fixed, and nothing that is asked
changes it.

* `Table.entries`: the names of a table with the values that lookups find;
* `Table.ends_forNames`: going through a table goes through its entries;
* `Table.overridesOf_eq`: of the variables that are not looked at none carries an override property;
* `Table.Unlisted.found?_eq`: a lookup finds each unlisted name, with the value of its variable;
* **`Table.names_are_what_lookups_see`**: the names are those that a lookup sees, the unlisted ones
  (`Table.Unlisted`) apart; there is such a name (`Table.variable_without_listed_name`).
-/

namespace HostFacts

open HostFacts.Property Act

/-! ## Surroundings whose providers can be relied on -/

/-- Each provider ends the same way on every call, and if it fails, then because what it is asked
for is not there. -/
def Providers.Reliable (providers : Providers) : Prop :=
  ∀ name script, providers.get? name = some script →
    script.IsConstant ∧ ∀ e, script.ends 0 = .error e → e.MeansAbsence

theorem Providers.reliable_ofList {pairs : List (String × Script (Option String))}
    (h : ∀ e ∈ pairs, e.2.IsConstant ∧ ∀ f, e.2.ends 0 = .error f → f.MeansAbsence) :
    Providers.Reliable (.ofList pairs) :=
  fun _ _ hs => h _ (Entries.get?_ofList_eq_some_iff.mp hs).mem

/-- Surroundings in which providers were called, and nothing else was done. -/
structure World.OnlyCalled (w w' : World) : Prop extends SameScripts w w' where
  keys : ∀ o, (w'.providers o).keys = (w.providers o).keys

instance : IsPreorder World World.OnlyCalled where
  refl w := ⟨refl_of World.SameScripts w, fun _ => rfl⟩
  trans _ _ _ h h' := ⟨trans_of World.SameScripts h.toSameScripts h'.toSameScripts,
    fun o => (h'.keys o).trans (h.keys o)⟩

namespace Table

variable {t : Table} {w w' w₁ : World} {name : String} {carrier : Option String}
  {r : Except Fault (Option String)}

theorem Sees.keys_providers (h : t.Sees w name carrier r w₁) (o : Origin) :
    (w₁.providers o).keys = (w.providers o).keys := by
  cases h with
  | explicit | environment | nothing => rfl
  | provided _ _ hp _ => exact World.keys_providers_called hp o
  | absent _ _ hp _ _ => exact World.keys_providers_called hp o
  | failed _ _ hp _ _ => exact World.keys_providers_called hp o

theorem Sees.onlyCalled (h : t.Sees w name carrier r w₁) : w.OnlyCalled w₁ :=
  ⟨h.sameScripts, h.keys_providers⟩

/-! ## Lookups -/

/-- What a lookup finds under a name. -/
def found? (t : Table) (w : World) (name : String) : Option String :=
  (t.lookup name w).1.toOption.join

/-- Where the providers can be relied on, a lookup does not fail. -/
theorem Sees.eq_ok (h : t.Sees w name carrier r w₁) (hw : (t.providers w).Reliable) :
    ∃ v, r = .ok v := by
  cases h with
  | failed _ _ hp h ha =>
    obtain ⟨hc, he⟩ := hw _ _ hp
    exact absurd (he _ ((hc _).symm.trans h)) ha
  | _ => exact ⟨_, rfl⟩

/-- **A lookup finds the same however often providers were called.** -/
theorem ends_lookup (hw : (t.providers w).Reliable) (name : String) :
    Ends w.OnlyCalled (t.lookup name) (.ok (t.found? w name)) := by
  intro w' hw'
  have hs := lookup_eq_iff_sees.mp (Prod.eta (t.lookup name w)).symm
  obtain ⟨v, hv⟩ := hs.eq_ok hw
  obtain ⟨w₂, hs'⟩ := hs.of_sameScripts hw'.toSameScripts fun script hp => (hw name script hp).1
  have hf : t.found? w name = v := by
    rw [found?, hv]
    rfl
  rw [lookup_of_sees hs', hf, hv]
  exact ⟨rfl, trans_of World.OnlyCalled hw' hs'.onlyCalled⟩

theorem ends_item_of_found (hw : (t.providers w).Reliable) {value : String}
    (h : t.found? w name = some value) : Ends w.OnlyCalled (t.item name) (.ok value) := by
  have hl := ends_lookup hw name
  rw [h] at hl
  exact hl.bind_ok (ends_pure value)

/-- A property is there exactly if a lookup finds it. -/
theorem ends_get? (hw : (t.providers w).Reliable) (name : String) :
    Ends w.OnlyCalled (t.get? name) (.ok (t.found? w name)) := by
  cases h : t.found? w name with
  | some value => exact (ends_item_of_found hw h).attempt.bind_ok (ends_pure _)
  | none =>
    have hl := ends_lookup hw name
    rw [h] at hl
    have hi : Ends w.OnlyCalled (t.item name) (.error (.missingProperty name)) :=
      hl.bind_ok (ends_fail _)
    exact hi.attempt.bind_ok (ends_pure none)

theorem ends_has (hw : (t.providers w).Reliable) (name : String) :
    Ends w.OnlyCalled (t.has name) (.ok (t.found? w name).isSome) :=
  (ends_get? hw name).bind_ok (ends_pure _)

/-! ## Going through a table -/

/-- The names of a table with the values that lookups find, in order. -/
def entries (t : Table) (w : World) : List (String × String) :=
  (t.candidates w).filterMap fun name => (t.found? w name).map fun value => (name, value)

section Passes

variable {α : Type} {f : String → Act World α} {g : String × String → α}

theorem ends_collect (hw : (t.providers w).Reliable)
    (hf : ∀ name value, t.found? w name = some value →
      Ends w.OnlyCalled (f name) (.ok (g (name, value)))) :
    ∀ names : List String, Ends w.OnlyCalled (t.collect f names)
      (.ok ((names.filterMap fun name => (t.found? w name).map fun value => (name, value)).map g))
  | [] => ends_pure []
  | name :: rest => by
    have ih := ends_collect hw hf rest
    have hl := ends_lookup hw name
    unfold collect
    cases hv : t.found? w name with
    | none =>
      rw [hv] at hl
      rw [List.filterMap_cons_none (by rw [hv]; rfl)]
      exact hl.bind_ok ih
    | some value =>
      rw [hv] at hl
      rw [List.filterMap_cons_some (by rw [hv]; rfl)]
      exact hl.bind_ok ((hf name value hv).bind_ok (ih.bind_ok (ends_pure _)))

/-- **Going through a table goes through its entries.** -/
theorem ends_forNames (hw : (t.providers w).Reliable)
    (hf : ∀ name value, t.found? w name = some value →
      Ends w.OnlyCalled (f name) (.ok (g (name, value)))) :
    Ends w.OnlyCalled (t.forNames f) (.ok ((t.entries w).map g)) := by
  intro w' hw'
  have hc : t.candidates w' = t.candidates w := by
    have he : t.environ w' = t.environ w := congrFun hw'.environ _
    have hp : (t.providers w').keys = (t.providers w).keys := hw'.keys _
    unfold candidates
    rw [he, hp]
  show (t.collect f (t.candidates w') w').1 = _ ∧ w.OnlyCalled (t.collect f (t.candidates w') w').2
  rw [hc]
  exact ends_collect hw hf _ w' hw'

end Passes

theorem ends_present (hw : (t.providers w).Reliable) :
    Ends w.OnlyCalled t.present (.ok ((t.entries w).map Prod.fst)) :=
  ends_forNames hw fun name _ _ => ends_pure name

theorem ends_size (hw : (t.providers w).Reliable) :
    Ends w.OnlyCalled t.size (.ok (t.entries w).length) := by
  rw [← List.length_map Prod.fst]
  exact (ends_present hw).bind_ok (ends_pure _)

/-- What follows a count of the names ends as it would without the count. -/
theorem ends_after_measure (hw : (t.providers w).Reliable) {α : Type} {x : Act World α}
    {r : Except Fault α} (h : Ends w.OnlyCalled x r) :
    Ends w.OnlyCalled (do t.measure; x) r := by
  have hm : Ends w.OnlyCalled t.measure (.ok ()) :=
    (ends_size hw).attempt.bind_ok (ends_pure ())
  exact hm.bind_ok h

theorem ends_names (hw : (t.providers w).Reliable) :
    Ends w.OnlyCalled t.names (.ok ((t.entries w).map Prod.fst)) :=
  ends_after_measure hw (ends_present hw)

theorem ends_pairs (hw : (t.providers w).Reliable) :
    Ends w.OnlyCalled t.pairs (.ok (t.entries w)) := by
  rw [← List.map_id (t.entries w)]
  exact ends_forNames hw fun name value h => (ends_item_of_found hw h).bind_ok (ends_pure _)

theorem ends_items (hw : (t.providers w).Reliable) :
    Ends w.OnlyCalled t.items (.ok (t.entries w)) :=
  ends_after_measure hw (ends_pairs hw)

theorem ends_values (hw : (t.providers w).Reliable) :
    Ends w.OnlyCalled t.values (.ok ((t.entries w).map Prod.snd)) :=
  ends_after_measure hw (ends_forNames hw fun _ _ h => ends_item_of_found hw h)

/-! ## Names and lookups -/

/-- The variable of an override property is looked at. -/
theorem isOverrideVariable_of_mem {x : String} (hn : name ∈ overrides)
    (hx : variableFor? name = some x) : isOverrideVariable x = true := by
  have h : ∀ name ∈ overrides, (variableFor? name).all isOverrideVariable = true := by
    decide +kernel
  have ha := h name hn
  rwa [hx, Option.all_some] at ha

/-- **Of the variables that are not looked at none carries an override property.** -/
theorem overridesOf_eq (x : String) :
    overridesOf x = overrides.filter fun name => variableFor? name == some x := by
  unfold overridesOf
  by_cases hx : isOverrideVariable x = true
  · rw [if_pos hx]
  · rw [if_neg hx, eq_comm, List.filter_eq_nil_iff]
    intro name hn he
    exact hx (isOverrideVariable_of_mem hn (eq_of_beq he))

theorem mem_candidates : name ∈ t.candidates w ↔
    name ∈ t.explicit.keys ∨
      (name ∈ overrides ∧ ∃ x ∈ (t.environ w).keys, variableFor? name = some x) ∨
      name ∈ (t.providers w).keys := by
  have ho : overridesOf = fun x => overrides.filter fun name => variableFor? name == some x :=
    funext overridesOf_eq
  unfold candidates
  rw [ho]
  rw [List.mem_eraseDups, List.mem_append, List.mem_append, List.mem_flatMap, or_assoc]
  refine or_congr Iff.rfl (or_congr ?_ Iff.rfl)
  constructor
  · rintro ⟨x, hx, hn⟩
    obtain ⟨hn, he⟩ := List.mem_filter.mp hn
    exact ⟨hn, x, hx, eq_of_beq he⟩
  · rintro ⟨hn, x, hx, he⟩
    exact ⟨x, hx, List.mem_filter.mpr ⟨hn, beq_iff_eq.mpr he⟩⟩

theorem names_entries (t : Table) (w : World) :
    (t.entries w).map Prod.fst = (t.candidates w).filter fun n => (t.found? w n).isSome := by
  unfold entries
  rw [List.map_filterMap, ← List.filterMap_eq_filter]
  congr 1
  funext n
  cases h : t.found? w n <;> simp [Option.guard, h]

theorem nodup_names (t : Table) (w : World) : ((t.entries w).map Prod.fst).Nodup := by
  rw [names_entries]
  exact (Pairs.nodup_eraseDups _).filter _

theorem found_of_mem_entries {value : String} (h : (name, value) ∈ t.entries w) :
    t.found? w name = some value := by
  obtain ⟨n, -, hn⟩ := List.mem_filterMap.mp h
  obtain ⟨v, hv, he⟩ := Option.map_eq_some_iff.mp hn
  cases he
  exact hv

/-- A name without an entry and without a provider that is no override property, but whose variable
is set. -/
structure Unlisted (t : Table) (w : World) (name : String) : Prop where
  entry : name ∉ t.explicit.keys
  provider : name ∉ (t.providers w).keys
  override : name ∉ overrides
  carrier : ∃ x ∈ (t.environ w).keys, variableFor? name = some x

/-- A lookup that finds something finds it for a name of the table, or for an unlisted one. -/
theorem mem_candidates_or_unlisted {value : String} (h : t.found? w name = some value) :
    name ∈ t.candidates w ∨ t.Unlisted w name := by
  by_cases he : name ∈ t.explicit.keys
  · exact Or.inl (mem_candidates.mpr (Or.inl he))
  by_cases hp : name ∈ (t.providers w).keys
  · exact Or.inl (mem_candidates.mpr (Or.inr (Or.inr hp)))
  -- without an entry and a provider only the variable is left
  obtain ⟨x, hx, hv⟩ : ∃ x ∈ (t.environ w).keys, variableFor? name = some x := by
    unfold found? at h
    rcases hl : t.lookup name w with ⟨r, w₁⟩
    rw [hl] at h
    cases lookup_eq_iff_sees.mp hl with
    | explicit hn => exact absurd (Entries.mem_keys_of_get? hn) he
    | environment _ hx hn => exact ⟨_, Entries.mem_keys_of_get? hn, hx⟩
    | nothing => cases h
    | provided _ _ hn => exact absurd (Entries.mem_keys_of_get? hn) hp
    | absent _ _ hn => exact absurd (Entries.mem_keys_of_get? hn) hp
    | failed _ _ hn => exact absurd (Entries.mem_keys_of_get? hn) hp
  by_cases ho : name ∈ overrides
  · exact Or.inl (mem_candidates.mpr (Or.inr (Or.inl ⟨ho, x, hx, hv⟩)))
  · exact Or.inr ⟨he, hp, ho, x, hx, hv⟩

theorem Unlisted.not_mem_candidates (h : t.Unlisted w name) : name ∉ t.candidates w := by
  rw [mem_candidates]
  rintro (he | ⟨ho, -⟩ | hp)
  · exact h.entry he
  · exact h.override ho
  · exact h.provider hp

/-- **An unlisted name is found, with the value of its variable.** -/
theorem Unlisted.found?_eq (h : t.Unlisted w name) :
    ∃ x value, variableFor? name = some x ∧ (t.environ w).get? x = some value ∧
      t.found? w name = some value := by
  obtain ⟨x, hx, hc⟩ := h.carrier
  have he : t.explicit.get? name = none := Entries.get?_eq_none_iff.mpr h.entry
  cases hv : (t.environ w).get? x with
  | none => exact absurd hx (Entries.get?_eq_none_iff.mp hv)
  | some value =>
    refine ⟨x, value, hc, hv, ?_⟩
    rw [found?, lookup_of_sees (.environment he hc hv)]
    rfl

theorem mem_names_iff :
    name ∈ (t.entries w).map Prod.fst ↔ (t.found? w name).isSome ∧ ¬ t.Unlisted w name := by
  rw [names_entries, List.mem_filter, and_comm]
  refine and_congr_right fun hf => ⟨fun hn hu => hu.not_mem_candidates hn, fun hu => ?_⟩
  obtain ⟨value, hv⟩ := Option.isSome_iff_exists.mp hf
  exact (mem_candidates_or_unlisted hv).resolve_right hu

/-- **The names of a table are those that a lookup sees, the unlisted ones apart.** Each comes once,
and the pairs, the values and the size go by the same names. An unlisted name is there for a lookup
all the same, with the value of its variable. -/
theorem names_are_what_lookups_see (hw : (t.providers w).Reliable) :
    ∃ entries : List (String × String),
      (t.names w).1 = .ok (entries.map Prod.fst) ∧ (t.items w).1 = .ok entries ∧
      (t.values w).1 = .ok (entries.map Prod.snd) ∧ (t.size w).1 = .ok entries.length ∧
      (entries.map Prod.fst).Nodup ∧
      (∀ e ∈ entries, (t.get? e.1 w).1 = .ok (some e.2)) ∧
      ∀ name, ∃ value, (t.get? name w).1 = .ok value ∧ (t.has name w).1 = .ok value.isSome ∧
        (name ∈ entries.map Prod.fst ↔ value.isSome ∧ ¬ t.Unlisted w name) ∧
        (t.Unlisted w name → ∃ x v, variableFor? name = some x ∧
          (t.environ w).get? x = some v ∧ value = some v) := by
  have start : w.OnlyCalled w := refl_of World.OnlyCalled w
  refine ⟨t.entries w, (ends_names hw w start).1, (ends_items hw w start).1,
    (ends_values hw w start).1, (ends_size hw w start).1, nodup_names t w, fun e he => ?_,
    fun name => ⟨t.found? w name, (ends_get? hw name w start).1, (ends_has hw name w start).1,
      mem_names_iff, fun h => h.found?_eq⟩⟩
  rw [(ends_get? hw e.1 w start).1, found_of_mem_entries he]

/-- A table with an entry, three variables and two providers, one of which fails. One variable
belongs to a name that is not listed, one to none. -/
theorem names_in_three_layers :
    ∃ (t : Table) (w : World) (entries : List (String × String)), (t.providers w).Reliable ∧
      (t.items w).1 = .ok entries ∧
      entries.map Prod.fst = ["custom.name", "platctx.currentUser", "os.name"] ∧
      (t.has "user.dir" w).1 = .ok false ∧
      t.Unlisted w "platctx.logLevel" ∧ (t.get? "platctx.logLevel" w).1 = .ok (some "info") := by
  let t : Table := ⟨.ofList [("custom.name", "x")], .process⟩
  let providers : Providers := .ofList [("os.name", ⟨fun _ => .ok (some "Linux"), 0⟩),
    ("user.dir", ⟨fun _ => .error (.foreign .missingFile "gone"), 0⟩)]
  let w := World.ofProcess (.ofList [("PLATCTX_CURRENT_USER", "ann"), ("PLATCTX_CONFIG", "a.yml"),
    ("PLATCTX_LOG_LEVEL", "info")]) providers Files.none.read
  have hp : providers.Reliable := by
    refine Providers.reliable_ofList fun e he => ?_
    rw [List.mem_cons, List.mem_singleton] at he
    rcases he with rfl | rfl
    · exact ⟨fun _ => rfl, fun _ he => by cases he⟩
    · refine ⟨fun _ => rfl, fun _ he => ?_⟩
      cases he
      exact ⟨.missingFile, rfl, .system, by simp, rfl⟩
  have hw : (t.providers w).Reliable := hp
  obtain ⟨entries, hn, hi, -, -, -, -, hl⟩ := names_are_what_lookups_see hw
  -- the whole listing is closed, so it can be computed
  have hs : (t.names w).1.toOption = some ["custom.name", "platctx.currentUser", "os.name"] := by
    subst w providers t
    decide +kernel
  have hnames : entries.map Prod.fst = ["custom.name", "platctx.currentUser", "os.name"] := by
    rw [hn] at hs
    exact Option.some.inj hs
  have hd : (t.has "user.dir" w).1 = .ok false := by
    obtain ⟨value, -, hh, hm, -⟩ := hl "user.dir"
    have hu : ¬ t.Unlisted w "user.dir" := fun hu => hu.provider (by decide)
    have hv : value.isSome = false := Bool.eq_false_iff.mpr fun hv => by
      have := hm.mpr ⟨hv, hu⟩
      rw [hnames] at this
      simp at this
    rw [hh, hv]
  have hu : t.Unlisted w "platctx.logLevel" :=
    ⟨by decide, by decide, by decide, "PLATCTX_LOG_LEVEL", by decide, rfl⟩
  obtain ⟨value, hg, -, -, hf⟩ := hl "platctx.logLevel"
  obtain ⟨x, v, hx, hv, rfl⟩ := hf hu
  obtain rfl : "PLATCTX_LOG_LEVEL" = x := Option.some.inj hx
  obtain rfl : "info" = v := Option.some.inj hv
  exact ⟨t, w, entries, hw, hi, hnames, hd, hu, hg⟩

/-- A variable may be set for a name that is none of the names of the table. -/
theorem variable_without_listed_name :
    let w := World.ofProcess (.ofList [("PLATCTX_LOG_LEVEL", "info")]) .empty Files.none.read
    (empty.providers w).Reliable ∧ (empty.has "platctx.logLevel" w).1 = .ok true ∧
      (empty.names w).1 = .ok [] := by
  intro w
  refine ⟨fun name script h => ?_, rfl, rfl⟩
  cases h

end Table

end HostFacts
