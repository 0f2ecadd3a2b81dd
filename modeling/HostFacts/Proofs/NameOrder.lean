import HostFacts.Proofs.TableNames
import Mathlib.Data.List.Nodup

/-!
# The order of the names of a table

Going through a table goes through the explicit names, the override properties whose variables are
set, and the names of the providers. A name may be in all three, and each candidate is looked up
again, where another layer may answer than the one that brought the name. Still a name comes once,
at the place of the first layer that has it.

An iteration can end with the fault of a provider, and the names before it were yielded by then
(`iterated`). The order is told for providers that can be relied on (`Providers.Reliable`).

* `nodup_iterated`: no iteration yields a name twice, however it ends;
* `candidates_eq`: the names that are tried, layer by layer;
* `names_entries_eq`: those of them that are there; only names of providers can be missing;
* **`names_come_layer_by_layer`**: with this order, the values, the size, and equality with the
  mapping of its own items.
-/

namespace HostFacts

open HostFacts.Property Act

namespace Table

variable {t : Table} {w : World} {name : String} {names : List String}

/-! ## What an iteration yields -/

/-- The names that going through candidates yields. A lookup that fails ends it, and the names
before are yielded. -/
def yielded (t : Table) : List String → World → List String
  | [], _ => []
  | name :: rest, w =>
    match t.lookup name w with
    | (.ok (some _), w') => name :: t.yielded rest w'
    | (.ok none, w') => t.yielded rest w'
    | (.error _, _) => []

/-- The names that an iteration yields, however it ends. -/
def iterated (t : Table) (w : World) : List String := t.yielded (t.candidates w) w

theorem yielded_sublist : ∀ (names : List String) (w : World), (t.yielded names w).Sublist names
  | [], _ => .slnil
  | name :: rest, w => by
    unfold yielded
    split
    · exact (yielded_sublist rest _).cons_cons name
    · exact (yielded_sublist rest _).cons name
    · exact List.nil_sublist _

/-- **No iteration yields a name twice.** -/
theorem nodup_iterated (t : Table) (w : World) : (t.iterated w).Nodup :=
  (yielded_sublist _ w).nodup (Pairs.nodup_eraseDups _)

/-- A pass over the candidates that does not fail collects what is yielded. -/
theorem eq_yielded_of_collect : ∀ {candidates : List String} {w w' : World} {names : List String},
    t.collect (fun name => return name) candidates w = (.ok names, w') →
    names = t.yielded candidates w
  | [], _, _, _, h => by
    cases h
    rfl
  | name :: rest, w, w', names, h => by
    unfold collect at h
    obtain ⟨value, w₁, hl, h⟩ := bind_eq_ok_iff.mp h
    unfold yielded
    rw [hl]
    cases value with
    | none => exact eq_yielded_of_collect h
    | some value =>
      obtain ⟨_, _, hp, h⟩ := bind_eq_ok_iff.mp h
      cases hp
      obtain ⟨others, w₂, ho, h⟩ := bind_eq_ok_iff.mp h
      cases h
      exact congrArg (name :: ·) (eq_yielded_of_collect ho)

theorem eq_iterated_of_present (h : (t.present w).1 = .ok names) : names = t.iterated w :=
  eq_yielded_of_collect (Prod.ext h rfl)

theorem nodup_of_names (h : (t.names w).1 = .ok names) : names.Nodup := by
  obtain ⟨-, w₁, -, hp⟩ := bind_eq_ok_iff.mp (Prod.ext h rfl)
  rw [eq_iterated_of_present (congrArg Prod.fst hp)]
  exact nodup_iterated t w₁

/-! ## The layers in order -/

/-- The override property that a variable sets. -/
def overrideOf? : String → Option String
  | "PLATCTX_CURRENT_USER" => some "platctx.currentUser"
  | "PLATCTX_RUNTIME_VERSION" => some "platctx.runtimeVersion"
  | "PLATCTX_OS_TYPE" => some "platctx.osType"
  | "PLATCTX_CONSTRAINED_RUNTIME" => some "platctx.constrainedRuntime"
  | "PLATCTX_ALTERNATE_VM" => some "platctx.alternateVM"
  | _ => none

/-- The override properties that are set, in the order of the environment. -/
def setOverrides (t : Table) (w : World) : List String :=
  (t.environ w).keys.filterMap overrideOf?

theorem overridesOf_eq_toList (x : String) : overridesOf x = (overrideOf? x).toList := by
  have hu : variableFor? currentUser = some "PLATCTX_CURRENT_USER" := rfl
  have hv : variableFor? runtimeVersionOverride = some "PLATCTX_RUNTIME_VERSION" := rfl
  have ho : variableFor? osTypeOverride = some "PLATCTX_OS_TYPE" := rfl
  have hc : variableFor? constrainedRuntime = some "PLATCTX_CONSTRAINED_RUNTIME" := rfl
  have ha : variableFor? alternateVm = some "PLATCTX_ALTERNATE_VM" := rfl
  have hf := overridesOf_eq x
  simp only [overrides, List.filter_cons, List.filter_nil, hu, hv, ho, hc, ha] at hf
  unfold overrideOf?
  split
  case h_6 hu hv ho hc ha =>
    simp [hf, Ne.symm hu, Ne.symm hv, Ne.symm ho, Ne.symm hc, Ne.symm ha]
  all_goals exact hf

theorem variableFor?_of_overrideOf? {x : String} (h : overrideOf? x = some name) :
    variableFor? name = some x := by
  have hn : name ∈ overridesOf x := by simp [overridesOf_eq_toList, h]
  rw [overridesOf_eq] at hn
  exact eq_of_beq (List.mem_filter.mp hn).2

/-- Different variables set different properties. -/
theorem nodup_setOverrides (t : Table) (w : World) : (t.setOverrides w).Nodup := by
  refine List.Nodup.filterMap (fun x y name hx hy => ?_) (t.environ w).nodup_keys
  have hxy := (variableFor?_of_overrideOf? hx).symm.trans (variableFor?_of_overrideOf? hy)
  exact Option.some.inj hxy

/-- **The names that are tried, layer by layer.** -/
theorem candidates_eq (t : Table) (w : World) : t.candidates w =
    t.explicit.keys ++ (t.setOverrides w).filter (· ∉ t.explicit.keys) ++
      (t.providers w).keys.filter (· ∉ t.explicit.keys ++ t.setOverrides w) := by
  have hs : (t.environ w).keys.flatMap overridesOf = t.setOverrides w := by
    rw [setOverrides, List.filterMap_eq_flatMap_toList]
    exact congrArg (List.flatMap · _) (funext overridesOf_eq_toList)
  have removeAll_eq (l r : List String) : l.removeAll r = l.filter (· ∉ r) :=
    List.filter_congr fun name _ => by simp
  rw [candidates, hs, List.eraseDups_append, List.eraseDups_append, removeAll_eq, removeAll_eq,
    Pairs.eraseDups_of_nodup t.explicit.nodup_keys,
    Pairs.eraseDups_of_nodup ((nodup_setOverrides t w).filter _),
    Pairs.eraseDups_of_nodup ((t.providers w).nodup_keys.filter _)]

/-- An explicit name is always there. -/
theorem found_of_explicit (h : name ∈ t.explicit.keys) : (t.found? w name).isSome = true := by
  cases he : t.explicit.get? name with
  | none => exact absurd h (Entries.get?_eq_none_iff.mp he)
  | some value =>
    rw [found?, lookup_of_sees (.explicit he)]
    rfl

/-- So is an override property that is set. -/
theorem found_of_set (h : name ∈ t.setOverrides w) : (t.found? w name).isSome = true := by
  obtain ⟨x, hx, hn⟩ := List.mem_filterMap.mp h
  cases he : t.explicit.get? name with
  | some value => exact found_of_explicit (Entries.mem_keys_of_get? he)
  | none =>
    cases hv : (t.environ w).get? x with
    | none => exact absurd hx (Entries.get?_eq_none_iff.mp hv)
    | some value =>
      rw [found?, lookup_of_sees (.environment he (variableFor?_of_overrideOf? hn) hv)]
      rfl

/-- The names that are there, layer by layer: the explicit ones, the override properties that are
set, and the providers that have something. -/
def layered (t : Table) (w : World) : List String :=
  t.explicit.keys ++ (t.setOverrides w).filter (· ∉ t.explicit.keys) ++
    (t.providers w).keys.filter fun name =>
      name ∉ t.explicit.keys ++ t.setOverrides w ∧ (t.found? w name).isSome = true

/-- **Only providers can be missing.** -/
theorem names_entries_eq (t : Table) (w : World) :
    (t.entries w).map Prod.fst = t.layered w := by
  have he : t.explicit.keys.filter (fun name => (t.found? w name).isSome) = t.explicit.keys :=
    List.filter_eq_self.mpr fun name hn => found_of_explicit hn
  have hs : ((t.setOverrides w).filter (· ∉ t.explicit.keys)).filter
      (fun name => (t.found? w name).isSome) = (t.setOverrides w).filter (· ∉ t.explicit.keys) :=
    List.filter_eq_self.mpr fun name hn => found_of_set (List.mem_filter.mp hn).1
  rw [names_entries, candidates_eq, List.filter_append, List.filter_append, he, hs,
    List.filter_filter, layered]
  congr 1
  exact List.filter_congr fun name _ => by simp [Bool.and_comm]

/-! ## Equality with the items -/

theorem get?_textEntries (pairs : List (String × String)) (name : String) :
    Pairs.get? (textEntries pairs) (.text name) = (Pairs.get? pairs name).map Value.text := by
  induction pairs with
  | nil => rfl
  | cons e rest ih =>
    have hk : (Value.text e.1 == Value.text name) = (e.1 == name) := rfl
    show (if Value.text e.1 == Value.text name then _ else Pairs.get? (textEntries rest) _) = _
    rw [hk, ih, Pairs.get?]
    split <;> rfl

/-- A table agrees with the entries of its own pairs. -/
theorem agrees_textEntries {pairs : List (String × String)} (h : (pairs.map Prod.fst).Nodup) :
    agrees pairs (textEntries (Entries.ofList pairs).pairs) = true := by
  have hp : (Entries.ofList pairs).pairs = pairs := Pairs.ofList_of_nodup h
  rw [hp, agrees, textEntries, List.length_map, beq_self_eq_true,
    Bool.true_and, List.all_eq_true]
  rintro ⟨name, value⟩ he
  rw [← textEntries, get?_textEntries, Pairs.get?_of_mem h he]
  exact beq_self_eq_true value

/-- The mapping of the items of a table. -/
def toMapping (t : Table) : Act World Value := do
  return .map (textEntries (Entries.ofList (← t.pairs)).pairs)

theorem ends_toMapping_equalsValue (hw : (t.providers w).Reliable) :
    Ends w.OnlyCalled (t.toMapping >>= t.equalsValue) (.ok true) := by
  have hm : Ends w.OnlyCalled t.toMapping
      (.ok (.map (textEntries (Entries.ofList (t.entries w)).pairs))) :=
    (ends_pairs hw).bind_ok (ends_pure _)
  rw [← agrees_textEntries (nodup_names t w)]
  exact hm.bind_ok ((ends_pairs hw).bind_ok (ends_pure _))

/-! ## The order -/

/-- **The names of a table come layer by layer, each once.** However the providers end, an iteration
yields no name twice, and a list of the names has what an iteration yields. Where the providers can
be relied on, the names are the explicit ones, then the override properties that are set, in the
order of the environment, then the providers that have something, and none is missing. The values
are those of lookups, the size is the number of names, and the table equals the mapping of its
items. -/
theorem names_come_layer_by_layer (t : Table) (w : World) :
    (t.iterated w).Nodup ∧
    (∀ names, (t.present w).1 = .ok names → names = t.iterated w) ∧
    (∀ names, (t.names w).1 = .ok names → names.Nodup) ∧
    ((t.providers w).Reliable → ∃ entries : List (String × String),
      entries.map Prod.fst = t.layered w ∧
      (t.present w).1 = .ok (entries.map Prod.fst) ∧
      (t.names w).1 = .ok (entries.map Prod.fst) ∧
      (t.items w).1 = .ok entries ∧
      (t.size w).1 = .ok entries.length ∧
      (∀ e ∈ entries, (t.lookup e.1 w).1 = .ok (some e.2)) ∧
      ((t.toMapping >>= t.equalsValue) w).1 = .ok true) := by
  refine ⟨nodup_iterated t w, fun _ h => eq_iterated_of_present h, fun _ h => nodup_of_names h,
    fun hw => ?_⟩
  have start : w.OnlyCalled w := refl_of World.OnlyCalled w
  refine ⟨t.entries w, names_entries_eq t w, (ends_present hw w start).1,
    (ends_names hw w start).1, (ends_items hw w start).1, (ends_size hw w start).1,
    fun e he => ?_, (ends_toMapping_equalsValue hw w start).1⟩
  rw [(ends_lookup hw e.1 w start).1, found_of_mem_entries he]

/-- A table with three layers in which two names are in several, a provider fails, and one has
nothing. -/
theorem layers_share_names :
    let t : Table :=
      ⟨.ofList [("platctx.osType", "mac"), ("custom.name", "x"), ("os.name", "y")], .process⟩
    let providers : Providers := .ofList [("user.name", ⟨fun _ => .ok (some "eve"), 0⟩),
      ("os.name", ⟨fun _ => .ok (some "Linux"), 0⟩),
      ("user.dir", ⟨fun _ => .error (.foreign .missingFile "gone"), 0⟩),
      ("os.release", ⟨fun _ => .ok none, 0⟩),
      ("platctx.currentUser", ⟨fun _ => .ok (some "bob"), 0⟩)]
    let w := World.ofProcess (.ofList [("PLATCTX_ALTERNATE_VM", "z"), ("PLATCTX_OS_TYPE", "unix"),
      ("PLATCTX_CONFIG", "a.yml"), ("PLATCTX_CURRENT_USER", "ann")]) providers Files.none.read
    (t.providers w).Reliable ∧ ∃ entries, (t.items w).1 = .ok entries ∧
      entries.map Prod.fst = ["platctx.osType", "custom.name", "os.name", "platctx.alternateVM",
        "platctx.currentUser", "user.name"] := by
  intro t providers w
  have hw : providers.Reliable := by
    refine Providers.reliable_ofList fun e he => ?_
    simp only [List.mem_cons, List.not_mem_nil, or_false] at he
    obtain rfl | rfl | rfl | rfl | rfl := he
    case inr.inr.inl =>
      refine ⟨fun _ => rfl, fun _ hf => ?_⟩
      cases hf
      exact ⟨.missingFile, rfl, .system, by simp, rfl⟩
    all_goals exact ⟨fun _ => rfl, fun _ hf => by cases hf⟩
  obtain ⟨-, -, -, hl⟩ := names_come_layer_by_layer t w
  obtain ⟨entries, hk, -, -, hi, -⟩ := hl hw
  exact ⟨hw, entries, hi, hk.trans rfl⟩

end Table

end HostFacts
