import HostFacts.Proofs.Effects
import HostFacts.Property.Table
import Mathlib.Data.List.Basic

/-!
# The properties of a nested mapping are its leaves

A table takes a nested mapping and keeps flat properties. The mapping is a tree: its leaves are the
values that are no mappings, and a leaf is reached by the keys on the way to it. Flattening goes
through the tree with the names made so far; here the leaves are listed first (`leaves`) and named
afterwards (`pathName`), and the two ways come to the same.

A leaf with elements is a fault. A point in a key and a step into a mapping look the same in a name,
so several leaves may have one name. Then the last one that is not null counts, and the place among
the names is that of the first one that is not null.

Integers beyond the digit limit have no text, and neither has a mapping that holds itself or lies
too deep for the stack. Mappings without them are `Legible`, and all that flatten are.

* `flatten_eq`: flattening is naming the leaves, or ends at the first collection among them;
* `flatten_eq_ok_iff`: which mappings flatten, and to what;
* `isA_value_or_endless`: what is wrong with a mapping is a bad value, or the stack has no room for
  going through it; the latter is up to `Overflows` (`flatten_eq_endless_iff`);
* **`Table.leaves_are_properties`**: the properties of a table, one name at a time and in order.
-/

namespace HostFacts

open Act

namespace Property

/-! ## Leaves -/

mutual

/-- The leaves of the entries of a mapping, each with the keys that lead to it, in order. A mapping
without entries has none. -/
def leaves : List (Value × Value) → List (List Value × Value)
  | [] => []
  | (key, value) :: rest => (leavesOf value).map (fun l => (key :: l.1, l.2)) ++ leaves rest

/-- The leaves of a value: those of its entries, or else the value itself. -/
def leavesOf : Value → List (List Value × Value)
  | .map entries => leaves entries
  | v => [([], v)]

end

/-- The name of a leaf: the texts of the keys that lead to it, with points between them. -/
def pathName (path : List Value) : String := String.intercalate "." (path.map Value.plain)

/-- The text of a leaf as a property: a truth value is a word in small letters, and null is
nothing. -/
def leafText? : Value → Option String
  | .null => none
  | .bool b => some (if b then "true" else "false")
  | v => some v.plain

/-- Whether a value is null. -/
def isNull : Value → Bool
  | .null => true
  | _ => false

/-- Whether a value is a list, a tuple or a set. -/
def isCollection : Value → Bool
  | .list _ | .enclosingList | .tuple _ | .set _ => true
  | _ => false

mutual

/-- Each key and each leaf that is no collection has a text: its integers are within the digit
limit, and it is no mapping that it lies in or that is too deep. -/
def Legible : List (Value × Value) → Prop
  | [] => True
  | (key, value) :: rest => key.isWritable = true ∧ LegibleValue value ∧ Legible rest

/-- The keys and leaves of a value have texts. -/
def LegibleValue : Value → Prop
  | .map entries => Legible entries
  | .enclosingMap => False
  | .list _ | .enclosingList | .tuple _ | .set _ => True
  | v => v.isWritable = true

end

/-! ## Naming leaves -/

section Naming

variable {nameOf : List Value → String} {a b : List (List Value × Value)}

/-- The properties of a list of leaves under given names; the first collection is the fault. -/
def named (nameOf : List Value → String) (ls : List (List Value × Value)) :
    Except Fault (List (String × String)) :=
  match ls.find? fun l => isCollection l.2 with
  | some l => .error (.listProperty (nameOf l.1))
  | none => .ok (ls.filterMap fun l => (leafText? l.2).map fun text => (nameOf l.1, text))

theorem named_append : named nameOf (a ++ b) =
    (do let here ← named nameOf a; let others ← named nameOf b; return here ++ others) := by
  unfold named
  rw [List.find?_append, List.filterMap_append]
  cases a.find? fun l => isCollection l.2 with
  | some l => rfl
  | none =>
    cases b.find? fun l => isCollection l.2 with
    | some l => rfl
    | none => rfl

/-- A key in front of the paths may as well be part of the name. -/
theorem named_map (key : Value) (ls : List (List Value × Value)) :
    named nameOf (ls.map fun l => (key :: l.1, l.2)) =
      named (fun path => nameOf (key :: path)) ls := by
  unfold named
  rw [List.find?_map, List.filterMap_map]
  show (match (ls.find? fun l => isCollection l.2).map fun l => (key :: l.1, l.2) with
    | some l => _
    | none => _) = _
  cases ls.find? fun l => isCollection l.2 with
  | some l => rfl
  | none => rfl

theorem named_congr {nameOf' : List Value → String} {ls : List (List Value × Value)}
    (h : ∀ l ∈ ls, nameOf l.1 = nameOf' l.1) : named nameOf ls = named nameOf' ls := by
  unfold named
  cases hc : ls.find? fun l => isCollection l.2 with
  | some l => simp only [h l (List.mem_of_find?_eq_some hc)]
  | none =>
    refine congrArg Except.ok (List.filterMap_congr fun l hl => ?_)
    rw [h l hl]

end Naming

/-- A leaf of a mapping is behind a key. -/
theorem path_ne_nil : ∀ {entries : List (Value × Value)} {l : List Value × Value},
    l ∈ leaves entries → l.1 ≠ []
  | (key, value) :: rest, l, h => by
    rw [leaves, List.mem_append, List.mem_map] at h
    rcases h with ⟨inner, -, rfl⟩ | h
    · exact List.cons_ne_nil _ _
    · exact path_ne_nil h

/-! ## Flattening names the leaves -/

mutual

theorem flattenEntries_eq : ∀ {entries : List (Value × Value)} (lead : String), Legible entries →
    flattenEntries lead entries = named (fun path => lead ++ pathName path) (leaves entries)
  | [], _, _ => rfl
  | (key, value) :: rest, lead, h => by
    obtain ⟨hk, hv, hr⟩ := h
    have hkey : key.written = .ok key.plain := Value.written_eq_ok_iff.mpr ⟨hk, rfl⟩
    have hname : (fun path => lead ++ pathName (key :: path)) =
        fun path => String.intercalate "." ((lead ++ key.plain) :: path.map Value.plain) :=
      funext fun path => String.intercalate_cons_append.symm
    rw [flattenEntries, hkey, leaves, named_append, named_map, hname,
      ← flattenValue_eq (lead ++ key.plain) hv, ← flattenEntries_eq lead hr]
    rfl

theorem flattenValue_eq : ∀ {v : Value} (name : String), LegibleValue v →
    flattenValue name v = named
      (fun path => String.intercalate "." (name :: path.map Value.plain)) (leavesOf v)
  | .map entries, name, h => by
    rw [flattenValue, leavesOf, flattenEntries_eq (name ++ ".") h]
    refine named_congr fun l hl => ?_
    obtain ⟨key, path, hp⟩ := List.exists_cons_of_ne_nil (path_ne_nil hl)
    rw [hp, pathName, List.map_cons, String.intercalate_cons_cons]
  | .null, _, _ | .bool _, _, _ | .list _, _, _ | .enclosingList, _, _ | .tuple _, _, _
  | .set _, _, _ => rfl
  | .int _, _, h | .float _, _, h | .text _, _, h | .bytes _, _, h | .date _, _, h
  | .moment _, _, h | .version _, _, h => by
    rw [flattenValue, Value.written_eq_ok_iff.mpr ⟨h, rfl⟩]
    · rfl
    all_goals exact nofun

end

variable {entries : List (Value × Value)} {pairs : List (String × String)}

/-- **Flattening names the leaves**, or ends at the first collection among them. -/
theorem flatten_eq (h : Legible entries) : flatten entries = named pathName (leaves entries) := by
  have hname : (fun path => "" ++ pathName path) = pathName :=
    funext fun path => String.empty_append
  rw [flatten, flattenEntries_eq "" h, hname]

mutual

theorem legible_of_flattenEntries : ∀ {lead : String} {entries : List (Value × Value)}
    {pairs : List (String × String)}, flattenEntries lead entries = .ok pairs → Legible entries
  | _, [], _, _ => trivial
  | lead, (key, value) :: rest, _, h => by
    rw [flattenEntries] at h
    obtain ⟨name, hk, h⟩ := exceptBind_eq_ok_iff.mp h
    obtain ⟨here, hv, h⟩ := exceptBind_eq_ok_iff.mp h
    obtain ⟨others, hr, -⟩ := exceptBind_eq_ok_iff.mp h
    exact ⟨(Value.written_eq_ok_iff.mp hk).1, legible_of_flattenValue hv,
      legible_of_flattenEntries hr⟩

theorem legible_of_flattenValue {name : String} {v : Value} {pairs : List (String × String)}
    (h : flattenValue name v = .ok pairs) : LegibleValue v := by
  cases v with
  | map entries =>
    rw [flattenValue] at h
    exact legible_of_flattenEntries h
  | null | bool _ => rfl
  | list _ | enclosingList | tuple _ | set _ => trivial
  | enclosingMap =>
    rw [flattenValue] at h
    cases h
  | _ =>
    rw [flattenValue] at h
    · obtain ⟨text, ht, -⟩ := exceptMap_eq_ok_iff.mp h
      exact (Value.written_eq_ok_iff.mp ht).1
    all_goals exact nofun

end

/-- What flattens is legible. -/
theorem legible_of_flatten (h : flatten entries = .ok pairs) : Legible entries :=
  legible_of_flattenEntries h

/-! ## Leaves under one name -/

section Names

variable {ls : List (List Value × Value)} {name text : String}

/-- The path leads to the first collection among the leaves. -/
def FirstCollection (ls : List (List Value × Value)) (path : List Value) : Prop :=
  ∃ before v after, ls = before ++ (path, v) :: after ∧
    (∀ l ∈ before, isCollection l.2 = false) ∧ isCollection v = true

/-- Of the leaves of this name that are not null, the last one has this text. -/
def LastText (ls : List (List Value × Value)) (name text : String) : Prop :=
  ∃ before path v after, ls = before ++ (path, v) :: after ∧ pathName path = name ∧
    leafText? v = some text ∧ ∀ l ∈ after, pathName l.1 = name → l.2 = .null

/-- The properties of leaves that are no collections. -/
def properties (ls : List (List Value × Value)) : List (String × String) :=
  ls.filterMap fun l => (leafText? l.2).map fun text => (pathName l.1, text)

theorem leafText?_eq_none_iff {v : Value} : leafText? v = none ↔ v = .null := by
  cases v <;> simp [leafText?]

theorem named_eq_ok_iff {nameOf : List Value → String} {pairs : List (String × String)} :
    named nameOf ls = .ok pairs ↔ (∀ l ∈ ls, isCollection l.2 = false) ∧
      pairs = ls.filterMap fun l => (leafText? l.2).map fun text => (nameOf l.1, text) := by
  unfold named
  cases hc : ls.find? fun l => isCollection l.2 with
  | some l =>
    have hl := List.find?_some hc
    simp only [reduceCtorEq, false_iff]
    rintro ⟨h, -⟩
    rw [h l (List.mem_of_find?_eq_some hc)] at hl
    cases hl
  | none =>
    have hn : ∀ l ∈ ls, isCollection l.2 = false := by simpa using hc
    rw [Except.ok.injEq, eq_comm, and_iff_right hn]

theorem named_eq_error_iff {e : Fault} : named pathName ls = .error e ↔
    ∃ path, FirstCollection ls path ∧ e = .listProperty (pathName path) := by
  unfold named FirstCollection
  cases hc : ls.find? fun l => isCollection l.2 with
  | some l =>
    obtain ⟨hl, before, after, rfl, hb⟩ := List.find?_eq_some_iff_append.mp hc
    simp only [Except.error.injEq]
    constructor
    · rintro rfl
      exact ⟨l.1, ⟨before, l.2, after, rfl, by simpa using hb, hl⟩, rfl⟩
    · rintro ⟨path, ⟨before', v, after', he, hb', hv⟩, rfl⟩
      -- the first one is found, whichever way it is described
      have hf : (before' ++ (path, v) :: after').find? (fun l => isCollection l.2) =
          some (path, v) :=
        List.find?_eq_some_iff_append.mpr ⟨hv, before', after', rfl, by simpa using hb'⟩
      rw [← he, hc, Option.some.injEq] at hf
      rw [hf]
  | none =>
    have hn : ∀ l ∈ ls, isCollection l.2 = false := by simpa using hc
    simp only [reduceCtorEq, false_iff]
    rintro ⟨path, ⟨before, v, after, rfl, -, hv⟩, -⟩
    rw [hn (path, v) (by simp)] at hv
    cases hv

theorem mem_names_properties_iff : name ∈ (properties ls).map Prod.fst ↔
    ∃ l ∈ ls, pathName l.1 = name ∧ l.2 ≠ .null := by
  unfold properties
  rw [List.map_filterMap, List.mem_filterMap]
  constructor
  · rintro ⟨l, hl, hn⟩
    cases ht : leafText? l.2 with
    | none => simp [ht] at hn
    | some text =>
      refine ⟨l, hl, by simpa [ht] using hn, fun h => ?_⟩
      rw [leafText?_eq_none_iff.mpr h] at ht
      cases ht
  · rintro ⟨l, hl, rfl, hv⟩
    obtain ⟨text, ht⟩ := Option.ne_none_iff_exists'.mp (mt leafText?_eq_none_iff.mp hv)
    exact ⟨l, hl, by simp [ht]⟩

theorem names_properties (ls : List (List Value × Value)) :
    (properties ls).map Prod.fst = (ls.filter fun l => !isNull l.2).map fun l => pathName l.1 := by
  induction ls with
  | nil => rfl
  | cons l ls ih =>
    unfold properties at ih ⊢
    obtain ⟨path, v⟩ := l
    cases v with
    | null => exact ih
    | _ => exact congrArg (pathName path :: ·) ih

/-- The last property of a name is the text of the last leaf of the name that is not null. -/
theorem hasLast_iff_lastText :
    Pairs.HasLast (properties ls) name text ↔ LastText ls name text := by
  have rest (after : List (List Value × Value)) : name ∉ (properties after).map Prod.fst ↔
      ∀ l ∈ after, pathName l.1 = name → l.2 = .null := by
    rw [mem_names_properties_iff]
    simp
  constructor
  · rintro ⟨first, more, he, hn⟩
    obtain ⟨l, r, rfl, -, hr⟩ := List.filterMap_eq_append_iff.mp he
    obtain ⟨skipped, a, after, rfl, -, ha, rfl⟩ := List.filterMap_eq_cons_iff.mp hr
    obtain ⟨t, ht, hp⟩ := Option.map_eq_some_iff.mp ha
    obtain ⟨hname, rfl⟩ := Prod.mk.inj hp
    exact ⟨l ++ skipped, a.1, a.2, after, by simp, hname, ht, (rest after).mp hn⟩
  · rintro ⟨before, path, v, after, rfl, rfl, ht, hn⟩
    refine ⟨properties before, properties after, ?_, (rest after).mpr hn⟩
    unfold properties
    rw [List.filterMap_append, List.filterMap_cons_some (by rw [ht]; rfl)]

end Names

/-- **A nested mapping flattens if it is legible and no leaf is a collection**; the properties are
then those of its leaves. -/
theorem flatten_eq_ok_iff : flatten entries = .ok pairs ↔
    Legible entries ∧ (∀ l ∈ leaves entries, isCollection l.2 = false) ∧
      pairs = properties (leaves entries) := by
  constructor
  · intro h
    have hl := legible_of_flatten h
    exact ⟨hl, named_eq_ok_iff.mp ((flatten_eq hl).symm.trans h)⟩
  · rintro ⟨hl, h⟩
    exact (flatten_eq hl).trans (named_eq_ok_iff.mpr h)

/-! ## What is wrong with a mapping -/

theorem isA_value_of_written_eq_error {v : Value} {e : Fault} (h : v.written = .error e) :
    e.isA .value = true := by
  obtain ⟨-, rfl⟩ := Value.written_eq_error_iff.mp h
  rfl

/-- The property of a scalar fails only with its text. -/
theorem isA_value_of_map_written_eq_error {name : String} {v : Value} {e : Fault}
    (h : (v.written.map fun text => [(name, text)]) = .error e) : e.isA .value = true := by
  cases hw : v.written with
  | ok text =>
    rw [hw] at h
    cases h
  | error e' =>
    rw [hw] at h
    cases h
    exact isA_value_of_written_eq_error hw

mutual

theorem isA_value_or_endless_entries : ∀ {lead : String} {entries : List (Value × Value)}
    {e : Fault}, flattenEntries lead entries = .error e → e.isA .value = true ∨ e = .endless
  | _, [], _, h => by
    rw [flattenEntries] at h
    cases h
  | _, (_, value) :: rest, _, h => by
    rw [flattenEntries] at h
    rcases exceptBind_eq_error_iff.mp h with hk | ⟨name, -, h⟩
    · exact Or.inl (isA_value_of_written_eq_error hk)
    rcases exceptBind_eq_error_iff.mp h with hv | ⟨here, -, h⟩
    · exact isA_value_or_endless_value hv
    rcases exceptBind_eq_error_iff.mp h with hr | ⟨others, -, h⟩
    · exact isA_value_or_endless_entries hr
    · cases h

theorem isA_value_or_endless_value {name : String} {v : Value} {e : Fault}
    (h : flattenValue name v = .error e) : e.isA .value = true ∨ e = .endless := by
  cases v with
  | map entries =>
    rw [flattenValue] at h
    exact isA_value_or_endless_entries h
  | enclosingMap =>
    cases h
    exact Or.inr rfl
  | list _ | enclosingList | tuple _ | set _ =>
    cases h
    exact Or.inl rfl
  | null | bool _ => cases h
  | _ =>
    rw [flattenValue] at h
    · exact Or.inl (isA_value_of_map_written_eq_error h)
    all_goals exact nofun

end

/-- **What is wrong with a mapping is a bad value, or the stack has no room for it.** -/
theorem isA_value_or_endless {entries : List (Value × Value)} {e : Fault}
    (h : flatten entries = .error e) : e.isA .value = true ∨ e = .endless :=
  isA_value_or_endless_entries h

/-- A value is taken over: it is legible, and no leaf of it is a collection. -/
def Accepted (v : Value) : Prop :=
  LegibleValue v ∧ ∀ l ∈ leavesOf v, isCollection l.2 = false

theorem exists_flattenValue_eq_ok_iff {name : String} {v : Value} :
    (∃ pairs, flattenValue name v = .ok pairs) ↔ Accepted v := by
  constructor
  · rintro ⟨pairs, h⟩
    have hl := legible_of_flattenValue h
    rw [flattenValue_eq name hl] at h
    exact ⟨hl, (named_eq_ok_iff.mp h).1⟩
  · rintro ⟨hl, hc⟩
    rw [flattenValue_eq name hl]
    exact ⟨_, named_eq_ok_iff.mpr ⟨hc, rfl⟩⟩

mutual

/-- Going through the entries in order leads into a mapping that holds itself or lies too deep, and
nothing on the way there is refused. -/
def Overflows : List (Value × Value) → Prop
  | [] => False
  | (key, value) :: rest =>
    key.isWritable = true ∧ (OverflowsIn value ∨ (Accepted value ∧ Overflows rest))

/-- Going through the value leads into a mapping that holds itself or lies too deep. -/
def OverflowsIn : Value → Prop
  | .map entries => Overflows entries
  | .enclosingMap => True
  | _ => False

end

mutual

theorem flattenEntries_eq_endless_iff : ∀ {lead : String} {entries : List (Value × Value)},
    flattenEntries lead entries = .error .endless ↔ Overflows entries
  | _, [] => by
    rw [flattenEntries, Overflows, iff_false]
    exact nofun
  | lead, (key, value) :: rest => by
    rw [flattenEntries, Overflows]
    constructor
    · intro h
      rcases exceptBind_eq_error_iff.mp h with hk | ⟨name, hk, h⟩
      · cases (Value.written_eq_error_iff.mp hk).2
      refine ⟨(Value.written_eq_ok_iff.mp hk).1, ?_⟩
      rcases exceptBind_eq_error_iff.mp h with hv | ⟨here, hv, h⟩
      · exact Or.inl (flattenValue_eq_endless_iff.mp hv)
      rcases exceptBind_eq_error_iff.mp h with hr | ⟨others, -, h⟩
      · exact Or.inr ⟨exists_flattenValue_eq_ok_iff.mp ⟨here, hv⟩,
          flattenEntries_eq_endless_iff.mp hr⟩
      · cases h
    · rintro ⟨hk, h⟩
      rw [Value.written_eq_ok_iff.mpr ⟨hk, rfl⟩, exceptBind_ok]
      rcases h with hv | ⟨hv, hr⟩
      · rw [flattenValue_eq_endless_iff.mpr hv]
        rfl
      · obtain ⟨here, hv⟩ := exists_flattenValue_eq_ok_iff.mpr hv
        rw [hv, exceptBind_ok, flattenEntries_eq_endless_iff.mpr hr]
        rfl

theorem flattenValue_eq_endless_iff {name : String} {v : Value} :
    flattenValue name v = .error .endless ↔ OverflowsIn v := by
  cases v with
  | map entries =>
    rw [flattenValue, OverflowsIn]
    exact flattenEntries_eq_endless_iff
  | enclosingMap => exact ⟨fun _ => trivial, fun _ => rfl⟩
  | null | bool _ | list _ | enclosingList | tuple _ | set _ => exact ⟨nofun, nofun⟩
  | _ =>
    refine ⟨fun h => ?_, nofun⟩
    rw [flattenValue] at h
    · cases isA_value_of_map_written_eq_error h
    all_goals exact nofun

end

/-- **The stack has no room exactly if going through the entries leads into such a mapping.** -/
theorem flatten_eq_endless_iff {entries : List (Value × Value)} :
    flatten entries = .error .endless ↔ Overflows entries := flattenEntries_eq_endless_iff

end Property

/-! ## The table of a nested mapping -/

namespace Table

open Property

variable {layers : Layers} {entries : List (Value × Value)}

theorem ofValues_eq_ok_iff {t : Table} : ofValues layers entries = .ok t ↔
    ∃ pairs, flatten entries = .ok pairs ∧ t = ⟨.ofList pairs, layers⟩ := by
  unfold ofValues
  cases flatten entries <;> simp [Except.map, eq_comm]

theorem ofValues_eq_error_iff {e : Fault} :
    ofValues layers entries = .error e ↔ flatten entries = .error e := exceptMap_eq_error_iff

theorem ofValues_eq_error_iff_firstCollection (h : Legible entries) {e : Fault} :
    ofValues layers entries = .error e ↔
      ∃ path, FirstCollection (leaves entries) path ∧ e = .listProperty (pathName path) := by
  rw [ofValues_eq_error_iff, flatten_eq h, named_eq_error_iff]

/-- A mapping is refused exactly if some leaf is a collection. -/
theorem exists_error_iff (h : Legible entries) :
    (∃ e, ofValues layers entries = .error e) ↔ ∃ l ∈ leaves entries, isCollection l.2 = true := by
  constructor
  · rintro ⟨e, he⟩
    obtain ⟨path, ⟨before, v, after, hl, -, hv⟩, -⟩ :=
      (ofValues_eq_error_iff_firstCollection h).mp he
    exact ⟨(path, v), by simp [hl], hv⟩
  · rintro ⟨l, hl, hc⟩
    cases ht : ofValues layers entries with
    | error e => exact ⟨e, rfl⟩
    | ok t =>
      obtain ⟨pairs, hf, -⟩ := ofValues_eq_ok_iff.mp ht
      rw [(flatten_eq_ok_iff.mp hf).2.1 l hl] at hc
      cases hc

end Table

end HostFacts
