import HostFacts.Proofs.Overlays
import HostFacts.Proofs.PropertyFiles

/-!
# Where the command takes its properties from

The command lays its definitions over the properties of a file, and its context looks a name up in
both before it goes on to the environment and the machine. A definition is cut at the first equal
sign, so two that are written differently can be of the same name, and then the last one counts. The
text of a definition is taken as it is, while what surrounds its name is not.

* `definition_eq_ok_iff`, `definition_eq_error_iff`: what a definition defines (`Defines`), and
  which arguments are none;
* `Table.load_eq_ok_iff`: a file that loads holds properties (`Table.Holds`), which the table has;
* **`Settings.properties_by_precedence`**: what the context sees under each name (`Seen`).
-/

namespace HostFacts

open Act HostFacts.Property HostFacts.Text

/-! ## Single definitions -/

namespace CommandLine

/-- The argument defines a property: before its first equal sign stands the name, which white space
may surround, and behind it the value. -/
def Defines (argument name value : String) : Prop :=
  name ≠ "" ∧ ∃ lead, argument.toList = lead ++ '=' :: value.toList ∧ '=' ∉ lead ∧
    trim lead = name.toList

/-- The argument defines nothing: there is no equal sign in it, or nothing but white space before
the first one. -/
inductive DefinesNothing (argument : String) : Prop
  | unsplit (h : '=' ∉ argument.toList)
  | unnamed {lead value : List Char} (h : argument.toList = lead ++ '=' :: value) (hl : '=' ∉ lead)
    (hb : ∀ c ∈ lead, isSpace c = true)

variable {argument name value : String} {args : List String}

theorem definition?_eq_some_iff : definition? argument = some (name, value) ↔
    Defines argument name value := by
  unfold definition? Defines
  rcases hc : cutFirst '=' argument.toList with ⟨lead, _ | rest⟩
  · have hn := cutFirst_snd_eq_none_iff.mp (congrArg Prod.snd hc)
    simp only [reduceCtorEq, false_iff]
    rintro ⟨-, lead', ha, -⟩
    simp [ha] at hn
  · have hs := cutFirst_eq_iff.mp hc
    simp only [List.isEmpty_iff]
    by_cases ht : trim lead = []
    · simp only [if_pos ht, reduceCtorEq, false_iff]
      rintro ⟨hne, lead', ha, hl, htrim⟩
      have he := cutFirst_eq_iff.mpr ⟨ha, hl⟩
      rw [hc, Prod.mk.injEq] at he
      rw [← he.1, ht] at htrim
      exact hne (String.toList_eq_nil_iff.mp htrim.symm)
    · simp only [if_neg ht, Option.some.injEq, Prod.mk.injEq]
      constructor
      · rintro ⟨rfl, rfl⟩
        refine ⟨fun h => ht ?_, lead, ?_, hs.2, ?_⟩
        · simpa using congrArg String.toList h
        · simpa using hs.1
        · simp
      · rintro ⟨hne, lead', ha, hl, htrim⟩
        have he := cutFirst_eq_iff.mpr ⟨ha, hl⟩
        rw [hc, Prod.mk.injEq, Option.some.injEq] at he
        obtain ⟨rfl, rfl⟩ := he
        simp [htrim]

theorem definition?_eq_none_iff : definition? argument = none ↔ DefinesNothing argument := by
  unfold definition?
  rcases hc : cutFirst '=' argument.toList with ⟨lead, _ | rest⟩
  · have hn := cutFirst_snd_eq_none_iff.mp (congrArg Prod.snd hc)
    simp only [true_iff]
    exact .unsplit hn
  · have hs := cutFirst_eq_iff.mp hc
    simp only [ite_eq_left_iff, reduceCtorEq, imp_false, Decidable.not_not, List.isEmpty_iff,
      trim_eq_nil_iff]
    refine ⟨fun hb => .unnamed hs.1 hs.2 hb, fun h => ?_⟩
    cases h with
    | unsplit hn => simp [hs.1] at hn
    | unnamed ha hl hb =>
      have he := cutFirst_eq_iff.mpr ⟨ha, hl⟩
      rw [hc, Prod.mk.injEq] at he
      rwa [he.1]

/-- **A definition that is accepted defines a property.** -/
theorem definition_eq_ok_iff : definition argument = .ok (name, value) ↔
    Defines argument name value := by
  rw [← definition?_eq_some_iff]
  unfold definition
  cases definition? argument <;> simp

/-- **An argument is refused exactly if it defines nothing.** -/
theorem definition_eq_error_iff {e : Fault} : definition argument = .error e ↔
    DefinesNothing argument ∧ e = .badDefinition argument := by
  rw [← definition?_eq_none_iff]
  unfold definition
  cases definition? argument <;> simp [eq_comm]

/-! ## Several definitions -/

/-- Of the arguments that define a property of this name, the last one gives it this value. -/
def LastDefines (args : List String) (name value : String) : Prop :=
  ∃ before argument after, args = before ++ argument :: after ∧ Defines argument name value ∧
    ∀ a ∈ after, ∀ v, ¬ Defines a name v

theorem mem_names_iff_defines :
    name ∈ (args.filterMap definition?).map Prod.fst ↔ ∃ a ∈ args, ∃ v, Defines a name v := by
  simp only [List.mem_map, List.mem_filterMap, Prod.exists, exists_and_right, exists_eq_right,
    definition?_eq_some_iff]
  constructor
  · rintro ⟨v, a, ha, hd⟩
    exact ⟨a, ha, v, hd⟩
  · rintro ⟨a, ha, v, hd⟩
    exact ⟨v, a, ha, hd⟩

theorem hasLast_iff_lastDefines :
    Pairs.HasLast (args.filterMap definition?) name value ↔ LastDefines args name value := by
  have after (l : List String) : name ∉ (l.filterMap definition?).map Prod.fst ↔
      ∀ a ∈ l, ∀ v, ¬ Defines a name v := by
    rw [mem_names_iff_defines]
    simp
  constructor
  · rintro ⟨defs, more, he, hn⟩
    obtain ⟨l, r, rfl, -, hr⟩ := List.filterMap_eq_append_iff.mp he
    obtain ⟨skipped, a, rest, rfl, -, hd, rfl⟩ := List.filterMap_eq_cons_iff.mp hr
    exact ⟨l ++ skipped, a, rest, by simp, definition?_eq_some_iff.mp hd, (after rest).mp hn⟩
  · rintro ⟨l, a, rest, rfl, hd, hn⟩
    refine ⟨l.filterMap definition?, rest.filterMap definition?, ?_, (after rest).mpr hn⟩
    rw [List.filterMap_append, List.filterMap_cons_some (definition?_eq_some_iff.mpr hd)]

namespace Settings

variable {s : Settings}

/-- Definitions that are accepted are all there. -/
theorem defined_of_accepted (hd : s.definitions = args.map definition?)
    (ha : ∀ a ∈ args, ∃ d, definition a = .ok d) :
    s.defined = .ok (args.filterMap definition?) := by
  have hnone : s.definitions.findIdx? Option.isNone = none := by
    rw [List.findIdx?_eq_none_iff, hd]
    intro o ho
    obtain ⟨a, hm, rfl⟩ := List.mem_map.mp ho
    obtain ⟨⟨name, value⟩, h⟩ := ha a hm
    rw [definition?_eq_some_iff.mpr (definition_eq_ok_iff.mp h)]
    rfl
  unfold defined
  rw [hnone, hd, List.filterMap_map]
  rfl

end Settings

end CommandLine

/-! ## What a file holds -/

namespace Table

variable {files : Files.Reader} {layers : Layers} {path : String} {content : List UInt8} {t : Table}
  {pairs : List (String × String)}

/-- The file holds these properties: its content encodes a text, the text stands for a mapping or
for nothing, and the mapping has these properties when it is flat. -/
def Holds (files : Files.Reader) (path : String) (pairs : List (String × String)) : Prop :=
  ∃ content text value entries, files path = .ok content ∧
    (String.ofList text).toUTF8 = content.toByteArray ∧
    Yaml.read (uniformLines text) = .ok value ∧ fileEntries value = .ok entries ∧
    flatten entries = .ok pairs

theorem contentOf_eq_ok_iff : contentOf files path = .ok content ↔ files path = .ok content := by
  unfold contentOf
  rcases files path with (_ | _) | _ <;> simp

theorem ofContent_eq_ok_iff :
    ofContent layers path content = .ok t ↔
      ∃ text value entries pairs, (String.ofList text).toUTF8 = content.toByteArray ∧
        Yaml.read (uniformLines text) = .ok value ∧ fileEntries value = .ok entries ∧
        flatten entries = .ok pairs ∧ t = ⟨.ofList pairs, layers⟩ := by
  simp only [← Utf8.decode_eq_ok_iff]
  cases hd : Utf8.decode content with
  | error f =>
    have he : ofContent layers path content = .error (.undecodable f) := by
      unfold ofContent
      rw [hd]
      rfl
    simp [he]
  | ok text =>
    rw [ofContent_of_text hd]
    rcases hy : Yaml.read (uniformLines text) with (_ | f) | value
    · simp [hy]
    · simp [hy]
    · simp [hy, exceptBind_eq_ok_iff, exceptMapError_eq_ok_iff, ofValues_eq_ok_iff]

/-- **A file loads exactly if it holds properties, and these are what the table has.** -/
theorem load_eq_ok_iff {w : World} : (load layers path w).1 = .ok t ↔
    ∃ pairs, Holds w.files (Path.normal path) pairs ∧ t = ⟨.ofList pairs, layers⟩ := by
  simp only [fst_load, exceptBind_eq_ok_iff, contentOf_eq_ok_iff, ofContent_eq_ok_iff, Holds]
  constructor
  · rintro ⟨content, hf, text, value, entries, pairs, ht, hy, hv, hp, rfl⟩
    exact ⟨pairs, ⟨content, text, value, entries, hf, ht, hy, hv, hp⟩, rfl⟩
  · rintro ⟨pairs, ⟨content, text, value, entries, hf, ht, hy, hv, hp⟩, rfl⟩
    exact ⟨content, hf, text, value, entries, pairs, ht, hy, hv, hp, rfl⟩

end Table

/-! ## What the context sees -/

namespace CommandLine

/-- What a context of the command sees under a name, and the surroundings afterwards: the file holds
`pairs`. -/
inductive Seen (args : List String) (pairs : List (String × String)) (w : World) (name : String) :
    Except Fault (Option String) → World → Prop
  /-- The last definition of the name counts, as it was written. -/
  | defined {v : String} (h : LastDefines args name v) : Seen args pairs w name (.ok (some v)) w
  /-- Else what the file holds; of several values the last counts. -/
  | file {v : String} (hd : ∀ a ∈ args, ∀ v, ¬ Defines a name v)
    (h : Pairs.HasLast pairs name v) : Seen args pairs w name (.ok (some v)) w
  /-- Else the variable of the name, if it has one that is set. -/
  | environment {x v : String} (hd : ∀ a ∈ args, ∀ v, ¬ Defines a name v)
    (hf : name ∉ pairs.map Prod.fst) (hx : variableFor? name = some x)
    (h : (w.environ .process).get? x = some v) : Seen args pairs w name (.ok (some v)) w
  /-- Else what a table without properties of its own sees without looking at variables: what the
  provider of the name answers, if there is one. -/
  | system {r : Except Fault (Option String)} {w' : World}
    (hd : ∀ a ∈ args, ∀ v, ¬ Defines a name v) (hf : name ∉ pairs.map Prod.fst)
    (hx : (variableFor? name).bind (w.environ .process).get? = none)
    (h : Table.empty.Sees w name none r w') : Seen args pairs w name r w'

variable {args : List String} {pairs : List (String × String)} {w w' : World} {name : String}
  {r : Except Fault (Option String)} {s : Settings}

/-- The table with the properties of a file and definitions over them. -/
def layered (args : List String) (pairs : List (String × String)) : Table :=
  ⟨(Entries.ofList pairs).putAll (Entries.ofList (args.filterMap definition?)), .process⟩

theorem get?_layered : (layered args pairs).explicit.get? name =
    ((Entries.ofList (args.filterMap definition?)).get? name).or
      ((Entries.ofList pairs).get? name) := Entries.get?_putAll

theorem not_defines_iff : (∀ a ∈ args, ∀ v, ¬ Defines a name v) ↔
    (Entries.ofList (args.filterMap definition?)).get? name = none := by
  rw [Entries.get?_ofList_eq_none_iff, mem_names_iff_defines]
  simp

/-- Without an entry and without a variable that is set, a table sees what the machine provides. -/
theorem sees_of_unset {explicit : Entries String String} {carrier : Option String}
    (he : explicit.get? name = none) (hv : carrier.bind (w.environ .process).get? = none)
    (h : Table.empty.Sees w name none r w') :
    (Table.mk explicit .process).Sees w name carrier r w' := by
  cases h with
  | explicit h => cases h
  | environment _ hx _ => cases hx
  | nothing _ _ h => exact .nothing he hv h
  | provided _ _ hp h => exact .provided he hv hp h
  | absent _ _ hp h ha => exact .absent he hv hp h ha
  | failed _ _ hp h ha => exact .failed he hv hp h ha

/-- What the rules say is what the table sees. -/
theorem Seen.sees (h : Seen args pairs w name r w') :
    (layered args pairs).Sees w name (variableFor? name) r w' := by
  have hl := @get?_layered args pairs name
  cases h with
  | defined h =>
    rw [Entries.get?_ofList_eq_some_iff.mpr (hasLast_iff_lastDefines.mpr h)] at hl
    exact .explicit hl
  | file hn h =>
    rw [not_defines_iff.mp hn, Entries.get?_ofList_eq_some_iff.mpr h] at hl
    exact .explicit hl
  | environment hn hf hx h =>
    rw [not_defines_iff.mp hn, Entries.get?_ofList_eq_none_iff.mpr hf] at hl
    exact .environment hl hx h
  | system hn hf hx h =>
    rw [not_defines_iff.mp hn, Entries.get?_ofList_eq_none_iff.mpr hf] at hl
    exact sees_of_unset hl hx h

/-- Some rule always applies. -/
theorem exists_seen (args : List String) (pairs : List (String × String)) (w : World)
    (name : String) : ∃ r w', Seen args pairs w name r w' := by
  by_cases hd : ∃ a ∈ args, ∃ v, Defines a name v
  · obtain ⟨v, hv⟩ := Pairs.exists_hasLast (mem_names_iff_defines.mpr hd)
    exact ⟨_, _, .defined (hasLast_iff_lastDefines.mp hv)⟩
  have hn : ∀ a ∈ args, ∀ v, ¬ Defines a name v := fun a ha v h => hd ⟨a, ha, v, h⟩
  by_cases hf : name ∈ pairs.map Prod.fst
  · obtain ⟨v, hv⟩ := Pairs.exists_hasLast hf
    exact ⟨_, _, .file hn hv⟩
  cases hx : (variableFor? name).bind (w.environ .process).get? with
  | some v =>
    obtain ⟨x, hv, hw⟩ := Option.bind_eq_some_iff.mp hx
    exact ⟨_, _, .environment hn hf hv hw⟩
  | none =>
    obtain ⟨r, w', hs⟩ := Table.exists_sees .empty w name none
    exact ⟨r, w', .system hn hf hx hs⟩

/-- **A lookup in the table of the command goes by the rules.** -/
theorem lookup_layered_eq_iff :
    (layered args pairs).lookup name w = (r, w') ↔ Seen args pairs w name r w' :=
  eq_iff_of_rules (fun h => Table.lookup_eq_iff_sees.mpr h.sees) (exists_seen args pairs w name)

namespace Settings

/-- What the settings take from a file; a path without characters counts as no file. -/
inductive TakesFile (s : Settings) (files : Files.Reader) : List (String × String) → Prop
  | nothing (h : s.config = none ∨ s.config = some "") : TakesFile s files []
  | file {path : String} {pairs : List (String × String)} (hc : s.config = some path)
    (hp : path ≠ "") (h : Table.Holds files (Path.normal path) pairs) : TakesFile s files pairs

/-- Definitions that can be made out are laid over the base. -/
theorem fst_table_of_defined {ds : List (String × String)} {t : Table} (h : s.defined = .ok ds)
    (hb : (s.base w).1 = .ok t) :
    (s.table w).1 = .ok ⟨t.explicit.putAll (.ofList ds), t.layers⟩ := by
  rw [table_eq_bind, bind_of_ok (Prod.ext hb rfl)]
  cases hd : s.definitions with
  | nil =>
    unfold defined at h
    rw [hd] at h
    cases h
    rfl
  | cons d ds' =>
    rw [h, exceptBind_ok, Table.withValues_textEntries]
    rfl

theorem base_of_takesFile (h : s.TakesFile w.files pairs) :
    (s.base w).1 = .ok ⟨.ofList pairs, .process⟩ := by
  cases h with
  | nothing h =>
    rw [base_of_nothing h]
    rfl
  | file hc hp h =>
    rw [base_of_path hc hp]
    exact Table.load_eq_ok_iff.mpr ⟨pairs, h, rfl⟩

/-- The table of accepted definitions and a file. -/
theorem fst_table (hd : s.definitions = args.map definition?)
    (ha : ∀ a ∈ args, ∃ d, definition a = .ok d) (h : s.TakesFile w.files pairs) :
    (s.table w).1 = .ok (layered args pairs) :=
  fst_table_of_defined (defined_of_accepted hd ha) (base_of_takesFile h)

/-- **What the command's context sees under a name**: the last definition of it, else what the file
holds, else the variable, else what the machine provides. Arguments are refused exactly if they
define nothing, and a path without characters counts as no file. -/
theorem properties_by_precedence :
    (∀ argument e, definition argument = .error e ↔
      DefinesNothing argument ∧ e = .badDefinition argument) ∧
    (∀ s : Settings, table { s with config := some "" } = table { s with config := none }) ∧
    ∀ (s : Settings) (args : List String) (w : World),
      (∀ a ∈ args, ∃ d, definition a = .ok d) → s.definitions = args.map definition? →
      (∀ path, s.config = some path → path ≠ "" → ∃ t, (Table.load .process path w).1 = .ok t) →
      ∃ pairs t, s.TakesFile w.files pairs ∧ (s.table w).1 = .ok t ∧ ∀ w₁ name r w₂,
        Query.lookup name (Context.new (.table t), w₁) = (r, (Context.new (.table t), w₂)) ↔
          Seen args pairs w₁ name r w₂ := by
  refine ⟨fun argument e => definition_eq_error_iff, fun s => rfl, fun s args w ha hd hl => ?_⟩
  obtain ⟨pairs, hp⟩ : ∃ pairs, s.TakesFile w.files pairs := by
    rcases s.config_cases with hc | ⟨path, hc, hne⟩
    · exact ⟨[], .nothing hc⟩
    · obtain ⟨t, ht⟩ := hl path hc hne
      obtain ⟨pairs, h, -⟩ := Table.load_eq_ok_iff.mp ht
      exact ⟨pairs, .file hc hne h⟩
  refine ⟨pairs, layered args pairs, hp, fst_table hd ha hp, fun w₁ name r w₂ => ?_⟩
  rw [← lookup_layered_eq_iff]
  show (((layered args pairs).lookup name w₁).1, _, ((layered args pairs).lookup name w₁).2) = _ ↔ _
  simp [Prod.ext_iff]

/-- Names that differ in white space only are one name, and what the file holds stays visible. -/
theorem last_definition_beside_file :
    ∃ (s : Settings) (w : World) (t : Table), s.config = some "props.yml" ∧
      s.definitions = ["x= 1", " x =2=3 "].map definition? ∧ (s.table w).1 = .ok t ∧ ∀ w₁,
        Query.lookup "x" (Context.new (.table t), w₁) =
          (.ok (some "2=3 "), (Context.new (.table t), w₁)) ∧
        Query.lookup "a" (Context.new (.table t), w₁) =
          (.ok (some "b"), (Context.new (.table t), w₁)) := by
  let args := ["x= 1", " x =2=3 "]
  let s : Settings :=
    { Settings.default with config := some "props.yml", definitions := args.map definition? }
  let files : Files.Reader := (Files.ofNames [("props.yml", [0x61, 0x3a, 0x20, 0x62])] []).read
  let w := World.ofProcess .empty .empty files
  have hl : (Table.load .process "props.yml" w).1 = .ok ⟨.ofList [("a", "b")], .process⟩ := by
    have h : (Table.load .process "props.yml" w).1.toOption =
        some ⟨.ofList [("a", "b")], .process⟩ := by decide +kernel
    cases hr : (Table.load .process "props.yml" w).1 with
    | error e =>
      rw [hr] at h
      cases h
    | ok t =>
      rw [hr] at h
      exact congrArg Except.ok (Option.some.inj h)
  have ha : ∀ a ∈ args, ∃ d, definition a = .ok d := by
    intro a ha
    simp only [args, List.mem_cons, List.not_mem_nil, or_false] at ha
    rcases ha with rfl | rfl
    · exact ⟨("x", " 1"), rfl⟩
    · exact ⟨("x", "2=3 "), rfl⟩
  have hload : ∀ path, s.config = some path → path ≠ "" →
      ∃ t, (Table.load .process path w).1 = .ok t := by
    intro path hc _
    cases hc
    exact ⟨_, hl⟩
  obtain ⟨pairs, t, hp, ht, hsees⟩ := properties_by_precedence.2.2 s args w ha rfl hload
  have hx : LastDefines args "x" "2=3 " :=
    ⟨["x= 1"], " x =2=3 ", [], rfl, definition_eq_ok_iff.mp rfl, nofun⟩
  have hb : Entries.ofList pairs = .ofList [("a", "b")] := by
    have h := base_of_takesFile hp
    rw [base_of_path rfl (by simp), hl] at h
    exact (Table.mk.inj (Except.ok.inj h)).1.symm
  have hn : ∀ a ∈ args, ∀ v, ¬ Defines a "a" v := not_defines_iff.mpr rfl
  refine ⟨s, w, t, rfl, rfl, ht, fun w₁ => ⟨(hsees ..).mpr (.defined hx), (hsees ..).mpr ?_⟩⟩
  exact .file hn (Entries.get?_ofList_eq_some_iff.mp (by rw [hb]; rfl))

end Settings

end CommandLine

end HostFacts
