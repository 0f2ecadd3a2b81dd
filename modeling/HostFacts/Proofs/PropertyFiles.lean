import HostFacts.Proofs.CommandRuns
import HostFacts.Proofs.NestedProperties
import HostFacts.Proofs.Utf8

/-!
# Property files that cannot be used

Loading a property file goes through reading, decoding, parsing, a check of the root, and
flattening, and each of these fails in its own way. Almost all of that is reported as a fault of the
file with its path, and the command then ends with the code for it. Four things are not: a path with
a null character, a path that has no bytes, bytes that encode no text, and a mapping that the stack
has no room for, as it holds itself under an alias, or as aliases put it deeper in others than the
text does (`Property.Overflows`).

That the parser gives a value or finds the text ill-formed is a premise here (`Table.HasValues`): a
text can hold scalars that stand for no value, such as days that do not exist.

* `Files.read_refuses_iff`: a path is refused exactly for a null character or for a surrogate that
  has no bytes;
* `Table.fst_load`: loading is reading the file and making a table of its content;
* **`Table.bad_files_are_reported`**: apart from the four cases (`Table.Escapes`) a file gives a
  table or is reported; `Table.undecodable_file_escapes` shows one of them.
-/

namespace HostFacts

open Act CommandLine HostFacts.Text

/-! ## Paths that are refused -/

namespace Files

variable {files : Files} {path : String} {f : Failure}

/-- The path cannot be opened at all. -/
def Failure.IsRefusal : Failure → Prop
  | .nullCharacter | .unencodable _ => True
  | _ => False

/-- The character is a surrogate that stands for no byte. -/
def HasNoBytes (c : Char) : Prop := isSurrogate (codeOf c) = true ∧ isStrayByte c = false

theorem unencodable?_eq_none_iff {path : List Char} :
    unencodable? path = Option.none ↔ ∀ c ∈ path, ¬ HasNoBytes c := by
  have hb (c : Char) : (!isSurrogate (codeOf c) || isStrayByte c) = true ↔ ¬ HasNoBytes c := by
    unfold HasNoBytes
    cases isSurrogate (codeOf c) <;> cases isStrayByte c <;> simp
  simp only [← hb]
  rw [← dropWhile_eq_nil_iff]
  unfold unencodable?
  simp only
  cases path.dropWhile fun c => !isSurrogate (codeOf c) || isStrayByte c <;> simp

theorem refusal?_eq_nullCharacter_iff {path : List Char} :
    refusal? path = some .nullCharacter ↔ '\x00' ∈ path ∧ ∀ c ∈ path, ¬ HasNoBytes c := by
  rw [← unencodable?_eq_none_iff]
  unfold refusal?
  cases unencodable? path <;> simp

theorem exists_refusal?_eq_unencodable_iff {path : List Char} :
    (∃ u, refusal? path = some (.unencodable u)) ↔ ∃ c ∈ path, HasNoBytes c := by
  have hn : (∃ c ∈ path, HasNoBytes c) ↔ unencodable? path ≠ Option.none := by
    rw [Ne, unencodable?_eq_none_iff]
    simp
  rw [hn]
  unfold refusal?
  cases unencodable? path with
  | none => by_cases h : path.contains '\x00' = true <;> simp
  | some u => simp

theorem not_isRefusal_of_enter {part : List Char} {place : Place}
    (h : files.enter part place = .error f) : ¬ f.IsRefusal := by
  unfold enter at h
  split at h
  · cases h
    exact id
  · split at h
    · cases h
    · cases h
      split <;> exact id
  · split at h
    · cases h
    · split at h
      · cases h
        exact id
      · simp only at h
        split at h
        · cases h
        · split at h
          · cases h
          · cases h
            exact id

theorem not_isRefusal_of_follow : ∀ {parts : List (List Char)} {place : Place},
    files.follow place parts = .error f → ¬ f.IsRefusal
  | [], _, h => by cases h
  | part :: parts, place, h => by
    unfold follow at h
    rw [List.foldlM_cons] at h
    cases he : files.enter part place with
    | error e =>
      rw [he] at h
      cases h
      exact not_isRefusal_of_enter he
    | ok next =>
      rw [he] at h
      exact not_isRefusal_of_follow h

theorem read_of_refusal (h : refusal? path.toList = some f) : files.read path = .error f := by
  unfold read
  simp only [h]
  rfl

theorem not_isRefusal_of_read (hr : refusal? path.toList = Option.none)
    (h : files.read path = .error f) : ¬ f.IsRefusal := by
  unfold read at h
  simp only [hr] at h
  split at h
  · cases h
    exact id
  · cases hf : files.follow (if (Path.root path.toList).isEmpty then .inside [] else .above 1)
        (Path.parts path.toList) with
    | error e =>
      rw [hf] at h
      cases h
      exact not_isRefusal_of_follow hf
    | ok place =>
      rw [hf] at h
      cases place <;> cases h <;> exact id

/-- A path is refused before it is looked for. -/
theorem read_eq_error_iff (hf : f.IsRefusal) :
    files.read path = .error f ↔ refusal? path.toList = some f := by
  refine ⟨fun h => ?_, read_of_refusal⟩
  cases hr : refusal? path.toList with
  | none => exact absurd hf (not_isRefusal_of_read hr h)
  | some g => exact congrArg some (Except.error.inj ((read_of_refusal hr).symm.trans h))

/-- **A path is refused exactly for a null character or for a surrogate without bytes.** -/
theorem read_refuses_iff (files : Files) (path : String) :
    (files.read path = .error .nullCharacter ↔
      '\x00' ∈ path.toList ∧ ∀ c ∈ path.toList, ¬ HasNoBytes c) ∧
    ((∃ u, files.read path = .error (.unencodable u)) ↔ ∃ c ∈ path.toList, HasNoBytes c) := by
  have hn : Failure.nullCharacter.IsRefusal := trivial
  have hu (u : Unencodable) : (Failure.unencodable u).IsRefusal := trivial
  exact ⟨(read_eq_error_iff hn).trans refusal?_eq_nullCharacter_iff,
    (exists_congr fun u => read_eq_error_iff (hu u)).trans exists_refusal?_eq_unencodable_iff⟩

end Files

namespace Table

/-! ## From a file to a table -/

variable {files : Files.Reader} {layers : Layers} {path : String} {content : List UInt8}

/-- What keeps a file from giving a table without being reported. -/
inductive Escapes (files : Files.Reader) (path : String) : Prop
  /-- The path holds a null character. -/
  | nullCharacter (h : files path = .error .nullCharacter)
  /-- The path has no bytes. -/
  | unencodable {u : Files.Unencodable} (h : files path = .error (.unencodable u))
  /-- The content encodes no text. -/
  | noText {content : List UInt8} (h : files path = .ok content)
    (ht : ∀ text : List Char, (String.ofList text).toUTF8 ≠ content.toByteArray)
  /-- The content encodes a mapping, and the stack has no room for going through it. -/
  | overflow {content : List UInt8} {text : List Char} {entries : List (Value × Value)}
    (h : files path = .ok content) (ht : (String.ofList text).toUTF8 = content.toByteArray)
    (hy : Yaml.read (uniformLines text) = .ok (.map entries)) (hl : Property.Overflows entries)

/-- Each scalar of a text stands for a value, or the text is ill-formed. -/
def HasValues (content : List UInt8) : Prop :=
  ∀ text : List Char, (String.ofList text).toUTF8 = content.toByteArray →
    ∀ f, Yaml.read (uniformLines text) ≠ .error (.fault f)

/-- The result is a table, or the fault of a file at a path. -/
def IsReported (path : String) (r : Except Fault Table) : Prop :=
  (∃ t, r = .ok t) ∨ ∃ cause, r = .error (.ofConfig cause path)

/-- The entries of a mapping give a table or are reported, unless the stack has no room. -/
theorem isReported_or_overflows (layers : Layers) (path : String)
    (entries : List (Value × Value)) :
    let r := (ofValues layers entries).mapError fun f =>
      if f.isA .value then .ofConfig (.property f.message) path else f
    IsReported path r ∨ (Property.Overflows entries ∧ r = .error .endless) := by
  unfold ofValues
  cases h : Property.flatten entries with
  | ok pairs => exact Or.inl (Or.inl ⟨_, rfl⟩)
  | error e =>
    rcases Property.isA_value_or_endless h with he | rfl
    · exact Or.inl (Or.inr ⟨.property e.message, congrArg Except.error (if_pos he)⟩)
    · exact Or.inr ⟨Property.flatten_eq_endless_iff.mp h, rfl⟩

theorem ofContent_of_text {text : List Char} (ht : Utf8.decode content = .ok text) :
    ofContent layers path content =
      match Yaml.read (uniformLines text) with
      | .error .illFormed => .error (.ofConfig .illFormed path)
      | .error (.fault f) => .error f
      | .ok value =>
        (fileEntries value).mapError (Fault.ofConfig · path) >>= fun entries =>
          (ofValues layers entries).mapError fun f =>
            if f.isA .value then .ofConfig (.property f.message) path else f := by
  have hd : (Except.ok text : Except Utf8.Fault _).mapError Fault.undecodable = .ok text := rfl
  unfold ofContent
  rw [ht, hd, exceptBind_ok]
  rcases Yaml.read (uniformLines text) with (_ | f) | value <;> rfl

theorem isReported_ofContent {text : List Char} (ht : Utf8.decode content = .ok text)
    (hv : HasValues content)
    (hl : ∀ entries, Yaml.read (uniformLines text) = .ok (.map entries) →
      ¬ Property.Overflows entries) :
    IsReported path (ofContent layers path content) := by
  have hf := hv text (Utf8.decode_eq_ok_iff.mp ht)
  rw [ofContent_of_text ht]
  rcases hy : Yaml.read (uniformLines text) with (_ | f) | value
  · exact Or.inr ⟨.illFormed, rfl⟩
  · exact absurd hy (hf f)
  · cases value with
    | map entries =>
      exact (isReported_or_overflows layers path entries).resolve_right fun h => hl entries hy h.1
    | null => exact Or.inl ⟨_, rfl⟩
    | _ => exact Or.inr ⟨_, rfl⟩

/-- The line that is logged when a file at a normal path was loaded. -/
def loadedLine (path : String) (t : Table) : LogLine :=
  ⟨.debug, .properties, s!"Loaded {Number.natText t.explicit.size} properties from {path}"⟩

/-- Loading logs a line if it comes to a table. -/
theorem load_apply (layers : Layers) (path : String) (w : World) :
    load layers path w =
      match contentOf w.files (Path.normal path) >>= ofContent layers (Path.normal path) with
      | .ok t => (.ok t, w.record (.log (loadedLine (Path.normal path) t)))
      | .error e => (.error e, w) := by
  have hg : (Act.get : Act World World) w = (.ok w, w) := rfl
  show (Act.get >>= fun w => _) w = _
  rw [bind_of_ok hg]
  cases hc : contentOf w.files (Path.normal path) with
  | error e => rfl
  | ok content =>
    have hr : ofExcept (ofContent layers (Path.normal path) content) w =
      (ofContent layers (Path.normal path) content, w) := rfl
    show (ofExcept (ofContent layers (Path.normal path) content) >>= fun t => _) w = _
    rw [bind_apply, hr, exceptBind_ok]
    cases ofContent layers (Path.normal path) content <;> rfl

/-- **Loading is reading the file and making a table of its content.** -/
theorem fst_load (layers : Layers) (path : String) (w : World) :
    (load layers path w).1 =
      contentOf w.files (Path.normal path) >>= ofContent layers (Path.normal path) := by
  rw [load_apply]
  cases contentOf w.files (Path.normal path) >>= ofContent layers (Path.normal path) <;> rfl

/-- A file that does not load leaves no trace. -/
theorem load_of_error {w : World} {e : Fault} (h : (load layers path w).1 = .error e) :
    load layers path w = (.error e, w) := by
  rw [fst_load] at h
  rw [load_apply, h]

theorem load_of_ok {w : World} {t : Table} (h : (load layers path w).1 = .ok t) :
    load layers path w = (.ok t, w.record (.log (loadedLine (Path.normal path) t))) := by
  rw [fst_load] at h
  rw [load_apply, h]

theorem fst_load_of_content {w : World} (h : w.files (Path.normal path) = .ok content) :
    (load layers path w).1 = ofContent layers (Path.normal path) content := by
  rw [fst_load, contentOf, h]
  rfl

theorem load_of_escapes {w : World} (layers : Layers) (h : Escapes w.files (Path.normal path)) :
    ∃ e, (load layers path w).1 = .error e ∧ e.exit? = none := by
  cases h with
  | nullCharacter h =>
    refine ⟨.nullCharacter, ?_, rfl⟩
    rw [fst_load, contentOf, h]
    rfl
  | @unencodable u h =>
    refine ⟨.unencodable u, ?_, rfl⟩
    rw [fst_load, contentOf, h]
    rfl
  | @noText content h ht =>
    cases hd : Utf8.decode content with
    | ok text => exact absurd (Utf8.decode_eq_ok_iff.mp hd) (ht text)
    | error f =>
      refine ⟨.undecodable f, ?_, rfl⟩
      rw [fst_load_of_content h, ofContent, hd]
      rfl
  | @overflow content text entries h ht hy hl =>
    refine ⟨.endless, ?_, rfl⟩
    have hf : ofValues layers entries = .error .endless :=
      ofValues_eq_error_iff.mpr (Property.flatten_eq_endless_iff.mpr hl)
    rw [fst_load_of_content h, ofContent_of_text (Utf8.decode_eq_ok_iff.mpr ht), hy]
    show (ofValues layers entries).mapError _ = _
    rw [hf]
    rfl

/-- A mapping that holds itself: `&a {x: *a}`. -/
example : (ofContent .process "props.yml"
    [0x26, 0x61, 0x20, 0x7b, 0x78, 0x3a, 0x20, 0x2a, 0x61, 0x7d]).mapError Fault.message =
      .error "maximum recursion depth exceeded" := by
  decide +kernel

theorem isReported_load {w : World} (layers : Layers)
    (h : ¬ Escapes w.files (Path.normal path))
    (hv : ∀ content, w.files (Path.normal path) = .ok content → HasValues content) :
    IsReported (Path.normal path) (load layers path w).1 := by
  cases hf : w.files (Path.normal path) with
  | error failure =>
    rw [fst_load, contentOf, hf]
    cases failure with
    | nullCharacter => exact absurd (.nullCharacter hf) h
    | unencodable u => exact absurd (.unencodable hf) h
    | _ => exact Or.inr ⟨_, rfl⟩
  | ok content =>
    rw [fst_load_of_content hf]
    cases hd : Utf8.decode content with
    | ok text =>
      have ht := Utf8.decode_eq_ok_iff.mp hd
      exact isReported_ofContent hd (hv content hf) fun entries hy hl => h (.overflow hf ht hy hl)
    | error f =>
      refine absurd (.noText hf fun text ht => ?_) h
      rw [Utf8.decode_eq_ok_iff.mpr ht] at hd
      cases hd

/-- **A property file gives a table or is reported with its path, and the command then ends with
the code for that.** What escapes, with a fault that ends the program, is a path with a null
character, a path that has no bytes, a content that encodes no text, and one that encodes a mapping
that the stack has no room for. -/
theorem bad_files_are_reported (path : String) (w : World)
    (hv : ∀ content, w.files (Path.normal path) = .ok content → HasValues content) :
    (∀ layers, ¬ Escapes w.files (Path.normal path) →
      IsReported (Path.normal path) (load layers path w).1) ∧
    (∀ layers, Escapes w.files (Path.normal path) →
      ∃ e, (load layers path w).1 = .error e ∧ e.exit? = none) ∧
    ∀ (machine : Machine) (args : List String) (s : Settings), parse args = .ok s →
      s.config = some path → path ≠ "" → ∀ e, (load .process path w).1 = .error e →
        (run machine args w).1.output = "" ∧
        (¬ Escapes w.files (Path.normal path) →
          (run machine args w).1.ending = .finished .configError) ∧
        (Escapes w.files (Path.normal path) → (run machine args w).1.ending = .escaped e) := by
  refine ⟨fun layers h => isReported_load layers h hv, load_of_escapes,
    fun machine args s hp hc hne e he => ?_⟩
  have hl : load .process path w.clear = (.error e, (load .process path w.clear).2) := by
    refine Prod.ext ?_ rfl
    rw [← he, fst_load, fst_load]
    rfl
  obtain ⟨ho, hend⟩ := Settings.outcome_of_fault (Settings.report_of_load_error hc hne hl)
  rw [run_of_parse hp, hend]
  refine ⟨ho, fun h => ?_, fun h => ?_⟩
  · rcases isReported_load .process h hv with ⟨t, ht⟩ | ⟨cause, hcause⟩
    · rw [he] at ht
      cases ht
    · rw [he] at hcause
      cases hcause
      rfl
  · obtain ⟨e', he', hx⟩ := load_of_escapes .process h
    rw [he] at he'
    cases he'
    unfold Ending.ofFault
    rw [hx]

/-- A null character is text but no YAML, and the command says so. -/
theorem null_is_reported :
    ∃ w : World, w.files (Path.normal "props.yml") = .ok [0x00] ∧
      (load .process "props.yml" w).1 = .error (.ofConfig .illFormed "props.yml") ∧
      ∀ machine : Machine, (run machine ["-c", "props.yml"] w).1.output = "" ∧
        (run machine ["-c", "props.yml"] w).1.ending = .finished .configError := by
  let w := World.ofProcess .empty .empty (Files.ofNames [("props.yml", [0x00])] []).read
  have hf : w.files (Path.normal "props.yml") = .ok [0x00] := by rfl
  have hd : Utf8.decode [0x00] = .ok ['\x00'] := rfl
  have hy : Yaml.read (uniformLines ['\x00']) = .error .illFormed := by rfl
  have hv : ∀ content, w.files (Path.normal "props.yml") = .ok content → HasValues content := by
    intro content hc text ht f
    rw [hf] at hc
    cases hc
    obtain rfl : ['\x00'] = text := Except.ok.inj (hd.symm.trans (Utf8.decode_eq_ok_iff.mpr ht))
    rw [hy]
    exact nofun
  have hu : ¬ Escapes w.files (Path.normal "props.yml") := by
    intro h
    cases h with
    | nullCharacter h | unencodable h => cases hf.symm.trans h
    | noText h ht =>
      cases hf.symm.trans h
      exact ht ['\x00'] (Utf8.decode_eq_ok_iff.mp hd)
    | @overflow _ text _ h ht hread =>
      cases hf.symm.trans h
      obtain rfl : ['\x00'] = text := Except.ok.inj (hd.symm.trans (Utf8.decode_eq_ok_iff.mpr ht))
      cases hy.symm.trans hread
  have he : (load .process "props.yml" w).1 = .error (.ofConfig .illFormed "props.yml") := by
    rw [fst_load_of_content hf, ofContent_of_text hd, hy]
    rfl
  refine ⟨w, hf, he, fun machine => ?_⟩
  obtain ⟨-, -, hrun⟩ := bad_files_are_reported "props.yml" w hv
  obtain ⟨ho, hr, -⟩ := hrun machine _ _ (parse_config rfl) rfl (by simp) _ he
  exact ⟨ho, hr hu⟩

/-- A byte that starts no character escapes, and from the command too. -/
theorem undecodable_file_escapes :
    ∃ w : World, w.files (Path.normal "props.yml") = .ok [0xff] ∧
      ¬ IsReported (Path.normal "props.yml") (load .process "props.yml" w).1 ∧
      ∀ machine : Machine, (run machine ["-c", "props.yml"] w).1.ending =
        .escaped (.undecodable ⟨0, 0, 0xff, .invalidStart⟩) := by
  let w := World.ofProcess .empty .empty (Files.ofNames [("props.yml", [0xff])] []).read
  have hf : w.files (Path.normal "props.yml") = .ok [0xff] := by rfl
  have he (w' : World) (h : w'.files = w.files) :
      (load .process "props.yml" w').1 = .error (.undecodable ⟨0, 0, 0xff, .invalidStart⟩) := by
    rw [fst_load_of_content (h ▸ hf)]
    rfl
  refine ⟨w, hf, ?_, fun machine => ?_⟩
  · rw [he w rfl]
    rintro (⟨t, ⟨⟩⟩ | ⟨cause, ⟨⟩⟩)
  · have hl := Prod.ext (he w.clear rfl) rfl
    rw [run_of_parse (parse_config rfl)]
    exact (Settings.outcome_of_fault (Settings.report_of_load_error rfl (by simp) hl)).2

end Table

end HostFacts
