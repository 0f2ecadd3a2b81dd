import HostFacts.Proofs.FlagHistory
import HostFacts.Proofs.Reports
import HostFacts.Proofs.VersionText

/-!
# Reports over a plain mapping

A plain mapping answers every lookup. Over it the system, the traits and the working directory are
always told, the user is told or missing, and the version is told, missing, unreadable, or beyond
the digit limit. A report leaves out what is missing or unreadable, and so only the digit limit
keeps it from being made.

* `Query.fst_detect`, `Query.isResolution_of_user`: the traits are told, and the user is or misses;
* `Context.BeyondLimit`: the version is beyond the digit limit;
* `Query.versionText_of_beyondLimit`, `Query.versionText_of_not_beyondLimit`: its text then has that
  fault, and otherwise it is told, missing or unreadable;
* **`report_fails_only_beyond_limit`**: exactly beyond the limit no report is made.
-/

namespace HostFacts

open Act Query HostFacts.Property HostFacts.Text

/-- The raw value that a mapping has for a fact: that of the override property unless it is absent
or blank, and else that of the second one. -/
def rawValue (entries : Entries String String) (first second : String) : Option String :=
  if isBlank (entries.get? first) then entries.get? second else entries.get? first

variable {s : Scene} {entries : Entries String String}

/-! ## Lookups -/

namespace Query

theorem resolve_mapping (hs : s.1.source = .mapping entries) (first second : String) :
    ∃ w, resolve first second s = (.ok (rawValue entries first second), (s.1, w)) := by
  obtain ⟨c, w⟩ := s
  rw [resolve_apply, show c.source = .mapping entries from hs]
  unfold Source.resolve rawValue
  have hl : (Source.mapping entries).lookup first w =
    (.ok (entries.get? first), w.record (.read first)) := rfl
  rw [bind_of_ok hl]
  cases isBlank (entries.get? first) <;> exact ⟨_, rfl⟩

/-- **A trait is detected if any of its properties matches**, the override among them. -/
theorem fst_detect (hs : s.1.source = .mapping entries) (signal : Signal) :
    (detect signal s).1 = .ok ((signal.overrideProperty :: signal.properties).any fun p =>
      signal.matcher (entries.get? p)) := by
  obtain ⟨w, hd, -⟩ := Signal.tells_detect signal entries s.2
  show (signal.detect s.1.source s.2).1 = _
  rw [hs, hd]
  rfl

/-! ## Facts -/

/-- A fact is told if it can be worked out. -/
theorem exists_ask {F : Fact} (h : ∃ a, (F.workOut s).1 = .ok a) : ∃ a, (F.ask s).1 = .ok a := by
  rw [Fact.fst_ask]
  cases F.cell s.1 with
  | settled a => exact ⟨a, rfl⟩
  | empty => exact h

theorem exists_osType (hs : s.1.source = .mapping entries) : ∃ t, (osType s).1 = .ok t := by
  refine exists_ask (F := .osType) ?_
  obtain ⟨w, hr⟩ := resolve_mapping hs osTypeOverride osName
  show ∃ t, (detectOsType s).1 = .ok t
  unfold detectOsType
  rw [bind_of_ok hr]
  exact ⟨_, rfl⟩

theorem isResolution_of_acceptUser {name : Option String} {e : Fault}
    (h : (acceptUser name s).1 = .error e) : e.isResolution = true := by
  have missing (h : (missingUser s).1 = .error e) : e.isResolution = true := by
    cases h
    rfl
  unfold acceptUser at h
  split at h
  · exact missing h
  · split at h
    · exact missing h
    · cases h

/-- **A user that is not told is missing.** -/
theorem isResolution_of_user (hs : s.1.source = .mapping entries) {e : Fault}
    (h : (user s).1 = .error e) : e.isResolution = true := by
  have hu : Fact.user.ask s = (.error e, (user s).2) := Prod.ext h rfl
  have hw : detectUser s = (.error e, (user s).2) := (Fact.workOut_of_ask_error hu).2
  obtain ⟨w, hr⟩ := resolve_mapping hs currentUser userName
  unfold detectUser at hw
  rw [bind_of_ok hr] at hw
  rcases bind_eq_error_iff.mp hw with hc | ⟨name, t, -, ha⟩
  · -- the name cannot fail to be cut down, as the system is told
    obtain ⟨o, ho⟩ := exists_osType (s := (s.1, w)) hs
    have hf := (fst_map_eq_error_iff _).mp (congrArg Prod.fst hc)
    cases (fst_map_of_ok ho _).symm.trans hf
  · exact isResolution_of_acceptUser (congrArg Prod.fst ha)

/-- The working directory is told if no source is plugged in. -/
theorem exists_workingDirectory (hs : s.1.source = .mapping entries)
    (hd : s.1.directorySource = none) : ∃ d, (workingDirectory s).1 = .ok d := by
  obtain ⟨c, w⟩ := s
  have hl : lookup userDirectory (c, w) =
      (.ok (entries.get? userDirectory), (c, w.record (.read userDirectory))) := lookup_mapping hs _
  rw [workingDirectory_apply, show c.directorySource = none from hd]
  rw [directoryFrom, bind_of_ok hl]
  rcases entries.get? userDirectory with _ | directory
  · exact ⟨_, rfl⟩
  · by_cases hb : isBlank (some directory) = true
    · simp only [if_pos hb]
      exact ⟨_, rfl⟩
    · simp only [if_neg hb]
      exact ⟨_, rfl⟩

/-! ## The version -/

theorem readVersion_of_isBlank {raw : Option String} (h : isBlank raw = true) :
    (readVersion raw s).1 = .error (.missingVersion versionProperties) := by
  cases raw with
  | none => rfl
  | some raw =>
    rw [readVersion, if_pos h]
    rfl

theorem readVersion_of_not_isBlank {raw : String} (h : isBlank (some raw) = false) :
    readVersion (some raw) = readVersionText raw := by
  rw [readVersion, if_neg (by simp [h])]

theorem readVersion_of_overlong {raw : String} (h : Version.Overlong raw) :
    ∃ digits, (readVersion (some raw) s).1 = .error (.digitLimit digits) := by
  have hb : isBlank (some raw) = false :=
    Bool.eq_false_iff.mpr fun hb => Version.not_overlong_of_isBlank hb h
  obtain ⟨digits, hp⟩ := Version.parse_sanitize_eq_digitLimit_iff.mpr h
  rw [readVersion_of_not_isBlank hb, readVersionText, hp]
  exact ⟨digits, rfl⟩

/-- A raw value that is not overlong is read as a version that can be written, or it gives none. -/
theorem readVersion_of_not_overlong {raw : Option String}
    (h : ∀ text, raw = some text → ¬ Version.Overlong text) :
    (∃ v, (readVersion raw s).1 = .ok v ∧ (Value.version v).isWritable = true) ∨
      ∃ e, (readVersion raw s).1 = .error e ∧ e.isResolution = true := by
  by_cases hb : isBlank raw = true
  · exact Or.inr ⟨_, readVersion_of_isBlank hb, rfl⟩
  · obtain ⟨text, rfl⟩ : ∃ text, raw = some text := by
      cases raw with
      | none => exact absurd rfl hb
      | some text => exact ⟨text, rfl⟩
    rw [readVersion_of_not_isBlank (Bool.eq_false_iff.mpr hb), readVersionText]
    cases hp : Version.parse (some (Version.sanitize text)) with
    | ok v => exact Or.inl ⟨v, rfl, Version.isWritable_of_parse hp⟩
    | error e =>
      rcases Version.parse_sanitize_eq_error hp with ⟨value, rfl⟩ | ⟨digits, rfl⟩
      · exact Or.inr ⟨_, rfl, rfl⟩
      · exact absurd (Version.parse_sanitize_eq_digitLimit_iff.mp ⟨digits, hp⟩) (h text rfl)

end Query

/-- The version is beyond the digit limit: it was set with such a component, or it is not known yet
and its raw text is overlong. -/
def Context.BeyondLimit (entries : Entries String String) (c : Context) : Prop :=
  match c.version with
  | .settled v => ∃ n ∈ v.components, Number.isWritable n = false
  | .empty =>
    ∃ raw, rawValue entries runtimeVersionOverride runtimeVersion = some raw ∧
      Version.Overlong raw

namespace Query

/-- What the version is read from if it is not known. -/
theorem fst_version_of_empty (hs : s.1.source = .mapping entries) (hc : s.1.version = .empty) :
    ∃ w, (version s).1 =
      (readVersion (rawValue entries runtimeVersionOverride runtimeVersion) (s.1, w)).1 := by
  obtain ⟨w, hr⟩ := resolve_mapping hs runtimeVersionOverride runtimeVersion
  refine ⟨w, ?_⟩
  show (Fact.version.ask s).1 = _
  rw [Fact.fst_ask, show Fact.version.cell s.1 = .empty from hc]
  show (detectVersion s).1 = _
  unfold detectVersion
  rw [bind_of_ok hr]

theorem fst_version_of_settled {v : Version} (hc : s.1.version = .settled v) :
    (version s).1 = .ok v := by
  show (Fact.version.ask s).1 = _
  rw [Fact.fst_ask, show Fact.version.cell s.1 = .settled v from hc]

theorem versionText_of_beyondLimit (hs : s.1.source = .mapping entries)
    (h : s.1.BeyondLimit entries) : ∃ digits, (versionText s).1 = .error (.digitLimit digits) := by
  rw [fst_versionText]
  unfold Context.BeyondLimit at h
  cases hc : s.1.version with
  | settled v =>
    rw [hc] at h
    have hw : (Value.version v).isWritable = false := by
      rw [Value.isWritable]
      simpa using h
    rw [fst_version_of_settled hc]
    exact ⟨none, Value.written_eq_error_iff.mpr ⟨hw, rfl⟩⟩
  | empty =>
    rw [hc] at h
    obtain ⟨raw, hraw, ho⟩ := h
    obtain ⟨w, hv⟩ := fst_version_of_empty hs hc
    obtain ⟨digits, hd⟩ := readVersion_of_overlong (s := (s.1, w)) ho
    rw [hv, hraw, hd]
    exact ⟨digits, rfl⟩

theorem versionText_of_not_beyondLimit (hs : s.1.source = .mapping entries)
    (h : ¬ s.1.BeyondLimit entries) :
    (∃ text, (versionText s).1 = .ok text) ∨
      ∃ e, (versionText s).1 = .error e ∧ e.isResolution = true := by
  have written {v : Version} (hv : (version s).1 = .ok v)
      (hw : (Value.version v).isWritable = true) : ∃ text, (versionText s).1 = .ok text := by
    rw [fst_versionText, hv]
    exact ⟨_, Value.written_eq_ok_iff.mpr ⟨hw, rfl⟩⟩
  unfold Context.BeyondLimit at h
  cases hc : s.1.version with
  | settled v =>
    rw [hc] at h
    refine Or.inl (written (fst_version_of_settled hc) ?_)
    rw [Value.isWritable]
    simpa using h
  | empty =>
    rw [hc] at h
    obtain ⟨w, hv⟩ := fst_version_of_empty hs hc
    rcases readVersion_of_not_overlong (s := (s.1, w)) fun text ht ho => h ⟨text, ht, ho⟩ with
      ⟨v, hr, hw⟩ | ⟨e, hr, he⟩
    · exact Or.inl (written (hv.trans hr) hw)
    · rw [fst_versionText, hv, hr]
      exact Or.inr ⟨e, rfl, he⟩

/-! ## The report -/

/-- Over a plain mapping all entries of a report but the version are told or left out. -/
theorem fst_describe_mapping (hs : s.1.source = .mapping entries)
    (hd : s.1.directorySource = none) :
    ∃ f : Option String → Report, (describe s).1 = (reported (versionText s).1).map f := by
  have h : Steady s := .of_mapping hs hd
  obtain ⟨o, ho⟩ := exists_osType hs
  have hw : (isWindows s).1 = .ok (OsFamily.isWindows o) := fst_map_of_ok ho _
  have hm : (isMacos s).1 = .ok (OsFamily.isMacos o) := fst_map_of_ok ho _
  have hx : (isUnixLike s).1 = .ok (OsFamily.isUnixLike o) := fst_map_of_ok ho _
  have hl : (shellElements none s).1 = .ok (Shell.elements (OsFamily.isWindows o)) :=
    fst_map_of_ok hw _
  obtain ⟨constrainedRuntime, hc⟩ := exists_ask (F := .constrainedRuntime) ⟨_, fst_detect hs _⟩
  obtain ⟨alternateVm, ha⟩ := exists_ask (F := .alternateVm) ⟨_, fst_detect hs _⟩
  obtain ⟨directory, hd⟩ := exists_workingDirectory hs hd
  obtain ⟨user, hu⟩ : ∃ u, reported (do return (← (Query.user s).1, ← (isRoot s).1)) = .ok u := by
    rw [fst_user_isRoot h hw]
    rcases hu : (Query.user s).1 with e | name
    · exact ⟨none, by simp [reported, bind, Except.bind, isResolution_of_user hs hu]⟩
    · exact ⟨_, rfl⟩
  refine ⟨fun version =>
    { osType := o, windows := OsFamily.isWindows o, macos := OsFamily.isMacos o,
      unixLike := OsFamily.isUnixLike o, constrainedRuntime, alternateVm, user, version, directory,
      shell := Shell.elements (OsFamily.isWindows o) }, ?_⟩
  rw [fst_describe h, ho, hw, hm, hx, show (isConstrainedRuntime s).1 = _ from hc,
    show (isAlternateVm s).1 = _ from ha, hu, hd, hl]
  rcases reported (versionText s).1 with _ | _ <;> rfl

theorem describe_of_beyondLimit (hs : s.1.source = .mapping entries)
    (hd : s.1.directorySource = none) (h : s.1.BeyondLimit entries) :
    ∃ digits, (Op.describe.run s).1 = .error (.digitLimit digits) := by
  obtain ⟨f, hf⟩ := fst_describe_mapping hs hd
  obtain ⟨digits, hv⟩ := versionText_of_beyondLimit hs h
  rw [fst_run_describe, hf, hv]
  exact ⟨digits, rfl⟩

theorem describe_of_not_beyondLimit (hs : s.1.source = .mapping entries)
    (hd : s.1.directorySource = none) (h : ¬ s.1.BeyondLimit entries) :
    ∃ r : Report, (Op.describe.run s).1 = .ok r.toValue ∧ r.Agrees s := by
  obtain ⟨f, hf⟩ := fst_describe_mapping hs hd
  obtain ⟨o, ho⟩ : ∃ o, reported (versionText s).1 = .ok o := by
    rcases versionText_of_not_beyondLimit hs h with ⟨text, ht⟩ | ⟨e, ht, he⟩
    · exact ⟨some text, by rw [ht]; rfl⟩
    · exact ⟨none, by rw [ht, reported, if_pos he]⟩
  have hr : (describe s).1 = .ok (f o) := by
    rw [hf, ho]
    rfl
  refine ⟨f o, ?_, agrees_of_describe (.of_mapping hs hd) hr⟩
  rw [fst_run_describe, hr]
  rfl

/-- A version that is not told is missing or unreadable, within the limit. -/
theorem isResolution_of_version (hs : s.1.source = .mapping entries)
    (h : ¬ s.1.BeyondLimit entries) {e : Fault} (hv : (version s).1 = .error e) :
    e.isResolution = true := by
  have ht : (versionText s).1 = .error e := by
    rw [fst_versionText, hv]
    rfl
  rcases versionText_of_not_beyondLimit hs h with ⟨text, ho⟩ | ⟨e', he', hr⟩
  · cases ht.symm.trans ho
  · cases ht.symm.trans he'
    exact hr

end Query

/-- **Only the digit limit keeps a report from being made.** Over a plain mapping, where no source
of directories is plugged in, the report ends with that fault if the version is beyond the limit.
Otherwise it is made, and a user or a version that cannot be told is left out. -/
theorem report_fails_only_beyond_limit (hs : s.1.source = .mapping entries)
    (hd : s.1.directorySource = none) :
    (s.1.BeyondLimit entries → ∃ digits, (Op.describe.run s).1 = .error (.digitLimit digits)) ∧
      (¬ s.1.BeyondLimit entries → ∃ r : Report, (Op.describe.run s).1 = .ok r.toValue ∧
        (r.user = none ↔ ∃ e, (Op.user.run s).1 = .error e) ∧
        (r.version = none ↔ ∃ e, (Op.version.run s).1 = .error e)) := by
  refine ⟨describe_of_beyondLimit hs hd, fun h => ?_⟩
  obtain ⟨r, hr, ha⟩ := describe_of_not_beyondLimit hs hd h
  refine ⟨r, hr, ha.noUser.trans ?_, ha.noVersion.trans ?_⟩
  · refine exists_congr fun e => and_iff_left_of_imp fun he => ?_
    exact isResolution_of_user hs ((fst_map_eq_error_iff _).mp he)
  · refine exists_congr fun e => and_iff_left_of_imp fun he => ?_
    exact isResolution_of_version hs h ((fst_map_eq_error_iff _).mp he)

/-- A report without a user. -/
theorem report_without_user :
    ∃ (s : Scene) (r : Report), s.1.source = .mapping (.ofList [("runtime.version", "3.12-rc")]) ∧
      s.1.directorySource = none ∧ ¬ s.1.BeyondLimit (.ofList [("runtime.version", "3.12-rc")]) ∧
      (Op.describe.run s).1 = .ok r.toValue ∧
      (r.user = none ↔ ∃ e, (Op.user.run s).1 = .error e) ∧
      (r.version = none ↔ ∃ e, (Op.version.run s).1 = .error e) := by
  let s : Scene := (Context.new (.mapping (.ofList [("runtime.version", "3.12-rc")])), World.empty)
  have hs : s.1.source = .mapping (.ofList [("runtime.version", "3.12-rc")]) := rfl
  have hb : ¬ s.1.BeyondLimit (.ofList [("runtime.version", "3.12-rc")]) := by
    rintro ⟨raw, hraw, ho⟩
    obtain rfl : "3.12-rc" = raw := Option.some.inj hraw
    obtain ⟨digits, hd⟩ := Version.parse_sanitize_eq_digitLimit_iff.mpr ho
    have hp : Version.parse (some (Version.sanitize "3.12-rc")) = .ok ⟨[3, 12]⟩ := by rfl
    cases hp.symm.trans hd
  obtain ⟨r, hr, hu, hv⟩ := (report_fails_only_beyond_limit hs rfl).2 hb
  exact ⟨s, r, hs, rfl, hb, hr, hu, hv⟩

/-- One digit too many, and no report is made. -/
theorem no_report_of_long_version :
    let nines := String.ofList (List.replicate 4301 '9')
    let s : Scene := (Context.new (.mapping (.ofList [("runtime.version", nines)])), World.empty)
    ∃ digits, (Op.describe.run s).1 = .error (.digitLimit digits) := by
  intro nines s
  have ho : Version.Overlong nines :=
    Version.overlong_ofList (fun c hc => by rw [List.eq_of_mem_replicate hc]; rfl)
      (by rw [List.length_replicate]; decide)
  have hs : s.1.source = .mapping (.ofList [("runtime.version", nines)]) := rfl
  exact describe_of_beyondLimit hs rfl ⟨nines, rfl, ho⟩

end HostFacts
