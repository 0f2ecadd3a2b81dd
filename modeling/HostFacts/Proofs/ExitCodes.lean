import HostFacts.Host
import HostFacts.Proofs.Asking
import HostFacts.Proofs.CommandProperties
import HostFacts.Proofs.VersionText

/-!
# The codes that the command ends with

A run of the command makes a table, asks for a report and writes it. The file for the table may be
rejected, and the command has a code for that. What is asked for the report can fail too, for want
of a user or of a version; but such a fact is left out of the report, and so the other codes for
faults never come up.

The providers of system properties are not part of the library, so how they fail is no fault of its
own (`World.Foreign`); those of a machine do not fail at all (`Host.foreign_providers`). Faults
without a code end the program instead of the run.

* `Table.load_error`: a file that does not load is rejected with its path, or ends the program;
* `Query.failsOnly_describe`: what is missing from a report never ends it;
* **`run_ends_by_file`**: the file decides how a run ends, and what is written.
-/

namespace HostFacts

open Act HostFacts.Property HostFacts.Text

/-- Whether a fault ends the program. -/
def Fault.IsFatal (e : Fault) : Prop := e.exit? = none

/-- A fault that a report takes or that ends the program: it leaves a fact out or it is fatal. -/
def Fault.IsMissing (e : Fault) : Prop := e.IsFatal ∨ e.isResolution = true

/-! ## Failing providers -/

/-- None of the failures of the providers is one that the command reports. -/
def Providers.Foreign (providers : Providers) : Prop :=
  ∀ name script, providers.get? name = some script → ∀ k e, script.ends k = .error e → e.IsFatal

/-- No table of providers has one whose failures the command reports. -/
def World.Foreign (w : World) : Prop := ∀ o, (w.providers o).Foreign

/-- The providers of a machine do not fail. -/
theorem Host.foreign_providers (h : Host) : h.providers.Foreign := by
  intro name script hs k e he
  obtain ⟨value, -, rfl⟩ := Option.map_eq_some_iff.mp (Entries.get?_map.symm.trans hs)
  cases he

/-- The surroundings in which a process starts have the providers of the process only. -/
theorem World.foreign_ofProcess {providers : Providers} (h : providers.Foreign)
    (environ : Entries String String) (files : Files.Reader) :
    (World.ofProcess environ providers files).Foreign
  | .process => h
  | .given _ => nofun

namespace Table

variable {t : Table} {w w' : World} {name : String} {carrier : Option String}
  {r : Except Fault (Option String)}

theorem foreign_called {o : Origin} {script : Script (Option String)} (hw : w.Foreign)
    (hp : (w.providers o).get? name = some script) : (w.called o name script).Foreign := by
  intro o' other script' h
  by_cases hne : o' ≠ o ∨ other ≠ name
  · rw [World.get?_providers_called_of_ne hne] at h
    exact hw o' other script' h
  · obtain ⟨rfl, rfl⟩ : o' = o ∧ other = name := by simpa [not_or] using hne
    rw [World.get?_providers_called] at h
    cases h
    exact hw o' other script hp

/-- A lookup fails as a provider fails. -/
theorem Sees.foreign (h : t.Sees w name carrier r w') (hw : w.Foreign) :
    w'.Foreign ∧ ∀ e, r = .error e → e.IsFatal := by
  cases h with
  | explicit | environment | nothing => exact ⟨hw, nofun⟩
  | provided _ _ hp _ => exact ⟨foreign_called hw hp, nofun⟩
  | absent _ _ hp _ _ => exact ⟨foreign_called hw hp, nofun⟩
  | failed _ _ hp h _ =>
    refine ⟨foreign_called hw hp, fun e he => ?_⟩
    cases he
    exact hw _ _ _ hp _ _ h

theorem failsOnly_lookup (t : Table) (name : String) :
    FailsOnly World.Foreign Fault.IsFatal (t.lookup name) :=
  fun w hw => (lookup_eq_iff_sees.mp (Prod.eta (t.lookup name w)).symm).foreign hw

end Table

namespace Source

variable {t : Table}

theorem failsOnly_note (level : Level) (logger : Logger) (message : String) :
    FailsOnly World.Foreign Fault.IsFatal (logLine level logger message) := fun _ hw => ⟨hw, nofun⟩

theorem failsOnly_resolve (t : Table) (first second : String) :
    FailsOnly World.Foreign Fault.IsFatal ((Source.table t).resolve first (some second)) := by
  refine (t.failsOnly_lookup first).bind fun value => ?_
  split
  · exact failsOnly_pure _
  · exact t.failsOnly_lookup second

theorem failsOnly_search (t : Table) (signal : Signal) (properties : List String) :
    FailsOnly World.Foreign Fault.IsFatal (signal.search (.table t) properties) := by
  induction properties with
  | nil => exact (failsOnly_note _ _ _).bind fun _ => failsOnly_pure _
  | cons property rest ih =>
    refine (t.failsOnly_lookup property).bind fun value => ?_
    split
    · exact (failsOnly_note _ _ _).bind fun _ => failsOnly_pure _
    · exact ih

theorem failsOnly_detect (t : Table) (signal : Signal) :
    FailsOnly World.Foreign Fault.IsFatal (signal.detect (.table t)) := by
  refine (t.failsOnly_lookup _).bind fun value => ?_
  split
  · exact (failsOnly_note _ _ _).bind fun _ => failsOnly_pure _
  · exact failsOnly_search t signal _

end Source

/-! ## Reports over a table -/

namespace Query

/-- Contexts over a table that no source of working directories is plugged into. -/
structure Over (t : Table) (s : Context × World) : Prop where
  source : s.1.source = .table t
  place : s.1.directorySource = none
  foreign : s.2.Foreign

variable {t : Table} {α : Type} {E : Fault → Prop} {x : Query α}

theorem failsOnly_ofSource {x : Source → Act World α}
    (h : FailsOnly World.Foreign E (x (.table t))) : FailsOnly (Over t) E (ofSource x) := by
  rintro ⟨c, w⟩ ⟨hs, hd, hw⟩
  rw [ofSource_apply, show c.source = .table t from hs]
  exact ⟨⟨hs, hd, (h w hw).1⟩, (h w hw).2⟩

theorem failsOnly_lookup (name : String) : FailsOnly (Over t) Fault.IsFatal (lookup name) :=
  failsOnly_ofSource (x := (Source.lookup · name)) (t.failsOnly_lookup name)

theorem failsOnly_resolve (first second : String) :
    FailsOnly (Over t) Fault.IsFatal (Query.resolve first second) :=
  failsOnly_ofSource (x := (Source.resolve · first second))
    (Source.failsOnly_resolve t first second)

theorem failsOnly_note (level : Level) (logger : Logger) (message : String) :
    FailsOnly (Over t) E (note level logger message) :=
  fun _ hs => ⟨⟨hs.source, hs.place, hs.foreign⟩, nofun⟩

theorem failsOnly_ask {F : Fact} (h : FailsOnly (Over t) E F.workOut) :
    FailsOnly (Over t) E F.ask := by
  have put (a : F.Val) : FailsOnly (Over t) E (update (F.put (.settled a))) := fun s hs =>
    ⟨⟨(Fact.source_put _).trans hs.source, (Fact.directorySource_put _).trans hs.place, hs.foreign⟩,
      nofun⟩
  have resolve : FailsOnly (Over t) E F.resolve :=
    h.bind fun a => (put a).bind fun _ => failsOnly_pure a
  rintro ⟨c, w⟩ hs
  cases hc : F.cell c with
  | settled a =>
    rw [Fact.ask_of_settled hc]
    exact ⟨hs, nofun⟩
  | empty =>
    rw [Fact.ask_of_empty hc]
    exact resolve (c, w) hs

theorem failsOnly_osType : FailsOnly (Over t) Fault.IsFatal osType :=
  failsOnly_ask (F := .osType) <| (failsOnly_resolve _ _).bind fun _ =>
    (failsOnly_note _ _ _).bind fun _ => failsOnly_pure _

theorem failsOnly_detect (signal : Signal) :
    FailsOnly (Over t) Fault.IsFatal (detect signal) :=
  failsOnly_ofSource (x := signal.detect) (Source.failsOnly_detect t signal)

theorem failsOnly_isWindows : FailsOnly (Over t) Fault.IsFatal isWindows := failsOnly_osType.map _

theorem failsOnly_workingDirectory : FailsOnly (Over t) Fault.IsFatal workingDirectory := by
  have unknown : FailsOnly (Over t) Fault.IsFatal workingDirectory.unknown :=
    (failsOnly_note _ _ _).bind fun _ => failsOnly_pure _
  have told : FailsOnly (Over t) Fault.IsFatal (directoryFrom none) := by
    refine (failsOnly_lookup userDirectory).bind fun value => ?_
    split
    · split
      · exact unknown
      · exact failsOnly_pure _
    · exact unknown
  rintro ⟨c, w⟩ hs
  rw [workingDirectory_apply, show c.directorySource = none from hs.place]
  exact told (c, w) hs

/-! ### Facts that can be missing -/

theorem failsOnly_missing (h : FailsOnly (Over t) Fault.IsFatal x) :
    FailsOnly (Over t) Fault.IsMissing x := h.mono fun _ => Or.inl

theorem failsOnly_acceptUser (name : Option String) :
    FailsOnly (Over t) Fault.IsMissing (acceptUser name) := by
  have missing : FailsOnly (Over t) Fault.IsMissing missingUser :=
    (failsOnly_note _ _ _).bind fun _ => failsOnly_fail (Or.inr rfl)
  unfold acceptUser
  split
  · exact missing
  · split
    · exact missing
    · exact (failsOnly_note _ _ _).bind fun _ => failsOnly_pure _

theorem failsOnly_user : FailsOnly (Over t) Fault.IsMissing user := by
  have raw := failsOnly_missing (failsOnly_resolve (t := t) currentUser userName)
  refine failsOnly_ask (F := .user) (raw.bind fun name => ?_)
  exact (failsOnly_missing (failsOnly_isWindows.map _)).bind failsOnly_acceptUser

theorem failsOnly_isRoot : FailsOnly (Over t) Fault.IsMissing isRoot := by
  refine (failsOnly_missing failsOnly_isWindows).bind fun windows => ?_
  split
  · exact failsOnly_pure _
  · exact failsOnly_user.map _

theorem failsOnly_readVersion (raw : Option String) :
    FailsOnly (Over t) Fault.IsMissing (readVersion raw) := by
  have missing : FailsOnly (Over t) Fault.IsMissing missingVersion :=
    (failsOnly_note _ _ _).bind fun _ => failsOnly_fail (Or.inr rfl)
  unfold readVersion
  split
  · exact missing
  · rename_i raw
    split
    · exact missing
    unfold readVersionText
    cases hp : Version.parse (some (Version.sanitize raw)) with
    | ok v => exact (failsOnly_note _ _ _).bind fun _ => failsOnly_pure _
    | error e =>
      rcases Version.parse_sanitize_eq_error hp with ⟨value, rfl⟩ | ⟨digits, rfl⟩
      · exact (failsOnly_note _ _ _).bind fun _ => failsOnly_fail (Or.inr rfl)
      · exact failsOnly_fail (Or.inl rfl)

theorem failsOnly_versionText : FailsOnly (Over t) Fault.IsMissing versionText := by
  have version : FailsOnly (Over t) Fault.IsMissing version := failsOnly_ask (F := .version)
    ((failsOnly_missing (failsOnly_resolve _ _)).bind failsOnly_readVersion)
  refine version.bind fun v => failsOnly_ofExcept fun e he => ?_
  obtain ⟨-, rfl⟩ := Value.written_eq_error_iff.mp he
  exact Or.inl rfl

/-- What is missing is left out. -/
theorem failsOnly_optional (h : FailsOnly (Over t) Fault.IsMissing x) :
    FailsOnly (Over t) Fault.IsFatal (optional x) := by
  intro s hs
  obtain ⟨ht, he⟩ := h s hs
  have ha : attempt x s = (.ok (x s).1, (x s).2) := rfl
  unfold optional
  rw [bind_of_ok ha]
  cases hx : (x s).1 with
  | ok a => exact ⟨ht, nofun⟩
  | error e =>
    by_cases hr : e.isResolution = true
    · simp only [if_pos hr]
      exact ((failsOnly_note _ _ _).bind fun _ => failsOnly_pure _) _ ht
    · simp only [if_neg hr]
      exact failsOnly_fail ((he e hx).resolve_right hr) _ ht

/-- **What is missing from a report never ends it.** -/
theorem failsOnly_describe : FailsOnly (Over t) Fault.IsFatal describe := by
  have user : FailsOnly (Over t) Fault.IsMissing (do return (← user, ← isRoot)) :=
    failsOnly_user.bind fun name => failsOnly_isRoot.map _
  exact failsOnly_osType.bind fun _ => failsOnly_isWindows.bind fun _ =>
    (failsOnly_osType.map _).bind fun _ => (failsOnly_osType.map _).bind fun _ =>
    (failsOnly_ask (F := .constrainedRuntime) (failsOnly_detect _)).bind fun _ =>
    (failsOnly_ask (F := .alternateVm) (failsOnly_detect _)).bind fun _ =>
    (failsOnly_optional user).bind fun _ => (failsOnly_optional failsOnly_versionText).bind fun _ =>
    failsOnly_workingDirectory.bind fun _ => (failsOnly_isWindows.map _).map _

end Query

/-! ## The table of a run -/

namespace Table

variable {layers : Layers} {path : String} {w : World} {e : Fault}

/-- Content of which no table can be made is rejected with its path, or ends the program. -/
theorem ofContent_error {content : List UInt8} (h : ofContent layers path content = .error e) :
    e.IsFatal ∨ ∃ cause, e = .ofConfig cause path := by
  cases hd : Utf8.decode content with
  | error f =>
    unfold ofContent at h
    rw [hd] at h
    cases h
    exact Or.inl rfl
  | ok text =>
    rw [ofContent_of_text hd] at h
    rcases hy : Yaml.read (uniformLines text) with (_ | f) | value <;> simp only [hy] at h
    · cases h
      exact Or.inr ⟨_, rfl⟩
    · cases h
      exact Or.inl f.2
    · rcases exceptBind_eq_error_iff.mp h with hv | ⟨entries, -, h⟩
      · cases hf : fileEntries value with
        | ok entries =>
          rw [hf] at hv
          cases hv
        | error cause =>
          rw [hf] at hv
          cases hv
          exact Or.inr ⟨_, rfl⟩
      · rcases isReported_or_overflows layers path entries with (⟨t, ht⟩ | ⟨cause, hc⟩) | ⟨-, he⟩
        · cases ht.symm.trans h
        · cases hc.symm.trans h
          exact Or.inr ⟨_, rfl⟩
        · cases he.symm.trans h
          exact Or.inl rfl

/-- **A file that does not load is rejected with its path, or ends the program.** -/
theorem load_error (h : (load layers path w).1 = .error e) :
    e.IsFatal ∨ ∃ cause, e = .ofConfig cause (Path.normal path) := by
  rw [fst_load] at h
  rcases exceptBind_eq_error_iff.mp h with hc | ⟨content, -, h⟩
  · unfold contentOf at hc
    split at hc
    · cases hc
    · cases hc
      exact Or.inl rfl
    · cases hc
      exact Or.inl rfl
    · cases hc
      exact Or.inr ⟨_, rfl⟩
  · exact ofContent_error h

/-- Loading calls no provider. -/
theorem failsOnly_load (layers : Layers) (path : String) :
    FailsOnly World.Foreign (fun _ => True) (load layers path) := by
  have get : FailsOnly World.Foreign (fun _ => True) (Act.get : Act World World) :=
    fun _ hw => ⟨hw, nofun⟩
  have note (message : String) :
      FailsOnly World.Foreign (fun _ => True) (logLine .debug .properties message) :=
    fun _ hw => ⟨hw, nofun⟩
  exact get.bind fun w => (failsOnly_ofExcept fun _ _ => trivial).bind fun content =>
    (failsOnly_ofExcept fun _ _ => trivial).bind fun t => (note _).bind fun _ => failsOnly_pure t

end Table

namespace CommandLine

namespace Settings

variable {s s' : Settings} {w w' w₁ : World} {e : Fault} {t : Table}

/-- The file of the settings is rejected with a fault. -/
def Rejects (s : Settings) (w : World) (e : Fault) : Prop :=
  ∃ path cause, s.config = some path ∧ path ≠ "" ∧ e = .ofConfig cause (Path.normal path) ∧
    (Table.load .process path w).1 = .error e

/-- Whether the file is rejected depends on the path and on the files only. -/
theorem rejects_congr (hc : s'.config = s.config) (hf : w'.files = w.files) :
    s'.Rejects w' e ↔ s.Rejects w e := by
  unfold Rejects
  simp only [hc, Table.fst_load, hf]

theorem table_of_rejects (h : s.Rejects w e) : s.table w = (.error e, w) := by
  obtain ⟨path, cause, hc, hp, -, hl⟩ := h
  rw [table_eq_bind, base_of_path hc hp]
  exact bind_of_error (Table.load_of_error hl)

/-- A table that cannot be made ends the program, unless the file is rejected. -/
theorem isFatal_of_table (h : (s.table w).1 = .error e) (hr : ¬ s.Rejects w e) : e.IsFatal := by
  rw [table_eq_bind] at h
  rcases bind_eq_error_iff.mp (Prod.ext h rfl) with hb | ⟨t, w₁, hb, hd⟩
  · rcases s.config_cases with hc | ⟨path, hc, hp⟩
    · rw [base_of_nothing hc] at hb
      cases hb
    · rw [base_of_path hc hp] at hb
      have hl := congrArg Prod.fst hb
      refine (Table.load_error hl).resolve_right ?_
      rintro ⟨cause, rfl⟩
      exact hr ⟨path, cause, hc, hp, rfl, hl⟩
  · split at hd
    · cases hd
    · have hd := congrArg Prod.fst hd
      rcases exceptBind_eq_error_iff.mp hd with hds | ⟨ds, -, hv⟩
      · unfold defined at hds
        split at hds
        · cases hds
          rfl
        · cases hds
      · rw [Table.withValues_textEntries] at hv
        cases hv

/-- Making the table calls no provider. -/
theorem failsOnly_table (s : Settings) : FailsOnly World.Foreign (fun _ => True) s.table := by
  rw [table_eq_bind]
  have base : FailsOnly World.Foreign (fun _ => True) s.base := by
    rcases s.config_cases with hc | ⟨path, hc, hp⟩
    · rw [base_of_nothing hc]
      exact failsOnly_pure _
    · rw [base_of_path hc hp]
      exact Table.failsOnly_load .process path
  refine base.bind fun t => ?_
  split
  · exact failsOnly_pure t
  · exact failsOnly_ofExcept fun _ _ => trivial

/-! ## The end of a run -/

/-- A rejected file ends the run with its code, and nothing else is written. -/
theorem outcome_of_rejects (hj : w.journal = []) (h : s.Rejects w e) :
    (s.outcome w).1 = ⟨.finished .configError, "", s!"ERROR: {e.text}\n"⟩ := by
  have ht : s.text w = (.error e, w) := bind_of_error (bind_of_error (table_of_rejects h))
  have hl : s.logText w = "" := by
    unfold logText World.log
    rw [hj]
    rfl
  have hx : e.exit? = some .configError := by
    obtain ⟨path, cause, -, -, rfl, -⟩ := h
    rfl
  unfold outcome
  rw [ht]
  simp only [hx, hl, String.empty_append]

/-- Otherwise the run ends well, or the program ends with it. -/
theorem outcome_of_not_rejects (hw : w.Foreign) (h : ∀ e, ¬ s.Rejects w e)
    (hne : ∀ e, (s.outcome w).1.ending ≠ .escaped e) :
    ∃ t w₁ report s₂ text, s.table w = (.ok t, w₁) ∧
      Query.describe (Context.new (.table t), w₁) = (.ok report, s₂) ∧
      s.format.write report.toValue = .ok text ∧ (s.outcome w).1 =
        ⟨.finished .success, if s.format = .json then text ++ "\n" else text, s.logText s₂.2⟩ := by
  have escapes {e : Fault} (hr : (s.report w).1 = .error e) : ¬ e.IsFatal := by
    intro hx
    refine hne e ?_
    rw [(outcome_of_fault (Prod.ext hr rfl)).2, Ending.ofFault, show e.exit? = none from hx]
  cases ht : s.table w with | mk r w₁ =>
  cases r with
  | error e =>
    have hf := isFatal_of_table (congrArg Prod.fst ht) (h e)
    exact absurd hf (escapes (congrArg Prod.fst (bind_of_error ht)))
  | ok t =>
    have hw₁ : w₁.Foreign := by
      have hk := (s.failsOnly_table w hw).1
      rwa [ht] at hk
    have hr := report_of_table ht
    cases hd : Query.describe (Context.new (.table t), w₁) with | mk r s₂ =>
    rw [hd] at hr
    cases r with
    | error e =>
      have hf := (Query.failsOnly_describe (Context.new (.table t), w₁) ⟨rfl, rfl, hw₁⟩).2 e
        (congrArg Prod.fst hd)
      exact absurd hf (escapes (congrArg Prod.fst hr))
    | ok report =>
      obtain ⟨text, hwrite, ho⟩ := outcome_of_report hr
      exact ⟨t, w₁, report, s₂, text, rfl, hd, hwrite, ho⟩

end Settings

variable {args : List String} {s : Settings} {w : World} {e : Fault}

/-- A rejected file ends the run with its code, and nothing but the fault is written. -/
theorem run_of_rejects (hp : parse args = .ok s) (machine : Machine) (h : s.Rejects w e) :
    (run machine args w).1 = ⟨.finished .configError, "", s!"ERROR: {e.text}\n"⟩ := by
  have hr : s.Rejects w.clear e ↔ s.Rejects w e := Settings.rejects_congr rfl rfl
  rw [run_of_parse hp]
  exact Settings.outcome_of_rejects rfl (hr.mpr h)

/-- Otherwise the run writes its report and ends well, or the program ends with it. -/
theorem run_of_not_rejects (hp : parse args = .ok s) (machine : Machine) (hw : w.Foreign)
    (hne : ∀ e, (run machine args w).1.ending ≠ .escaped e) (h : ∀ e, ¬ s.Rejects w e) :
    ∃ t w₁ report s₂ text, s.table w.clear = (.ok t, w₁) ∧
      Query.describe (Context.new (.table t), w₁) = (.ok report, s₂) ∧
      s.format.write report.toValue = .ok text ∧ (run machine args w).1 =
        ⟨.finished .success, if s.format = .json then text ++ "\n" else text, s.logText s₂.2⟩ := by
  have hr (e : Fault) : s.Rejects w.clear e ↔ s.Rejects w e := Settings.rejects_congr rfl rfl
  rw [run_of_parse hp] at hne ⊢
  exact Settings.outcome_of_not_rejects hw (fun e he => h e ((hr e).mp he)) hne

/-- **The file decides how a run ends**, where no fault ends the program. If it is rejected, the run
ends with the code for that, and all that is written is the fault. Otherwise the report is written,
and the run ends well. No other code comes up, and runs with the same file end the same way: neither
the other arguments nor the surroundings make a difference, so no missing fact does. -/
theorem run_ends_by_file (hp : parse args = .ok s) (machine : Machine) (hw : w.Foreign)
    (hne : ∀ e, (run machine args w).1.ending ≠ .escaped e) :
    ((run machine args w).1.ending = .finished .configError ↔ ∃ e, s.Rejects w e) ∧
    (∀ e, s.Rejects w e → (run machine args w).1 =
      ⟨.finished .configError, "", s!"ERROR: {e.text}\n"⟩) ∧
    ((∀ e, ¬ s.Rejects w e) → ∃ t w₁ report s₂ text, s.table w.clear = (.ok t, w₁) ∧
      Query.describe (Context.new (.table t), w₁) = (.ok report, s₂) ∧
      s.format.write report.toValue = .ok text ∧ (run machine args w).1 =
        ⟨.finished .success, if s.format = .json then text ++ "\n" else text, s.logText s₂.2⟩) ∧
    (∀ exit, (run machine args w).1.ending = .finished exit →
      exit = .success ∨ exit = .configError) ∧
    ∀ args' s' w', parse args' = .ok s' → s'.config = s.config → w'.files = w.files → w'.Foreign →
      (∀ e, (run machine args' w').1.ending ≠ .escaped e) →
      (run machine args' w').1.ending = (run machine args w).1.ending := by
  have rejected {e : Fault} (h : s.Rejects w e) :
      (run machine args w).1.ending = .finished .configError := by
    rw [run_of_rejects hp machine h]
  have told (h : ∀ e, ¬ s.Rejects w e) : (run machine args w).1.ending = .finished .success := by
    obtain ⟨t, w₁, report, s₂, text, -, -, -, ho⟩ := run_of_not_rejects hp machine hw hne h
    rw [ho]
  refine ⟨⟨fun h => ?_, fun ⟨e, h⟩ => rejected h⟩, fun e => run_of_rejects hp machine,
    run_of_not_rejects hp machine hw hne, fun exit h => ?_,
    fun args' s' w' hp' hc hf hw' hne' => ?_⟩
  · by_contra hn
    rw [told fun e he => hn ⟨e, he⟩] at h
    cases h
  · by_cases hr : ∃ e, s.Rejects w e
    · obtain ⟨e, hr⟩ := hr
      cases (rejected hr).symm.trans h
      exact Or.inr rfl
    · cases (told fun e he => hr ⟨e, he⟩).symm.trans h
      exact Or.inl rfl
  · by_cases hr : ∃ e, s.Rejects w e
    · obtain ⟨e, hr⟩ := hr
      rw [rejected hr, run_of_rejects hp' machine ((Settings.rejects_congr hc hf).mpr hr)]
    · have hn (e : Fault) (he : s'.Rejects w' e) : False :=
        hr ⟨e, (Settings.rejects_congr hc hf).mp he⟩
      obtain ⟨t, w₁, report, s₂, text, -, -, -, ho⟩ := run_of_not_rejects hp' machine hw' hne' hn
      rw [told fun e he => hr ⟨e, he⟩, ho]

/-- A file that is not there ends the run, and a provider that fails does not. -/
theorem run_of_missing_file :
    let machine : Machine := ⟨"3.12.1", "Linux", "6.1"⟩
    let gone : Script (Option String) := ⟨fun _ => .error (.foreign .missingFile "gone"), 0⟩
    let w := World.ofProcess .empty (.ofList [("user.dir", gone)]) Files.none.read
    (run machine ["-c", "missing.yml"] .empty).1 = ⟨.finished .configError, "",
      "ERROR: " ++ (Fault.ofConfig (.unreadable .missing) "missing.yml").text ++ "\n"⟩ ∧
    w.Foreign ∧ (run machine [] w).1.ending = .finished .success := by
  intro machine gone w
  let s : Settings := { Settings.default with config := some "missing.yml" }
  have hp : parse ["-c", "missing.yml"] = .ok s := parse_config rfl
  have hl : (Table.load .process "missing.yml" .empty).1 =
    .error (.ofConfig (.unreadable .missing) "missing.yml") := rfl
  have hr := Settings.report_of_load_error (s := s) rfl (by simp) (Table.load_of_error hl)
  have hne : ∀ e, (run machine ["-c", "missing.yml"] .empty).1.ending ≠ .escaped e := by
    intro e he
    rw [run_of_parse hp, show World.empty.clear = .empty from rfl,
      (Settings.outcome_of_fault hr).2] at he
    cases he
  have hempty : World.empty.Foreign := fun _ _ _ => nofun
  have hw : w.Foreign := World.foreign_ofProcess (fun name script hs k e he => by
    obtain ⟨rfl, rfl⟩ := Prod.mk.inj (List.mem_singleton.mp
      (Entries.get?_ofList_eq_some_iff.mp hs).mem)
    cases he
    rfl) _ _
  refine ⟨(run_ends_by_file hp machine hempty hne).2.1 _
    ⟨"missing.yml", .unreadable .missing, rfl, by simp, rfl, hl⟩, hw, ?_⟩
  let report : Report :=
    ⟨"", false, false, true, false, false, none, none, none, ["/bin/sh", "-i", "-l"]⟩
  have hd : parse [] = .ok .default := by rfl
  have hreport : Settings.default.report w.clear =
      (.ok report, (Settings.default.report w.clear).2) := by rfl
  have hne : ∀ e, (run machine [] w).1.ending ≠ .escaped e := by
    obtain ⟨text, -, ho⟩ := Settings.outcome_of_report hreport
    rw [run_of_parse hd, ho]
    exact nofun
  obtain ⟨t, w₁, r, s₂, text, -, -, -, ho⟩ := (run_ends_by_file hd machine hw hne).2.2.1 (by
    rintro e ⟨path, cause, ⟨⟩, -⟩)
  rw [ho]

end CommandLine

end HostFacts
