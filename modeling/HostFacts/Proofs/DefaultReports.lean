import HostFacts.Proofs.Asking
import HostFacts.Proofs.CommandRuns
import HostFacts.Proofs.Layers
import HostFacts.Registry

/-!
# Reports of the command and of the default context

Without options the command reports on a table without properties of its own, and so does the
default context unless a variable of the environment names a property file for it. The command does
not look at this variable. As no fact is drawn from it either, the command reports what the default
context would tell if the variable were not set.

* `World.SameBut`: surroundings that differ in one variable at most;
* `Query.alike_describe`: in these a report is the same unless a fact is drawn from the variable;
* **`CommandLine.run_reports_default_facts`**: the command reports the facts of the default context,
  made where the variable names no file; where it names one, the command goes on without the file
  (`CommandLine.run_ignores_missing_file`).
-/

namespace HostFacts

open Act Query HostFacts.Property

/-! ## Surroundings that differ in one variable -/

/-- All variables but one are the same, and so is all else that a report is drawn from. -/
structure World.SameBut (x : String) (w w' : World) : Prop where
  environ : ∀ o y, y ≠ x → (w'.environ o).get? y = (w.environ o).get? y
  providers : w'.providers = w.providers
  sources : w'.sources = w.sources
  journal : w'.journal = w.journal

namespace World.SameBut

variable {x : String} {w w' : World}

theorem record (h : w.SameBut x w') (e : Event) : (w.record e).SameBut x (w'.record e) :=
  ⟨h.environ, h.providers, h.sources, congrArg (List.cons e) h.journal⟩

theorem called (h : w.SameBut x w') (o : Origin) (name : String)
    (script : Script (Option String)) :
    (w.called o name script).SameBut x (w'.called o name script) := by
  refine ⟨h.environ, ?_, h.sources, congrArg (List.cons _) h.journal⟩
  unfold World.called
  rw [h.providers]

/-- The value of another variable is the same. -/
theorem bind_get? (h : w.SameBut x w') (o : Origin) {carrier : Option String}
    (hx : carrier ≠ some x) :
    carrier.bind (w'.environ o).get? = carrier.bind (w.environ o).get? := by
  cases carrier with
  | none => rfl
  | some y => exact h.environ o y fun e => hx (congrArg some e)

end World.SameBut

/-- The surroundings without a variable differ in it at most. -/
theorem World.sameBut_unsetVariable (w : World) (o : Origin) (x : String) :
    w.SameBut x (w.unsetVariable o x) := by
  refine ⟨fun o' y hy => ?_, rfl, rfl, rfl⟩
  show (Origin.update w.environ o _ o').get? y = _
  by_cases ho : o' = o
  · subst ho
    rw [Origin.update_self]
    exact Entries.get?_erase_of_ne hy
  · rw [Origin.update_of_ne ho]

/-! ## Lookups -/

namespace Table

variable {t : Table} {x name : String} {carrier : Option String} {w w' w₁ : World}
  {r : Except Fault (Option String)}

/-- What is seen under a name does not depend on the variables of other names. -/
theorem Sees.of_sameBut (h : t.Sees w name carrier r w₁) (hw : w.SameBut x w')
    (hx : carrier ≠ some x) : ∃ w₂, t.Sees w' name carrier r w₂ ∧ w₁.SameBut x w₂ := by
  have hb := hw.bind_get? t.layers.environ hx
  have hp (name : String) : (t.providers w').get? name = (t.providers w).get? name :=
    congrArg (fun p => (p t.layers.providers).get? name) hw.providers
  cases h with
  | explicit h => exact ⟨_, .explicit h, hw⟩
  | @environment y v he hc h =>
    have hy : (t.environ w').get? y = (t.environ w).get? y := by
      rw [hc] at hb
      exact hb
    exact ⟨_, .environment he hc (hy.trans h), hw⟩
  | nothing he hv h => exact ⟨_, .nothing he (hb.trans hv) ((hp name).trans h), hw⟩
  | provided he hv h hr =>
    exact ⟨_, .provided he (hb.trans hv) ((hp name).trans h) hr, hw.called _ _ _⟩
  | absent he hv h hr ha =>
    exact ⟨_, .absent he (hb.trans hv) ((hp name).trans h) hr ha, (hw.called _ _ _).record _⟩
  | failed he hv h hr ha =>
    exact ⟨_, .failed he (hb.trans hv) ((hp name).trans h) hr ha, hw.called _ _ _⟩

theorem alike_lookup_of_sameBut (t : Table) (h : variableFor? name ≠ some x) :
    Alike (World.SameBut x) (t.lookup name) := by
  intro w w' hw
  have hs := lookup_eq_iff_sees.mp (Prod.eta (t.lookup name w)).symm
  obtain ⟨w₂, hs', hw₂⟩ := hs.of_sameBut hw h
  rw [lookup_of_sees hs']
  exact ⟨rfl, hw₂⟩

end Table

/-- No property that a fact is drawn from belongs to the variable for the property file. -/
theorem variableFor_ne_configVariable :
    ∀ name ∈ overrides ++ system, variableFor? name ≠ some configVariable := by
  decide +kernel

/-! ## Reports -/

/-- The same context in surroundings that differ in one variable at most. -/
def SceneBut (x : String) (s s' : Context × World) : Prop := s'.1 = s.1 ∧ s.2.SameBut x s'.2

namespace Query

variable {x : String} {α : Type}

theorem alike_ofWorld_of_sameBut {y : Act World α} (h : Alike (World.SameBut x) y) :
    Alike (SceneBut x) (ofWorld y) := by
  rintro ⟨c, w⟩ ⟨c', w'⟩ ⟨hc, hw⟩
  obtain ⟨hr, hw'⟩ := h w w' hw
  exact ⟨hr, hc, hw'⟩

theorem alike_update_of_sceneBut (f : Context → Context) : Alike (SceneBut x) (update f) :=
  fun _ _ h => ⟨rfl, congrArg f h.1, h.2⟩

theorem alike_note_of_sceneBut (level : Level) (logger : Logger) (message : String) :
    Alike (SceneBut x) (note level logger message) :=
  alike_ofWorld_of_sameBut fun _ _ h => ⟨rfl, h.record _⟩

theorem alike_callSource_of_sceneBut (id : Nat) :
    Alike (SceneBut x) (ofWorld (callSource id)) := by
  refine alike_ofWorld_of_sameBut fun w w' h => ?_
  unfold callSource
  rw [h.sources]
  cases w.sources[id]? with
  | none => exact ⟨rfl, h⟩
  | some script => exact ⟨rfl, h.environ, h.providers, rfl, h.journal⟩

theorem alike_lookup_of_sceneBut {name : String} (hx : variableFor? name ≠ some x) :
    Alike (SceneBut x) (lookup name) := by
  rintro ⟨c, w⟩ ⟨c', w'⟩ ⟨hc, hw⟩
  obtain rfl : c' = c := hc
  have hl : Alike (World.SameBut x) (c'.source.lookup name) := by
    cases c'.source with
    | mapping entries => exact fun _ _ h => ⟨rfl, h.record _⟩
    | table t => exact t.alike_lookup_of_sameBut hx
  exact alike_ofWorld_of_sameBut hl (c', w) (c', w') ⟨rfl, hw⟩

/-- **A report is the same whatever the value of a variable that no fact is drawn from.** -/
theorem alike_describe (hx : ∀ name ∈ overrides ++ system, variableFor? name ≠ some x) :
    Alike (SceneBut x) describe := by
  have ask (F : Fact) (h : Alike (SceneBut x) F.workOut) : Alike (SceneBut x) F.ask :=
    alike_ask_of_cell (fun _ _ h => congrArg F.cell h.1) (fun _ => alike_update_of_sceneBut _) h
  have directory : Alike (SceneBut x) workingDirectory :=
    alike_workingDirectory_of_source (fun _ _ h => congrArg Context.directorySource h.1)
      alike_note_of_sceneBut (alike_lookup_of_sceneBut (hx _ (by decide)))
      alike_callSource_of_sceneBut
  exact (asks_describe (S := fun _ => True) fun _ => trivial).alike alike_note_of_sceneBut
    (fun name hn => alike_lookup_of_sceneBut (hx name hn)) (fun _ => directory) fun F _ => ask F

end Query

/-! ## The command and the default context -/

/-- Where the variable names no file, the default context has no properties of its own. -/
theorem Context.create_of_no_file {w : World}
    (h : (w.environ .process).get? configVariable = none ∨
      (w.environ .process).get? configVariable = some "") :
    Context.create w = (.ok (Context.new (.table .empty)), w) := by
  have hg : (Act.get : Act World World) w = (.ok w, w) := rfl
  unfold create
  rw [bind_of_ok hg]
  rcases h with h | h <;> rw [h] <;> rfl

namespace CommandLine

theorem Settings.logText_congr (s : Settings) {w w' : World} (h : w'.journal = w.journal) :
    s.logText w' = s.logText w := by
  unfold logText World.log
  rw [h]

/-- **The command reports the facts of the default context.** Take any surroundings, and others that
differ at most in the variable for the property file and where this names none. A default context
can be made there. If it can be described, the command without a file and without definitions writes
the description, and else it ends with the same fault. -/
theorem run_reports_default_facts {args : List String} {s : Settings} (hp : parse args = .ok s)
    (hc : s.config = none) (hd : s.definitions = []) {w w' : World}
    (hw : w.clear.SameBut configVariable w'.clear)
    (hn : (w'.environ .process).get? configVariable = none ∨
      (w'.environ .process).get? configVariable = some "")
    (machine : Machine) :
    ∃ (c : Context) (w₁ : World), Context.create w'.clear = (.ok c, w₁) ∧
      (∀ report s₂, describe (c, w₁) = (.ok report, s₂) →
        ∃ text, s.format.write report.toValue = .ok text ∧ (run machine args w).1 =
          ⟨.finished .success, if s.format = .json then text ++ "\n" else text, s.logText s₂.2⟩) ∧
      ∀ e s₂, describe (c, w₁) = (.error e, s₂) →
        (run machine args w).1.output = "" ∧ (run machine args w).1.ending = .ofFault e := by
  -- both describe a new context over a table without properties, in surroundings that differ in
  -- the variable at most
  let c := Context.new (.table .empty)
  have hr := Settings.report_of_table (Settings.table_default (w := w.clear) hc hd)
  obtain ⟨he, -, hw'⟩ := alike_describe variableFor_ne_configVariable (c, w.clear) (c, w'.clear)
    ⟨rfl, hw⟩
  rw [run_of_parse hp]
  refine ⟨c, w'.clear, Context.create_of_no_file hn, fun report s₂ h => ?_, fun e s₂ h => ?_⟩
  · rw [h] at he hw'
    obtain ⟨text, ht, ho⟩ := Settings.outcome_of_report (hr.trans (Prod.ext he.symm rfl))
    rw [Settings.logText_congr s hw'.journal]
    exact ⟨text, ht, ho⟩
  · rw [h] at he
    exact Settings.outcome_of_fault (hr.trans (Prod.ext he.symm rfl))

/-- A fact that a variable sets, where another variable names a property file. -/
theorem run_reports_variable :
    ∃ w : World, (w.environ .process).get? configVariable = some "props.yml" ∧
      ∃ report : Report, report.osType = "windows" ∧ ∀ machine : Machine, ∃ text,
        Yaml.write report.toValue = .ok text ∧ (run machine [] w).1.output = text ∧
          (run machine [] w).1.ending = .finished .success := by
  let w := World.ofProcess
    (.ofList [("PLATCTX_CONFIG", "props.yml"), ("PLATCTX_OS_TYPE", " Windows ")]) .empty
    (Files.ofNames [("props.yml", "platctx.osType: macos".toUTF8.data.toList)] []).read
  let w' : World := w.unsetVariable .process configVariable
  let report : Report :=
    ⟨"windows", true, false, false, false, false, none, none, none, ["cmd.exe"]⟩
  have hn : (w'.environ .process).get? configVariable = none := by rfl
  refine ⟨w, rfl, report, rfl, fun machine => ?_⟩
  have hp : parse [] = .ok .default := by rfl
  obtain ⟨c, w₁, hcreate, hreport, -⟩ := run_reports_default_facts hp rfl rfl
    (w.clear.sameBut_unsetVariable .process configVariable) (Or.inl hn) machine
  have hc := Context.create_of_no_file (w := w'.clear) (Or.inl hn)
  cases hc.symm.trans hcreate
  have hd : describe (Context.new (.table .empty), w'.clear) =
      (.ok report, (describe (Context.new (.table .empty), w'.clear)).2) := by rfl
  obtain ⟨text, ht, ho⟩ := hreport report _ hd
  rw [ho]
  exact ⟨text, ht, rfl, rfl⟩

/-- Where the variable names a file that is not there, no default context can be made, but the
command reports. -/
theorem run_ignores_missing_file :
    ∃ w : World, (w.environ .process).get? configVariable = some "missing.yml" ∧
      (Context.create w.clear).1 = .error (.ofConfig (.unreadable .missing) "missing.yml") ∧
      ∀ machine : Machine, (run machine [] w).1.ending = .finished .success := by
  let w := World.ofProcess (.ofList [("PLATCTX_CONFIG", "missing.yml")]) .empty Files.none.read
  let report : Report :=
    ⟨"", false, false, true, false, false, none, none, none, ["/bin/sh", "-i", "-l"]⟩
  refine ⟨w, rfl, rfl, fun machine => ?_⟩
  have hr : Settings.default.report w.clear =
      (.ok report, (Settings.default.report w.clear).2) := by rfl
  obtain ⟨text, -, ho⟩ := Settings.outcome_of_report hr
  rw [run_of_parse (s := .default) rfl, ho]

end CommandLine

end HostFacts
