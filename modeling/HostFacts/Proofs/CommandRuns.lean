import HostFacts.CommandLine.Run
import HostFacts.Proofs.Effects

/-!
# Runs of the command

A run that is not stopped by its arguments builds a table, asks for a report and writes it. A fault
on this way decides how the run ends (`Ending.ofFault`), and then nothing is written to the standard
output. Only the table and the report can fail: a report has a form in each format, as all that is
in it are texts and truth values.

* `Report.exists_write`: a report can be written in each format;
* `Settings.outcome_of_report`, `Settings.outcome_of_fault`: the two ways in which a run goes;
* `Settings.table_default`, `Settings.report_of_load_error`: the table without any options, and a
  file that cannot be loaded.
-/

namespace HostFacts

open Act

/-! ## Reports can be written -/

namespace Report

/-- The values in a report. -/
inductive IsFact : Value → Prop
  | null : IsFact .null
  | bool (b : Bool) : IsFact (.bool b)
  | text (s : String) : IsFact (.text s)
  | texts (l : List String) : IsFact (.list (l.map .text))

variable {facts : List (String × Value)} {v : Value}

theorem isFact_textOrNull : ∀ s : Option String, IsFact (textOrNull s)
  | none => .null
  | some s => .text s

theorem isFact_of_mem_facts : ∀ r : Report, ∀ e ∈ r.facts, IsFact e.2
  | ⟨_, _, _, _, _, _, user, _, _, _⟩ => by
    unfold facts
    simp only [List.forall_mem_cons, List.not_mem_nil, false_implies, implies_true, and_true]
    refine ⟨.text _, .bool _, .bool _, .bool _, .bool _, .bool _, isFact_textOrNull _, ?_,
      isFact_textOrNull _, isFact_textOrNull _, .texts _⟩
    cases user with
    | none => exact .null
    | some _ => exact .bool _

theorem checkForms_texts : ∀ l : List String, Yaml.checkForms (l.map .text) = .ok ()
  | [] => rfl
  | _ :: l => by
    rw [List.map_cons, Yaml.checkForms]
    exact checkForms_texts l

theorem checkForm_of_isFact : IsFact v → Yaml.checkForm v = .ok ()
  | .null | .bool _ | .text _ => rfl
  | .texts l => by
    rw [Yaml.checkForm]
    exact checkForms_texts l

theorem checkEntries_facts : ∀ {facts : List (String × Value)}, (∀ e ∈ facts, IsFact e.2) →
    Yaml.checkEntries (facts.map fun e => (.text e.1, e.2)) = .ok ()
  | [], _ => rfl
  | e :: facts, h => by
    have hv := checkForm_of_isFact (h e List.mem_cons_self)
    have ih := checkEntries_facts fun e' he => h e' (List.mem_cons_of_mem e he)
    rw [List.map_cons, Yaml.checkEntries, hv]
    exact ih

theorem exists_jsonItems_texts (level : Nat) :
    ∀ l : List String, ∃ parts, Value.jsonItems level (l.map .text) = .ok parts
  | [] => ⟨[], rfl⟩
  | s :: l => by
    obtain ⟨parts, ih⟩ := exists_jsonItems_texts level l
    refine ⟨Value.jsonText s :: parts, ?_⟩
    rw [List.map_cons, Value.jsonItems, ih]
    rfl

theorem exists_jsonAt_of_isFact (level : Nat) : IsFact v → ∃ chars, v.jsonAt level = .ok chars
  | .null => ⟨_, rfl⟩
  | .bool true => ⟨_, rfl⟩
  | .bool false => ⟨_, rfl⟩
  | .text _ => ⟨_, rfl⟩
  | .texts l => by
    obtain ⟨parts, h⟩ := exists_jsonItems_texts (level + 1) l
    refine ⟨Value.jsonBlock '[' ']' level parts, ?_⟩
    rw [Value.jsonAt, h]
    rfl

theorem exists_jsonEntries_facts (level : Nat) : ∀ {facts : List (String × Value)},
    (∀ e ∈ facts, IsFact e.2) →
      ∃ parts, Value.jsonEntries level (facts.map fun e => (.text e.1, e.2)) = .ok parts
  | [], _ => ⟨[], rfl⟩
  | e :: facts, h => by
    obtain ⟨value, hv⟩ := exists_jsonAt_of_isFact level (h e List.mem_cons_self)
    obtain ⟨parts, ih⟩ :=
      exists_jsonEntries_facts level fun e' he => h e' (List.mem_cons_of_mem e he)
    refine ⟨(Value.jsonText e.1 ++ ':' :: ' ' :: value) :: parts, ?_⟩
    rw [List.map_cons, Value.jsonEntries, hv, ih]
    rfl

/-- **A report can be written in each format.** -/
theorem exists_write (r : Report) : ∀ f : Format, ∃ text, f.write r.toValue = .ok text
  | .yaml => by
    have h : Yaml.checkForm r.toValue = .ok () := by
      rw [toValue, Yaml.checkForm]
      exact checkEntries_facts r.isFact_of_mem_facts
    refine ⟨String.ofList ((Yaml.putValue none .part r.toValue Yaml.Pen.start).indent 0).text, ?_⟩
    show (Yaml.checkForm r.toValue >>= fun _ => _) = _
    rw [h]
    rfl
  | .json => by
    obtain ⟨parts, h⟩ := exists_jsonEntries_facts 1 r.isFact_of_mem_facts
    refine ⟨String.ofList (Value.jsonBlock '{' '}' 0 parts), ?_⟩
    show (Value.jsonAt 0 r.toValue).map String.ofList = _
    rw [toValue, Value.jsonAt, h]
    rfl

end Report

/-! ## The two ways of a run -/

namespace CommandLine

/-- How a run ends with a fault: with its code, or with the fault itself. -/
def Ending.ofFault (e : Fault) : Ending :=
  match e.exit? with
  | some exit => .finished exit
  | none => .escaped e

/-- A path that does not look like an option is taken for that of the property file. -/
theorem parse_config {path : String} (h : Arg.of path = .ok (.plain path)) :
    parse ["-c", path] = .ok { Settings.default with config := some path } := by
  have hc : classify ["-c", path] = .ok [.option .config true none, .plain path] := by
    have ho : Arg.of "-c" = .ok (.option .config true none) := rfl
    rw [classify, ho]
    show (classify [path] >>= fun rest => _) = _
    rw [classify, h]
    rfl
  unfold parse
  rw [hc]
  show applyArgs _ _ _ = _
  unfold applyArgs
  rfl

theorem run_of_parse {args : List String} {s : Settings} (h : parse args = .ok s)
    (machine : Machine) (w : World) : run machine args w = s.outcome w.clear := by
  unfold run
  rw [h]

namespace Settings

variable {s : Settings} {w w₁ w₂ : World} {e : Fault}

theorem outcome_of_text_error (h : s.text w = (.error e, w₁)) :
    (s.outcome w).1.output = "" ∧ (s.outcome w).1.ending = .ofFault e := by
  simp only [outcome, h, Ending.ofFault]
  cases e.exit? <;> exact ⟨rfl, rfl⟩

/-- A fault of the report ends the run. -/
theorem outcome_of_fault (h : s.report w = (.error e, w₁)) :
    (s.outcome w).1.output = "" ∧ (s.outcome w).1.ending = .ofFault e :=
  outcome_of_text_error (bind_of_error h)

/-- A report is written. -/
theorem outcome_of_report {r : Report} (h : s.report w = (.ok r, w₁)) :
    ∃ text, s.format.write r.toValue = .ok text ∧ (s.outcome w).1 =
      ⟨.finished .success, if s.format = .json then text ++ "\n" else text, s.logText w₁⟩ := by
  obtain ⟨text, ht⟩ := r.exists_write s.format
  refine ⟨text, ht, ?_⟩
  have hs : s.text w = (.ok (if s.format = .json then text ++ "\n" else text), w₁) := by
    unfold Settings.text
    rw [bind_of_ok h, ht]
    rfl
  unfold outcome
  rw [hs]

/-! ## The table of a run -/

/-- Either the settings are without a file, which a path without characters counts as, or they have
the path of one. -/
theorem config_cases (s : Settings) :
    (s.config = none ∨ s.config = some "") ∨ ∃ path, s.config = some path ∧ path ≠ "" := by
  cases hc : s.config with
  | none => exact Or.inl (Or.inl rfl)
  | some path =>
    by_cases hp : path = ""
    · exact Or.inl (Or.inr (congrArg some hp))
    · exact Or.inr ⟨path, rfl, hp⟩

/-- The table that the definitions are laid over. -/
def base (s : Settings) : Act World Table :=
  match s.config with
  | none | some "" => pure Table.empty
  | some path => Table.load .process path

theorem base_of_nothing (h : s.config = none ∨ s.config = some "") : s.base = pure .empty := by
  unfold base
  rcases h with h | h <;> simp only [h]

theorem base_of_path {path : String} (hc : s.config = some path) (hp : path ≠ "") :
    s.base = Table.load .process path := by
  unfold base
  rw [hc]
  simp only

/-- The table is made in two steps. -/
theorem table_eq_bind (s : Settings) :
    s.table = s.base >>= fun t => if s.definitions.isEmpty then pure t else
      ofExcept (s.defined >>= fun ds =>
        t.withValues (Table.textEntries (Entries.ofList ds).pairs)) := by
  rcases s.config_cases with hc | ⟨path, hc, hp⟩
  · rw [base_of_nothing hc]
    unfold table
    rcases hc with hc | hc
    · rw [hc]
    · rw [hc]
      rfl
  · rw [base_of_path hc hp]
    unfold table
    rw [hc]
    split <;> simp only

/-- Over a table a report is what is told about a new context. -/
theorem report_of_table {t : Table} (h : s.table w = (.ok t, w₁)) :
    s.report w = ((Query.describe (Context.new (.table t), w₁)).1,
      (Query.describe (Context.new (.table t), w₁)).2.2) := bind_of_ok h

/-- Without a file and without definitions the table has no properties of its own. -/
theorem table_default (hc : s.config = none) (hd : s.definitions = []) :
    s.table w = (.ok .empty, w) := by
  unfold Settings.table
  rw [hc, hd]
  rfl

theorem report_of_load_error {path : String} (hc : s.config = some path) (hp : path ≠ "")
    (h : Table.load .process path w = (.error e, w₁)) : s.report w = (.error e, w₁) := by
  have ht : s.table w = (.error e, w₁) := by
    rw [table_eq_bind, base_of_path hc hp]
    exact bind_of_error h
  exact bind_of_error ht

end Settings

end CommandLine

end HostFacts
