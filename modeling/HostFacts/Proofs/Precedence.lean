import HostFacts.Proofs.Facts
import HostFacts.Proofs.Layers

/-!
# Precedence of the properties of a fact

The type of the operating system, the user and the version are read from a text. The text is looked
for under an override name, in all layers of the table, and under a second name if what was found is
absent or blank. Blankness is judged after the layers: a blank entry hides the variable and the
provider of its own name, and makes way for the second name only.

* `Keys.Raw`: the raw value of a fact, rule by rule;
* **`TextFact.raw_value_by_layers`**: an unknown fact is read from this raw value and from no other.
-/

namespace HostFacts

open HostFacts.Property HostFacts.Text Act Query

/-- Where the text of a fact is looked for: the override name with the variable that carries it, and
the second name, which no variable carries. -/
structure Keys where
  override : String
  carrier : String
  fallback : String

/-- The raw value that a table has for a fact, or the fault of a provider; with the surroundings
afterwards. -/
inductive Keys.Raw (K : Keys) (t : Table) (w : World) : Except Fault (Option String) → World → Prop
  /-- What is seen under the override name counts unless it is blank. -/
  | override {v : String} {w' : World} (h : t.Sees w K.override (some K.carrier) (.ok (some v)) w')
    (hb : isBlank (some v) = false) : K.Raw t w (.ok (some v)) w'
  /-- Else what is seen under the second name counts, as it is. -/
  | fallback {v : Option String} {w₁ w' : World} {r : Except Fault (Option String)}
    (h : t.Sees w K.override (some K.carrier) (.ok v) w₁) (hb : isBlank v = true)
    (hf : t.Sees w₁ K.fallback none r w') : K.Raw t w r w'
  /-- A failure under the override name ends the search. -/
  | failed {e : Fault} {w' : World} (h : t.Sees w K.override (some K.carrier) (.error e) w') :
    K.Raw t w (.error e) w'

/-- The facts that are read from a text. -/
inductive TextFact where
  | osType
  | user
  | version
  deriving DecidableEq, Repr

namespace TextFact

/-- Where the text of a fact is looked for. -/
def keys : TextFact → Keys
  | osType => ⟨"platctx.osType", "PLATCTX_OS_TYPE", "os.name"⟩
  | user => ⟨"platctx.currentUser", "PLATCTX_CURRENT_USER", "user.name"⟩
  | version => ⟨"platctx.runtimeVersion", "PLATCTX_RUNTIME_VERSION", "runtime.version"⟩

/-- The fact among all facts. -/
def fact : TextFact → Fact
  | osType => .osType
  | user => .user
  | version => .version

/-- How a fact is read from its raw value. -/
def read : (T : TextFact) → Option String → Query T.fact.Val
  | osType => readOsType
  | user => readUser
  | version => readVersion

variable {T : TextFact} {t : Table} {c : Context} {w w' : World} {r : Except Fault (Option String)}

theorem variableFor_override (T : TextFact) :
    variableFor? T.keys.override = some T.keys.carrier := by
  cases T <;> rfl

theorem variableFor_fallback (T : TextFact) : variableFor? T.keys.fallback = none := by
  cases T <;> rfl

theorem workOut_eq (T : TextFact) :
    T.fact.workOut = (do T.read (← Query.resolve T.keys.override T.keys.fallback)) := by
  cases T <;> rfl

/-! ## The raw value is what the resolver finds -/

/-- Some rule always gives a raw value. -/
theorem exists_raw (K : Keys) (t : Table) (w : World) : ∃ r w', K.Raw t w r w' := by
  obtain ⟨r, w₁, h⟩ := Table.exists_sees t w K.override (some K.carrier)
  cases r with
  | error e => exact ⟨_, _, .failed h⟩
  | ok v =>
    cases hb : isBlank v with
    | true =>
      obtain ⟨r, w', hf⟩ := Table.exists_sees t w₁ K.fallback none
      exact ⟨r, w', .fallback h hb hf⟩
    | false =>
      cases v with
      | none => simp [isBlank] at hb
      | some v => exact ⟨_, _, .override h hb⟩

theorem resolve_of_raw (h : T.keys.Raw t w r w') :
    (Source.table t).resolve T.keys.override (some T.keys.fallback) w = (r, w') := by
  have lookup {r w'} (h : t.Sees w T.keys.override (some T.keys.carrier) r w') :
      (Source.table t).lookup T.keys.override w = (r, w') :=
    Table.lookup_of_sees (by rwa [variableFor_override])
  unfold Source.resolve
  cases h with
  | override h hb =>
    rw [bind_of_ok (lookup h)]
    simp only [hb, Bool.not_false, if_true, pure_apply]
  | fallback h hb hf =>
    rw [bind_of_ok (lookup h)]
    simp only [hb, Bool.not_true, Bool.false_eq_true, if_false]
    exact Table.lookup_of_sees (by rwa [variableFor_fallback])
  | failed h => exact bind_of_error (lookup h)

/-! ## The law of precedence -/

/-- **An unknown fact is read from its raw value.** Exactly one raw value follows from the rules,
and asking for the fact reads it and settles the fact. If what is seen under the override name is
not blank, it is the raw value, the provider of the second name is not called, and the explicit
entry of the second name could be any other. -/
theorem raw_value_by_layers (T : TextFact) (hc : c.source = .table t)
    (he : T.fact.cell c = .empty) (w : World) :
    ∃ r w', T.keys.Raw t w r w' ∧ (∀ r₁ w₁, T.keys.Raw t w r₁ w₁ → r₁ = r ∧ w₁ = w') ∧
      T.fact.ask (c, w) =
        (do
          let a ← T.read (← ofExcept r)
          update (T.fact.put (.settled a))
          return a : Query T.fact.Val) (c, w') ∧
      ∀ v w₁, t.Sees w T.keys.override (some T.keys.carrier) (.ok (some v)) w₁ →
        isBlank (some v) = false → r = .ok (some v) ∧ w' = w₁ ∧
          (t.providers w').get? T.keys.fallback = (t.providers w).get? T.keys.fallback ∧
          ∀ explicit, explicit.get? T.keys.override = t.explicit.get? T.keys.override →
            T.keys.Raw { t with explicit } w r w' := by
  obtain ⟨r, w', hr⟩ := exists_raw T.keys t w
  have unique : ∀ r₁ w₁, T.keys.Raw t w r₁ w₁ → r₁ = r ∧ w₁ = w' := by
    intro r₁ w₁ h₁
    exact Prod.mk.inj ((resolve_of_raw h₁).symm.trans (resolve_of_raw hr))
  refine ⟨r, w', hr, unique, ?_, ?_⟩
  · have hq : Query.resolve T.keys.override T.keys.fallback (c, w) = (r, (c, w')) := by
      rw [resolve_apply, hc, resolve_of_raw hr]
    rw [Fact.ask_of_empty he]
    unfold Fact.resolve
    rw [workOut_eq, bind_assoc]
    cases r with
    | error e => exact bind_of_error hq
    | ok raw => exact bind_of_ok hq
  · intro v w₁ hs hb
    obtain ⟨rfl, rfl⟩ := unique _ _ (.override hs hb)
    have hne : T.keys.fallback ≠ T.keys.override := by cases T <;> decide
    exact ⟨rfl, rfl, hs.provider_of_ne hne _, fun _ he => .override (hs.of_explicit he rfl) hb⟩

/-- A blank entry hides the variable of its name, and the provider of the second name is asked. -/
theorem blank_entry_hides_variable :
    ∃ (t : Table) (w w' : World),
      t.explicit.get? "platctx.currentUser" = some " " ∧
      (t.environ w).get? "PLATCTX_CURRENT_USER" = some "eve" ∧
      TextFact.user.keys.Raw t w (.ok (some "ann")) w' ∧ w'.calls = ["user.name"] ∧
      Fact.user.ask (Context.new (.table t), w) =
        (do
          let a ← readUser (some "ann")
          update (Fact.user.put (.settled a))
          return a : Query String) (Context.new (.table t), w') := by
  let t : Table := ⟨.ofList [("platctx.currentUser", " ")], .process⟩
  let w := World.ofProcess (.ofList [("PLATCTX_CURRENT_USER", "eve")])
    (.ofList [("user.name", ⟨fun _ => .ok (some "ann"), 0⟩)]) Files.none.read
  let c := Context.new (.table t)
  have hc : c.source = .table t := rfl
  have he : TextFact.user.fact.cell c = .empty := rfl
  have hraw : TextFact.user.keys.Raw t w (.ok (some "ann"))
      (w.called .process "user.name" ⟨fun _ => .ok (some "ann"), 0⟩) :=
    .fallback (.explicit rfl) (by decide) (.provided rfl rfl rfl rfl)
  obtain ⟨r, w', -, hu, ha, -⟩ := raw_value_by_layers .user hc he w
  obtain ⟨rfl, rfl⟩ := hu _ _ hraw
  exact ⟨t, w, _, rfl, rfl, hraw, rfl, ha⟩

end TextFact

end HostFacts
