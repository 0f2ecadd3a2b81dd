import HostFacts.Proofs.LegacyVersions

/-!
# Setting a version text and detecting it

A version text comes to a context in two ways: it is set, or it is found under the override property
when the version is worked out. Both ways clean and read the text on their own, and a text that is
no version is told in different words, but they agree on the version and on the kind of fault.

* `fst_set_then_ask`: what setting a text and asking for the version gives;
* `fst_version_of_override`: what asking gives when the text is found under the override property;
* **`setting_reads_like_detecting`**: both give the same version or fail alike, and a setting that
  fails leaves the version that was known before.
-/

namespace HostFacts

open HostFacts.Text Act

variable {text : String}

namespace Query

/-! ## What a text gives when it is detected -/

/-- Reading a cleaned text ends in one of three ways, and detecting ends alike. -/
theorem versionIn_cases (text : String) :
    (∃ v, Version.parse (some (Version.sanitize text)) = .ok v ∧ versionIn text = .ok v) ∨
    (∃ value, Version.parse (some (Version.sanitize text)) = .error (.unparsableVersion value []) ∧
      versionIn text = .error (.unparsableVersion (.text text) versionProperties)) ∨
    ∃ digits, Version.parse (some (Version.sanitize text)) = .error (.digitLimit digits) ∧
      versionIn text = .error (.digitLimit digits) := by
  unfold versionIn
  cases hp : Version.parse (some (Version.sanitize text)) with
  | ok v => exact Or.inl ⟨v, rfl, rfl⟩
  | error e =>
    rcases Version.parse_sanitize_eq_error hp with ⟨value, rfl⟩ | ⟨digits, rfl⟩
    · exact Or.inr (Or.inl ⟨value, rfl, rfl⟩)
    · exact Or.inr (Or.inr ⟨digits, rfl, rfl⟩)

/-- A text is no version in both ways, or in none. -/
theorem versionIn_eq_unparsable_iff :
    (∃ value names, versionIn text = .error (.unparsableVersion value names)) ↔
      ∃ value names, Version.parse (some (Version.sanitize text)) =
        .error (.unparsableVersion value names) := by
  rcases versionIn_cases text with ⟨v, hp, hv⟩ | ⟨value, hp, hv⟩ | ⟨digits, hp, hv⟩ <;>
    simp [hp, hv]

/-- A text is too long for a number in both ways, or in none. -/
theorem versionIn_eq_digitLimit_iff {digits : Option Nat} :
    versionIn text = .error (.digitLimit digits) ↔
      Version.parse (some (Version.sanitize text)) = .error (.digitLimit digits) := by
  rcases versionIn_cases text with ⟨v, hp, hv⟩ | ⟨value, hp, hv⟩ | ⟨d, hp, hv⟩ <;> simp [hp, hv]

/-- An unknown version is what is in the text under the override property. -/
theorem fst_version_of_override {c : Context} {w : World} (hc : c.version = .empty)
    (hl : (c.source.lookup Property.runtimeVersionOverride w).1 = .ok (some text))
    (hb : isBlank (some text) = false) :
    (Op.version.run (c, w)).1 = (versionIn text).map Value.version := by
  have ha : (version (c, w)).1 = versionIn text := by
    show (Fact.version.ask (c, w)).1 = _
    rw [Fact.fst_ask, show Fact.version.cell c = .empty from hc]
    exact fst_detectVersion_of_text hl hb
  show ((do return .version (← version) : Query Value) (c, w)).1 = _
  rw [fst_map, ha]

end Query

/-! ## What a text gives when it is set -/

namespace Op

theorem fst_setVersionText (s : Scene) :
    ((setVersionText text).run s).1 =
      (Version.parse (some (Version.sanitize text))).map fun _ => .null := by
  rw [Fact.run_setVersionText]
  cases Version.parse (some (Version.sanitize text)) <;> rfl

/-- A version that is known is told, and nothing changes. -/
theorem run_version_of_settled {c : Context} {v : Version} (h : c.version = .settled v)
    (w : World) : version.run (c, w) = (.ok (.version v), (c, w)) := by
  have ha : Query.version (c, w) = (.ok v, (c, w)) := Fact.ask_of_settled (F := .version) h
  exact bind_of_ok ha

/-- After a text was set, the version in it is told. -/
theorem fst_set_then_ask (c : Context) (w : World) :
    ((do
      let _ ← (setVersionText text).run
      version.run : Query Value) (c, w)).1 =
      (Version.parse (some (Version.sanitize text))).map Value.version := by
  have hs := Fact.run_setVersionText text c w
  cases hp : Version.parse (some (Version.sanitize text)) with
  | ok v =>
    rw [hp] at hs
    rw [bind_of_ok hs, run_version_of_settled (v := v) rfl]
    rfl
  | error e =>
    rw [hp] at hs
    rw [bind_of_error hs]
    rfl

/-- A text that cannot be set leaves all as it was. -/
theorem run_setVersionText_of_error {s : Scene} {e : Fault}
    (h : ((setVersionText text).run s).1 = .error e) :
    (setVersionText text).run s = (.error e, s) ∧
      Version.parse (some (Version.sanitize text)) = .error e := by
  rw [fst_setVersionText, exceptMap_eq_error_iff] at h
  rw [Fact.run_setVersionText, h]
  exact ⟨rfl, rfl⟩

end Op

/-! ## Both ways -/

/-- **A text is read alike when it is set and when it is detected.** Setting it and then asking
gives a version exactly if a context that does not know its version yet, and finds the text under
the override property, tells this version. A text that is no version, or has a number that is too
long, fails alike in both ways; there is no other reason for which it cannot be set, and then the
version that was known before is still told. -/
theorem setting_reads_like_detecting {c c' : Context} {w w' : World}
    (hb : isBlank (some text) = false) (hc : c'.version = .empty)
    (hl : (c'.source.lookup Property.runtimeVersionOverride w').1 = .ok (some text)) :
    (∀ v, ((do
        let _ ← (Op.setVersionText text).run
        Op.version.run : Query Value) (c, w)).1 = .ok (.version v) ↔
      (Op.version.run (c', w')).1 = .ok (.version v)) ∧
    ((∃ value names,
        ((Op.setVersionText text).run (c, w)).1 = .error (.unparsableVersion value names)) ↔
      ∃ value names, (Op.version.run (c', w')).1 = .error (.unparsableVersion value names)) ∧
    (∀ digits, ((Op.setVersionText text).run (c, w)).1 = .error (.digitLimit digits) ↔
      (Op.version.run (c', w')).1 = .error (.digitLimit digits)) ∧
    ∀ e s, (Op.setVersionText text).run (c, w) = (.error e, s) →
      ((∃ value names, e = .unparsableVersion value names) ∨ ∃ digits, e = .digitLimit digits) ∧
        s = (c, w) ∧
        ∀ u, c.version = .settled u → Op.version.run s = (.ok (.version u), (c, w)) := by
  have hd := Query.fst_version_of_override hc hl hb
  refine ⟨fun v => ?_, ?_, fun digits => ?_, fun e s h => ?_⟩
  · rw [Op.fst_set_then_ask, hd, exceptMap_eq_ok_iff, exceptMap_eq_ok_iff]
    simp only [Query.versionIn_eq_ok_iff]
  · rw [hd, Op.fst_setVersionText]
    simp only [exceptMap_eq_error_iff, Query.versionIn_eq_unparsable_iff]
  · rw [hd, Op.fst_setVersionText, exceptMap_eq_error_iff, exceptMap_eq_error_iff,
      Query.versionIn_eq_digitLimit_iff]
  · obtain ⟨hr, hp⟩ := Op.run_setVersionText_of_error (congrArg Prod.fst h)
    obtain ⟨-, rfl⟩ := Prod.mk.inj (hr.symm.trans h)
    refine ⟨?_, rfl, fun u hu => Op.run_version_of_settled hu w⟩
    rcases Version.parse_sanitize_eq_error hp with ⟨value, rfl⟩ | ⟨digits, rfl⟩
    · exact Or.inl ⟨value, [], rfl⟩
    · exact Or.inr ⟨digits, rfl⟩

/-- A text that is cut to nothing fails in both ways, and the version that was set before is still
told. -/
theorem cut_text_keeps_version :
    ∃ c c' : Context, c.version = .settled ⟨[2, 7, 18]⟩ ∧ c'.version = .empty ∧
      isBlank (some "beta 3") = false ∧
      (c'.source.lookup Property.runtimeVersionOverride World.empty).1 = .ok (some "beta 3") ∧
      (∃ value names, (Op.version.run (c', World.empty)).1 =
        .error (.unparsableVersion value names)) ∧
      ∃ e, (Op.setVersionText "beta 3").run (c, World.empty) = (.error e, (c, World.empty)) ∧
        Op.version.run (c, World.empty) = (.ok (.version ⟨[2, 7, 18]⟩), (c, World.empty)) := by
  let c : Context := { Context.new (.mapping .empty) with version := .settled ⟨[2, 7, 18]⟩ }
  let c' : Context := Context.new (.mapping (.ofList [("platctx.runtimeVersion", "beta 3")]))
  have hb : isBlank (some "beta 3") = false := by decide
  have hset : (Op.setVersionText "beta 3").run (c, World.empty) =
      (.error (.unparsableVersion (.text "") []), (c, World.empty)) := rfl
  obtain ⟨-, hu, -, hf⟩ :=
    @setting_reads_like_detecting "beta 3" c c' World.empty World.empty hb rfl rfl
  obtain ⟨-, -, hk⟩ := hf _ _ hset
  exact ⟨c, c', rfl, rfl, hb, rfl, hu.mp ⟨_, _, by rw [hset]⟩, _, hset, hk _ rfl⟩

end HostFacts
