import HostFacts.Proofs.Layers
import HostFacts.Proofs.Runs

/-!
# Failing calls leave the context alone

A call that ends with a fault may have got far: a provider was called, the system was told, a name
was cut down to nothing. Still the context is the one before, with one exception: the type of the
operating system may have been resolved on the way to the user, and then it is what asking for it
would have given at once.

* `Query.osType_agree`: the lookups for the user do not change what the system is;
* `Query.sparing_user`, `Query.sparing_isRoot`: the two calls that resolve one fact inside another;
* **`Op.failed_call_spares`**: the law for all calls but the report.
-/

namespace HostFacts

open Act HostFacts.Property

/-- The context before, perhaps with the type of the operating system resolved. -/
def Spared (s : Scene) (c : Context) : Prop :=
  c = s.1 ∨ s.1.osType = .empty ∧
    ∃ t, (Query.osType s).1 = .ok t ∧ c = { s.1 with osType := .settled t }

namespace Query

variable {α β : Type} {c c' : Context} {w w' : World} {s s' : Scene} {F : Fact}

/-- A query that leaves the context as it was whenever it fails. -/
def Clean (x : Query α) : Prop := ∀ s e s', x s = (.error e, s') → s'.1 = s.1

/-- A query that leaves a spared context whenever it fails. -/
def Sparing (x : Query α) : Prop := ∀ s e s', x s = (.error e, s') → Spared s s'.1

theorem Clean.sparing {x : Query α} (h : Clean x) : Sparing x :=
  fun s e s' hx => Or.inl (h s e s' hx)

theorem clean_of_asks {x : Query α} (h : Asks (· = .directory) x) : Clean x := by
  intro s e s' hx
  have hk := h.keeps (R := Eq) s
  rw [hx] at hk
  exact Eq.symm hk

theorem Clean.map {x : Query α} (h : Clean x) (f : α → β) : Clean (do return f (← x)) :=
  fun s e s' hx => h s e s' ((map_eq_error_iff f).mp hx)

theorem Sparing.map {x : Query α} (h : Sparing x) (f : α → β) : Sparing (do return f (← x)) :=
  fun s e s' hx => h s e s' ((map_eq_error_iff f).mp hx)

/-! ## Facts that are resolved on their own -/

theorem clean_ask (h : Asks (· = .directory) F.workOut) : Clean F.ask :=
  fun s e s' hx => clean_of_asks h s e s' (Fact.workOut_of_ask_error hx).2

theorem clean_osType : Clean osType := clean_ask (F := .osType) asks_detectOsType

theorem clean_isWindows : Clean isWindows := clean_osType.map _

/-! ## The type of the operating system inside other calls -/

/-- The properties that tell the operating system. -/
def osProperties : List String := [osTypeOverride, osName]

theorem detectOsType_answer (c : Context) (w : World) :
    (detectOsType (c, w)).1 =
      (c.source.resolve osTypeOverride (some osName) w).1.map OsFamily.normalize := by
  unfold detectOsType
  rw [bind_apply, resolve_apply]
  cases (c.source.resolve osTypeOverride (some osName) w).1 <;> rfl

/-- **The system is told alike** in surroundings that agree on the properties that tell it. -/
theorem osType_agree (h : w.Agree osProperties w') : (osType (c, w')).1 = (osType (c, w)).1 := by
  cases hc : Fact.osType.cell c with
  | settled t =>
    show (Fact.osType.ask (c, w')).1 = (Fact.osType.ask (c, w)).1
    rw [Fact.ask_of_settled hc, Fact.ask_of_settled hc]
  | empty =>
    have h₁ : osTypeOverride ∈ osProperties := by simp [osProperties]
    have h₂ : osName ∈ osProperties := by simp [osProperties]
    have hr := c.source.resolve_alike h₁ h₂ w w' h
    show (Fact.osType.ask (c, w')).1 = (Fact.osType.ask (c, w)).1
    rw [Fact.ask_of_empty hc, Fact.ask_of_empty hc, Fact.fst_resolve, Fact.fst_resolve]
    show (detectOsType (c, w')).1 = (detectOsType (c, w)).1
    rw [detectOsType_answer, detectOsType_answer, hr.1]

/-- Once the system is told, the context is a spared one. -/
theorem spared_of_osType_ok {t : String} (h : osType (c, w) = (.ok t, (c', w'))) :
    Spared (c, w) c' := by
  cases hc : Fact.osType.cell c with
  | settled u =>
    rw [show osType = Fact.osType.ask from rfl, Fact.ask_of_settled hc] at h
    cases h
    exact Or.inl rfl
  | empty =>
    refine Or.inr ⟨hc, t, by rw [h], ?_⟩
    rw [show osType = Fact.osType.ask from rfl, Fact.ask_of_empty hc] at h
    obtain ⟨u, ⟨c₁, w₁⟩, hx, hu⟩ := bind_eq_ok_iff.mp h
    -- working the type out changes no cell, so filling its own is the whole difference
    have hk : c = c₁ := by
      have := Asks.keeps (R := Eq) asks_detectOsType (c, w)
      rw [show detectOsType (c, w) = _ from hx] at this
      exact this
    subst hk
    cases hu
    rfl

theorem spared_of_agree (h : w.Agree osProperties w') (hs : Spared (c, w') c') :
    Spared (c, w) c' := by
  rcases hs with hs | ⟨he, t, ht, hs⟩
  · exact Or.inl hs
  · exact Or.inr ⟨he, t, by rw [← osType_agree h]; exact ht, hs⟩

/-! ## The user -/

/-- The lookups for the user leave the providers that tell the system alone. -/
theorem agree_resolve_user (s : Source) (w : World) :
    w.Agree osProperties (s.resolve currentUser (some userName) w).2 :=
  s.resolve_frame (by decide) (by decide) w

theorem osType_of_isWindows_ok {b : Bool} (h : isWindows s = (.ok b, s')) :
    ∃ t, osType s = (.ok t, s') := by
  obtain ⟨t, s₁, ht, hb⟩ := bind_eq_ok_iff.mp h
  cases hb
  exact ⟨t, ht⟩

/-- Reading the user from its raw name fails with a spared context. -/
theorem sparing_readUser (raw : Option String) : Sparing (readUser raw) := by
  intro s e s' hx
  rcases bind_eq_error_iff.mp hx with hx | ⟨name, s₁, hn, hx⟩
  · exact Or.inl (clean_isWindows.map _ s e s' hx)
  · obtain ⟨b, s₂, hb, h₂⟩ := bind_eq_ok_iff.mp hn
    cases h₂
    obtain ⟨t, ht⟩ := osType_of_isWindows_ok hb
    have hk := clean_of_asks (asks_acceptUser _) _ e s' hx
    rw [hk]
    exact spared_of_osType_ok ht

theorem sparing_detectUser : Sparing detectUser := by
  rintro ⟨c, w⟩ e s' hx
  rcases bind_eq_error_iff.mp hx with hx | ⟨raw, s₁, hr, hx⟩
  · exact Or.inl (clean_of_asks asks_resolve_user _ e s' hx)
  · have hs : s₁ = (c, (c.source.resolve currentUser (some userName) w).2) :=
      (congrArg Prod.snd hr).symm
    rw [hs] at hx
    -- the name is read after both lookups, where the system is still told as it was before them
    exact spared_of_agree (agree_resolve_user c.source w) (sparing_readUser raw _ e s' hx)

theorem sparing_user : Sparing user :=
  fun s e s' hx => sparing_detectUser s e s' (Fact.workOut_of_ask_error (F := .user) hx).2

/-- Asking for the superuser tells the system first, so the user is read with the system known. -/
theorem sparing_isRoot : Sparing isRoot := by
  intro s e s' hx
  rcases bind_eq_error_iff.mp hx with hx | ⟨windows, s₁, hw, hx⟩
  · exact Or.inl (clean_isWindows s e s' hx)
  · obtain ⟨t, ht⟩ := osType_of_isWindows_ok hw
    have hs₁ : Fact.osType.cell s₁.1 = .settled t := Fact.cell_of_ask_ok (F := .osType) ht
    cases windows with
    | true => cases hx
    | false =>
      rcases bind_eq_error_iff.mp hx with hu | ⟨u, s₂, -, hu⟩
      · rcases sparing_user s₁ e s' hu with hk | ⟨he, -⟩
        · rw [hk]
          exact spared_of_osType_ok ht
        · exact absurd (he.symm.trans hs₁) (by simp)
      · cases hu

end Query

/-! ## All calls -/

namespace Op

open Query

/-- A call of any operation but the report fails with a spared context. -/
theorem sparing_run {op : Op} (h : op ≠ .describe) : Sparing op.run := by
  have ho := clean_osType
  have hw := clean_isWindows
  have windowsOr (b : Option Bool) : Clean (windowsOr b) := by
    cases b with
    | some b => exact fun s e s' hx => by cases hx
    | none => exact hw
  cases op with
  | osType => exact (ho.map _).sparing
  | isWindows => exact (hw.map _).sparing
  | isMacos => exact ((ho.map _).map _).sparing
  | isUnixLike => exact ((ho.map _).map _).sparing
  | isConstrainedRuntime =>
    exact ((clean_ask (F := .constrainedRuntime) asks_detect_constrainedRuntime).map _).sparing
  | isAlternateVm => exact ((clean_ask (F := .alternateVm) asks_detect_alternateVm).map _).sparing
  | user => exact sparing_user.map _
  | isRoot => exact sparing_isRoot.map _
  | version => exact ((clean_ask (F := .version) asks_detectVersion).map _).sparing
  | workingDirectory => exact ((clean_of_asks (.directory rfl)).map _).sparing
  | canonicalUser _ => exact ((hw.map _).map _).sparing
  | canonicalGroup _ _ => exact (((ho.map _).map _).map _).sparing
  | comparablePath _ => exact ((hw.map _).map _).sparing
  | shellCommand b => exact (((windowsOr b).map _).map _).sparing
  | shellElements b => exact (((windowsOr b).map _).map _).sparing
  | setVersionText raw =>
    rintro ⟨c, w⟩ e s' hx
    rw [Fact.run_setVersionText] at hx
    cases hp : Version.parse (some (Version.sanitize raw)) with
    | error e' => rw [hp] at hx; cases hx; exact Or.inl rfl
    | ok v => rw [hp] at hx; cases hx
  | setOsType _ | setConstrainedRuntime _ | setAlternateVm _ | setUser _ | setVersion _
  | setDirectorySource _ | reset => exact fun s e s' hx => by cases hx
  | describe => exact absurd rfl h

/-- A fact that could not be answered is not known afterwards either. -/
theorem cell_of_getter_error {F : Fact} {s s' : Scene} {e : Fault}
    (h : F.getter.run s = (.error e, s')) : F.cell s'.1 = .empty := by
  have ha : F.ask s = (.error e, s') := by
    rw [Fact.run_getter] at h
    exact (map_eq_error_iff _).mp h
  have hs := (Fact.workOut_of_ask_error ha).1
  have hop : F.getter ≠ .describe := by cases F <;> simp [Fact.getter]
  rcases sparing_run hop s e s' h with hc | ⟨-, t, ht, hc⟩
  · rw [hc]
    exact hs
  · by_cases hF : Fact.osType = F
    · subst hF
      rw [show Query.osType s = (.error e, s') from ha] at ht
      cases ht
    · rw [hc]
      exact (Fact.cell_put_of_ne hF (.settled t)).trans hs

end Op

end HostFacts
