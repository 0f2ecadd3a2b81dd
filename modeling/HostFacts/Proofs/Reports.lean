import HostFacts.Proofs.Laziness

/-!
# Reports agree with single answers

A report asks for all facts in a row, so most are asked for when others are settled already. As
laziness cannot be observed, a report is still put together from the answers that each call would
have given before it.

* `Query.fst_describe`: the report as these answers give it;
* `Report.Agrees`: what a report says about the answers, entry by entry;
* **`report_agrees_with_calls`**: each report that is made agrees with the answers. Whether the user
  is the superuser is left out with the user, even where the call would answer
  (`root_left_out_with_user`).
-/

namespace HostFacts

open Act Query

variable {α β : Type} {s : Scene}

/-! ## Answers that are left out -/

/-- What is reported of a fact: none if it cannot be resolved. -/
def reported : Except Fault α → Except Fault (Option α)
  | .ok a => .ok (some a)
  | .error e => if e.isResolution then .ok none else .error e

theorem reported_eq_some_iff {r : Except Fault α} {a : α} :
    reported r = .ok (some a) ↔ r = .ok a := by
  rcases r with e | b
  · by_cases he : e.isResolution = true <;> simp [reported, he]
  · simp [reported]

/-- What is made of a fact is left out exactly if the fact cannot be resolved. -/
theorem eq_none_iff_of_reported {r : Except Fault α} {g : α → Except Fault β} {o : Option β}
    (hg : ∀ a e, g a = .error e → e.isResolution = false) (h : reported (r >>= g) = .ok o) :
    o = none ↔ ∃ e, r = .error e ∧ e.isResolution = true := by
  rcases r with e | a
  · replace h : (if e.isResolution = true then .ok none else .error e) = Except.ok o := h
    by_cases he : e.isResolution = true
    · rw [if_pos he] at h
      cases h
      simp [he]
    · rw [if_neg he] at h
      cases h
  · replace h : reported (g a) = .ok o := h
    have hn : o ≠ none := by
      rintro rfl
      rcases hga : g a with e | b <;> rw [hga] at h
      · simp [reported, hg a e hga] at h
      · cases h
    simp [hn]

namespace Query

theorem ends_optional {x : Query α} {r : Except Fault α} (hx : Ends (Asked s) x r) :
    Ends (Asked s) (optional x) (reported r) := by
  refine hx.attempt.bind (g := reported) fun r => ?_
  rcases r with e | a
  · by_cases he : e.isResolution = true
    · simp only [reported, if_pos he]
      exact (ends_note _ _ _).bind fun _ => ends_pure none
    · simp only [reported, if_neg he]
      exact ends_fail e
  · exact ends_pure (some a)

/-! ## The answers behind a report -/

/-- **A report is put together from the answers that the calls give before it.** -/
theorem fst_describe (h : Steady s) :
    (describe s).1 = do
      let osType ← (osType s).1
      let windows ← (isWindows s).1
      let macos ← (isMacos s).1
      let unixLike ← (isUnixLike s).1
      let constrainedRuntime ← (isConstrainedRuntime s).1
      let alternateVm ← (isAlternateVm s).1
      let user ← reported do return (← (user s).1, ← (isRoot s).1)
      let version ← reported (versionText s).1
      let directory ← (workingDirectory s).1
      let shell ← (shellElements none s).1
      return { osType, windows, macos, unixLike, constrainedRuntime, alternateVm, user, version,
               directory, shell } := by
  let S : Part → Prop := fun _ => True
  have ask (F : Fact) : Asks S F.ask := asks_ask F fun _ _ => trivial
  have ho : Asks S osType := ask .osType
  have hw : Asks S isWindows := ho.map _
  have hm : Asks S isMacos := ho.map _
  have hx : Asks S isUnixLike := ho.map _
  have hroot : Asks S isRoot := asks_isRoot fun _ _ => trivial
  have hu := ((ask .user).ends h).bind fun name =>
    (hroot.ends h).bind fun root => ends_pure (name, root)
  have hv : Asks S versionText := (ask .version).bind fun v => asks_ofExcept _
  have hd : Asks S workingDirectory := .directory trivial
  have hl : Asks S (shellElements none) := hw.map _
  exact (((ho.ends h).bind fun _ => (hw.ends h).bind fun _ => (hm.ends h).bind fun _ =>
    (hx.ends h).bind fun _ => ((ask .constrainedRuntime).ends h).bind fun _ =>
    ((ask .alternateVm).ends h).bind fun _ => (ends_optional hu).bind fun _ =>
    (ends_optional (hv.ends h)).bind fun _ => (hd.ends h).bind fun _ =>
    (hl.ends h).bind fun _ => ends_pure _) s (Asked.refl s)).1

theorem fst_versionText :
    (versionText s).1 = (version s).1 >>= fun v => (Value.version v).written := by
  unfold versionText
  rw [bind_apply]
  rcases version s with ⟨_ | v, t⟩ <;> rfl

/-- Whether the user is the superuser is told by the answers for the system and the user. -/
theorem fst_isRoot_of_ends (hw : Ends (Asked s) isWindows (isWindows s).1)
    (hu : Ends (Asked s) user (user s).1) :
    (isRoot s).1 = do
      let windows ← (isWindows s).1
      if windows then return false else return (← (user s).1) == Identity.rootUser := by
  have rest (windows : Bool) : Ends (Asked s)
      (do if windows then return false else return (← user) == Identity.rootUser : Query Bool)
      (do if windows then return false else return (← (user s).1) == Identity.rootUser) := by
    cases windows with
    | true => exact ends_pure false
    | false => exact hu.bind fun _ => ends_pure _
  exact (hw.bind rest s (Asked.refl s)).1

theorem fst_isRoot (h : Steady s) :
    (isRoot s).1 = do
      let windows ← (isWindows s).1
      if windows then return false else return (← (user s).1) == Identity.rootUser :=
  fst_isRoot_of_ends ((asks_isWindows (S := fun _ => True) trivial).ends h)
    ((asks_user (S := fun _ => True) fun _ _ => trivial).ends h)

/-- Whether the user is the superuser, where the system and the user are known. -/
theorem fst_isRoot_of_ok (h : Steady s) {windows : Bool} {name : String}
    (hw : (isWindows s).1 = .ok windows) (hu : (user s).1 = .ok name) :
    (isRoot s).1 = .ok (!windows && name == Identity.rootUser) := by
  rw [fst_isRoot h, hw, hu]
  cases windows <;> rfl

/-- Without a user there is no superuser on Windows, and elsewhere it is not known who is. -/
theorem fst_isRoot_of_error (h : Steady s) {windows : Bool} {e : Fault}
    (hw : (isWindows s).1 = .ok windows) (hu : (user s).1 = .error e) :
    (isRoot s).1 = if windows then .ok false else .error e := by
  rw [fst_isRoot h, hw, hu]
  cases windows <;> rfl

/-- Where the system is known, the superuser is known with the user. -/
theorem fst_user_isRoot (h : Steady s) {windows : Bool} (hw : (isWindows s).1 = .ok windows) :
    (do return (← (user s).1, ← (isRoot s).1)) =
      (user s).1 >>= fun name => .ok (name, !windows && name == Identity.rootUser) := by
  rcases hu : (user s).1 with e | name
  · rfl
  · rw [fst_isRoot_of_ok h hw hu]
    rfl

end Query

/-! ## Agreement -/

/-- A report that says, entry by entry, what the calls answer in a scene. -/
structure Report.Agrees (r : Report) (s : Scene) : Prop where
  osType : (Op.osType.run s).1 = .ok (.text r.osType)
  windows : (Op.isWindows.run s).1 = .ok (.bool r.windows)
  macos : (Op.isMacos.run s).1 = .ok (.bool r.macos)
  unixLike : (Op.isUnixLike.run s).1 = .ok (.bool r.unixLike)
  constrainedRuntime : (Op.isConstrainedRuntime.run s).1 = .ok (.bool r.constrainedRuntime)
  alternateVm : (Op.isAlternateVm.run s).1 = .ok (.bool r.alternateVm)
  user : ∀ name root, r.user = some (name, root) →
    (Op.user.run s).1 = .ok (.text name) ∧ (Op.isRoot.run s).1 = .ok (.bool root)
  noUser : r.user = none ↔ ∃ e, (Op.user.run s).1 = .error e ∧ e.isResolution = true
  rootOnWindows : r.user = none → r.windows = true → (Op.isRoot.run s).1 = .ok (.bool false)
  rootElsewhere : r.user = none → r.windows = false →
    ∃ e, (Op.user.run s).1 = .error e ∧ (Op.isRoot.run s).1 = .error e
  version : ∀ text, r.version = some text →
    ∃ v, (Op.version.run s).1 = .ok (.version v) ∧ text = v.text
  noVersion : r.version = none ↔ ∃ e, (Op.version.run s).1 = .error e ∧ e.isResolution = true
  directory : (Op.workingDirectory.run s).1 = .ok (Report.textOrNull r.directory)
  shell : ((Op.shellElements none).run s).1 = .ok (.list (r.shell.map .text))

theorem Query.fst_run_describe : (Op.describe.run s).1 = (describe s).1.map Report.toValue :=
  fst_map _ _ _

theorem Query.agrees_of_describe (h : Steady s) {r : Report} (hr : (describe s).1 = .ok r) :
    r.Agrees s := by
  rw [fst_describe h] at hr
  obtain ⟨osType, ho, hr⟩ := exceptBind_eq_ok_iff.mp hr
  obtain ⟨windows, hw, hr⟩ := exceptBind_eq_ok_iff.mp hr
  obtain ⟨macos, hm, hr⟩ := exceptBind_eq_ok_iff.mp hr
  obtain ⟨unixLike, hx, hr⟩ := exceptBind_eq_ok_iff.mp hr
  obtain ⟨constrainedRuntime, hc, hr⟩ := exceptBind_eq_ok_iff.mp hr
  obtain ⟨alternateVm, ha, hr⟩ := exceptBind_eq_ok_iff.mp hr
  obtain ⟨user, hu, hr⟩ := exceptBind_eq_ok_iff.mp hr
  obtain ⟨version, hv, hr⟩ := exceptBind_eq_ok_iff.mp hr
  obtain ⟨directory, hd, hr⟩ := exceptBind_eq_ok_iff.mp hr
  obtain ⟨shell, hs, hr⟩ := exceptBind_eq_ok_iff.mp hr
  cases hr
  rw [fst_user_isRoot h hw] at hu
  rw [fst_versionText] at hv
  have missed {α : Type} (x : Query α) (f : α → Value) :
      (∃ e, (x s).1 = .error e ∧ e.isResolution = true) ↔
        ∃ e, ((do return f (← x) : Query Value) s).1 = .error e ∧ e.isResolution = true := by
    simp only [fst_map_eq_error_iff]
  have noUser := eq_none_iff_of_reported (fun _ _ h => by cases h) hu
  refine ⟨fst_map_of_ok ho _, fst_map_of_ok hw _, fst_map_of_ok hm _, fst_map_of_ok hx _,
    fst_map_of_ok hc _, fst_map_of_ok ha _, ?user, ?noUser, ?rootOnWindows, ?rootElsewhere,
    ?version, ?noVersion, fst_map_of_ok hd _, fst_map_of_ok hs _⟩
  case user =>
    rintro name root rfl
    obtain ⟨name, hn, hp⟩ := exceptBind_eq_ok_iff.mp (reported_eq_some_iff.mp hu)
    cases hp
    exact ⟨fst_map_of_ok hn _, fst_map_of_ok (fst_isRoot_of_ok h hw hn) _⟩
  case noUser => exact noUser.trans (missed _ _)
  case rootOnWindows =>
    rintro hn rfl
    obtain ⟨e, he, -⟩ := noUser.mp hn
    exact fst_map_of_ok (fst_isRoot_of_error h hw he) _
  case rootElsewhere =>
    rintro hn rfl
    obtain ⟨e, he, -⟩ := noUser.mp hn
    exact ⟨e, (fst_map_eq_error_iff _).mpr he,
      (fst_map_eq_error_iff _).mpr (fst_isRoot_of_error h hw he)⟩
  case version =>
    rintro text rfl
    obtain ⟨v, hv, ht⟩ := exceptBind_eq_ok_iff.mp (reported_eq_some_iff.mp hv)
    exact ⟨v, fst_map_of_ok hv _, (Value.written_eq_ok_iff.mp ht).2⟩
  case noVersion =>
    refine (eq_none_iff_of_reported (fun v e hw => ?_) hv).trans (missed _ _)
    rw [(Value.written_eq_error_iff.mp hw).2]
    rfl

/-- **A report agrees with the calls.** Over properties that stay as they are, each entry of a
report that is made is what its call would have answered before the report. The user and the version
are left out exactly if they cannot be resolved, and being the superuser is left out with the user:
the call still answers no on Windows, and fails as the one for the user elsewhere. -/
theorem report_agrees_with_calls (h : Steady s) {v : Value}
    (hv : (Op.describe.run s).1 = .ok v) : ∃ r : Report, v = r.toValue ∧ r.Agrees s := by
  rcases hr : (describe s).1 with e | r <;> rw [fst_run_describe, hr] at hv <;> cases hv
  exact ⟨r, rfl, agrees_of_describe h hr⟩

/-- The superuser is known by an override, and the version cannot be read. -/
theorem report_of_superuser :
    ∃ (s : Scene) (v : Value), Steady s ∧ (Op.describe.run s).1 = .ok v ∧
      v = .map [(.text "os_type", .text "linux"), (.text "windows", .bool false),
        (.text "macos", .bool false), (.text "unix_like", .bool true),
        (.text "constrained_runtime", .bool false), (.text "alternate_vm", .bool false),
        (.text "current_user", .text "root"), (.text "root_user", .bool true),
        (.text "runtime_version", .null), (.text "working_directory", .text "/srv"),
        (.text "shell_command", .list [.text "/bin/sh", .text "-i", .text "-l"])] ∧
      ∃ r : Report, v = r.toValue ∧ r.Agrees s := by
  let c : Context := Context.new (.mapping
    (.ofList [("os.name", "Linux"), ("runtime.version", "unknown"), ("user.dir", "/srv/")]))
  let s : Scene := ({ c with user := .settled "root" }, World.empty)
  have hs : Steady s := .of_mapping rfl rfl
  have hv : ∃ v, (Op.describe.run s).1 = .ok v := ⟨_, rfl⟩
  obtain ⟨v, hv⟩ := hv
  refine ⟨s, v, hs, hv, ?_, report_agrees_with_calls hs hv⟩
  exact Except.ok.inj (hv.symm.trans rfl)

/-- Without a user it is left out whether the user is the superuser, although on Windows the call
answers that it is not. -/
theorem root_left_out_with_user :
    let s : Scene := (Context.new (.mapping (.ofList [("os.name", "Windows")])), World.empty)
    Steady s ∧ (Op.isRoot.run s).1 = .ok (.bool false) ∧
      ∃ r : Report, (Op.describe.run s).1 = .ok r.toValue ∧ ("root_user", .null) ∈ r.facts := by
  intro s
  refine ⟨.of_mapping rfl rfl, rfl, ?_⟩
  have hr : ∃ r, (describe s).1 = .ok r ∧ ("root_user", Value.null) ∈ r.facts :=
    ⟨_, rfl, by simp [Report.facts]⟩
  obtain ⟨r, hr, hn⟩ := hr
  refine ⟨r, ?_, hn⟩
  rw [fst_run_describe, hr]
  rfl

end HostFacts
