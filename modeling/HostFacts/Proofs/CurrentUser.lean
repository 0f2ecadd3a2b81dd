import HostFacts.Proofs.OwnerNames
import HostFacts.Proofs.PlainReports
import HostFacts.Proofs.Settled
import Mathlib.Data.List.Induction

/-!
# The current user

The name of the current user is set, or it is detected on the way of any call that needs it: asking
for the user or for the superuser, or a report. A detected name went through the rules for canonical
names with the system known, so it is not blank and nothing more is cut off it as long as the system
is of that family.

* `Context.Learns`, `within_learns`: what any call that only asks may make known of the user;
* `keepsUser_step`: what one move does to the name, unless it sets it or forgets it;
* `WasSet`, `WasDetected`, `wasSet_or_wasDetected`: where the name comes from that a run leaves;
* `answer_isRoot`: the superuser, by the answers for the system and the user;
* **`current_user_is_canonical`**: the law for whole runs.
-/

namespace HostFacts

open Act Query HostFacts.Text

/-- A name that can be detected: it is not blank, and canonical on systems of the family. -/
structure Detectable (name : String) (windows : Bool) : Prop where
  nonblank : isBlank (some name) = false
  canonical : Identity.canonicalUser (some name) windows = some name

/-! ## Detecting the user -/

namespace Query

theorem acceptUser_eq_ok {user : Option String} {name : String} {s s' : Scene}
    (h : acceptUser user s = (.ok name, s')) :
    user = some name ∧ isBlank (some name) = false ∧ s'.1 = s.1 := by
  cases user with
  | none => cases h
  | some u =>
    rw [acceptUser] at h
    cases hb : isBlank (some u) with
    | true =>
      rw [if_pos hb] at h
      cases h
    | false =>
      rw [if_neg (by simp [hb])] at h
      cases h
      exact ⟨rfl, hb, rfl⟩

/-- **A detected user is canonical on the system**, which is known from then on. -/
theorem detectable_of_detectUser {s s' : Scene} {name : String}
    (h : detectUser s = (.ok name, s')) :
    ∃ t, s'.1.osType = .settled t ∧ Detectable name (OsFamily.isWindows t) := by
  obtain ⟨raw, s₁, -, h⟩ := bind_eq_ok_iff.mp h
  obtain ⟨user, s₂, hu, h⟩ := bind_eq_ok_iff.mp h
  obtain ⟨windows, s₃, hw, hu⟩ := bind_eq_ok_iff.mp hu
  obtain ⟨t, s₄, ht, hw⟩ := bind_eq_ok_iff.mp hw
  cases hw
  cases hu
  obtain ⟨hn, hb, hk⟩ := acceptUser_eq_ok h
  have hs : s₂.1.osType = .settled t := Fact.cell_of_ask_ok (F := .osType) ht
  exact ⟨t, hk ▸ hs, hb, Identity.canonicalUser_of_eq_some hn⟩

end Query

/-- From one context to a later one that was only asked: what was known is still known, and a user
who is known since then can have been detected on the system, which is known as well. -/
structure Context.Learns (c c' : Context) : Prop where
  known : c.Extends c'
  user : ∀ name, c.user = .empty → c'.user = .settled name →
    ∃ t, c'.osType = .settled t ∧ Detectable name (OsFamily.isWindows t)

namespace Context

instance : IsPreorder Context Learns where
  refl c := ⟨refl_of Extends c, fun name he hs => by cases he.symm.trans hs⟩
  trans c₁ c₂ c₃ h h' := by
    refine ⟨trans_of Extends h.known h'.known, fun name he hs => ?_⟩
    cases hc : c₂.user with
    | empty => exact h'.user name hc hs
    | settled u =>
      obtain rfl : u = name := Cell.settled.inj ((h'.known.cell .user u hc).symm.trans hs)
      obtain ⟨t, ht, hd⟩ := h.user u he hc
      exact ⟨t, h'.known.cell .osType t ht, hd⟩

end Context

namespace Query

/-- All facts but the user are worked out from the properties alone. -/
theorem asks_workOut {S : Part → Prop} {F : Fact} (h : F ≠ .user) : Asks S F.workOut := by
  cases F with
  | osType => exact asks_detectOsType
  | constrainedRuntime => exact asks_detect_constrainedRuntime
  | alternateVm => exact asks_detect_alternateVm
  | user => exact absurd rfl h
  | version => exact asks_detectVersion

/-- **Asking for a fact makes known only what can be detected** of the user. -/
theorem within_learns (F : Fact) : Within (onContext Context.Learns) F.ask := by
  refine within_ask (fun F s s' a hc hx hs => ?_) F
  refine ⟨hs.known.put hc a, fun name he hn => ?_⟩
  by_cases hF : F = .user
  · subst hF
    obtain rfl : a = name := Cell.settled.inj hn
    obtain ⟨t, ht, hd⟩ := detectable_of_detectUser hx
    exact ⟨t, ht, hd⟩
  · -- any other fact leaves the user as it was, which is not known
    have hk : s.1 = s'.1 := by
      have hk := (asks_workOut hF).keeps (R := Eq) s
      rwa [hx] at hk
    have hn' : Fact.user.cell (F.put (.settled a) s'.1) = .settled name := hn
    rw [Fact.cell_put_of_ne hF, ← hk, show Fact.user.cell s.1 = .empty from he] at hn'
    cases hn'

end Query

/-! ## One move -/

/-- Whether a move sets the user or forgets it. -/
def Move.setsUser : Move → Bool
  | .call .reset | .call (.setUser _) => true
  | _ => false

/-- From one context to the next, the user stays as it was, or it was not known and is detected. -/
def Context.KeepsUser (c c' : Context) : Prop :=
  c'.user = c.user ∨ c.user = .empty ∧ ∃ name t,
    c'.user = .settled name ∧ c'.osType = .settled t ∧ Detectable name (OsFamily.isWindows t)

theorem Context.Learns.keepsUser {c c' : Context} (h : c.Learns c') : c.KeepsUser c' := by
  cases hc : c.user with
  | settled u => exact Or.inl ((h.known.cell .user u hc).trans hc.symm)
  | empty =>
    cases hc' : c'.user with
    | empty => exact Or.inl (hc'.trans hc.symm)
    | settled name =>
      obtain ⟨t, ht, hd⟩ := h.user name hc hc'
      exact Or.inr ⟨hc, name, t, hc', ht, hd⟩

/-- **A move that does not set the user keeps what is known of it**, or detects it. -/
theorem keepsUser_step {m : Move} (hm : m.setsUser = false) (s : Scene) :
    s.1.KeepsUser (m.step s).2.1 := by
  cases m with
  | plug _ | put _ _ | erase _ | setVariable _ _ _ | unsetVariable _ _ => exact Or.inl rfl
  | call op =>
    show s.1.KeepsUser (op.run (s.1, s.2.clear)).2.1
    cases hop : op.isSetting with
    | false =>
      have hl : s.1.Learns (op.run (s.1, s.2.clear)).2.1 :=
        within_run within_learns hop (s.1, s.2.clear)
      exact hl.keepsUser
    | true =>
      rcases Fact.exists_set_of_isSetting hop with rfl | ⟨id, rfl⟩ | ⟨F, e | a, hF⟩
      · cases hm
      · exact Or.inl rfl
      · rw [Fact.run_set_of_error hF]
        exact Or.inl rfl
      · have hne : F ≠ .user := by
          rintro rfl
          cases op <;> simp [Fact.set?] at hF
          cases hm
        rw [Fact.run_set_of_ok hF]
        exact Or.inl (Fact.cell_put_of_ne hne a)

/-! ## Where the name comes from -/

/-- The name that a run leaves was set: a move set it, and no later move set or forgot the user. -/
def WasSet (name : String) (moves : List Move) : Prop :=
  ∃ earlier later, moves = earlier ++ .call (.setUser (some name)) :: later ∧
    ∀ m ∈ later, m.setsUser = false

/-- The name that a run leaves was detected on a system that is Windows or is not: a move that sets
nothing found the user unknown and left the name, the system was of that family then, and no later
move set or forgot the user. -/
def WasDetected (start : Scene) (name : String) (windows : Bool) (moves : List Move) : Prop :=
  ∃ earlier m later, moves = earlier ++ m :: later ∧ m.setsUser = false ∧
    (after earlier start).1.user = .empty ∧
    (after (earlier ++ [m]) start).1.user = .settled name ∧
    ((Move.call .isWindows).step (after (earlier ++ [m]) start)).1.answer = .ok (.bool windows) ∧
    ∀ m ∈ later, m.setsUser = false

variable {start : Scene} {name : String} {windows : Bool} {moves : List Move}

theorem forall_mem_snoc {ms : List Move} {m : Move} (h : ∀ m ∈ ms, m.setsUser = false)
    (hm : m.setsUser = false) : ∀ m' ∈ ms ++ [m], m'.setsUser = false := by
  intro m' hm'
  rcases List.mem_append.mp hm' with h' | h'
  · exact h m' h'
  · rwa [List.mem_singleton.mp h']

theorem WasSet.snoc (h : WasSet name moves) {m : Move} (hm : m.setsUser = false) :
    WasSet name (moves ++ [m]) := by
  obtain ⟨earlier, later, rfl, hl⟩ := h
  exact ⟨earlier, later ++ [m], by rw [List.append_assoc, List.cons_append],
    forall_mem_snoc hl hm⟩

theorem WasDetected.snoc (h : WasDetected start name windows moves) {m : Move}
    (hm : m.setsUser = false) : WasDetected start name windows (moves ++ [m]) := by
  obtain ⟨earlier, m', later, rfl, hm', hu, hn, hw, hl⟩ := h
  exact ⟨earlier, m', later ++ [m], by rw [List.append_assoc, List.cons_append], hm', hu, hn, hw,
    forall_mem_snoc hl hm⟩

theorem after_snoc (moves : List Move) (m : Move) (s : Scene) :
    after (moves ++ [m]) s = (m.step (after moves s)).2 := after_append moves [m] s

/-- Whether the system is Windows is told by its type. -/
theorem answer_isWindows_of_settled {s : Scene} {t : String} (h : s.1.osType = .settled t) :
    ((Move.call .isWindows).step s).1.answer = .ok (.bool (OsFamily.isWindows t)) := by
  have ha : osType (s.1, s.2.clear) = (.ok t, (s.1, s.2.clear)) :=
    Fact.ask_of_settled (F := .osType) h
  show (Op.isWindows.run (s.1, s.2.clear)).1 = _
  exact fst_map_of_ok (fst_map_of_ok (congrArg Prod.fst ha) _) _

/-- **A name that a run leaves was set or detected** in it, if the user was not known before. -/
theorem wasSet_or_wasDetected (hs : start.1.user = .empty) (moves : List Move) :
    ∀ name, (after moves start).1.user = .settled name →
      WasSet name moves ∨ ∃ windows, WasDetected start name windows moves := by
  -- from the end: the last move set, forgot or detected the name, or it was there before
  induction moves using List.reverseRecOn with
  | nil => exact fun name h => by cases hs.symm.trans h
  | append_singleton ms m ih =>
    intro name h
    cases hm : m.setsUser with
    | true =>
      rw [after_snoc] at h
      unfold Move.setsUser at hm
      split at hm
      · cases h
      · rename_i value
        cases value with
        | none => cases h
        | some v =>
          obtain rfl : v = name := Cell.settled.inj h
          exact Or.inl ⟨ms, [], rfl, fun _ h => by cases h⟩
      · cases hm
    | false =>
      have hn := h
      rw [after_snoc] at hn
      rcases keepsUser_step hm (after ms start) with hk | ⟨hu, name', t, hn', ht, -⟩
      · rcases ih name (hk.symm.trans hn) with hw | ⟨windows, hw⟩
        · exact Or.inl (hw.snoc hm)
        · exact Or.inr ⟨windows, hw.snoc hm⟩
      · rw [← after_snoc] at ht
        exact Or.inr ⟨_, ms, m, [], rfl, hm, hu, h, answer_isWindows_of_settled ht,
          fun _ h => by cases h⟩

/-- **A detected name can be detected**: it is canonical on the system that it was detected on. -/
theorem WasDetected.detectable (h : WasDetected start name windows moves) :
    Detectable name windows := by
  obtain ⟨earlier, m, later, -, hm, hu, hn, hw, -⟩ := h
  rw [after_snoc] at hn hw
  rcases keepsUser_step hm (after earlier start) with hk | ⟨-, name', t, hn', ht, hd⟩
  · cases (hk.trans hu).symm.trans hn
  · obtain rfl : name' = name := Cell.settled.inj (hn'.symm.trans hn)
    cases (answer_isWindows_of_settled ht).symm.trans hw
    exact hd

/-- A name that the getter answers is the one that is known after it. -/
theorem user_of_answer {s : Scene} (h : ((Move.call .user).step s).1.answer = .ok (.text name)) :
    ((Move.call .user).step s).2.1.user = .settled name := by
  have hf : Fact.user.Settles name (.call .user) ((Move.call .user).step s).1 := by
    have ho : ((Move.call .user).step s).1 =
        ⟨.ok (.text name), ((Move.call .user).step s).1.events⟩ := by rw [← h]
    rw [ho]
    exact .read _
  exact Fact.cell_step_of_settles hf rfl

/-! ## The superuser -/

/-- Over a plain mapping it is known whether the system is Windows, which has no superuser. -/
theorem Query.isRoot_of_mapping {s : Scene} {entries : Entries String String}
    (hs : s.1.source = .mapping entries) :
    ∃ windows, (isWindows s).1 = .ok windows ∧
      (isRoot s).1 = if windows then .ok false else (user s).1.map (· == Identity.rootUser) := by
  obtain ⟨t, ht⟩ := exists_osType hs
  have hw : (isWindows s).1 = .ok (OsFamily.isWindows t) := fst_map_of_ok ht _
  refine ⟨_, hw, ?_⟩
  have hr := fst_isRoot_of_ends
    ((asks_isWindows (S := fun p => p ∈ Fact.user.parts) (by simp [Fact.parts])).ends_of_mapping hs
      (by simp [Fact.parts]))
    ((asks_user (S := fun p => p ∈ Fact.user.parts) fun _ h => h).ends_of_mapping hs
      (by simp [Fact.parts]))
  rw [hr, hw]
  cases OsFamily.isWindows t with
  | true => rfl
  | false => cases (user s).1 <;> rfl

/-- What is answered about the superuser follows from what is answered about system and user. -/
theorem answer_isRoot {s : Scene} {entries : Entries String String}
    (hs : s.1.source = .mapping entries) :
    let answer (op : Op) := ((Move.call op).step s).1.answer
    (∃ windows, answer .isWindows = .ok (.bool windows)) ∧
      (answer .isRoot = .ok (.bool true) ↔
        answer .isWindows = .ok (.bool false) ∧ answer .user = .ok (.text Identity.rootUser)) ∧
      (answer .isWindows = .ok (.bool true) → answer .isRoot = .ok (.bool false)) ∧
      (answer .isWindows = .ok (.bool false) →
        ∀ e, answer .isRoot = .error e ↔ answer .user = .error e) := by
  intro answer
  obtain ⟨windows, hw, hr⟩ := Query.isRoot_of_mapping (s := (s.1, s.2.clear)) hs
  have hw' : answer .isWindows = .ok (.bool windows) := fst_map_of_ok hw _
  have hr' : answer .isRoot = ((isRoot (s.1, s.2.clear)).1).map .bool := fst_map _ _ _
  have hu' : answer .user = ((user (s.1, s.2.clear)).1).map .text := fst_map _ _ _
  rw [hw', hr', hu', hr]
  refine ⟨⟨windows, rfl⟩, ?_⟩
  cases windows with
  | true => simp [Except.map]
  | false => cases (user (s.1, s.2.clear)).1 <;> simp [Except.map]

/-! ## Whole runs -/

/-- **The current user is never blank, and a detected one is canonical.** In a run over a plain
mapping that sets no blank name, every name that the getter answers is not blank. It was set, or it
was detected on a system of some family and then is canonical on systems of that family. Being the
superuser means not to be on Windows and to be called `root`: it is never in doubt on Windows, and
elsewhere as long as the user is known. -/
theorem current_user_is_canonical (entries : Entries String String) (w : World)
    (moves : List Move)
    (hset : ∀ name, Move.call (.setUser (some name)) ∈ moves → isBlank (some name) = false) :
    let start : Scene := (Context.new (.mapping entries), w)
    let answer (op : Op) := ((Move.call op).step (after moves start)).1.answer
    let asked := moves ++ [.call .user]
    (∀ name, answer .user = .ok (.text name) →
      isBlank (some name) = false ∧
      (WasSet name asked ∨ ∃ windows, WasDetected start name windows asked) ∧
      ∀ windows, WasDetected start name windows asked →
        Identity.canonicalUser (some name) windows = some name) ∧
    (∃ windows, answer .isWindows = .ok (.bool windows)) ∧
    (answer .isRoot = .ok (.bool true) ↔
      answer .isWindows = .ok (.bool false) ∧ answer .user = .ok (.text Identity.rootUser)) ∧
    (answer .isWindows = .ok (.bool true) → answer .isRoot = .ok (.bool false)) ∧
    (answer .isWindows = .ok (.bool false) →
      ∀ e, answer .isRoot = .error e ↔ answer .user = .error e) := by
  intro start answer asked
  obtain ⟨_, hs⟩ := exists_mapping_after (s := start) ⟨entries, rfl⟩ moves
  refine ⟨fun name h => ?_, answer_isRoot hs⟩
  have hn : (after asked start).1.user = .settled name := by
    rw [after_snoc]
    exact user_of_answer h
  have ho := wasSet_or_wasDetected rfl asked name hn
  refine ⟨?_, ho, fun windows hd => hd.detectable.canonical⟩
  rcases ho with ⟨earlier, later, hm, -⟩ | ⟨windows, hd⟩
  · have hmem : Move.call (.setUser (some name)) ∈ asked := by simp [hm]
    exact hset name (by simpa [asked] using hmem)
  · exact hd.detectable.nonblank

/-- A report detects the user on Windows, after another name was set and forgotten. What it found
stays when the properties and the system change. -/
theorem reported_user_is_canonical :
    let start : Scene := (Context.new (.mapping
      (.ofList [("os.name", "Windows 10"), ("user.name", "CORP\\jdoe (Remote Users)")])),
      World.empty)
    let moves := [.call (.setUser (some "ann")), .call .reset, .call .describe,
      .put "user.name" "root", .call (.setOsType (some "Linux"))]
    (∀ name, Move.call (.setUser (some name)) ∈ moves → isBlank (some name) = false) ∧
      ((Move.call .user).step (after moves start)).1.answer = .ok (.text "jdoe") ∧
      WasDetected start "jdoe" true (moves ++ [.call .user]) ∧
      isBlank (some "jdoe") = false ∧ Identity.canonicalUser (some "jdoe") true = some "jdoe" ∧
      ((Move.call .isWindows).step (after moves start)).1.answer = .ok (.bool false) ∧
      ¬ ((Move.call .isRoot).step (after moves start)).1.answer = .ok (.bool true) := by
  intro start moves
  have hset : ∀ name, Move.call (.setUser (some name)) ∈ moves → isBlank (some name) = false := by
    intro name hm
    obtain rfl : name = "ann" := by simpa [moves] using hm
    decide
  have hu : ((Move.call .user).step (after moves start)).1.answer = .ok (.text "jdoe") := rfl
  have hd : WasDetected start "jdoe" true (moves ++ [.call .user]) :=
    ⟨[.call (.setUser (some "ann")), .call .reset], .call .describe,
      [.put "user.name" "root", .call (.setOsType (some "Linux")), .call .user], rfl, rfl, rfl, rfl,
      rfl, by decide⟩
  obtain ⟨hname, -, hroot, -⟩ := current_user_is_canonical
    (.ofList [("os.name", "Windows 10"), ("user.name", "CORP\\jdoe (Remote Users)")])
    World.empty moves hset
  obtain ⟨hb, -, hc⟩ := hname "jdoe" hu
  refine ⟨hset, hu, hd, hb, hc true hd, rfl, fun hr => ?_⟩
  have he : "jdoe" = Identity.rootUser :=
    Value.text.inj (Except.ok.inj (hu.symm.trans (hroot.mp hr).2))
  exact absurd he (by decide)

end HostFacts
