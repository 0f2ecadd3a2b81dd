import HostFacts.Proofs.Layers
import HostFacts.Proofs.Runs

/-!
# Laziness cannot be observed

Facts are worked out when they are first asked for, and some on the way to others, so what a context
has settled depends on which questions came first. As long as the properties stay as they are and
whatever is called ends the same way each time (`Steady`), no answer depends on it.

* `Asked s₀ s`: the scene `s` differs from `s₀` only in what asking leaves behind;
* `Query.fixed_ask`, `Asks.ends`: each question has one answer in all scenes that asking leads to;
* `Asks.ends_of_mapping`: over a plain mapping that takes no more than not to ask for the directory;
* **`asking_order_is_unobservable`**: so each question in a row is answered as if it came first.
-/

namespace HostFacts

open HostFacts.Property Act Query

/-- All calls end in the same way. -/
def Script.IsConstant {α : Type} (script : Script α) : Prop := ∀ k, script.ends k = script.ends 0

/-- The properties cannot change by themselves: the providers of a table and the plugged source of
directories always end in the same way. -/
structure Steady (s : Scene) : Prop where
  providers : ∀ t, s.1.source = .table t → ∀ name script,
    (t.providers s.2).get? name = some script → script.IsConstant
  directory : ∀ id, s.1.directorySource = some id → ∀ script,
    s.2.sources[id]? = some script → script.IsConstant

/-- A plain mapping is steady where no source of directories is plugged in. -/
theorem Steady.of_mapping {s : Scene} {entries : Entries String String}
    (hs : s.1.source = .mapping entries) (hd : s.1.directorySource = none) : Steady s :=
  ⟨fun t ht => by simp [hs] at ht, fun id hid => by simp [hd] at hid⟩

/-! ## Surroundings that were only called -/

/-- Surroundings that differ in the journal and in the numbers of calls only. -/
structure World.SameScripts (w w' : World) : Prop where
  environ : w'.environ = w.environ
  providers : ∀ o name,
    ((w'.providers o).get? name).map Script.ends = ((w.providers o).get? name).map Script.ends
  sources : w'.sources.map Script.ends = w.sources.map Script.ends

namespace World

variable {w w' : World}

instance : IsPreorder World SameScripts where
  refl _ := ⟨rfl, fun _ _ => rfl, rfl⟩
  trans _ _ _ h h' := ⟨h'.environ.trans h.environ,
    fun o name => (h'.providers o name).trans (h.providers o name), h'.sources.trans h.sources⟩

theorem sameScripts_record (e : Event) (w : World) : w.SameScripts (w.record e) :=
  ⟨rfl, fun _ _ => rfl, rfl⟩

theorem sameScripts_clear (w : World) : w.SameScripts w.clear := ⟨rfl, fun _ _ => rfl, rfl⟩

theorem sameScripts_called {o : Origin} {name : String} {script : Script (Option String)}
    (h : (w.providers o).get? name = some script) : w.SameScripts (w.called o name script) := by
  refine ⟨rfl, fun o' other => ?_, rfl⟩
  by_cases hn : o' = o ∧ other = name
  · obtain ⟨rfl, rfl⟩ := hn
    rw [get?_providers_called, h]
    rfl
  · rw [get?_providers_called_of_ne (Decidable.not_and_iff_not_or_not.mp hn)]

/-- A provider has the same script in surroundings that were only called. -/
theorem SameScripts.exists_provider (h : w.SameScripts w') {o : Origin} {name : String}
    {script : Script (Option String)} (hp : (w.providers o).get? name = some script) :
    ∃ script', (w'.providers o).get? name = some script' ∧ script'.ends = script.ends := by
  have hm := h.providers o name
  rw [hp, Option.map_some] at hm
  exact Option.map_eq_some_iff.mp hm

theorem within_callSource (id : Nat) : Within SameScripts (callSource id) := by
  intro w
  unfold callSource
  cases h : w.sources[id]? with
  | none => exact refl_of SameScripts w
  | some script =>
    refine ⟨rfl, fun _ _ => rfl, ?_⟩
    show (w.sources.set id _).map Script.ends = _
    obtain ⟨hid, rfl⟩ := List.getElem?_eq_some_iff.mp h
    rw [List.map_set, ← List.getElem_map Script.ends (h := by simpa using hid),
      List.set_getElem_self]

end World

namespace Table

variable {t : Table} {w w' w₁ : World} {name : String} {carrier : Option String}
  {r : Except Fault (Option String)}

theorem Sees.sameScripts (h : t.Sees w name carrier r w₁) : w.SameScripts w₁ := by
  cases h with
  | explicit | environment | nothing => exact refl_of World.SameScripts w
  | provided _ _ hp _ => exact World.sameScripts_called hp
  | absent _ _ hp _ _ =>
    exact trans_of World.SameScripts (World.sameScripts_called hp) (World.sameScripts_record _ _)
  | failed _ _ hp _ _ => exact World.sameScripts_called hp

/-- **A steady table sees the same under a name however often it was looked up.** -/
theorem Sees.of_sameScripts (h : t.Sees w name carrier r w₁) (hw : w.SameScripts w')
    (hc : ∀ script, (t.providers w).get? name = some script → script.IsConstant) :
    ∃ w₂, t.Sees w' name carrier r w₂ := by
  have he : t.environ w' = t.environ w := congrFun hw.environ _
  have hb : carrier.bind (t.environ w').get? = carrier.bind (t.environ w).get? := by rw [he]
  have hp' {script : Script (Option String)} (hp : (t.providers w).get? name = some script) :
      ∃ script', (t.providers w').get? name = some script' ∧
        script'.ends script'.calls = script.ends script.calls := by
    obtain ⟨script', hp', he⟩ := hw.exists_provider hp
    exact ⟨script', hp', by rw [he, hc script hp, hc script hp script.calls]⟩
  cases h with
  | explicit h => exact ⟨_, .explicit h⟩
  | environment h hx hv => exact ⟨_, .environment h hx (by rw [he]; exact hv)⟩
  | nothing h hv hn =>
    have hm := (hw.providers t.layers.providers name).trans (congrArg (Option.map _) hn)
    exact ⟨_, .nothing h (hb.trans hv) (Option.map_eq_none_iff.mp hm)⟩
  | provided h hv hp hr =>
    obtain ⟨script', hs, he⟩ := hp' hp
    exact ⟨_, .provided h (hb.trans hv) hs (he.trans hr)⟩
  | absent h hv hp hr ha =>
    obtain ⟨script', hs, he⟩ := hp' hp
    exact ⟨_, .absent h (hb.trans hv) hs (he.trans hr) ha⟩
  | failed h hv hp hr ha =>
    obtain ⟨script', hs, he⟩ := hp' hp
    exact ⟨_, .failed h (hb.trans hv) hs (he.trans hr) ha⟩

end Table

theorem Source.within_sameScripts (s : Source) (name : String) :
    Within World.SameScripts (s.lookup name) := by
  intro w
  cases s with
  | mapping entries => exact World.sameScripts_record _ _
  | table t => exact (Table.lookup_eq_iff_sees.mp (Prod.eta (t.lookup name w)).symm).sameScripts

/-! ## What asking leaves behind -/

/-- The scene `s` differs from `s₀` only in what asking leaves behind: facts may be settled that
were not, at what they would have been answered with. -/
structure Asked (s₀ s : Scene) : Prop where
  source : s.1.source = s₀.1.source
  directorySource : s.1.directorySource = s₀.1.directorySource
  scripts : s₀.2.SameScripts s.2
  cell : ∀ F : Fact, F.cell s.1 = F.cell s₀.1 ∨
    F.cell s₀.1 = .empty ∧ ∃ a, (F.ask s₀).1 = .ok a ∧ F.cell s.1 = .settled a

theorem Asked.refl (s : Scene) : Asked s s :=
  ⟨rfl, rfl, refl_of World.SameScripts s.2, fun _ => Or.inl rfl⟩

/-- Calls that the scripts have in common leave the scene among those that asking leads to. -/
theorem Asked.of_world {s₀ s : Scene} (h : Asked s₀ s) {w : World} (hw : s.2.SameScripts w) :
    Asked s₀ (s.1, w) :=
  ⟨h.source, h.directorySource, trans_of World.SameScripts h.scripts hw, h.cell⟩

namespace Query

variable {s₀ : Scene}

theorem ends_note (level : Level) (logger : Logger) (message : String) :
    Ends (Asked s₀) (note level logger message) (.ok ()) :=
  fun _ hs => ⟨rfl, hs.of_world (World.sameScripts_record _ _)⟩

theorem fixed_lookup (h : Steady s₀) (name : String) : Fixed (Asked s₀) (lookup name) := by
  refine ⟨(s₀.1.source.lookup name s₀.2).1, fun s hs => ⟨?_, ?_⟩⟩
  · show (s.1.source.lookup name s.2).1 = _
    rw [hs.source]
    cases hsource : s₀.1.source with
    | mapping entries => rfl
    | table t =>
      have hsees := Table.lookup_eq_iff_sees.mp (Prod.eta (t.lookup name s₀.2)).symm
      obtain ⟨w₂, h₂⟩ := hsees.of_sameScripts hs.scripts (h.providers t hsource name)
      show (t.lookup name s.2).1 = (t.lookup name s₀.2).1
      rw [Table.lookup_of_sees h₂]
  · exact hs.of_world (s.1.source.within_sameScripts name s.2)

theorem ends_lookup_mapping {entries : Entries String String}
    (hs₀ : s₀.1.source = .mapping entries) (name : String) :
    Ends (Asked s₀) (lookup name) (.ok (entries.get? name)) := by
  intro s hs
  rw [lookup_mapping (hs.source.trans hs₀)]
  exact ⟨rfl, hs.of_world (World.sameScripts_record _ _)⟩

theorem fixed_callSource (h : Steady s₀) {id : Nat} (hid : s₀.1.directorySource = some id) :
    Fixed (Asked s₀) (ofWorld (callSource id)) := by
  refine ⟨(callSource id s₀.2).1, fun s hs => ⟨?_, hs.of_world (World.within_callSource id s.2)⟩⟩
  have hm : (s.2.sources[id]?).map Script.ends = (s₀.2.sources[id]?).map Script.ends := by
    rw [← List.getElem?_map, ← List.getElem?_map, hs.scripts.sources]
  show (callSource id s.2).1 = (callSource id s₀.2).1
  unfold callSource
  cases hs₀ : s₀.2.sources[id]? with
  | none =>
    rw [hs₀, Option.map_none, Option.map_eq_none_iff] at hm
    rw [hm]
  | some script =>
    rw [hs₀, Option.map_some] at hm
    obtain ⟨script', hs', he⟩ := Option.map_eq_some_iff.mp hm
    have hc := h.directory id hid script hs₀
    rw [hs']
    show script'.ends script'.calls = script.ends script.calls
    rw [he, hc, hc script.calls]

theorem fixed_workingDirectory (h : Steady s₀) : Fixed (Asked s₀) workingDirectory := by
  have unknown : Fixed (Asked s₀) workingDirectory.unknown :=
    ⟨_, (ends_note _ _ _).bind fun _ => ends_pure _⟩
  -- the place of the source does not change, so only what it holds in `s₀` counts
  suffices h₀ : Fixed (Asked s₀) (directoryFrom s₀.1.directorySource) by
    obtain ⟨r, hr⟩ := h₀
    refine ⟨r, fun ⟨c, w⟩ hs => ?_⟩
    have hd : c.directorySource = s₀.1.directorySource := hs.directorySource
    rw [workingDirectory_apply, hd]
    exact hr _ hs
  cases hid : s₀.1.directorySource with
  | some id => exact (fixed_callSource h hid).bind fun _ => ⟨_, ends_pure _⟩
  | none =>
    refine (fixed_lookup h userDirectory).bind fun value => ?_
    split
    · split
      · exact unknown
      · exact ⟨_, ends_pure _⟩
    · exact unknown

/-- **A fact has one answer in all scenes that asking leads to.** It may be worked out or known
already: it was settled at what working it out answers. -/
theorem fixed_ask {F : Fact} (h : Fixed (Asked s₀) F.workOut) : Fixed (Asked s₀) F.ask := by
  obtain ⟨c₀, w₀⟩ := s₀
  cases hc₀ : F.cell c₀ with
  | settled a =>
    refine ⟨.ok a, fun ⟨c, w⟩ hs => ?_⟩
    have hc : F.cell c = .settled a := by
      rcases hs.cell F with hc | ⟨he, -⟩
      · exact hc.trans hc₀
      · exact absurd (he.symm.trans hc₀) (by simp)
    rw [Fact.ask_of_settled hc]
    exact ⟨rfl, hs⟩
  | empty =>
    obtain ⟨r, hr⟩ := h
    have hr₀ : (F.ask (c₀, w₀)).1 = r := by
      rw [Fact.ask_of_empty hc₀, Fact.fst_resolve]
      exact (hr _ (Asked.refl _)).1
    refine ⟨r, fun ⟨c, w⟩ hs => ?_⟩
    rcases hs.cell F with hc | ⟨-, a, ha, hc⟩
    · rw [Fact.ask_of_empty (hc.trans hc₀)]
      obtain ⟨hx, hs'⟩ := hr _ hs
      rcases hw : F.workOut (c, w) with ⟨e | a, c', w'⟩ <;> rw [hw] at hx hs'
      · rw [Fact.resolve_of_error hw]
        exact ⟨hx, hs'⟩
      · rw [Fact.resolve_of_ok hw]
        refine ⟨hx, (Fact.source_put _).trans hs'.source,
          (Fact.directorySource_put _).trans hs'.directorySource, hs'.scripts, fun G => ?_⟩
        by_cases hFG : F = G
        · subst hFG
          exact Or.inr ⟨hc₀, a, hr₀.trans hx.symm, Fact.cell_put _⟩
        · show G.cell (F.put _ c') = _ ∨ _ ∧ ∃ a, _ ∧ G.cell (F.put _ c') = _
          rw [Fact.cell_put_of_ne hFG]
          exact hs'.cell G
    · rw [Fact.ask_of_settled hc]
      exact ⟨ha.symm.trans hr₀, hs⟩

end Query

/-- **A query that only asks ends in the same way in all scenes that asking leads to.** -/
theorem Asks.ends {s₀ : Scene} {S : Part → Prop} {α : Type} {x : Query α} (hx : Asks S x)
    (h : Steady s₀) : Ends (Asked s₀) x (x s₀).1 := by
  have hf : Fixed (Asked s₀) x := hx.fixed (fun _ _ _ => ⟨_, ends_note _ _ _⟩) (fixed_lookup h)
    (fun _ => fixed_workingDirectory h) fun _ _ => fixed_ask
  exact hf.ends (Asked.refl s₀)

/-- Over a plain mapping this holds whatever source of directories is plugged in, as long as the
query does not ask for the directory. -/
theorem Asks.ends_of_mapping {s₀ : Scene} {entries : Entries String String} {S : Part → Prop}
    {α : Type} {x : Query α} (hx : Asks S x) (hs₀ : s₀.1.source = .mapping entries)
    (hd : ¬ S .directory) : Ends (Asked s₀) x (x s₀).1 := by
  have hf : Fixed (Asked s₀) x := hx.fixed (fun _ _ _ => ⟨_, ends_note _ _ _⟩)
    (fun name => ⟨_, ends_lookup_mapping hs₀ name⟩) (fun h => absurd h hd) fun _ _ => fixed_ask
  exact hf.ends (Asked.refl s₀)

theorem Op.ends_run {s₀ : Scene} (h : Steady s₀) {op : Op} (hop : op.isSetting = false) :
    Ends (Asked s₀) op.run (op.run s₀).1 :=
  (Op.asks_run (S := fun _ => True) hop fun _ _ => trivial).ends h

/-! ## Sequences of questions -/

/-- After some asking, each question of a sequence is answered as it would have been before. -/
theorem answers_of_asked {s₀ : Scene} (h : Steady s₀) :
    ∀ (ops : List Op) (s : Scene), (∀ op ∈ ops, op.isSetting = false) → Asked s₀ s →
      (trace (ops.map .call) s).map (fun e => e.2.answer) =
        ops.map fun op => ((Move.call op).step s₀).1.answer
  | [], _, _, _ => rfl
  | op :: ops, s, hops, hs => by
    have hr := Op.ends_run h (hops op List.mem_cons_self)
    obtain ⟨ha, hs'⟩ := hr _ (hs.of_world (World.sameScripts_clear s.2))
    have ha₀ := (hr _ ((Asked.refl s₀).of_world (World.sameScripts_clear s₀.2))).1
    have rest := answers_of_asked h ops _ (fun o ho => hops o (List.mem_cons_of_mem op ho)) hs'
    rw [List.map_cons, trace, List.map_cons, List.map_cons]
    exact List.cons_eq_cons.mpr ⟨ha.trans ha₀.symm, rest⟩

/-- **Laziness cannot be observed.** From any state of a context over properties that stay as they
are, each question of a sequence is answered, or ends with the fault, as if it were the first. -/
theorem asking_order_is_unobservable {s : Scene} (h : Steady s) {ops : List Op}
    (hops : ∀ op ∈ ops, op.isSetting = false) :
    (trace (ops.map .call) s).map (fun e => e.2.answer) =
      ops.map fun op => ((Move.call op).step s).1.answer :=
  answers_of_asked h ops s hops (Asked.refl s)

/-- No user is found on this Windows, each time anew, and still the superuser is known. -/
theorem user_is_missed_each_time :
    ∃ s : Scene, Steady s ∧
      (∀ op ∈ [Op.user, .isRoot, .version, .workingDirectory, .user], op.isSetting = false) ∧
      (trace ([Op.user, .isRoot, .version, .workingDirectory, .user].map .call) s).map
          (fun e => e.2.answer) =
        [.error (.missingIdentity userProperties), .ok (.bool false), .ok (.version ⟨[3, 12]⟩),
         .ok (.text "/srv"), .error (.missingIdentity userProperties)] := by
  let s : Scene :=
    ({ Context.new (.table
         ⟨.ofList [("os.name", "Windows"), ("runtime.version", "3.12-rc")], .process⟩) with
       directorySource := some 0 },
     { World.ofProcess .empty
         (.ofList [("user.name", ⟨fun _ => .error (.foreign .key "uid"), 0⟩)]) Files.none.read with
       sources := [⟨fun _ => .ok (some "/srv/"), 0⟩] })
  have hs : Steady s := by
    refine ⟨fun t ht name script h => ?_, fun id _ script h => ?_⟩
    · cases ht
      have hm : (if "user.name" == name then some _ else none) = some script := h
      split at hm
      · cases hm
        exact fun _ => rfl
      · cases hm
    · obtain rfl : script = ⟨fun _ => .ok (some "/srv/"), 0⟩ :=
        List.mem_singleton.mp (List.mem_of_getElem? h)
      exact fun _ => rfl
  have hops : ∀ op ∈ [Op.user, .isRoot, .version, .workingDirectory, .user],
      op.isSetting = false := by decide
  exact ⟨s, hs, hops, asking_order_is_unobservable hs hops⟩

end HostFacts
