import HostFacts.Proofs.Layers
import HostFacts.Proofs.Runs

/-!
# Facts that do not interfere

Over a plain mapping, what a move does follows from the properties and from the parts of the context
that it touches, and all other parts stay as they are. So the moves that touch some parts can be
left out of a run, and the moves that touch only others have the outcomes that they had.

* `AgreeOn`, `TwinsOn`: scenes that agree on some parts;
* `Move.alike_run`: a move inside these parts has the same outcome in both;
* `Move.within_run`: a move outside of them changes none;
* `trace_filter`: a run without the moves outside;
* **`separate_facts_do_not_interfere`**: the two traits, the version and the working directory.
-/

namespace HostFacts

open HostFacts.Property Act Query

/-! ## Moves and parts -/

namespace Move

/-- Whether a move concerns all parts: a reset, or a change of the properties or the environment. -/
def isShared : Move → Bool
  | call .reset | put _ _ | erase _ | setVariable _ _ _ | unsetVariable _ _ => true
  | _ => false

/-- The parts that a move touches, changes of the properties apart. -/
def parts : Move → List Part
  | call op => op.parts
  | plug _ => [.directory]
  | _ => []

end Move

namespace Part

/-- The parts that no other part is read with. -/
def separate : List Part :=
  [.fact .constrainedRuntime, .fact .alternateVm, .fact .version, .directory]

/-- Whether a move calls the getter or the setter of a part. -/
def owns : Part → Move → Bool
  | fact F, .call op => op == F.getter || F.isSetter op
  | directory, .call .workingDirectory | directory, .call (.setDirectorySource _)
  | directory, .plug _ => true
  | _, _ => false

variable {p : Part} {m : Move}

/-- The getter and the setter of a separate part touch nothing else. -/
theorem parts_of_owns (hp : p ∈ separate) (h : p.owns m = true) :
    m.isShared = false ∧ m.parts = [p] := by
  simp only [separate, List.mem_cons, List.not_mem_nil, or_false] at hp
  rcases hp with rfl | rfl | rfl | rfl <;> cases m <;> try simp [owns] at h
  all_goals rename_i op
  all_goals cases op <;> first
    | exact ⟨rfl, rfl⟩
    | simp [Fact.getter, Fact.isSetter, Fact.set?] at h

/-- No other moves touch a separate part, but for reports and what concerns all parts. -/
theorem owns_of_mem_parts (hp : p ∈ separate) (hm : m ≠ .call .describe) (hs : m.isShared = false)
    (h : p ∈ m.parts) : p.owns m = true := by
  simp only [separate, List.mem_cons, List.not_mem_nil, or_false] at hp
  rcases hp with rfl | rfl | rfl | rfl <;> cases m <;> try simp [Move.parts] at h
  all_goals try rfl
  all_goals rename_i op
  all_goals cases op <;> first
    | rfl
    | exact absurd rfl hm
    | (simp [Move.isShared] at hs; done)
    | simp [Op.parts, Fact.parts] at h

end Part

/-! ## Scenes that agree on some parts -/

/-- The scenes have the same properties, and the same in the given parts. -/
structure AgreeOn (S : Part → Prop) (s s' : Scene) : Prop where
  source : s'.1.source = s.1.source
  cell : ∀ F : Fact, S (.fact F) → F.cell s'.1 = F.cell s.1
  directory : S .directory →
    s'.1.directorySource = s.1.directorySource ∧ s'.2.sources = s.2.sources

/-- Besides, the properties are a plain mapping, and the same happened so far. -/
structure TwinsOn (S : Part → Prop) (s s' : Scene) : Prop extends AgreeOn S s s' where
  plain : ∃ entries, s.1.source = .mapping entries
  journal : s'.2.journal = s.2.journal

variable {S : Part → Prop} {s s' : Scene}

instance (S : Part → Prop) : IsPreorder Scene (AgreeOn S) where
  refl _ := ⟨rfl, fun _ _ => rfl, fun _ => ⟨rfl, rfl⟩⟩
  trans _ _ _ h h' := ⟨h'.source.trans h.source, fun F hF => (h'.cell F hF).trans (h.cell F hF),
    fun hd => ⟨(h'.directory hd).1.trans (h.directory hd).1,
      (h'.directory hd).2.trans (h.directory hd).2⟩⟩

theorem AgreeOn.symm (h : AgreeOn S s s') : AgreeOn S s' s :=
  ⟨h.source.symm, fun F hF => (h.cell F hF).symm,
    fun hd => ⟨(h.directory hd).1.symm, (h.directory hd).2.symm⟩⟩

/-- The same cell for the same fact keeps the agreement. -/
theorem AgreeOn.put (h : AgreeOn S s s') (F : Fact) (a : Cell F.Val) :
    AgreeOn S (F.put a s.1, s.2) (F.put a s'.1, s'.2) := by
  refine ⟨by simpa using h.source, fun G hG => ?_, by simpa using h.directory⟩
  show G.cell (F.put a s'.1) = G.cell (F.put a s.1)
  by_cases hFG : F = G
  · subst hFG
    rw [Fact.cell_put, Fact.cell_put]
  · rw [Fact.cell_put_of_ne hFG, Fact.cell_put_of_ne hFG]
    exact h.cell G hG

/-- A change of the surroundings that no part sees keeps the agreement. -/
theorem TwinsOn.of_world (h : TwinsOn S s s') {w w' : World} (hj : w'.journal = w.journal)
    (hw : w.sources = s.2.sources) (hw' : w'.sources = s'.2.sources) :
    TwinsOn S (s.1, w) (s'.1, w') :=
  ⟨⟨h.source, h.cell, fun hd => ⟨(h.directory hd).1, by
    show w'.sources = w.sources
    rw [hw, hw', (h.directory hd).2]⟩⟩, h.plain, hj⟩

theorem TwinsOn.record (h : TwinsOn S s s') (e : Event) :
    TwinsOn S (s.1, s.2.record e) (s'.1, s'.2.record e) :=
  h.of_world (congrArg (List.cons e) h.journal) rfl rfl

/-! ## Moves inside the parts -/

namespace Query

theorem alike_note (level : Level) (logger : Logger) (message : String) :
    Alike (TwinsOn S) (note level logger message) :=
  fun _ _ h => ⟨rfl, h.record _⟩

theorem alike_lookup (name : String) : Alike (TwinsOn S) (lookup name) := by
  intro s s' h
  obtain ⟨entries, hs⟩ := h.plain
  rw [lookup_mapping hs, lookup_mapping (h.source.trans hs)]
  exact ⟨rfl, h.record _⟩

theorem alike_callSource (hd : S .directory) (id : Nat) :
    Alike (TwinsOn S) (ofWorld (callSource id)) := by
  intro s s' h
  have hsources : s'.2.sources = s.2.sources := (h.directory hd).2
  show (callSource id s'.2).1 = (callSource id s.2).1 ∧
    TwinsOn S (s.1, (callSource id s.2).2) (s'.1, (callSource id s'.2).2)
  unfold callSource
  rw [hsources]
  cases s.2.sources[id]? with
  | none => exact ⟨rfl, h⟩
  | some script =>
    exact ⟨rfl, ⟨h.source, h.cell, fun _ => ⟨(h.directory hd).1, rfl⟩⟩, h.plain, h.journal⟩

theorem alike_workingDirectory (hd : S .directory) : Alike (TwinsOn S) workingDirectory :=
  alike_workingDirectory_of_source (fun _ _ h => (h.directory hd).1) alike_note (alike_lookup _)
    (alike_callSource hd)

theorem alike_put (F : Fact) (a : Cell F.Val) : Alike (TwinsOn S) (update (F.put a)) :=
  fun _ _ h => ⟨rfl, h.toAgreeOn.put F a, by simpa [update] using h.plain, h.journal⟩

theorem alike_ask {F : Fact} (hF : S (.fact F)) (h : Alike (TwinsOn S) F.workOut) :
    Alike (TwinsOn S) F.ask :=
  alike_ask_of_cell (fun _ _ ht => ht.cell F hF) (alike_put F ·) h

end Query

namespace Move

/-- A reset forgets all parts. -/
theorem alike_reset : Alike (TwinsOn S) Op.reset.run := by
  rintro ⟨c, w⟩ ⟨c', w'⟩ ht
  rw [run_reset, run_reset]
  exact ⟨rfl, ⟨ht.source, fun F _ => by simp, fun hd => ⟨rfl, (ht.directory hd).2⟩⟩, ht.plain,
    ht.journal⟩

/-- A change of the properties is one for all parts. -/
theorem alike_withSource (f : Source → Source)
    (hf : ∀ entries, ∃ entries', f (.mapping entries) = .mapping entries') :
    Alike (TwinsOn S) (do
      update fun c => { c with source := f c.source }
      return .null : Query Value) := by
  intro s s' ht
  obtain ⟨entries, hs⟩ := ht.plain
  refine ⟨rfl, ⟨congrArg f ht.source, fun F hF => ?_, ht.directory⟩, ?_, ht.journal⟩
  · exact (Fact.cell_withSource _).trans ((ht.cell F hF).trans (Fact.cell_withSource _).symm)
  · obtain ⟨entries', he⟩ := hf entries
    exact ⟨entries', (congrArg f hs).trans he⟩

end Move

theorem Op.alike_run {op : Op} (h : ∀ p ∈ op.parts, S p) : Alike (TwinsOn S) op.run := by
  cases hop : op.isSetting with
  | false =>
    exact (Op.asks_run hop h).alike alike_note (fun name _ => alike_lookup name)
      alike_workingDirectory fun _ => alike_ask
  | true =>
    rintro ⟨c, w⟩ ⟨c', w'⟩ ht
    rcases Fact.exists_set_of_isSetting hop with rfl | ⟨id, rfl⟩ | ⟨F, e | a, hF⟩
    · exact Move.alike_reset (c, w) (c', w') ht
    · rw [run_setDirectorySource, run_setDirectorySource]
      exact ⟨rfl, ⟨ht.source, fun F hF => by simpa using ht.cell F hF,
        fun hd => ⟨rfl, (ht.directory hd).2⟩⟩, ht.plain, ht.journal⟩
    · rw [Fact.run_set_of_error hF, Fact.run_set_of_error hF]
      exact ⟨rfl, ht⟩
    · rw [Fact.run_set_of_ok hF, Fact.run_set_of_ok hF]
      exact ⟨rfl, (alike_put F a _ _ ht).2⟩

namespace Move

/-- **A move inside the given parts has one outcome.** -/
theorem alike_run : ∀ {m : Move}, m.isShared = true ∨ (∀ p ∈ m.parts, S p) →
    Alike (TwinsOn S) m.run
  | call op, h => by
    rcases h with h | h
    · obtain rfl : op = .reset := by
        cases op <;> first | rfl | simp [isShared] at h
      exact alike_reset
    · exact Op.alike_run h
  | plug source, h => by
    have hd : S .directory := by simpa [isShared, parts] using h
    intro s s' ht
    have hs : s'.2.sources = s.2.sources := (ht.directory hd).2
    refine ⟨rfl, ⟨ht.source, fun F hF => ?_, fun _ => ?_⟩, ht.plain, ht.journal⟩
    · exact (Fact.cell_withDirectorySource _).trans
        ((ht.cell F hF).trans (Fact.cell_withDirectorySource _).symm)
    show some s'.2.sources.length = some s.2.sources.length ∧
      s'.2.sources ++ [source] = s.2.sources ++ [source]
    rw [hs]
    exact ⟨rfl, rfl⟩
  | put name value, _ => alike_withSource (Source.put name value) fun _ => ⟨_, rfl⟩
  | erase name, _ => alike_withSource (Source.erase name) fun _ => ⟨_, rfl⟩
  | setVariable _ _ _, _ => fun _ _ ht => ⟨rfl, ht.of_world ht.journal rfl rfl⟩
  | unsetVariable _ _, _ => fun _ _ ht => ⟨rfl, ht.of_world ht.journal rfl rfl⟩

end Move

/-! ## Moves outside the parts -/

namespace Query

theorem within_agree_lookup (name : String) : Within (AgreeOn S) (lookup name) := by
  intro s
  refine ⟨rfl, fun _ _ => rfl, fun _ => ⟨rfl, ?_⟩⟩
  show (s.1.source.lookup name s.2).2.sources = s.2.sources
  cases s.1.source with
  | mapping entries => rfl
  | table t => exact (Table.lookup_eq_iff_sees.mp (Prod.eta (t.lookup name s.2)).symm).sources

theorem within_agree_workingDirectory (hd : ¬ S .directory) :
    Within (AgreeOn S) workingDirectory := by
  intro s
  have hc : onContext Eq s (workingDirectory s).2 := within_workingDirectory s
  exact ⟨congrArg Context.source hc.symm, fun F _ => congrArg F.cell hc.symm,
    fun h => absurd h hd⟩

theorem within_agree_put {F : Fact} (hF : ¬ S (.fact F)) (a : Cell F.Val) :
    Within (AgreeOn S) (update (F.put a)) := by
  refine fun s => ⟨Fact.source_put a, fun G hG => ?_, fun _ => ⟨Fact.directorySource_put a, rfl⟩⟩
  have hFG : F ≠ G := by
    rintro rfl
    exact hF hG
  exact Fact.cell_put_of_ne hFG a

theorem within_agree_ask {F : Fact} (hF : ¬ S (.fact F)) (h : Within (AgreeOn S) F.workOut) :
    Within (AgreeOn S) F.ask := by
  have resolve : Within (AgreeOn S) F.resolve :=
    h.bind fun a => (within_agree_put hF _).bind fun _ => within_pure a
  rintro ⟨c, w⟩
  cases hc : F.cell c with
  | settled a =>
    rw [Fact.ask_of_settled hc]
    exact refl_of (AgreeOn S) (c, w)
  | empty =>
    rw [Fact.ask_of_empty hc]
    exact resolve (c, w)

end Query

/-- **A move outside the given parts changes none of them.** -/
theorem Move.within_run : ∀ {m : Move}, m.isShared = false → (∀ p ∈ m.parts, ¬ S p) →
    Within (AgreeOn S) m.run
  | call op, hs, h => by
    cases hop : op.isSetting with
    | false =>
      exact (Op.asks_run (S := (· ∈ op.parts)) hop fun _ hp => hp).within
        (fun _ _ _ _ => ⟨rfl, fun _ _ => rfl, fun _ => ⟨rfl, rfl⟩⟩) within_agree_lookup
        (fun hd => within_agree_workingDirectory (h _ hd)) fun F hF => within_agree_ask (h _ hF)
    | true =>
      rintro ⟨c, w⟩
      show AgreeOn S _ (op.run (c, w)).2
      rcases Fact.exists_set_of_isSetting hop with rfl | ⟨id, rfl⟩ | ⟨F, e | a, hF⟩
      · simp [isShared] at hs
      · rw [run_setDirectorySource]
        exact ⟨rfl, fun F _ => Fact.cell_withDirectorySource _,
          fun hd => absurd hd (h _ (by simp [parts, Op.parts]))⟩
      · rw [Fact.run_set_of_error hF]
        exact refl_of (AgreeOn S) (c, w)
      · have hp : ¬ S (.fact F) := h _ (by simp [parts, Fact.parts_of_set hF])
        rw [Fact.run_set_of_ok hF]
        exact within_agree_put hp a (c, w)
  | plug source, _, h => by
    intro s
    exact ⟨rfl, fun F _ => Fact.cell_withDirectorySource _,
      fun hd => absurd hd (h _ (by simp [parts]))⟩
  | put _ _, hs, _ | erase _, hs, _ | setVariable _ _ _, hs, _ | unsetVariable _ _, hs, _ => by
    simp [isShared] at hs

/-! ## Runs without some moves -/

/-- **A run without the moves outside some parts.** The moves that stay are inside, and each has the
outcome that it had. -/
theorem trace_filter {keep : Move → Bool} : ∀ (moves : List Move) (s s' : Scene),
    (∀ m ∈ moves, keep m = true → m.isShared = true ∨ ∀ p ∈ m.parts, S p) →
    (∀ m ∈ moves, keep m = false → m.isShared = false ∧ ∀ p ∈ m.parts, ¬ S p) →
    (∃ entries, s.1.source = .mapping entries) → AgreeOn S s s' →
    trace (moves.filter keep) s' = (trace moves s).filter fun e => keep e.1
  | [], _, _, _, _, _, _ => rfl
  | m :: moves, s, s', hin, hout, hs, ha => by
    have hin' := fun n hn => hin n (List.mem_cons_of_mem m hn)
    have hout' := fun n hn => hout n (List.mem_cons_of_mem m hn)
    rw [trace]
    cases hk : keep m with
    | true =>
      have ht : TwinsOn S (s.1, s.2.clear) (s'.1, s'.2.clear) :=
        ⟨⟨ha.source, ha.cell, ha.directory⟩, hs, rfl⟩
      obtain ⟨hr, ht'⟩ := Move.alike_run (hin m List.mem_cons_self hk) _ _ ht
      have ho : (m.step s').1 = (m.step s).1 := by
        rw [Move.step_fst, Move.step_fst, hr, ht'.journal]
      have rest := trace_filter moves (m.step s).2 (m.step s').2 hin' hout' ht'.plain ht'.toAgreeOn
      rw [List.filter_cons_of_pos hk, List.filter_cons_of_pos (by exact hk), trace, ho, rest]
    | false =>
      obtain ⟨hsh, hp⟩ := hout m List.mem_cons_self hk
      have hc : AgreeOn S (s.1, s.2.clear) (m.step s).2 := Move.within_run hsh hp _
      have hw : AgreeOn S s (m.step s).2 := ⟨hc.source, hc.cell, hc.directory⟩
      have hs' : ∃ entries, (m.step s).2.1.source = .mapping entries := by rwa [hw.source]
      have rest := trace_filter moves (m.step s).2 s' hin' hout' hs'
        (trans_of (AgreeOn S) hw.symm ha)
      rw [List.filter_cons_of_neg (by simp [hk]), List.filter_cons_of_neg (by simp [hk]), rest]

/-- **The two traits, the version and the working directory do not interfere with the rest.** Take a
run over a plain mapping that makes no report. Without the calls of other getters and setters, each
call of the getter and the setter of such a part has the same outcome. Without these calls
themselves, each other move has the same outcome. -/
theorem separate_facts_do_not_interfere {p : Part} (hp : p ∈ Part.separate)
    {entries : Entries String String} {s : Scene} (hs : s.1.source = .mapping entries)
    {moves : List Move} (hm : ∀ m ∈ moves, m ≠ .call .describe) :
    trace (moves.filter fun m => p.owns m || m.isShared) s =
        (trace moves s).filter (fun e => p.owns e.1 || e.1.isShared) ∧
      trace (moves.filter fun m => !p.owns m) s = (trace moves s).filter fun e => !p.owns e.1 := by
  constructor
  · refine trace_filter (S := (· = p)) moves s s (fun m _ hk => ?_) (fun m h hk => ?_) ⟨entries, hs⟩
      (refl_of (AgreeOn _) s)
    · rcases Bool.or_eq_true_iff.mp hk with ho | hsh
      · right
        rw [(Part.parts_of_owns hp ho).2]
        exact fun q hq => List.mem_singleton.mp hq
      · exact Or.inl hsh
    · obtain ⟨ho, hsh⟩ := Bool.or_eq_false_iff.mp hk
      refine ⟨hsh, ?_⟩
      rintro q hq rfl
      exact Bool.noConfusion (ho.symm.trans (Part.owns_of_mem_parts hp (hm m h) hsh hq))
  · refine trace_filter (S := (· ≠ p)) moves s s (fun m h hk => ?_) (fun m _ hk => ?_) ⟨entries, hs⟩
      (refl_of (AgreeOn _) s)
    · cases hsh : m.isShared with
      | true => exact Or.inl rfl
      | false =>
        right
        rintro q hq rfl
        simp [Part.owns_of_mem_parts hp (hm m h) hsh hq] at hk
    · obtain ⟨hsh, hparts⟩ := Part.parts_of_owns hp (by simpa using hk)
      refine ⟨hsh, ?_⟩
      rw [hparts]
      exact fun q hq => not_not_intro (List.mem_singleton.mp hq)

/-- One build string decides both traits, and each is detected as if the other were not. -/
theorem traits_share_a_build :
    ∃ (s : Scene) (moves : List Move),
      Part.fact .constrainedRuntime ∈ Part.separate ∧ s.1.source = .mapping .empty ∧
      (∀ m ∈ moves, m ≠ .call .describe) ∧
      (trace moves s).map (fun e => e.2.answer) =
        [.ok (.bool false), .ok .null, .ok (.bool true), .ok (.text ""), .ok .null,
         .error (.missingVersion versionProperties), .ok (.bool true)] ∧
      trace (moves.filter fun m => (Part.fact .constrainedRuntime).owns m || m.isShared) s =
        (trace moves s).filter
          (fun e => (Part.fact .constrainedRuntime).owns e.1 || e.1.isShared) ∧
      trace (moves.filter fun m => !(Part.fact .constrainedRuntime).owns m) s =
        (trace moves s).filter fun e => !(Part.fact .constrainedRuntime).owns e.1 := by
  let s : Scene := (Context.new (.mapping .empty), World.empty)
  let moves : List Move :=
    [.call .isConstrainedRuntime, .put "runtime.build" "PyPy Android", .call .isAlternateVm,
     .call .osType, .call .reset, .call .version, .call .isConstrainedRuntime]
  have hp : Part.fact .constrainedRuntime ∈ Part.separate := by decide
  have hm : ∀ m ∈ moves, m ≠ .call .describe := by simp [moves]
  have hs : s.1.source = .mapping .empty := rfl
  exact ⟨s, moves, hp, hs, hm, by rfl, separate_facts_do_not_interfere hp hs hm⟩

end HostFacts
