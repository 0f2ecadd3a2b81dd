import HostFacts.Flag
import HostFacts.Proofs.CellHistory

/-!
# A flag detects its trait once in a cycle

A flag remembers what its signal said of the mapping it reads, while the mapping may change at any
time. A cycle starts when the flag is made, and again when it is set to none. The first resolution
of a cycle, unless the flag was set to a value before, goes through the properties of the signal,
the override first, up to the first one that matches. Whatever it finds holds for the rest of the
cycle, a negative answer too.

A history of turns is told like the history of a cell (`Cell.Use`): a resolution reads the cell, a
setting overrides it, and the turns that change the mapping do not touch it.

* `Signal.ReadsUpTo`: a list that is read up to its first match;
* `Signal.tells_detect`: what one pass over a mapping answers and reads;
* `Flag.Shown.Obeys`: what a turn shows after a history;
* `Flag.Follows.take`: one turn keeps the flag in step with its history;
* **`Flag.resolves_once_per_cycle`**: every turn of a run obeys the turns before it, and the order
  of the properties does not show in any answer.
-/

namespace HostFacts

open Act

/-! ## What was read -/

namespace World

theorem reads_read (name : String) (w : World) :
    (w.record (.read name)).reads = w.reads ++ [name] := by
  simp [reads, record, List.filterMap_append]

theorem reads_log (line : LogLine) (w : World) : (w.record (.log line)).reads = w.reads := by
  simp [reads, record, List.filterMap_append]

end World

/-! ## One pass over the properties -/

namespace Signal

/-- Of a list, what is read up to the first match, or all of it if nothing matches. -/
def ReadsUpTo (found : String → Bool) (listed names : List String) : Prop :=
  (∃ before last after, listed = before ++ last :: after ∧ names = before ++ [last] ∧
    (∀ name ∈ before, found name = false) ∧ found last = true) ∨
  (names = listed ∧ ∀ name ∈ listed, found name = false)

/-- The part of a list up to the first match. -/
def upTo (found : String → Bool) : List String → List String
  | [] => []
  | name :: rest => if found name then [name] else name :: upTo found rest

theorem readsUpTo_upTo (found : String → Bool) : ∀ listed : List String,
    ReadsUpTo found listed (upTo found listed)
  | [] => Or.inr ⟨rfl, by simp⟩
  | name :: rest => by
    unfold upTo
    cases hn : found name with
    | true => exact Or.inl ⟨[], name, rest, rfl, rfl, by simp, hn⟩
    | false =>
      rcases readsUpTo_upTo found rest with ⟨before, last, after, rfl, hu, hb, hl⟩ | ⟨hu, hr⟩
      · refine Or.inl ⟨name :: before, last, after, rfl, ?_, ?_, hl⟩
        · exact congrArg (name :: ·) hu
        · exact List.forall_mem_cons.mpr ⟨hn, hb⟩
      · exact Or.inr ⟨congrArg (name :: ·) hu, List.forall_mem_cons.mpr ⟨hn, hr⟩⟩

variable {signal : Signal} {entries : Entries String String}

/-- The properties that tell the trait, the override first. -/
def consulted (signal : Signal) : List String := signal.overrideProperty :: signal.properties

/-- Whether a property matches in a mapping. -/
def foundIn (signal : Signal) (entries : Entries String String) (name : String) : Bool :=
  signal.matcher (entries.get? name)

/-- Whether any property matches in a mapping, the override among them. -/
def detects (signal : Signal) (entries : Entries String String) : Bool :=
  signal.consulted.any (signal.foundIn entries)

/-- The properties that are asked for, up to the first match. -/
def asked (signal : Signal) (entries : Entries String String) : List String :=
  upTo (signal.foundIn entries) signal.consulted

theorem detects_iff : signal.detects entries = true ↔
    ∃ name ∈ signal.consulted, signal.foundIn entries name = true := List.any_eq_true

/-- Some property is asked for, at least the override. -/
theorem asked_ne_nil (signal : Signal) (entries : Entries String String) :
    signal.asked entries ≠ [] := by
  unfold asked consulted upTo
  split <;> exact List.cons_ne_nil _ _

/-- An action that always gives one answer, and reads the given properties on the way. -/
def Tells (x : Act World Bool) (answer : Bool) (names : List String) : Prop :=
  ∀ w, ∃ w', x w = (.ok answer, w') ∧ w'.reads = w.reads ++ names

/-- A property is read and tested; if it does not match, the rest is up to another action. -/
theorem tells_test {name message : String} {x : Act World Bool} {answer : Bool}
    {names : List String} (hx : Tells x answer names) :
    Tells (do
        if signal.matcher (← (Source.mapping entries).lookup name) then
          logLine .debug .flags message
          return true
        else x)
      (signal.foundIn entries name || answer)
      (if signal.foundIn entries name then [name] else name :: names) := by
  intro w
  have hl : (Source.mapping entries).lookup name w =
    (.ok (entries.get? name), w.record (.read name)) := rfl
  have hr := World.reads_read name w
  rw [bind_of_ok hl, foundIn]
  cases signal.matcher (entries.get? name) with
  | true => exact ⟨_, rfl, (World.reads_log _ _).trans hr⟩
  | false =>
    obtain ⟨w', hw, hw'⟩ := hx (w.record (.read name))
    exact ⟨w', hw, by rw [hw', hr, List.append_assoc]; rfl⟩

theorem tells_search (signal : Signal) (entries : Entries String String) :
    ∀ properties : List String, Tells (signal.search (.mapping entries) properties)
      (properties.any (signal.foundIn entries)) (upTo (signal.foundIn entries) properties)
  | [], w => ⟨_, rfl, by rw [World.reads_log, upTo, List.append_nil]⟩
  | name :: rest, w => by
    rw [List.any_cons]
    exact tells_test (tells_search signal entries rest) w

/-- **One pass answers whether any property matches, the override among them, and reads them up to
the first match.** -/
theorem tells_detect (signal : Signal) (entries : Entries String String) :
    Tells (signal.detect (.mapping entries)) (signal.detects entries) (signal.asked entries) := by
  intro w
  unfold detects consulted
  rw [List.any_cons]
  exact tells_test (tells_search signal entries signal.properties) w

end Signal

/-! ## Turns -/

namespace Flag

/-- A turn of a flag or of the mapping that it reads. -/
inductive Turn where
  | resolve
  | set (value : Option Bool)
  | put (name value : String)
  | erase (name : String)
  deriving DecidableEq, Repr

/-- What a turn makes of a mapping. -/
def Turn.edit : Turn → Entries String String → Entries String String
  | .put name value, entries => entries.put name value
  | .erase name, entries => entries.erase name
  | _, entries => entries

/-- Takes a turn; resolving the flag answers with the trait. -/
def Turn.run : Turn → Act (Flag × World) (Option Bool)
  | .resolve => return some (← Flag.resolve)
  | .set value => do
    Flag.set value
    return none
  | .put name value => do
    Act.modify fun t => ({ t.1 with source := t.1.source.put name value }, t.2)
    return none
  | .erase name => do
    Act.modify fun t => ({ t.1 with source := t.1.source.erase name }, t.2)
    return none

/-- A turn with what it showed: how it ended, and which properties were read. -/
structure Shown where
  turn : Turn
  answer : Except Fault (Option Bool)
  reads : List String

/-- Takes a turn with a fresh journal. -/
def take (turn : Turn) (s : Flag × World) : Shown × Flag × World :=
  let (answer, s') := turn.run (s.1, s.2.clear)
  (⟨turn, answer, s'.2.reads⟩, s')

/-- The turns of a run with what they showed. -/
def history : List Turn → Flag × World → List Shown
  | [], _ => []
  | turn :: turns, s => (take turn s).1 :: history turns (take turn s).2

theorem map_turn_history : ∀ (turns : List Turn) (s : Flag × World),
    (history turns s).map Shown.turn = turns
  | [], _ => rfl
  | turn :: turns, s => congrArg (turn :: ·) (map_turn_history turns (take turn s).2)

/-! ## What a history says -/

namespace Shown

/-- What a turn is for the cell of the flag. It works the trait out if it reads properties. -/
def use? : Shown → Option (Cell.Use Bool)
  | ⟨.resolve, answer, reads⟩ => some ⟨.get, answer, if reads = [] then 0 else 1⟩
  | ⟨.set value, answer, _⟩ => some ⟨.override value, answer, 0⟩
  | _ => none

/-- Whether a turn detects the trait, or sets it to a value or to none. -/
def decides : Shown → Bool
  | ⟨.resolve, _, reads⟩ => !reads.isEmpty
  | ⟨.set _, _, _⟩ => true
  | _ => false

/-- The trait that a turn detected, told or set. -/
def value? (u : Shown) : Option Bool := u.use?.bind Cell.Use.settles?

end Shown

/-- The uses of the cell. -/
def uses (past : List Shown) : List (Cell.Use Bool) := past.filterMap Shown.use?

/-- The latest turn that detected the trait or set it. -/
def lastDecision? (past : List Shown) : Option Shown := (past.filter Shown.decides).getLast?

/-- The mapping after the changes of past turns. -/
def edited (entries : Entries String String) (past : List Shown) : Entries String String :=
  past.foldl (fun entries u => u.turn.edit entries) entries

/-- **What a turn shows after a history.** Resolving always answers; setting the flag and changing
the mapping read and answer nothing. -/
structure Shown.Obeys (signal : Signal) (entries : Entries String String) (past : List Shown)
    (u : Shown) : Prop where
  completes : u.turn = .resolve → ∃ trait, u.answer = .ok (some trait)
  /-- Resolving reads properties exactly if no resolution was completed and no value was set since
  the flag was made or last set to none. -/
  reads_iff : u.turn = .resolve →
    (u.reads ≠ [] ↔ ∀ x ∈ Cell.sinceCleared (uses past), x.settles? = none)
  /-- It then reads up to the first match in the mapping as it is then. -/
  reads_upTo : u.reads ≠ [] →
    Signal.ReadsUpTo (signal.foundIn (edited entries past)) signal.consulted u.reads
  /-- The trait is there if any property matches, whatever the override is. -/
  detects : u.turn = .resolve → u.reads ≠ [] → (u.answer = .ok (some true) ↔
    ∃ name ∈ signal.consulted, signal.foundIn (edited entries past) name = true)
  /-- Otherwise it answers with what was last detected or set. -/
  kept : u.turn = .resolve → u.reads = [] →
    ∃ x, lastDecision? past = some x ∧ u.answer = .ok x.value?
  other : u.turn ≠ .resolve → u.reads = [] ∧ u.answer = .ok none

/-! ## One turn -/

variable {signal : Signal} {entries : Entries String String} {source : Source} {c : Cell Bool}
  {w : World} {turn : Turn} {past : List Shown} {s : Flag × World}

/-- A flag that is settled reads nothing. -/
theorem take_resolve_settled (trait : Bool) (w : World) :
    take .resolve (⟨signal, source, .settled trait⟩, w) =
      (⟨.resolve, .ok (some trait), []⟩, ⟨signal, source, .settled trait⟩, w.clear) := rfl

/-- A flag that is not settled is settled by one pass. -/
theorem take_resolve_empty (signal : Signal) (entries : Entries String String) (w : World) :
    ∃ w', take .resolve (⟨signal, .mapping entries, .empty⟩, w) =
      (⟨.resolve, .ok (some (signal.detects entries)), signal.asked entries⟩,
        ⟨signal, .mapping entries, .settled (signal.detects entries)⟩, w') := by
  obtain ⟨w', hd, hr⟩ := Signal.tells_detect signal entries w.clear
  refine ⟨w', ?_⟩
  have hrun : Turn.run .resolve (⟨signal, .mapping entries, .empty⟩, w.clear) =
      (.ok (some (signal.detects entries)),
        ⟨signal, .mapping entries, .settled (signal.detects entries)⟩, w') := by
    simp [Turn.run, resolve, Cell.read, bind_apply, zoom, hd]
  unfold take
  rw [hrun]
  simp only [hr]
  rfl

/-- Any other turn reads nothing and answers nothing. -/
theorem take_of_ne_resolve (h : turn ≠ .resolve) (signal : Signal)
    (entries : Entries String String) (c : Cell Bool) (w : World) :
    take turn (⟨signal, .mapping entries, c⟩, w) =
      (⟨turn, .ok none, []⟩, ⟨signal, .mapping (turn.edit entries),
        match turn with
        | .set value => .ofOption value
        | _ => c⟩, w.clear) := by
  cases turn with
  | resolve => exact absurd rfl h
  | set value | put name value | erase name => rfl

/-! ## Runs follow their history -/

/-- The value that the cell was left at. -/
def settled? (past : List Shown) : Option Bool := Cell.current? (uses past)

theorem settled?_append (past : List Shown) (u : Shown) :
    settled? (past ++ [u]) =
      match u.use? with
      | none => settled? past
      | some x => if x.clears then none else x.settles?.or (settled? past) := by
  have hu : uses (past ++ [u]) = uses past ++ u.use?.toList := by
    unfold uses
    cases hu : u.use? <;> simp [hu]
  unfold settled?
  rw [hu]
  cases u.use? with
  | none => simp
  | some x => exact Cell.current?_append x

theorem lastDecision?_append (past : List Shown) (u : Shown) :
    lastDecision? (past ++ [u]) = if u.decides then some u else lastDecision? past := by
  unfold lastDecision?
  cases hu : u.decides with
  | true => simp [hu]
  | false => simp [hu]

theorem edited_append (past : List Shown) (u : Shown) :
    edited entries (past ++ [u]) = u.turn.edit (edited entries past) := by
  simp [edited]

/-- The flag holds what the past turns left, of the mapping as they left it. -/
structure Follows (signal : Signal) (entries : Entries String String) (past : List Shown)
    (s : Flag × World) : Prop where
  flag : s.1 = ⟨signal, .mapping (edited entries past), .ofOption (settled? past)⟩
  /-- What was kept is what was last detected or set. -/
  decided : settled? past = (lastDecision? past).bind Shown.value?

theorem follows_start (signal : Signal) (entries : Entries String String) (w : World) :
    Follows signal entries [] (.new (.mapping entries) signal, w) := ⟨rfl, rfl⟩

/-- **A turn shows what the turns before it say**, whichever it is. -/
theorem Follows.obeys (h : Follows signal entries past s) (turn : Turn) :
    (take turn s).1.Obeys signal entries past := by
  obtain ⟨flag, w⟩ := s
  obtain rfl : flag = _ := h.flag
  by_cases hr : turn = .resolve
  · subst hr
    cases hc : settled? past with
    | none =>
      obtain ⟨w', ht⟩ := take_resolve_empty signal (edited entries past) w
      have hn := Signal.asked_ne_nil signal (edited entries past)
      rw [Cell.ofOption, ht]
      exact ⟨fun _ => ⟨_, rfl⟩, fun _ => ⟨fun _ => Cell.current?_eq_none_iff.mp hc, fun _ => hn⟩,
        fun _ => Signal.readsUpTo_upTo _ _, fun _ _ => by simp [← Signal.detects_iff],
        fun _ he => absurd he hn, fun he => absurd rfl he⟩
    | some trait =>
      obtain ⟨x, hx, hv⟩ := Option.bind_eq_some_iff.mp (h.decided.symm.trans hc)
      rw [Cell.ofOption, take_resolve_settled]
      refine ⟨fun _ => ⟨trait, rfl⟩, fun _ => ⟨fun he => absurd rfl he, fun hs => ?_⟩,
        fun he => absurd rfl he, fun _ he => absurd rfl he, fun _ _ => ⟨x, hx, by rw [hv]⟩,
        fun he => absurd rfl he⟩
      have hcur : settled? past = none := Cell.current?_eq_none_iff.mpr hs
      rw [hcur] at hc
      cases hc
  · rw [take_of_ne_resolve hr]
    exact ⟨fun he => absurd he hr, fun he => absurd he hr, fun he => absurd rfl he,
      fun he => absurd he hr, fun he => absurd he hr, fun _ => ⟨rfl, rfl⟩⟩

/-- **One more turn keeps the flag in step with its history.** -/
theorem Follows.take (h : Follows signal entries past s) (turn : Turn) :
    Follows signal entries (past ++ [(take turn s).1]) (take turn s).2 := by
  obtain ⟨flag, w⟩ := s
  obtain rfl : flag = _ := h.flag
  by_cases hr : turn = .resolve
  · subst hr
    cases hc : settled? past with
    | none =>
      obtain ⟨w', ht⟩ := take_resolve_empty signal (edited entries past) w
      obtain ⟨name, names, hn⟩ := List.exists_cons_of_ne_nil
        (Signal.asked_ne_nil signal (edited entries past))
      rw [Cell.ofOption, ht]
      refine ⟨?_, ?_⟩
      · rw [edited_append, settled?_append]
        rfl
      · rw [settled?_append, lastDecision?_append, hn]
        rfl
    | some trait =>
      rw [Cell.ofOption, take_resolve_settled]
      refine ⟨?_, ?_⟩
      · rw [edited_append, settled?_append]
        rfl
      · -- an answer that was kept decides nothing, so the latest decision stays
        rw [settled?_append, lastDecision?_append]
        exact hc.symm.trans h.decided
  · rw [take_of_ne_resolve hr]
    refine ⟨?_, ?_⟩
    · rw [edited_append, settled?_append]
      cases turn with
      | resolve => exact absurd rfl hr
      | set value => cases value <;> rfl
      | put name value | erase name => rfl
    · rw [settled?_append, lastDecision?_append]
      cases turn with
      | resolve => exact absurd rfl hr
      | set value => cases value <;> rfl
      | put name value | erase name => exact h.decided

/-- Every turn of a run obeys the turns before it. -/
theorem Follows.history_obeys : ∀ {turns : List Turn} {past : List Shown} {s : Flag × World},
    Follows signal entries past s → ∀ {before rest : List Shown} {u : Shown},
    history turns s = before ++ u :: rest → u.Obeys signal entries (past ++ before)
  | [], _, _, _, before, _, _, hu => by cases before <;> cases hu
  | turn :: turns, past, s, h, [], rest, u, hu => by
    obtain ⟨rfl, -⟩ := List.cons.inj hu
    rw [List.append_nil]
    exact h.obeys turn
  | turn :: turns, past, s, h, x :: before, rest, u, hu => by
    obtain ⟨rfl, ht⟩ := List.cons.inj hu
    rw [List.append_cons]
    exact (h.take turn).history_obeys ht

/-! ## Signals that test the same -/

/-- Flags whose signals find the same in every mapping answer alike. -/
theorem answers_congr {signal' : Signal}
    (h : ∀ entries, signal'.detects entries = signal.detects entries) :
    ∀ (turns : List Turn) (entries : Entries String String) (c : Cell Bool) (w w' : World),
      (history turns (⟨signal', .mapping entries, c⟩, w)).map Shown.answer =
        (history turns (⟨signal, .mapping entries, c⟩, w')).map Shown.answer
  | [], _, _, _, _ => rfl
  | turn :: turns, entries, c, w, w' => by
    rw [history, history, List.map_cons, List.map_cons]
    by_cases hr : turn = .resolve
    · subst hr
      cases c with
      | settled trait =>
        rw [take_resolve_settled, take_resolve_settled]
        exact congrArg (_ :: ·) (answers_congr h turns entries _ _ _)
      | empty =>
        obtain ⟨w₁, ht⟩ := take_resolve_empty signal entries w'
        obtain ⟨w₁', ht'⟩ := take_resolve_empty signal' entries w
        rw [ht, ht', h entries]
        exact congrArg (_ :: ·) (answers_congr h turns entries _ _ _)
    · rw [take_of_ne_resolve hr, take_of_ne_resolve hr]
      exact congrArg (_ :: ·) (answers_congr h turns _ _ _ _)

/-- **A flag detects its trait once in a cycle.** Every turn of a run obeys the turns before it,
whatever the signal, the mapping and the changes are, and the order in which a signal lists its
properties does not show in any answer. -/
theorem resolves_once_per_cycle (signal : Signal) (entries : Entries String String) (w : World)
    (turns : List Turn) :
    let shown := history turns (.new (.mapping entries) signal, w)
    shown.map Shown.turn = turns ∧
      (∀ past u rest, shown = past ++ u :: rest → u.Obeys signal entries past) ∧
      ∀ properties : List String, properties.Perm signal.properties →
        (history turns (.new (.mapping entries) { signal with properties }, w)).map Shown.answer =
          shown.map Shown.answer := by
  intro shown
  refine ⟨map_turn_history _ _,
    fun past u rest h => (follows_start signal entries w).history_obeys h,
    fun properties hp => answers_congr (fun entries => ?_) _ _ _ _ _⟩
  exact (hp.cons signal.overrideProperty).any_eq

/-- A negative answer is kept while the mapping changes, an override that does not match forces
nothing, and a trait that was set is not detected. -/
theorem negative_answer_is_kept :
    let signal : Signal := ⟨"test", "platctx.test", ["first", "second"], (· == some "yes")⟩
    let shown (properties : List String) := history
      [.resolve, .put "first" "yes", .resolve, .set none, .resolve, .set (some false), .resolve]
      (.new (.mapping (.ofList [("platctx.test", "off")])) { signal with properties }, World.empty)
    List.Perm ["second", "first"] signal.properties ∧
      (shown ["second", "first"]).map Shown.answer = [.ok (some false), .ok none, .ok (some false),
        .ok none, .ok (some true), .ok none, .ok (some false)] ∧
      (shown ["second", "first"]).map Shown.reads = [["platctx.test", "second", "first"],
        [], [], [], ["platctx.test", "second", "first"], [], []] ∧
      (shown signal.properties).map Shown.reads = [["platctx.test", "first", "second"],
        [], [], [], ["platctx.test", "first"], [], []] := by
  intro signal shown
  have hp : List.Perm ["second", "first"] signal.properties := .swap "first" "second" []
  obtain ⟨-, -, hs⟩ := resolves_once_per_cycle signal (.ofList [("platctx.test", "off")])
    World.empty
    [.resolve, .put "first" "yes", .resolve, .set none, .resolve, .set (some false), .resolve]
  exact ⟨hp, (hs _ hp).trans rfl, rfl, rfl⟩

end Flag

end HostFacts
