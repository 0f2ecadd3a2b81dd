import HostFacts.Proofs.FlagHistory
import HostFacts.Proofs.LetterCase
import HostFacts.Proofs.TableNames

/-!
# What is detected stays detected in longer values

A signal that looks for a word trims each value and takes it in lower case. Neither is harmless when
a value grows: trimming goes to other ends, and a sigma that ended a word may stand within one. A
word of ASCII is found all the same, so the signal only gains by text around a value and by further
properties. The case of ASCII letters never counts, for any word.

Values are read from a plain mapping or from a table whose providers can be relied on
(`Source.Steady`). Then a pass finds under each name what a single lookup finds there.

* `matchesWord_of_isInfix`, `matchesWord_toLower`: what is done to a value and does not hide a word;
* `Signal.ends_detect`: a pass answers whether any consulted property matches;
* **`Signal.detection_grows_with_values`**: what is detected in a mapping is detected in every one
  that has longer values.
-/

namespace HostFacts

open HostFacts.Text Act

/-! ## Values that hold a word -/

section Words

variable {word value longer : String}

theorem matchesWord_some_iff : matchesWord word (some value) = true ↔
    value ≠ "" ∧ lower word.toList <:+: lower (trim value.toList) := by
  rw [← occurs_iff]
  by_cases hv : value = ""
  · subst hv
    constructor
    · intro h
      cases h
    · intro h
      exact absurd rfl h.1
  · have hm : matchesWord word (some value) =
        occurs (lower word.toList) (lower (trim value.toList)) := by
      unfold matchesWord
      split
      · contradiction
      · rename_i h
        exact absurd (Option.some.inj h) hv
      · rename_i h
        rw [Option.some.inj h]
    rw [hm]
    exact ⟨fun h => ⟨hv, h⟩, fun h => h.2⟩

/-- **A word of ASCII that a value holds is held by every longer one**, whatever is around it. -/
theorem matchesWord_of_isInfix (ha : ∀ c ∈ word.toList, c.toNat < 128)
    (hl : value.toList <:+: longer.toList) (h : matchesWord word (some value) = true) :
    matchesWord word (some longer) = true := by
  obtain ⟨hne, hw⟩ := matchesWord_some_iff.mp h
  rw [matchesWord_some_iff]
  constructor
  · rintro rfl
    exact hne (String.toList_inj.mp (List.infix_nil.mp hl))
  · exact isInfix_lower (noSigma_lower_of_ascii ha) (trim_isInfix_trim hl) hw

/-- A sigma that ends a word is another letter once the word goes on. -/
example : matchesWord "ς" (some "ΟΔΟΣ") = true ∧ matchesWord "ς" (some "ΟΔΟΣΑ") = false := by
  decide +kernel

/-- **The case of the ASCII letters of a value does not count.** -/
theorem matchesWord_toLower (word : String) (value : Option String) :
    matchesWord word (value.map String.toLower) = matchesWord word value := by
  cases value with
  | none => rfl
  | some value =>
    have hl : value.toLower.toList = value.toList.map Char.toLower := String.toList_map
    have hne : value.toLower = "" ↔ value = "" := by
      rw [← String.toList_inj, ← String.toList_inj, hl]
      exact List.map_eq_nil_iff
    rw [Option.map_some, Bool.eq_iff_iff, matchesWord_some_iff, matchesWord_some_iff, Ne, hne, hl,
      trim_map_toLower, lower_map_toLower]

end Words

/-! ## Sources that can be relied on -/

theorem World.OnlyCalled.record {w w' : World} (h : w.OnlyCalled w') (e : Event) :
    w.OnlyCalled (w'.record e) :=
  trans_of World.OnlyCalled h ⟨World.sameScripts_record e w', fun _ => rfl⟩

namespace Source

variable {s : Source} {w : World}

/-- What a lookup finds under a name. -/
def found? (s : Source) (w : World) (name : String) : Option String :=
  (s.lookup name w).1.toOption.join

/-- A plain mapping, or a table whose providers can be relied on. -/
def Steady (s : Source) (w : World) : Prop := ∀ t, s = .table t → (t.providers w).Reliable

theorem steady_mapping (entries : Entries String String) (w : World) :
    (mapping entries).Steady w := by
  intro t ht
  cases ht

/-- **A lookup finds the same each time.** -/
theorem ends_lookup (h : s.Steady w) (name : String) :
    Ends w.OnlyCalled (s.lookup name) (.ok (s.found? w name)) := by
  cases s with
  | mapping entries => exact fun w' hw' => ⟨rfl, hw'.record (.read name)⟩
  | table t => exact Table.ends_lookup (h t rfl) name

/-- All that one source finds under some names is part of what another finds there. -/
def GrowsTo (names : List String) (p : Source) (v : World) (q : Source) (w : World) : Prop :=
  ∀ name ∈ names, ∀ value, p.found? v name = some value →
    ∃ longer, q.found? w name = some longer ∧ value.toList <:+: longer.toList

/-- A mapping grows if a property is put whose old value, if any, is part of the new one. -/
theorem growsTo_put {entries : Entries String String} {name value : String} {v : World}
    (h : ∀ old, entries.get? name = some old → old.toList <:+: value.toList)
    (names : List String) :
    GrowsTo names (mapping entries) v (mapping (entries.put name value)) w := by
  intro n _ old ho
  have ho : entries.get? n = some old := ho
  have hput : (mapping (entries.put name value)).found? w n = (entries.put name value).get? n := rfl
  rw [hput, Entries.get?_put]
  by_cases hn : name = n
  · subst hn
    exact ⟨value, if_pos (beq_self_eq_true name), h old ho⟩
  · exact ⟨old, by rw [if_neg (by simp [hn]), ho], List.infix_rfl⟩

end Source

/-! ## Passes -/

namespace Signal

variable {signal : Signal} {s : Source} {w : World}

theorem ends_logLine (level : Level) (logger : Logger) (message : String) :
    Ends w.OnlyCalled (logLine level logger message) (.ok ()) :=
  fun _ hw' => ⟨rfl, hw'.record _⟩

/-- A property is read and tested; if it does not match, the rest is up to another action. -/
theorem ends_test (h : s.Steady w) (name message : String) {x : Act World Bool} {answer : Bool}
    (hx : Ends w.OnlyCalled x (.ok answer)) :
    Ends w.OnlyCalled (do
        if signal.matcher (← s.lookup name) then
          logLine .debug .flags message
          return true
        else x)
      (.ok (signal.matcher (s.found? w name) || answer)) := by
  refine (Source.ends_lookup h name).bind_ok ?_
  cases signal.matcher (s.found? w name) with
  | true => exact (ends_logLine _ _ _).bind_ok (ends_pure true)
  | false => exact hx

theorem ends_search (h : s.Steady w) (signal : Signal) : ∀ properties : List String,
    Ends w.OnlyCalled (signal.search s properties)
      (.ok (properties.any fun name => signal.matcher (s.found? w name)))
  | [] => (ends_logLine _ _ _).bind_ok (ends_pure false)
  | name :: rest => ends_test h name _ (ends_search h signal rest)

/-- **A pass answers whether any consulted property matches.** -/
theorem ends_detect (h : s.Steady w) (signal : Signal) :
    Ends w.OnlyCalled (signal.detect s)
      (.ok (signal.consulted.any fun name => signal.matcher (s.found? w name))) :=
  ends_test h _ _ (ends_search h signal signal.properties)

theorem fst_detect_of_steady (h : s.Steady w) (signal : Signal) : (signal.detect s w).1 =
    .ok (signal.consulted.any fun name => signal.matcher (s.found? w name)) :=
  (ends_detect h signal w (refl_of World.OnlyCalled w)).1

theorem detect_eq_true_iff (h : s.Steady w) : (signal.detect s w).1 = .ok true ↔
    ∃ name ∈ signal.consulted, signal.matcher (s.found? w name) = true := by
  rw [fst_detect_of_steady h, ← List.any_eq_true]
  exact ⟨Except.ok.inj, congrArg Except.ok⟩

/-! ## Longer values -/

variable {word : String} {p q : Source} {v : World}

/-- What a signal for a word of ASCII detects in a source, it detects in one with longer values. -/
theorem detect_of_growsTo (hm : signal.matcher = matchesWord word)
    (ha : ∀ c ∈ word.toList, c.toNat < 128) (hp : p.Steady v) (hq : q.Steady w)
    (hg : Source.GrowsTo signal.consulted p v q w) (h : (signal.detect p v).1 = .ok true) :
    (signal.detect q w).1 = .ok true := by
  obtain ⟨name, hn, hf⟩ := (detect_eq_true_iff hp).mp h
  refine (detect_eq_true_iff hq).mpr ⟨name, hn, ?_⟩
  rw [hm] at hf ⊢
  cases hv : p.found? v name with
  | none =>
    rw [hv] at hf
    cases hf
  | some value =>
    rw [hv] at hf
    obtain ⟨longer, hl, hi⟩ := hg name hn value hv
    rw [hl]
    exact matchesWord_of_isInfix ha hi hf

/-- **What is detected stays detected in longer values.** A signal that looks for a word of ASCII
and detects its trait in a source detects it in every one that has at least the same properties,
each value perhaps with text around it. So neither a further property nor any text before or after
a value turns it off. The case of the ASCII letters of values does not count. -/
theorem detection_grows_with_values {signal : Signal} {word : String}
    (hm : signal.matcher = matchesWord word) (ha : ∀ c ∈ word.toList, c.toNat < 128) :
    (∀ (p q : Source) (v w : World), p.Steady v → q.Steady w →
      Source.GrowsTo signal.consulted p v q w →
      (signal.detect p v).1 = .ok true → (signal.detect q w).1 = .ok true) ∧
    (∀ (entries : Entries String String) (name value : String) (v w : World),
      name ∉ entries.keys → (signal.detect (.mapping entries) v).1 = .ok true →
      (signal.detect (.mapping (entries.put name value)) w).1 = .ok true) ∧
    (∀ (entries : Entries String String) (name value before after : String) (v w : World),
      entries.get? name = some value → (signal.detect (.mapping entries) v).1 = .ok true →
      (signal.detect (.mapping (entries.put name (before ++ value ++ after))) w).1 = .ok true) ∧
    ∀ (p q : Source) (v w : World), p.Steady v → q.Steady w →
      (∀ name ∈ signal.consulted,
        (p.found? v name).map String.toLower = (q.found? w name).map String.toLower) →
      ∃ trait, (signal.detect p v).1 = .ok trait ∧ (signal.detect q w).1 = .ok trait := by
  refine ⟨fun p q v w => detect_of_growsTo hm ha, ?_, ?_, ?_⟩
  · intro entries name value v w hn
    refine detect_of_growsTo hm ha (Source.steady_mapping _ _) (Source.steady_mapping _ _)
      (Source.growsTo_put (fun old ho => ?_) _)
    exact absurd (Entries.mem_keys_of_get? ho) hn
  · intro entries name value before after v w hv
    refine detect_of_growsTo hm ha (Source.steady_mapping _ _) (Source.steady_mapping _ _)
      (Source.growsTo_put (fun old ho => ?_) _)
    obtain rfl : value = old := Option.some.inj (hv.symm.trans ho)
    rw [String.toList_append, String.toList_append]
    exact ⟨before.toList, after.toList, rfl⟩
  · intro p q v w hp hq hc
    refine ⟨_, fst_detect_of_steady hp signal, ?_⟩
    rw [fst_detect_of_steady hq signal, hm]
    refine congrArg Except.ok (Bool.eq_iff_iff.mpr ?_)
    rw [List.any_eq_true, List.any_eq_true]
    refine exists_congr fun name => and_congr_right fun hn => ?_
    rw [← matchesWord_toLower, ← hc name hn, matchesWord_toLower]

/-- A value that a provider gives with text around, in letters of another script too. -/
theorem detection_with_text_around :
    let s : Source := .mapping (.ofList [("os.version", "Android 13")])
    let w : World := .ofProcess .empty
      (.ofList [("os.version", ⟨fun _ => .ok (some "ΟΔΟΣ Android 13.1\u00a0"), 0⟩)])
      Files.none.read
    (constrainedRuntime.detect s .empty).1 = .ok true ∧
      (constrainedRuntime.detect (.table .empty) w).1 = .ok true := by
  intro s w
  have hd : (constrainedRuntime.detect s .empty).1 = .ok true :=
    (detect_eq_true_iff (Source.steady_mapping _ _)).mpr
      ⟨"os.version", by decide, rfl⟩
  have hw : (w.providers .process).Reliable := Providers.reliable_ofList fun e he => by
    obtain rfl := List.mem_singleton.mp he
    exact ⟨fun _ => rfl, fun f hf => by cases hf⟩
  obtain ⟨grows, -, -, -⟩ :=
    @detection_grows_with_values constrainedRuntime "android" rfl (by simp)
  have hs : (Source.table .empty).Steady w := by
    rintro t ⟨⟩
    exact hw
  refine ⟨hd, grows _ _ .empty w (Source.steady_mapping _ _) hs ?_ hd⟩
  intro name _ value hv
  have hv : (if "os.version" == name then some "Android 13" else none) = some value := hv
  split at hv
  · rename_i hn
    obtain rfl := eq_of_beq hn
    obtain rfl := Option.some.inj hv
    exact ⟨"ΟΔΟΣ Android 13.1\u00a0", rfl, "ΟΔΟΣ ".toList, ".1\u00a0".toList, by decide⟩
  · cases hv

end Signal

end HostFacts
