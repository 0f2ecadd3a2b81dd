import HostFacts.Path
import HostFacts.Proofs.LetterCase

/-!
# Comparable forms of paths

On Windows a path is compared in lower case, which is no map of characters: a sigma takes the form
that the letters around it ask for, and points between them are passed over. Separators of paths are
not passed over and have no case. So a path can be taken apart at its separators before it is taken
in lower case or after it.

* `Separator`, `separator_slash`, `separator_backslash`: what is needed of a separator;
* `comparableChars_append_cons`: the two sides of a separator are compared on their own;
* `splitAll_comparableChars`: the parts of the form are the forms of the parts;
* **`comparable_is_normal_form`**: the laws of the comparable form, on Windows and elsewhere.
-/

namespace HostFacts.Path

open HostFacts.Text

/-! ## Separators -/

/-- A break of ASCII that is no letter, so that lower case makes none of other characters. -/
structure Separator (c : Char) : Prop extends Breaks c where
  ascii : c.toNat < 128
  letter : c.isLower = false

theorem separator_slash : Separator '/' where
  toBreaks := breaks_of_ascii (by decide) (by decide) (by decide)
  ascii := by decide
  letter := by decide

theorem separator_backslash : Separator '\\' where
  toBreaks := breaks_of_ascii (by decide) (by decide) (by decide)
  ascii := by decide
  letter := by decide

/-! ## Characters -/

/-- The characters of the comparable form. -/
def comparableChars (windows : Bool) (s : List Char) : List Char := if windows then lower s else s

theorem toList_comparable (path : Option String) (windows : Bool) :
    (comparable path windows).toList = comparableChars windows (path.getD "").toList := by
  unfold comparable comparableChars
  cases windows with
  | true => exact toList_onChars lower (path.getD "")
  | false => rfl

section Characters

variable {windows : Bool} {sep : Char} {s t : List Char}

theorem comparableChars_comparableChars (windows : Bool) (s : List Char) :
    comparableChars windows (comparableChars windows s) = comparableChars windows s := by
  cases windows with
  | true => exact lower_lower s
  | false => rfl

/-- **The two sides of a separator are compared on their own.** -/
theorem comparableChars_append_cons (hsep : Separator sep) (windows : Bool) (s t : List Char) :
    comparableChars windows (s ++ sep :: t) =
      comparableChars windows s ++ sep :: comparableChars windows t := by
  cases windows with
  | true => exact lower_append_cons hsep.toBreaks s t
  | false => rfl

/-- A form holds no separator that the path does not hold. -/
theorem not_mem_comparableChars (hsep : Separator sep) (h : sep ∉ s) :
    sep ∉ comparableChars windows s := by
  cases windows with
  | false => exact h
  | true =>
    intro hm
    obtain ⟨c, hc, l, r, hf⟩ := exists_of_mem_lowerFrom hm
    rcases mem_formIn hf with hf | ⟨-, rfl⟩
    · rcases isLower_of_mem_lowerChar hf hsep.ascii with rfl | hl
      · exact h hc
      · exact absurd (hsep.letter.symm.trans hl) (by decide)
    · exact absurd hsep.ascii (by decide)

theorem comparableChars_joinWith (hsep : Separator sep) (windows : Bool) :
    ∀ parts : List (List Char), comparableChars windows (joinWith [sep] parts) =
      joinWith [sep] (parts.map (comparableChars windows))
  | [] => by cases windows <;> rfl
  | [_] => rfl
  | p :: q :: ps => by
    have ih := comparableChars_joinWith hsep windows (q :: ps)
    have hform : joinWith [sep] ((p :: q :: ps).map (comparableChars windows)) =
      comparableChars windows p ++ [sep] ++
        joinWith [sep] ((q :: ps).map (comparableChars windows)) := rfl
    rw [hform, ← ih, joinWith_cons_cons, List.append_assoc, List.append_assoc,
      List.singleton_append, List.singleton_append, comparableChars_append_cons hsep]

/-- **The parts of the form are the forms of the parts.** -/
theorem splitAll_comparableChars (hsep : Separator sep) (windows : Bool) (s : List Char) :
    splitAll sep (comparableChars windows s) =
      (splitAll sep s).map (comparableChars windows) := by
  have hs : comparableChars windows s =
      joinWith [sep] ((splitAll sep s).map (comparableChars windows)) := by
    rw [← comparableChars_joinWith hsep, joinWith_splitAll]
  rw [hs]
  refine splitAll_joinWith (mt List.map_eq_nil_iff.mp (splitAll_ne_nil sep s)) fun p hp => ?_
  obtain ⟨q, hq, rfl⟩ := List.mem_map.mp hp
  exact not_mem_comparableChars hsep fun hm => (mem_of_mem_splitAll hq sep hm).2 rfl

theorem comparableChars_eq_iff (hsep : Separator sep) :
    comparableChars windows s = comparableChars windows t ↔
      (splitAll sep s).map (comparableChars windows) =
        (splitAll sep t).map (comparableChars windows) := by
  rw [← splitAll_comparableChars hsep, ← splitAll_comparableChars hsep]
  constructor
  · exact congrArg (splitAll sep)
  · intro h
    rw [← joinWith_splitAll sep (comparableChars windows s), h, joinWith_splitAll]

end Characters

/-! ## Paths -/

/-- The components of a path, the empty ones too. -/
def components (sep : Char) (path : String) : List String :=
  (splitAll sep path.toList).map String.ofList

section Paths

variable {sep : Char} {a b : String}

theorem comparable_push_append (hsep : Separator sep) (windows : Bool) (a b : String) :
    comparable (some (a.push sep ++ b)) windows =
      (comparable (some a) windows).push sep ++ comparable (some b) windows := by
  apply String.toList_inj.mp
  simp only [toList_comparable, String.toList_append, String.toList_push, Option.getD_some,
    List.append_assoc, List.singleton_append, comparableChars_append_cons hsep]

theorem toList_comparable_component (windows : Bool) (sep : Char) (path : String) :
    ((components sep path).map fun p => comparable (some p) windows).map String.toList =
      (splitAll sep path.toList).map (comparableChars windows) := by
  unfold components
  rw [List.map_map, List.map_map]
  refine List.map_congr_left fun p _ => ?_
  simp only [Function.comp_apply, toList_comparable, Option.getD_some, String.toList_ofList]

/-- **Whole paths are compared by their components.** -/
theorem comparable_eq_iff (hsep : Separator sep) (windows : Bool) (a b : String) :
    comparable (some a) windows = comparable (some b) windows ↔
      (components sep a).map (fun p => comparable (some p) windows) =
        (components sep b).map (fun p => comparable (some p) windows) := by
  rw [← String.toList_inj, toList_comparable, toList_comparable, Option.getD_some,
    Option.getD_some, comparableChars_eq_iff hsep, ← toList_comparable_component,
    ← toList_comparable_component]
  exact List.map_inj_right fun _ _ => String.toList_inj.mp

/-- The case of the ASCII letters of a path does not count on Windows. -/
theorem comparable_of_toLower_eq (h : a.toLower = b.toLower) :
    comparable (some a) true = comparable (some b) true := by
  have hl : a.toList.map Char.toLower = b.toList.map Char.toLower := by
    rw [← String.toList_map, ← String.toList_map]
    exact congrArg String.toList h
  show onChars lower a = onChars lower b
  rw [onChars, onChars, ← lower_map_toLower, hl, lower_map_toLower]

end Paths

/-- **The comparable form of a path is a normal form that goes along with joining.** The form is its
own form. The form of two parts with a separator between them is the forms of the parts with the
separator between them; so to compare whole paths is to compare them component by component, and the
form of a directory, with or without the separator at its end, is what the forms of all paths in it
start with. On Windows the case of ASCII letters does not count, and elsewhere only equal paths
have the same form. -/
theorem comparable_is_normal_form :
    (∀ (path : Option String) (windows : Bool),
      comparable (some (comparable path windows)) windows = comparable path windows) ∧
    (∀ (sep : Char) (windows : Bool) (a b : String), sep = '/' ∨ sep = '\\' →
      let form (path : String) := comparable (some path) windows
      form (a.push sep ++ b) = (form a).push sep ++ form b ∧
      (form a = form b ↔ (components sep a).map form = (components sep b).map form) ∧
      (form a).toList <+: (form (a.push sep ++ b)).toList ∧
      (form (a.push sep)).toList <+: (form (a.push sep ++ b)).toList) ∧
    (∀ a b : String, a.toLower = b.toLower →
      comparable (some a) true = comparable (some b) true) ∧
    ∀ a b : String, comparable (some a) false = comparable (some b) false → a = b := by
  refine ⟨fun path windows => ?_, fun sep windows a b h => ?_,
    fun a b => comparable_of_toLower_eq, fun a b h => h⟩
  · apply String.toList_inj.mp
    rw [toList_comparable, Option.getD_some, toList_comparable, comparableChars_comparableChars]
  · intro form
    have hsep : Separator sep := by
      rcases h with rfl | rfl
      · exact separator_slash
      · exact separator_backslash
    have hjoin : form (a.push sep ++ b) = (form a).push sep ++ form b :=
      comparable_push_append hsep windows a b
    have hend : form (a.push sep) = (form a).push sep := by
      have hempty : form "" = "" := by cases windows <;> rfl
      have := comparable_push_append hsep windows a ""
      rwa [String.append_empty, show comparable (some "") windows = "" from hempty,
        String.append_empty] at this
    refine ⟨hjoin, comparable_eq_iff hsep windows a b, ?_, ?_⟩
    · rw [hjoin, String.toList_append, String.toList_push, List.append_assoc]
      exact List.prefix_append _ _
    · rw [hjoin, hend, String.toList_append]
      exact List.prefix_append _ _

/-- A sigma at the end of a directory stays final. -/
theorem comparable_below_final_sigma :
    comparable (some ("C:\\ΟΔΟΣ".push '\\' ++ "Ann")) true = "c:\\οδος\\ann" ∧
      comparable (some "C:\\ΟΔΟΣ") true = comparable (some "c:\\ΟΔΟΣ") true ∧
      comparable (some "Ann") false ≠ comparable (some "ann") false := by
  obtain ⟨-, hjoin, hcase, heq⟩ := comparable_is_normal_form
  have hletters : "C:\\ΟΔΟΣ".toLower = "c:\\ΟΔΟΣ".toLower := by
    apply String.toList_inj.mp
    show (String.map _ _).toList = (String.map _ _).toList
    rw [String.toList_map, String.toList_map]
    decide
  refine ⟨?_, hcase _ _ hletters, fun h => absurd (heq _ _ h) (by decide)⟩
  calc comparable (some ("C:\\ΟΔΟΣ".push '\\' ++ "Ann")) true
      = (comparable (some "C:\\ΟΔΟΣ") true).push '\\' ++ comparable (some "Ann") true :=
        (hjoin '\\' true "C:\\ΟΔΟΣ" "Ann" (Or.inr rfl)).1
    _ = "c:\\οδος\\ann" := by decide +kernel

/-- A point is passed over, so what follows it counts. -/
example : comparable (some "ΟΔΟΣ.") true = "οδος." ∧
    comparable (some "ΟΔΟΣ.Α") true = "οδοσ.α" := by
  decide +kernel

end HostFacts.Path
