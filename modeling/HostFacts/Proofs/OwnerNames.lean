import HostFacts.Identity

/-!
# Canonical names of owners

An owner may be decorated with a domain in front and a group behind. Cutting both off leaves an
undecorated name, and of such a name nothing more is cut off; so canonical users are normal forms.
The domain that is cut off a user is what is taken for the group where no group is given.

Groups have no such normal form. A domain that is taken for the group may hold a space, and a group
may be cut to nothing: resolved once more, the first is cut at the space and the second is taken
from the domain.

* `Undecorated`, `undecorated_cut`: what is left of a name is undecorated;
* **`canonical_user_is_normal_form`**: a canonical user is canonical, a part of the name, and the
  whole name exactly if that is blank or undecorated;
* **`owner_splits_at_last_backslash`**: user and group are the two sides of the last backslash;
* `canonicalGroup_eq_self_iff`: the groups that stay as they are;
* **`resolved_group_stays_iff`**: when a resolved group does, and `some_resolved_groups_change`.
-/

namespace HostFacts.Identity

open HostFacts.Text

variable {s a b : List Char}

/-! ## Undecorated names -/

/-- A name without decoration: no backslash but perhaps as the first character, and no space unless
it starts with one. -/
structure Undecorated (s : List Char) : Prop where
  domain : '\\' ∉ s.tail
  group : ' ' ∈ s → s.head? = some ' '

theorem not_mem_tail_of_isInfix {c : Char} (h : a <:+: s) (hs : c ∉ s.tail) : c ∉ a.tail := by
  obtain ⟨x, z, rfl⟩ := h
  intro ha
  refine hs ?_
  cases x with
  | nil =>
    rw [List.nil_append, List.tail_append_of_ne_nil (by rintro rfl; simp at ha)]
    exact List.mem_append_left z ha
  | cons d x =>
    rw [List.cons_append, List.cons_append, List.tail_cons]
    exact List.mem_append_left z (List.mem_append_right x (List.mem_of_mem_tail ha))

theorem withoutDomain_isSuffix (s : List Char) : withoutDomain s <:+ s := by
  by_cases h : '\\' ∈ s.tail
  · obtain ⟨a, b, hd⟩ := exists_domain h
    obtain ⟨-, rfl, -⟩ := domain?_eq_some_iff.mp hd
    rw [withoutDomain_of_domain hd]
    exact ⟨a ++ ['\\'], by rw [List.append_assoc, List.singleton_append]⟩
  · simp only [withoutDomain_of_not_mem h, List.suffix_rfl]

theorem not_mem_tail_withoutDomain (s : List Char) : '\\' ∉ (withoutDomain s).tail := by
  by_cases h : '\\' ∈ s.tail
  · obtain ⟨a, b, hd⟩ := exists_domain h
    obtain ⟨-, -, hb⟩ := domain?_eq_some_iff.mp hd
    rw [withoutDomain_of_domain hd]
    exact fun hm => hb (List.mem_of_mem_tail hm)
  · rwa [withoutDomain_of_not_mem h]

/-- Either nothing is cut off at a space, or the name is cut at its first one. -/
theorem withoutGroup_cases (s : List Char) :
    (withoutGroup s = s ∧ (' ' ∈ s → s.head? = some ' ')) ∨
      ∃ a b, a ≠ [] ∧ ' ' ∉ a ∧ s = a ++ ' ' :: b ∧ withoutGroup s = trim a := by
  by_cases h : ' ' ∈ s → s.head? = some ' '
  · exact Or.inl ⟨withoutGroup_of_head h, h⟩
  · obtain ⟨hm, hh⟩ := Classical.not_imp.mp h
    obtain ⟨a, b, rfl, ha⟩ := List.eq_append_cons_of_mem hm
    have hne : a ≠ [] := by
      rintro rfl
      exact hh rfl
    exact Or.inr ⟨a, b, hne, ha, rfl, withoutGroup_append hne ha⟩

theorem withoutGroup_isInfix (s : List Char) : withoutGroup s <:+: s := by
  rcases withoutGroup_cases s with ⟨h, -⟩ | ⟨a, b, -, -, hs, h⟩
  · simp only [h, List.infix_rfl]
  · rw [h]
    exact (trimWhile_isInfix isSpace a).trans (hs ▸ (List.prefix_append a _).isInfix)

/-- **Nothing is left to be cut off** once the domain and the group were. -/
theorem undecorated_cut (s : List Char) : Undecorated (withoutGroup (withoutDomain s)) where
  domain := not_mem_tail_of_isInfix (withoutGroup_isInfix _) (not_mem_tail_withoutDomain s)
  group := by
    rcases withoutGroup_cases (withoutDomain s) with ⟨h, hg⟩ | ⟨a, b, -, ha, -, h⟩
    · rwa [h]
    · rw [h]
      exact fun hm => absurd (mem_of_mem_trimWhile hm) ha

theorem cut_of_undecorated (h : Undecorated s) : withoutGroup (withoutDomain s) = s := by
  rw [withoutDomain_of_not_mem h.domain, withoutGroup_of_head h.group]

/-! ## Canonical users -/

theorem canonicalUser_of_isBlank {user : Option String} (h : isBlank user = true) (windows : Bool) :
    canonicalUser user windows = user := by
  rw [canonicalUser, h, Bool.true_or, if_pos rfl]

theorem canonicalUser_false (user : Option String) : canonicalUser user false = user := by
  rw [canonicalUser, Bool.not_false, Bool.or_true, if_pos rfl]

theorem canonicalUser_true {u : String} (h : isBlank (some u) = false) :
    canonicalUser (some u) true =
      some (onChars (fun s => withoutGroup (withoutDomain s)) u) := by
  rw [canonicalUser, h, Bool.not_true, Bool.or_false, if_neg Bool.false_ne_true, Option.map_some]

theorem canonicalUser_of_undecorated {u : String} (h : Undecorated u.toList) (windows : Bool) :
    canonicalUser (some u) windows = some u := by
  cases windows with
  | false => exact canonicalUser_false _
  | true =>
    cases hb : isBlank (some u) with
    | true => exact canonicalUser_of_isBlank hb true
    | false => rw [canonicalUser_true hb, onChars, cut_of_undecorated h, String.ofList_toList]

/-- A canonical user is the name itself or an undecorated part of it. -/
theorem canonicalUser_cases (u : String) (windows : Bool) :
    (canonicalUser (some u) windows = some u ∧ (windows = false ∨ isBlank (some u) = true)) ∨
      ∃ r : String, canonicalUser (some u) windows = some r ∧ Undecorated r.toList ∧
        r.toList <:+: u.toList := by
  cases windows with
  | false => exact Or.inl ⟨canonicalUser_false _, Or.inl rfl⟩
  | true =>
    cases hb : isBlank (some u) with
    | true => exact Or.inl ⟨canonicalUser_of_isBlank hb true, Or.inr rfl⟩
    | false =>
      refine Or.inr ⟨_, canonicalUser_true hb, ?_, ?_⟩ <;> rw [toList_onChars]
      · exact undecorated_cut _
      · exact (withoutGroup_isInfix _).trans (withoutDomain_isSuffix _).isInfix

/-- A name that was made canonical stays as it is. -/
theorem canonicalUser_of_eq_some {user : Option String} {name : String} {windows : Bool}
    (h : canonicalUser user windows = some name) :
    canonicalUser (some name) windows = some name := by
  cases user with
  | none => cases (canonicalUser_of_isBlank rfl windows).symm.trans h
  | some u =>
    rcases canonicalUser_cases u windows with ⟨hu, -⟩ | ⟨r, hu, hr, -⟩ <;>
      obtain rfl := Option.some.inj (hu.symm.trans h)
    · exact hu
    · exact canonicalUser_of_undecorated hr windows

/-- **A canonical user is a normal form.** It is canonical itself and a contiguous part of the name
that it was cut from, and it is the whole name exactly if that is blank or undecorated. -/
theorem canonical_user_is_normal_form (u : String) :
    ∃ r : String, canonicalUser (some u) true = some r ∧ canonicalUser (some r) true = some r ∧
      r.toList <:+: u.toList ∧ (r = u ↔ isBlank (some u) = true ∨ Undecorated u.toList) := by
  rcases canonicalUser_cases u true with ⟨hu, hb⟩ | ⟨r, hu, hr, hi⟩
  · replace hb : isBlank (some u) = true := hb.resolve_left (by simp)
    exact ⟨u, hu, hu, List.infix_rfl, fun _ => Or.inl hb, fun _ => rfl⟩
  · refine ⟨r, hu, canonicalUser_of_undecorated hr true, hi, ?_, ?_⟩
    · rintro rfl
      exact Or.inr hr
    · rintro (hb | hd)
      · exact Option.some.inj (hu.symm.trans (canonicalUser_of_isBlank hb true))
      · exact Option.some.inj (hu.symm.trans (canonicalUser_of_undecorated hd true))

example : (["CORP\\EU\\jdoe (Remote Users)", "\\jdoe", " jdoe", "CORP\\", "\ta b"].map fun u =>
    canonicalUser (some u) true) =
      [some "jdoe", some "\\jdoe", some " jdoe", some "", some "a"] := by
  decide

/-! ## Users in a domain -/

/-- The user is in a domain: what is before the last backslash, if that is not the first
character. -/
def InDomain (user : Option String) (d : String) : Prop :=
  d ≠ "" ∧ ∃ r : String, user = some (d ++ "\\" ++ r) ∧ '\\' ∉ r.toList

variable {user group : Option String} {d r : String}

theorem domain?_append (hd : d ≠ "") (hr : '\\' ∉ r.toList) :
    domain? (d ++ "\\" ++ r).toList = some (d.toList, r.toList) :=
  domain?_eq_some_iff.mpr ⟨by simpa using hd, by simp, hr⟩

/-- A backslash behind the first character parts a domain from a user without one. -/
theorem exists_inDomain {u : String} (h : '\\' ∈ u.toList.tail) :
    ∃ d r : String, d ≠ "" ∧ '\\' ∉ r.toList ∧ u = d ++ "\\" ++ r := by
  obtain ⟨a, b, hd⟩ := exists_domain h
  obtain ⟨ha, hu, hb⟩ := domain?_eq_some_iff.mp hd
  refine ⟨String.ofList a, String.ofList b, by simpa using ha, by simpa using hb, ?_⟩
  rw [← String.toList_inj, hu]
  simp

theorem isBlank_append_backslash (d r : String) : isBlank (some (d ++ "\\" ++ r)) = false := by
  have hb : isSpace '\\' = false := by decide
  rw [isBlank, List.all_eq_false]
  exact ⟨'\\', by simp, by simp [hb]⟩

theorem InDomain.unique {d' : String} (h : InDomain user d) (h' : InDomain user d') : d = d' := by
  obtain ⟨hd, r, rfl, hr⟩ := h
  obtain ⟨hd', r', hu, hr'⟩ := h'
  have he := domain?_append hd hr
  rw [Option.some.inj hu, domain?_append hd' hr'] at he
  exact String.toList_inj.mp (Prod.mk.inj (Option.some.inj he)).1.symm

theorem canonicalUser_append (hd : d ≠ "") (hr : '\\' ∉ r.toList) :
    canonicalUser (some (d ++ "\\" ++ r)) true = some (onChars withoutGroup r) := by
  rw [canonicalUser_true (isBlank_append_backslash d r), onChars,
    withoutDomain_of_domain (domain?_append hd hr)]
  rfl

/-! ## Canonical groups -/

theorem canonicalGroup_unixLike (group user : Option String) :
    canonicalGroup group user true = group := if_pos rfl

/-- A blank group is taken from the domain of the user. -/
theorem canonicalGroup_of_inDomain (hg : isBlank group = true) (h : InDomain user d) :
    canonicalGroup group user false = some d := by
  obtain ⟨hd, r, rfl, hr⟩ := h
  rw [canonicalGroup, if_neg Bool.false_ne_true, if_pos hg,
    if_neg (by simp [isBlank_append_backslash]), Option.getD_some, domain?_append hd hr]
  simp

theorem canonicalGroup_of_not_inDomain (hg : isBlank group = true) (h : ∀ d, ¬ InDomain user d) :
    canonicalGroup group user false = group := by
  rw [canonicalGroup, if_neg Bool.false_ne_true, if_pos hg]
  cases hb : isBlank user with
  | true => rw [if_pos rfl]
  | false =>
    obtain ⟨u, rfl⟩ : ∃ u, user = some u := Option.ne_none_iff_exists'.mp (by rintro rfl; cases hb)
    have hn : domain? u.toList = none := by
      refine domain?_eq_none_iff.mpr fun hu => ?_
      obtain ⟨d, r, hd, hr, rfl⟩ := exists_inDomain hu
      exact h d ⟨hd, r, rfl, hr⟩
    rw [if_neg Bool.false_ne_true, Option.getD_some, hn]

/-- A group is cut before its first space. -/
theorem canonicalGroup_append {a b : String} (hg : isBlank (some (a ++ " " ++ b)) = false)
    (ha : ' ' ∉ a.toList) :
    canonicalGroup (some (a ++ " " ++ b)) user false = some (trimmed a) := by
  have hs : (a ++ " " ++ b).toList = a.toList ++ ' ' :: b.toList := by simp
  rw [canonicalGroup, if_neg Bool.false_ne_true, hg, if_neg Bool.false_ne_true, Option.map_some,
    onChars, hs, firstWord_append ha]
  rfl

theorem exists_first_space {g : String} (h : ' ' ∈ g.toList) :
    ∃ a b : String, g = a ++ " " ++ b ∧ ' ' ∉ a.toList := by
  obtain ⟨a, b, hg, ha⟩ := List.eq_append_cons_of_mem h
  refine ⟨String.ofList a, String.ofList b, ?_, by simpa using ha⟩
  rw [← String.toList_inj, hg]
  simp

theorem canonicalGroup_of_not_mem {g : String} (hg : isBlank (some g) = false)
    (hs : ' ' ∉ g.toList) : canonicalGroup (some g) user false = some g := by
  rw [canonicalGroup, if_neg Bool.false_ne_true, hg, if_neg Bool.false_ne_true, Option.map_some,
    onChars, firstWord_of_not_mem hs, String.ofList_toList]

/-- **User and group are the two sides of the last backslash** of an owner in a domain. Without a
group given, the canonical group is what is before it, and the canonical user is what is behind it
up to a space that is not its first character. So an owner that was put together from a group and a
user without backslash and space is taken apart again. -/
theorem owner_splits_at_last_backslash :
    (∀ (owner : String) (group : Option String), '\\' ∈ owner.toList.tail → isBlank group = true →
      ∃ d r : String, canonicalGroup group (some owner) false = some d ∧
        owner = d ++ "\\" ++ r ∧ '\\' ∉ r.toList ∧
        ((' ' ∈ r.toList → r.toList.head? = some ' ') →
          canonicalUser (some owner) true = some r) ∧
        ∀ a b : String, r = a ++ " " ++ b → a ≠ "" → ' ' ∉ a.toList →
          canonicalUser (some owner) true = some (trimmed a)) ∧
    ∀ d r : String, d ≠ "" → '\\' ∉ r.toList → ' ' ∉ r.toList →
      canonicalGroup (some "") (some (d ++ "\\" ++ r)) false = some d ∧
        canonicalUser (some (d ++ "\\" ++ r)) true = some r := by
  have whole {d r : String} (hd : d ≠ "") (hr : '\\' ∉ r.toList)
      (hs : ' ' ∈ r.toList → r.toList.head? = some ' ') :
      canonicalUser (some (d ++ "\\" ++ r)) true = some r := by
    rw [canonicalUser_append hd hr, onChars, withoutGroup_of_head hs, String.ofList_toList]
  constructor
  · intro owner group ho hg
    obtain ⟨d, r, hd, hr, rfl⟩ := exists_inDomain ho
    refine ⟨d, r, canonicalGroup_of_inDomain hg ⟨hd, r, rfl, hr⟩, rfl, hr, whole hd hr, ?_⟩
    rintro a b rfl ha hs
    have hl : (a ++ " " ++ b).toList = a.toList ++ ' ' :: b.toList := by simp
    rw [canonicalUser_append hd hr, onChars, hl, withoutGroup_append (by simpa using ha) hs]
    rfl
  · intro d r hd hr hs
    exact ⟨canonicalGroup_of_inDomain rfl ⟨hd, r, rfl, hr⟩, whole hd hr fun hm => absurd hm hs⟩

/-- A user with a group behind in a domain within a domain, and a user in a domain with a space. -/
theorem nested_owner_splits :
    let owner := "CORP\\EU\\jdoe (Remote Users)"
    '\\' ∈ owner.toList.tail ∧ isBlank none = true ∧
      canonicalGroup none (some owner) false = some "CORP\\EU" ∧
      canonicalUser (some owner) true = some "jdoe" ∧
      "NT AUTHORITY" ≠ "" ∧ '\\' ∉ "SYSTEM".toList ∧ ' ' ∉ "SYSTEM".toList ∧
      canonicalGroup (some "") (some ("NT AUTHORITY" ++ "\\" ++ "SYSTEM")) false =
        some "NT AUTHORITY" ∧
      canonicalUser (some ("NT AUTHORITY" ++ "\\" ++ "SYSTEM")) true = some "SYSTEM" := by
  intro owner
  have ho : '\\' ∈ owner.toList.tail := by decide
  have hd : "NT AUTHORITY" ≠ "" := by decide
  have hr : '\\' ∉ "SYSTEM".toList := by decide
  have hs : ' ' ∉ "SYSTEM".toList := by decide
  obtain ⟨d, r, hg, hj, -, -, hu⟩ := owner_splits_at_last_backslash.1 owner none ho rfl
  obtain ⟨hg', hu'⟩ := owner_splits_at_last_backslash.2 "NT AUTHORITY" "SYSTEM" hd hr hs
  obtain rfl : d = "CORP\\EU" := Option.some.inj (hg.symm.trans (by decide))
  obtain rfl : r = "jdoe" ++ " " ++ "(Remote Users)" := by
    have hl : owner.toList =
        ("CORP\\EU" ++ "\\").toList ++ ("jdoe (Remote Users)").toList := by decide
    rw [hj, String.toList_append] at hl
    exact String.toList_inj.mp (List.append_cancel_left hl)
  exact ⟨ho, rfl, hg, hu "jdoe" "(Remote Users)" rfl (by decide) (by decide), hd, hr, hs, hg', hu'⟩

/-! ## Groups that stay as they are -/

/-- A blank group stays as it is if it is the domain of the user, or the user is in none. -/
theorem canonicalGroup_eq_self_iff_of_isBlank (hg : isBlank group = true) :
    canonicalGroup group user false = group ↔ ∀ d, InDomain user d → group = some d := by
  by_cases hd : ∃ d, InDomain user d
  · obtain ⟨d, hd⟩ := hd
    rw [canonicalGroup_of_inDomain hg hd]
    exact ⟨fun h d' hd' => hd.unique hd' ▸ h.symm, fun h => (h d hd).symm⟩
  · have hn : ∀ d, ¬ InDomain user d := fun d h => hd ⟨d, h⟩
    exact ⟨fun _ d h => absurd h (hn d), fun _ => canonicalGroup_of_not_inDomain hg hn⟩

/-- Any other group stays as it is if it has no space. -/
theorem canonicalGroup_eq_self_iff {g : String} (hg : isBlank (some g) = false) :
    canonicalGroup (some g) user false = some g ↔ ' ' ∉ g.toList := by
  refine ⟨fun h hs => ?_, canonicalGroup_of_not_mem hg⟩
  obtain ⟨a, b, rfl, ha⟩ := exists_first_space hs
  -- what is left of a group that is cut has no space any more
  rw [canonicalGroup_append hg ha] at h
  have ht : trim a.toList = (a ++ " " ++ b).toList :=
    (toList_onChars trim a).symm.trans (congrArg String.toList (Option.some.inj h))
  exact ha (mem_of_mem_trimWhile (ht ▸ hs))

/-- A group that is resolved for a user in the domain `d`, and then to another one: the domain is
taken for it, but has a space; or it is cut to nothing before its first space, and so taken from
the domain the next time. -/
def CutAgain (group : Option String) (d : String) : Prop :=
  (isBlank group = true ∧ isBlank (some d) = false ∧ ' ' ∈ d.toList) ∨
    ∃ a b : String, group = some (a ++ " " ++ b) ∧ isBlank group = false ∧
      isBlank (some a) = true ∧ ' ' ∉ a.toList

theorem cutAgain_iff_of_isBlank (hg : isBlank group = true) :
    CutAgain group d ↔ isBlank (some d) = false ∧ ' ' ∈ d.toList := by
  simp [CutAgain, hg]

theorem cutAgain_append_iff {a b : String} (hg : isBlank (some (a ++ " " ++ b)) = false)
    (ha : ' ' ∉ a.toList) : CutAgain (some (a ++ " " ++ b)) d ↔ isBlank (some a) = true := by
  constructor
  · rintro (⟨hb, -⟩ | ⟨a', b', hs, -, hb, ha'⟩)
    · cases hg.symm.trans hb
    · -- the first space of a text is in one place
      have hc {a b : String} (ha : ' ' ∉ a.toList) :
          cutFirst ' ' (a ++ " " ++ b).toList = (a.toList, some b.toList) :=
        cutFirst_eq_iff.mpr ⟨by simp, ha⟩
      have he := hc (b := b) ha
      rw [Option.some.inj hs, hc ha'] at he
      rwa [← String.toList_inj.mp (Prod.mk.inj he).1]
  · exact fun hb => Or.inr ⟨a, b, rfl, hg, hb, ha⟩

theorem not_cutAgain_of_not_mem {g : String} (hg : isBlank (some g) = false) (hs : ' ' ∉ g.toList) :
    ¬ CutAgain (some g) d := by
  rintro (⟨hb, -⟩ | ⟨a, b, hab, -⟩)
  · cases hg.symm.trans hb
  · obtain rfl := Option.some.inj hab
    simp at hs

/-- A blank group is resolved to the domain, which is cut if it has a space. -/
theorem resolved_blank_group_stays_iff (hg : isBlank group = true) :
    canonicalGroup (canonicalGroup group user false) user false = canonicalGroup group user false ↔
      ¬ ∃ d, InDomain user d ∧ CutAgain group d := by
  simp only [cutAgain_iff_of_isBlank hg]
  by_cases hd : ∃ d, InDomain user d
  · obtain ⟨d, hd⟩ := hd
    have hu : (∃ d', InDomain user d' ∧ isBlank (some d') = false ∧ ' ' ∈ d'.toList) ↔
        isBlank (some d) = false ∧ ' ' ∈ d.toList :=
      ⟨fun ⟨d', hd', h⟩ => hd.unique hd' ▸ h, fun h => ⟨d, hd, h⟩⟩
    rw [canonicalGroup_of_inDomain hg hd, hu]
    cases hb : isBlank (some d) with
    | true =>
      rw [canonicalGroup_eq_self_iff_of_isBlank hb]
      exact ⟨fun _ h => Bool.noConfusion h.1, fun _ d' hd' => congrArg some (hd.unique hd')⟩
    | false =>
      rw [canonicalGroup_eq_self_iff hb]
      exact not_congr (and_iff_right rfl).symm
  · have hn : ∀ d, ¬ InDomain user d := fun d h => hd ⟨d, h⟩
    rw [canonicalGroup_of_not_inDomain hg hn, canonicalGroup_of_not_inDomain hg hn]
    exact ⟨fun _ ⟨d, h, _⟩ => hn d h, fun _ => rfl⟩

/-- A group with a space is cut, and taken from the domain if nothing is left. -/
theorem resolved_cut_group_stays_iff {a b : String} (hg : isBlank (some (a ++ " " ++ b)) = false)
    (ha : ' ' ∉ a.toList) :
    canonicalGroup (canonicalGroup (some (a ++ " " ++ b)) user false) user false =
        canonicalGroup (some (a ++ " " ++ b)) user false ↔
      ¬ ∃ d, InDomain user d ∧ CutAgain (some (a ++ " " ++ b)) d := by
  simp only [cutAgain_append_iff hg ha]
  rw [canonicalGroup_append hg ha]
  have ht : isBlank (some (trimmed a)) = isBlank (some a) := isBlank_trimmed a
  cases hb : isBlank (some a) with
  | true =>
    rw [hb] at ht
    rw [canonicalGroup_eq_self_iff_of_isBlank ht]
    have hn : trimmed a = "" := by
      rw [← String.toList_eq_nil_iff, trimmed, toList_onChars]
      exact isBlank_some_iff.mp hb
    constructor
    · rintro h ⟨d, hd, -⟩
      exact hd.1 ((Option.some.inj (h d hd)).symm.trans hn)
    · exact fun h d hd => absurd ⟨d, hd, rfl⟩ h
  | false =>
    rw [hb] at ht
    rw [canonicalGroup_eq_self_iff ht, trimmed, toList_onChars]
    constructor
    · rintro - ⟨d, -, hb'⟩
      cases hb'
    · exact fun _ hm => ha (mem_of_mem_trimWhile hm)

/-- **A resolved group stays as it is**, also outside of Unix-like systems, unless the user is in a
domain and the group is one that is cut again. -/
theorem resolved_group_stays_iff (group user : Option String) (unixLike : Bool) :
    canonicalGroup (canonicalGroup group user unixLike) user unixLike =
        canonicalGroup group user unixLike ↔
      unixLike = true ∨ ¬ ∃ d, InDomain user d ∧ CutAgain group d := by
  cases unixLike with
  | true => simp only [canonicalGroup_unixLike, true_or]
  | false =>
    rw [or_iff_right Bool.false_ne_true]
    cases hg : isBlank group with
    | true => exact resolved_blank_group_stays_iff hg
    | false =>
      obtain ⟨g, rfl⟩ : ∃ g, group = some g :=
        Option.ne_none_iff_exists'.mp (by rintro rfl; cases hg)
      by_cases hs : ' ' ∈ g.toList
      · obtain ⟨a, b, rfl, ha⟩ := exists_first_space hs
        exact resolved_cut_group_stays_iff hg ha
      · rw [canonicalGroup_of_not_mem hg hs, canonicalGroup_of_not_mem hg hs]
        exact ⟨fun _ ⟨_, _, h⟩ => not_cutAgain_of_not_mem hg hs h, fun _ => rfl⟩

/-- Not all resolved groups stay: a domain with a space is cut when it is resolved again, and a
group that is cut to nothing is then taken from the domain. -/
theorem some_resolved_groups_change :
    let system := some "NT AUTHORITY\\SYSTEM"
    let member := some "CORP\\jdoe"
    canonicalGroup (some "") system false = some "NT AUTHORITY" ∧
      canonicalGroup (some "NT AUTHORITY") system false = some "NT" ∧
      canonicalGroup (some " staff") member false = some "" ∧
      canonicalGroup (some "") member false = some "CORP" ∧
      ¬ ∀ group user unixLike, canonicalGroup (canonicalGroup group user unixLike) user unixLike =
        canonicalGroup group user unixLike := by
  refine ⟨by decide, by decide, by decide, by decide, fun h => ?_⟩
  exact absurd (h (some "") (some "NT AUTHORITY\\SYSTEM") false) (by decide)

end HostFacts.Identity
