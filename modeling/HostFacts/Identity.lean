import HostFacts.Text.Search

/-!
# Canonical names of users and groups

Windows decorates the name of an owner with a domain in front (`DOMAIN\jdoe`) and a group behind
(`jdoe (Remote Users)`). The canonical user is the name without both, the canonical group the name
of a group up to its first space, or the domain of the user where no group is given. Elsewhere names
stay as they are.
-/

namespace HostFacts.Identity

open HostFacts.Text

/-- The name of the superuser. -/
def rootUser : String := "root"

/-- The parts before and after the last backslash, unless that is the first character. -/
def domain? (s : List Char) : Option (List Char × List Char) :=
  match cutLast '\\' s with
  | some (c :: cs, rest) => some (c :: cs, rest)
  | _ => none

/-- A name without the domain in front. -/
def withoutDomain (s : List Char) : List Char :=
  match domain? s with
  | some (_, rest) => rest
  | none => s

/-- A name up to its first space and trimmed, unless it starts with a space or has none. -/
def withoutGroup (s : List Char) : List Char :=
  match cutFirst ' ' s with
  | (c :: cs, some _) => trim (c :: cs)
  | _ => s

/-- The canonical user. -/
def canonicalUser (user : Option String) (windows : Bool) : Option String :=
  if isBlank user || !windows then user
  else user.map fun u => onChars (fun s => withoutGroup (withoutDomain s)) u

/-- A group up to its first space and trimmed. -/
def firstWord (s : List Char) : List Char :=
  match cutFirst ' ' s with
  | (start, some _) => trim start
  | (_, none) => s

/-- The canonical group; a blank group is taken from the user's domain if there is one. -/
def canonicalGroup (group user : Option String) (unixLike : Bool) : Option String :=
  if unixLike then group
  else if isBlank group then
    if isBlank user then group
    else
      match domain? (user.getD "").toList with
      | some (domain, _) => some (String.ofList domain)
      | none => group
  else group.map fun g => onChars firstWord g

/-! ## Lemmas -/

variable {s a b : List Char}

theorem domain?_eq_some_iff :
    domain? s = some (a, b) ↔ a ≠ [] ∧ s = a ++ '\\' :: b ∧ '\\' ∉ b := by
  rw [← cutLast_eq_some_iff]
  unfold domain?
  rcases cutLast '\\' s with _ | ⟨_ | ⟨c, cs⟩, rest⟩
  · simp
  · simp only [reduceCtorEq, Option.some.injEq, Prod.mk.injEq, false_iff, not_and]
    exact fun ha h => absurd h.symm ha
  · simp only [Option.some.injEq, Prod.mk.injEq, iff_and_self]
    rintro ⟨rfl, -⟩
    exact List.cons_ne_nil c cs

theorem domain?_eq_none_iff : domain? s = none ↔ '\\' ∉ s.tail := by
  cases s with
  | nil => simp [domain?, cutLast]
  | cons c rest =>
    rw [List.tail_cons, ← cutLast_eq_none_iff, domain?, cutLast]
    cases cutLast '\\' rest with
    | some parts => simp
    | none => by_cases hc : c = '\\' <;> simp [hc]

/-- A backslash behind the first character ends a domain. -/
theorem exists_domain (h : '\\' ∈ s.tail) : ∃ a b, domain? s = some (a, b) :=
  match hs : domain? s with
  | some (a, b) => ⟨a, b, rfl⟩
  | none => absurd h (domain?_eq_none_iff.mp hs)

theorem withoutDomain_of_domain (h : domain? s = some (a, b)) : withoutDomain s = b := by
  rw [withoutDomain, h]

theorem withoutDomain_of_not_mem (h : '\\' ∉ s.tail) : withoutDomain s = s := by
  rw [withoutDomain, domain?_eq_none_iff.mpr h]

/-- What is before the first space of a name that does not start with it is trimmed and kept. -/
theorem withoutGroup_append (ha : a ≠ []) (hn : ' ' ∉ a) :
    withoutGroup (a ++ ' ' :: b) = trim a := by
  rw [withoutGroup, cutFirst_eq_iff.mpr ⟨rfl, hn⟩]
  cases a with
  | nil => exact absurd rfl ha
  | cons c cs => rfl

/-- A name that starts with its first space, or has none, is kept. -/
theorem withoutGroup_of_head (h : ' ' ∈ s → s.head? = some ' ') : withoutGroup s = s := by
  rw [withoutGroup]
  split
  · rename_i c cs rest hc
    obtain ⟨rfl, hn⟩ := cutFirst_eq_iff.mp hc
    obtain rfl : c = ' ' := by simpa using h (by simp)
    simp at hn
  · rfl

theorem firstWord_append (hn : ' ' ∉ a) : firstWord (a ++ ' ' :: b) = trim a := by
  rw [firstWord, cutFirst_eq_iff.mpr ⟨rfl, hn⟩]

theorem firstWord_of_not_mem (h : ' ' ∉ s) : firstWord s = s := by
  rw [← cutFirst_snd_eq_none_iff] at h
  rw [firstWord]
  split
  · rename_i hc
    rw [hc] at h
    cases h
  · rfl

end HostFacts.Identity
