/-!
# Association lists in order of insertion

`Pairs` are pairs of a key and a value in order. Putting a value under a key that is there replaces
the value and keeps the place (`keys_put_of_mem`); under a new key the pair goes to the end
(`keys_put_of_not_mem`). `get?_put` says what is read afterwards. Of pairs with the same key in a
list the last counts (`get?_ofList_eq_some_iff`), and pairs that are put over others hide these
(`get?_putAll`). The keys that come in anew follow in order, each at its first place
(`keys_putAll`). Pairs with distinct keys are known by their keys and by what is read
(`eq_of_keys_eq`), so of a list of pairs the last values may be taken before it is put over others
(`putAll_ofList`).

Keys need only be compared here. Where equality is lawful, `Entries` are pairs with distinct keys.
-/

namespace HostFacts

/-- Pairs of a key and a value. -/
abbrev Pairs (κ α : Type) := List (κ × α)

namespace Pairs

variable {κ α : Type} [BEq κ]

/-- The value under a key. -/
def get? : Pairs κ α → κ → Option α
  | [], _ => none
  | (k, v) :: rest, key => if k == key then some v else get? rest key

/-- Puts a value under a key. -/
def put : Pairs κ α → κ → α → Pairs κ α
  | [], key, value => [(key, value)]
  | (k, v) :: rest, key, value =>
    if k == key then (k, value) :: rest else (k, v) :: put rest key value

/-- Removes a key. -/
def erase (entries : Pairs κ α) (key : κ) : Pairs κ α := entries.filter fun e => !(e.1 == key)

/-- The keys in order. -/
def keys (entries : Pairs κ α) : List κ := entries.map Prod.fst

/-- Whether the key is there. -/
def has (entries : Pairs κ α) (key : κ) : Bool := (entries.get? key).isSome

/-- Puts the pairs of a list one after the other, so the last value of a key counts. -/
def putAll (entries : Pairs κ α) (pairs : List (κ × α)) : Pairs κ α :=
  pairs.foldl (fun acc e => acc.put e.1 e.2) entries

/-- What is left of a list of pairs when the last value of each key counts. -/
def ofList (pairs : List (κ × α)) : Pairs κ α := putAll [] pairs

/-! ## Lemmas -/

variable [LawfulBEq κ] {entries : Pairs κ α} {key : κ} {value : α}

theorem get?_put {other : κ} :
    (entries.put key value).get? other =
      if key == other then some value else entries.get? other := by
  induction entries with
  | nil => simp [put, get?]
  | cons e rest ih =>
    obtain ⟨k, v⟩ := e
    simp only [put, get?]
    by_cases hk : k = key
    · subst hk
      by_cases ho : k = other <;> simp [get?, ho]
    · by_cases ho : k = other
      · subst ho
        simp [get?, hk, Ne.symm hk]
      · simp [get?, hk, ho, ih]

theorem get?_erase_of_ne {other : κ} (h : other ≠ key) :
    (entries.erase key).get? other = entries.get? other := by
  induction entries with
  | nil => rfl
  | cons e rest ih =>
    obtain ⟨k, v⟩ := e
    by_cases hk : k = key
    · have ho : ¬k = other := fun e => h (e.symm.trans hk)
      simpa [erase, get?, hk, ho, Ne.symm h] using ih
    · by_cases ho : k = other
      · simp [erase, get?, ho, h]
      · simpa [erase, get?, hk, ho] using ih

theorem get?_erase : (entries.erase key).get? key = none := by
  induction entries with
  | nil => rfl
  | cons e rest ih =>
    obtain ⟨k, v⟩ := e
    by_cases hk : k = key
    · simpa [erase, hk] using ih
    · simpa [erase, get?, hk] using ih

theorem get?_eq_none_iff : entries.get? key = none ↔ key ∉ entries.keys := by
  induction entries with
  | nil => simp [get?, keys]
  | cons e rest ih =>
    obtain ⟨k, v⟩ := e
    simp only [keys, get?, List.map_cons, List.mem_cons, not_or] at *
    by_cases hk : k = key
    · simp [hk]
    · simp [hk, ih, Ne.symm hk]

theorem mem_of_get? (h : entries.get? key = some value) : (key, value) ∈ entries := by
  induction entries with
  | nil => cases h
  | cons e rest ih =>
    obtain ⟨k, v⟩ := e
    rw [get?] at h
    by_cases hk : k = key
    · rw [if_pos (by simpa using hk)] at h
      cases hk
      cases h
      exact List.mem_cons_self
    · rw [if_neg (by simpa using hk)] at h
      exact List.mem_cons_of_mem _ (ih h)

theorem mem_keys_of_get? (h : entries.get? key = some value) : key ∈ entries.keys :=
  List.mem_map.mpr ⟨_, mem_of_get? h, rfl⟩

theorem get?_of_mem (hn : entries.keys.Nodup) (h : (key, value) ∈ entries) :
    entries.get? key = some value := by
  induction entries with
  | nil => cases h
  | cons e rest ih =>
    obtain ⟨k, v⟩ := e
    obtain ⟨hk, hn⟩ : k ∉ keys rest ∧ (keys rest).Nodup := List.nodup_cons.mp hn
    rcases List.mem_cons.mp h with he | h
    · cases he
      simp [get?]
    · have hkey : k ≠ key := fun e => hk (e ▸ List.mem_map_of_mem h)
      rw [get?, if_neg (by simpa using hkey), ih hn h]

theorem keys_put_of_mem (h : key ∈ entries.keys) : (entries.put key value).keys = entries.keys := by
  induction entries with
  | nil => simp [keys] at h
  | cons e rest ih =>
    obtain ⟨k, v⟩ := e
    simp only [put]
    by_cases hk : k = key
    · simp [keys, hk]
    · have : key ∈ keys rest := by simpa [keys, Ne.symm hk] using h
      have := ih this
      simpa [keys, hk] using this

theorem keys_put_of_not_mem (h : key ∉ entries.keys) :
    (entries.put key value).keys = entries.keys ++ [key] := by
  induction entries with
  | nil => simp [put, keys]
  | cons e rest ih =>
    obtain ⟨k, v⟩ := e
    have hk : ¬k = key := fun e => h (by simp [keys, e])
    have hr : key ∉ keys rest := fun m => h (by simp [keys] at m ⊢; exact Or.inr m)
    have := ih hr
    simpa [put, keys, hk] using this

theorem put_of_not_mem (h : key ∉ entries.keys) :
    entries.put key value = entries ++ [(key, value)] := by
  induction entries with
  | nil => rfl
  | cons e rest ih =>
    obtain ⟨k, v⟩ := e
    obtain ⟨hk, hr⟩ : key ≠ k ∧ key ∉ keys rest := by simpa [keys] using h
    rw [put, if_neg (by simpa using hk.symm), ih hr, List.cons_append]

/-! ## Lists of pairs -/

theorem nodup_keys_put (h : entries.keys.Nodup) : (entries.put key value).keys.Nodup := by
  by_cases hk : key ∈ entries.keys
  · rwa [keys_put_of_mem hk]
  · rw [keys_put_of_not_mem hk, List.nodup_append]
    refine ⟨h, by simp, fun k hm other ho => ?_⟩
    rintro rfl
    exact hk (List.mem_singleton.mp ho ▸ hm)

/-- Putting pairs one after the other keeps the keys apart. -/
theorem nodup_keys_putAll {pairs : List (κ × α)} (h : entries.keys.Nodup) :
    (entries.putAll pairs).keys.Nodup := by
  induction pairs generalizing entries with
  | nil => exact h
  | cons e pairs ih => exact ih (nodup_keys_put h)

/-- Pairs with new keys, one for each, go to the end. -/
theorem putAll_of_nodup {pairs : List (κ × α)} (h : (keys (entries ++ pairs)).Nodup) :
    entries.putAll pairs = entries ++ pairs := by
  induction pairs generalizing entries with
  | nil => exact (List.append_nil _).symm
  | cons e pairs ih =>
    have hk : e.1 ∉ entries.keys := by
      simp only [keys, List.map_append, List.map_cons, List.nodup_append, List.mem_cons] at h
      exact fun hm => h.2.2 _ hm _ (Or.inl rfl) rfl
    show (entries.put e.1 e.2).putAll pairs = _
    rw [put_of_not_mem hk, ih (by simpa using h), List.append_assoc]
    rfl

/-- Of pairs with distinct keys all are left. -/
theorem ofList_of_nodup (h : entries.keys.Nodup) : ofList entries = entries := putAll_of_nodup h

omit [LawfulBEq κ] in
theorem putAll_append (l r : List (κ × α)) :
    entries.putAll (l ++ r) = (entries.putAll l).putAll r := List.foldl_append

/-- Pairs with other keys leave what is under a key. -/
theorem get?_putAll_of_not_mem {pairs : List (κ × α)} (h : key ∉ pairs.map Prod.fst) :
    (entries.putAll pairs).get? key = entries.get? key := by
  induction pairs generalizing entries with
  | nil => rfl
  | cons e pairs ih =>
    rw [List.map_cons, List.mem_cons, not_or] at h
    show ((entries.put e.1 e.2).putAll pairs).get? key = _
    rw [ih h.2, get?_put, if_neg (by simpa using Ne.symm h.1)]

/-- The value under a key in a list of pairs in which the last value counts. -/
def HasLast (pairs : List (κ × α)) (key : κ) (value : α) : Prop :=
  ∃ before after, pairs = before ++ (key, value) :: after ∧ key ∉ after.map Prod.fst

omit [BEq κ] [LawfulBEq κ] in
theorem HasLast.mem {pairs : List (κ × α)} (h : HasLast pairs key value) :
    (key, value) ∈ pairs := by
  obtain ⟨before, after, rfl, -⟩ := h
  simp

theorem get?_putAll_of_hasLast {pairs : List (κ × α)} (h : HasLast pairs key value) :
    (entries.putAll pairs).get? key = some value := by
  obtain ⟨before, after, rfl, hn⟩ := h
  rw [putAll_append]
  show (((entries.putAll before).put key value).putAll after).get? key = _
  rw [get?_putAll_of_not_mem hn, get?_put, if_pos (by simp)]

theorem exists_hasLast {pairs : List (κ × α)} (h : key ∈ pairs.map Prod.fst) :
    ∃ value, HasLast pairs key value := by
  induction pairs with
  | nil => simp at h
  | cons e pairs ih =>
    by_cases hm : key ∈ pairs.map Prod.fst
    · obtain ⟨value, before, after, rfl, hn⟩ := ih hm
      exact ⟨value, e :: before, after, rfl, hn⟩
    · obtain ⟨k, v⟩ := e
      obtain rfl : key = k := by simpa [hm] using h
      exact ⟨v, [], pairs, rfl, hm⟩

/-- **Of the pairs with a key the last counts.** -/
theorem get?_ofList_eq_some_iff {pairs : List (κ × α)} :
    (ofList pairs).get? key = some value ↔ HasLast pairs key value := by
  refine ⟨fun h => ?_, get?_putAll_of_hasLast⟩
  have hm : key ∈ pairs.map Prod.fst := Decidable.not_not.mp fun hn => by
    rw [ofList, get?_putAll_of_not_mem hn] at h
    cases h
  obtain ⟨v, hv⟩ := exists_hasLast hm
  obtain rfl : v = value := Option.some.inj ((get?_putAll_of_hasLast hv).symm.trans h)
  exact hv

theorem get?_ofList_eq_none_iff {pairs : List (κ × α)} :
    (ofList pairs).get? key = none ↔ key ∉ pairs.map Prod.fst := by
  refine ⟨fun h hm => ?_, fun h => get?_putAll_of_not_mem h⟩
  obtain ⟨v, hv⟩ := exists_hasLast hm
  rw [ofList, get?_putAll_of_hasLast hv] at h
  cases h

/-- Pairs over others hide what is under their keys. -/
theorem get?_putAll {pairs : Pairs κ α} (h : pairs.keys.Nodup) :
    (entries.putAll pairs).get? key = (pairs.get? key).or (entries.get? key) := by
  induction pairs generalizing entries with
  | nil => rfl
  | cons e pairs ih =>
    obtain ⟨k, v⟩ := e
    obtain ⟨hk, hp⟩ := List.nodup_cons.mp h
    show ((entries.put k v).putAll pairs).get? key = _
    rw [ih hp, get?_put, get?]
    by_cases hkey : k = key
    · subst hkey
      have hn : get? pairs k = none := get?_eq_none_iff.mpr hk
      simp [hn]
    · simp [hkey]

/-! ## Keys in order -/

theorem eraseDups_of_nodup : ∀ {l : List κ}, l.Nodup → l.eraseDups = l
  | [], _ => rfl
  | a :: l, h => by
    obtain ⟨ha, hl⟩ := List.nodup_cons.mp h
    have hf : l.filter (fun b => !b == a) = l := by
      rw [List.filter_eq_self]
      intro b hb
      have hba : b ≠ a := fun e => ha (e ▸ hb)
      simpa using hba
    rw [List.eraseDups_cons, hf, eraseDups_of_nodup hl]

theorem nodup_eraseDups : ∀ l : List κ, l.eraseDups.Nodup
  | [] => by simp
  | a :: l => by
    rw [List.eraseDups_cons, List.nodup_cons]
    refine ⟨fun h => ?_, nodup_eraseDups _⟩
    rw [List.mem_eraseDups, List.mem_filter] at h
    simp at h
termination_by l => l.length
decreasing_by exact Nat.lt_succ_of_le (List.length_filter_le _ _)

/-- Of the elements that are left over, the first places are the same. -/
theorem eraseDups_filter (p : κ → Bool) : ∀ l : List κ,
    (l.filter p).eraseDups = l.eraseDups.filter p
  | [] => rfl
  | a :: l => by
    have ih := eraseDups_filter p (l.filter fun b => !b == a)
    rw [List.filter_filter] at ih
    rw [List.eraseDups_cons, List.filter_cons, List.filter_cons]
    by_cases ha : p a = true
    · rw [if_pos ha, if_pos ha, List.eraseDups_cons, List.filter_filter, ← ih]
      simp only [Bool.and_comm]
    · have hf : l.filter p = l.filter fun b => p b && !b == a := by
        apply List.filter_congr
        intro b _
        by_cases hb : b = a
        · simp [hb, ha]
        · simp [hb]
      rw [if_neg ha, if_neg ha, hf, ih]
termination_by l => l.length
decreasing_by exact Nat.lt_succ_of_le (List.length_filter_le _ _)

/-- **Keys that are there keep their places, and the others follow as they first come.** -/
theorem keys_putAll {pairs : List (κ × α)} : (entries.putAll pairs).keys =
    entries.keys ++ ((pairs.map Prod.fst).filter fun k => !entries.keys.contains k).eraseDups := by
  induction pairs generalizing entries with
  | nil => simp [putAll]
  | cons e pairs ih =>
    show ((entries.put e.1 e.2).putAll pairs).keys = _
    rw [ih, List.map_cons, List.filter_cons]
    by_cases hk : e.1 ∈ entries.keys
    · rw [keys_put_of_mem hk, if_neg (by simpa using hk)]
    · rw [keys_put_of_not_mem hk, if_pos (by simpa using hk), List.eraseDups_cons,
        List.filter_filter, List.append_assoc, List.singleton_append]
      congr 4
      funext k
      by_cases hm : k ∈ entries.keys
      · simp [hm]
      · by_cases he : k = e.1 <;> simp [hm, he]

theorem keys_ofList {pairs : List (κ × α)} :
    (ofList pairs).keys = (pairs.map Prod.fst).eraseDups := by
  have hf : (pairs.map Prod.fst).filter (fun _ => true) = pairs.map Prod.fst :=
    List.filter_eq_self.mpr fun _ _ => rfl
  exact keys_putAll.trans (congrArg List.eraseDups hf)

theorem nodup_keys_ofList (pairs : List (κ × α)) : (ofList pairs).keys.Nodup :=
  nodup_keys_putAll List.nodup_nil

/-- **Pairs with distinct keys are known by their keys and by what is read.** -/
theorem eq_of_keys_eq {a b : Pairs κ α} (hk : a.keys = b.keys) (hn : a.keys.Nodup)
    (hg : ∀ key, a.get? key = b.get? key) : a = b := by
  induction a generalizing b with
  | nil =>
    cases b with
    | nil => rfl
    | cons e b => cases hk
  | cons e a ih =>
    cases b with
    | nil => cases hk
    | cons e' b =>
      obtain ⟨k, v⟩ := e
      obtain ⟨k', v'⟩ := e'
      obtain ⟨rfl, hab⟩ : k = k' ∧ keys a = keys b := List.cons.inj hk
      obtain ⟨hka, ha⟩ : k ∉ keys a ∧ (keys a).Nodup := List.nodup_cons.mp hn
      obtain rfl : v = v' := by simpa [get?] using hg k
      congr 1
      refine ih hab ha fun key => ?_
      by_cases hkey : k = key
      · subst hkey
        have hkb : k ∉ keys b := fun h => hka (hab ▸ h)
        rw [get?_eq_none_iff.mpr hka, get?_eq_none_iff.mpr hkb]
      · simpa [get?, hkey] using hg key

/-- The last values may be taken before they are put over others. -/
theorem putAll_ofList {pairs : List (κ × α)} (h : entries.keys.Nodup) :
    entries.putAll (ofList pairs) = entries.putAll pairs := by
  refine eq_of_keys_eq ?_ (nodup_keys_putAll h) fun key => ?_
  · have hk : (ofList pairs).map Prod.fst = (pairs.map Prod.fst).eraseDups := keys_ofList
    rw [keys_putAll, keys_putAll, hk, eraseDups_filter, eraseDups_filter,
      eraseDups_of_nodup (nodup_eraseDups _)]
  · rw [get?_putAll (nodup_keys_ofList pairs)]
    cases hr : (ofList pairs).get? key with
    | some value =>
      exact (get?_putAll_of_hasLast (get?_ofList_eq_some_iff.mp hr)).symm
    | none =>
      exact (get?_putAll_of_not_mem (get?_ofList_eq_none_iff.mp hr)).symm

/-- Putting pairs over others twice is putting them all over these. -/
theorem putAll_putAll {p q : Pairs κ α} (h : entries.keys.Nodup) (hp : p.keys.Nodup) :
    (entries.putAll p).putAll q = entries.putAll (p.putAll q) := by
  have hpq : ofList (p ++ q) = p.putAll q := by
    rw [ofList, putAll_append]
    exact congrArg (putAll · q) (ofList_of_nodup hp)
  rw [← putAll_append, ← putAll_ofList h, hpq]

end Pairs

end HostFacts
