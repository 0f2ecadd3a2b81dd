import HostFacts.Pairs

/-!
# Entries

`Entries` are pairs with distinct keys, in the order in which the keys first came: a key has one
value at most, and what is under it does not depend on where it is looked for (`get?_of_mem`). Every
operation keeps the keys apart. Putting a value under a key that is there keeps the place, and under
a new one the pair goes to the end; `get?_put` says what is read afterwards. Entries over others
hide these (`get?_putAll`), and their new keys follow in order (`keys_putAll`). Several may be laid
over each other in any grouping (`putAll_putAll`).
-/

namespace HostFacts

/-- Pairs of a key and a value, one for each key. -/
@[ext]
structure Entries (κ α : Type) where
  pairs : Pairs κ α
  nodup : pairs.keys.Nodup
  deriving DecidableEq, Repr

namespace Entries

variable {κ α : Type}

/-- No entries. -/
def empty : Entries κ α := ⟨[], List.nodup_nil⟩

/-- The keys in order. -/
def keys (entries : Entries κ α) : List κ := entries.pairs.keys

theorem nodup_keys (entries : Entries κ α) : entries.keys.Nodup := entries.nodup

/-- The number of entries. -/
def size (entries : Entries κ α) : Nat := entries.pairs.length

/-- The entries with other values under their keys. -/
def map {β : Type} (f : α → β) (entries : Entries κ α) : Entries κ β :=
  ⟨entries.pairs.map fun e => (e.1, f e.2), by
    have h : Pairs.keys (entries.pairs.map fun e => (e.1, f e.2)) = entries.pairs.keys := by
      simp [Pairs.keys]
    exact h ▸ entries.nodup⟩

variable [BEq κ]

/-- The value under a key. -/
def get? (entries : Entries κ α) (key : κ) : Option α := entries.pairs.get? key

/-- Whether the key is there. -/
def has (entries : Entries κ α) (key : κ) : Bool := entries.pairs.has key

variable [LawfulBEq κ]

/-- Puts a value under a key. -/
def put (entries : Entries κ α) (key : κ) (value : α) : Entries κ α :=
  ⟨entries.pairs.put key value, Pairs.nodup_keys_put entries.nodup⟩

/-- Removes a key. -/
def erase (entries : Entries κ α) (key : κ) : Entries κ α :=
  ⟨entries.pairs.erase key, (List.filter_sublist.map Prod.fst).nodup entries.nodup⟩

/-- The entries that a list of pairs gives; the last value of a key counts. -/
def ofList (pairs : List (κ × α)) : Entries κ α :=
  ⟨Pairs.ofList pairs, Pairs.nodup_keys_ofList pairs⟩

/-- Puts entries over others. -/
def putAll (entries upper : Entries κ α) : Entries κ α :=
  ⟨entries.pairs.putAll upper.pairs, Pairs.nodup_keys_putAll entries.nodup⟩

/-! ## What is read -/

variable {entries upper : Entries κ α} {key other : κ} {value : α}

theorem get?_put : (entries.put key value).get? other =
    if key == other then some value else entries.get? other := Pairs.get?_put

theorem get?_erase : (entries.erase key).get? key = none := Pairs.get?_erase

theorem get?_erase_of_ne (h : other ≠ key) :
    (entries.erase key).get? other = entries.get? other := Pairs.get?_erase_of_ne h

theorem get?_eq_none_iff : entries.get? key = none ↔ key ∉ entries.keys := Pairs.get?_eq_none_iff

theorem mem_keys_of_get? (h : entries.get? key = some value) : key ∈ entries.keys :=
  Pairs.mem_keys_of_get? h

/-- **What is under a key is what an entry with the key says.** -/
theorem get?_of_mem (h : (key, value) ∈ entries.pairs) : entries.get? key = some value :=
  Pairs.get?_of_mem entries.nodup h

theorem keys_put_of_mem (h : key ∈ entries.keys) : (entries.put key value).keys = entries.keys :=
  Pairs.keys_put_of_mem h

omit [LawfulBEq κ] in
theorem get?_map {β : Type} {f : α → β} : (entries.map f).get? key = (entries.get? key).map f := by
  show Pairs.get? (entries.pairs.map fun e => (e.1, f e.2)) key = (entries.pairs.get? key).map f
  induction entries.pairs with
  | nil => rfl
  | cons e rest ih =>
    rw [List.map_cons, Pairs.get?, ih, Pairs.get?]
    split <;> rfl

/-! ## Lists of pairs -/

theorem get?_ofList_eq_some_iff {pairs : List (κ × α)} :
    (ofList pairs).get? key = some value ↔ Pairs.HasLast pairs key value :=
  Pairs.get?_ofList_eq_some_iff

theorem get?_ofList_eq_none_iff {pairs : List (κ × α)} :
    (ofList pairs).get? key = none ↔ key ∉ pairs.map Prod.fst := Pairs.get?_ofList_eq_none_iff

theorem keys_ofList {pairs : List (κ × α)} :
    (ofList pairs).keys = (pairs.map Prod.fst).eraseDups := Pairs.keys_ofList

/-- Entries are what their own pairs give. -/
theorem ofList_pairs : ofList entries.pairs = entries :=
  Entries.ext (Pairs.ofList_of_nodup entries.nodup)

/-! ## Entries over others -/

/-- Entries over others hide what is under their keys. -/
theorem get?_putAll : (entries.putAll upper).get? key = (upper.get? key).or (entries.get? key) :=
  Pairs.get?_putAll upper.nodup

/-- **Keys that are there keep their places, and the new ones follow in order.** -/
theorem keys_putAll : (entries.putAll upper).keys =
    entries.keys ++ upper.keys.filter fun k => !entries.keys.contains k := by
  have h : (upper.keys.filter fun k => !entries.keys.contains k).Nodup := upper.nodup.filter _
  exact Pairs.keys_putAll.trans (congrArg _ (Pairs.eraseDups_of_nodup h))

/-- **Putting entries over others twice is putting them all over these.** -/
theorem putAll_putAll {p q : Entries κ α} :
    (entries.putAll p).putAll q = entries.putAll (p.putAll q) :=
  Entries.ext (Pairs.putAll_putAll entries.nodup p.nodup)

end Entries

end HostFacts
