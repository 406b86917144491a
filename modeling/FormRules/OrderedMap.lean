/-!
# Maps in order of insertion

Records, rules, message tables and error lists are all maps from names to
something, and all of them are shown in the order in which the names came.  An
*ordered map* is a list of entries in which no key occurs twice.

* A new key goes to the end.
* Writing to a key that is there keeps its place.
* `sameEntries` compares two maps without regard to order, `=` with it.

Every operation is defined by recursion on the entries and is described by what
it does to the keys (`keys_upsert`) and to a lookup (`get?_upsert`).
-/

namespace FormRules

/-! ## Entries -/

namespace Entries

variable {α : Type}

/-- The value under a key in a list of entries, the first one if there are several. -/
def find? (key : String) : List (String × α) → Option α
  | [] => none
  | (k, a) :: rest => if k = key then some a else find? key rest

/-- The entries with the value under a key replaced, or with a new entry at the end.  The new
value is computed from the old one, if there is one. -/
def upsert (key : String) (f : Option α → α) : List (String × α) → List (String × α)
  | [] => [(key, f none)]
  | (k, a) :: rest => if k = key then (k, f (some a)) :: rest else (k, a) :: upsert key f rest

theorem map_fst_upsert (key : String) (f : Option α → α) (es : List (String × α)) :
    (upsert key f es).map Prod.fst =
      if key ∈ es.map Prod.fst then es.map Prod.fst else es.map Prod.fst ++ [key] := by
  induction es with
  | nil => simp [upsert]
  | cons e rest ih =>
    obtain ⟨k, a⟩ := e
    by_cases hk : k = key
    · simp [upsert, hk]
    · have hk' : ¬ key = k := fun h => hk h.symm
      simp only [upsert, hk, if_false, List.map_cons, ih, List.mem_cons, hk', false_or]
      split <;> simp

theorem find?_upsert (key : String) (f : Option α → α) (es : List (String × α)) (k : String) :
    find? k (upsert key f es) = if key = k then some (f (find? key es)) else find? k es := by
  induction es with
  | nil => simp [upsert, find?]
  | cons e rest ih =>
    obtain ⟨k₁, a⟩ := e
    by_cases h₁ : k₁ = key
    · subst h₁
      by_cases h₂ : k₁ = k <;> simp [upsert, find?, h₂]
    · by_cases h₂ : k₁ = k
      · subst h₂
        have h₃ : ¬ key = k₁ := fun h => h₁ h.symm
        simp [upsert, find?, h₁, h₃]
      · simp [upsert, find?, h₁, h₂, ih]

theorem find?_eq_none_iff (key : String) (es : List (String × α)) :
    find? key es = none ↔ key ∉ es.map Prod.fst := by
  induction es with
  | nil => simp [find?]
  | cons e rest ih =>
    obtain ⟨k, a⟩ := e
    by_cases hk : k = key
    · simp [find?, hk]
    · have hk' : ¬ key = k := fun h => hk h.symm
      simp only [find?, hk, if_false, ih, List.map_cons, List.mem_cons, hk', false_or]

end Entries

/-! ## The map -/

/-- A map from names, in the order in which the names were first written. -/
structure OrderedMap (α : Type) where
  /-- The entries, oldest key first. -/
  entries : List (String × α)
  /-- No key has two entries. -/
  nodup : (entries.map Prod.fst).Nodup
deriving DecidableEq

namespace OrderedMap

variable {α β : Type}

@[ext] theorem ext {m n : OrderedMap α} (h : m.entries = n.entries) : m = n := by
  cases m; cases n; simp_all

/-- The map without entries. -/
def empty : OrderedMap α := ⟨[], List.nodup_nil⟩

instance : Inhabited (OrderedMap α) := ⟨empty⟩

/-- The keys, in order. -/
def keys (m : OrderedMap α) : List String := m.entries.map Prod.fst

/-- The values, in the order of their keys. -/
def values (m : OrderedMap α) : List α := m.entries.map Prod.snd

/-- The number of keys. -/
def size (m : OrderedMap α) : Nat := m.entries.length

/-- Whether there is no entry. -/
def isEmpty (m : OrderedMap α) : Bool := m.entries.isEmpty

/-- The value under a key. -/
def get? (m : OrderedMap α) (key : String) : Option α := Entries.find? key m.entries

/-- Whether a key has an entry. -/
def contains (m : OrderedMap α) (key : String) : Bool := (m.get? key).isSome

/-- Writes the value that `f` makes of the old one.  A key that is there keeps its place. -/
def upsert (m : OrderedMap α) (key : String) (f : Option α → α) : OrderedMap α where
  entries := Entries.upsert key f m.entries
  nodup := by
    rw [Entries.map_fst_upsert]
    split
    · exact m.nodup
    · rename_i h
      exact List.nodup_append.2
        ⟨m.nodup, by simp, by
          intro a ha b hb hab
          rw [List.mem_singleton.1 hb] at hab
          exact h (hab ▸ ha)⟩

/-- Writes a value under a key.  A key that is there keeps its place. -/
def insert (m : OrderedMap α) (key : String) (a : α) : OrderedMap α := m.upsert key fun _ => a

/-- Writes every entry of a list, first to last. -/
def insertAll (m : OrderedMap α) (es : List (String × α)) : OrderedMap α :=
  es.foldl (fun acc e => acc.insert e.1 e.2) m

/-- The map that a list of entries writes: a repeated key keeps its first place and its last value. -/
def ofList (es : List (String × α)) : OrderedMap α := empty.insertAll es

/-- The same keys with other values. -/
def mapValues (f : α → β) (m : OrderedMap α) : OrderedMap β where
  entries := m.entries.map fun e => (e.1, f e.2)
  nodup := by simpa [List.map_map, Function.comp_def] using m.nodup

/-- Whether two maps have the same keys with related values, in any order. -/
def sameEntries (related : α → α → Bool) (m n : OrderedMap α) : Bool :=
  m.size == n.size &&
    m.entries.all fun e => (n.get? e.1).any (related e.2)

/-! ## What the operations do to keys and lookups -/

@[simp] theorem entries_empty : (empty : OrderedMap α).entries = [] := rfl

@[simp] theorem get?_empty (key : String) : (empty : OrderedMap α).get? key = none := rfl

@[simp] theorem keys_empty : (empty : OrderedMap α).keys = [] := rfl

theorem keys_upsert (m : OrderedMap α) (key : String) (f : Option α → α) :
    (m.upsert key f).keys = if key ∈ m.keys then m.keys else m.keys ++ [key] :=
  Entries.map_fst_upsert key f m.entries

theorem get?_upsert (m : OrderedMap α) (key : String) (f : Option α → α) (k : String) :
    (m.upsert key f).get? k = if key = k then some (f (m.get? key)) else m.get? k :=
  Entries.find?_upsert key f m.entries k

theorem get?_insert (m : OrderedMap α) (key : String) (a : α) (k : String) :
    (m.insert key a).get? k = if key = k then some a else m.get? k :=
  get?_upsert m key _ k

theorem get?_eq_none_iff (m : OrderedMap α) (key : String) :
    m.get? key = none ↔ key ∉ m.keys :=
  Entries.find?_eq_none_iff key m.entries

theorem contains_iff (m : OrderedMap α) (key : String) : m.contains key = true ↔ key ∈ m.keys := by
  have h := m.get?_eq_none_iff key
  cases hg : m.get? key with
  | none => simp [contains, hg, h.1 hg]
  | some a =>
    have : ¬ key ∉ m.keys := fun hk => by simp [h.2 hk] at hg
    simp [contains, hg, Classical.not_not.1 this]

end OrderedMap

end FormRules
