import FormRules.OrderedMap
import Mathlib.Data.List.Induction
import Mathlib.Data.List.Perm.Subperm

/-!
# Lookups in ordered maps

An entry of a map is what its key looks up (`mem_entries_iff`), since no key has
two entries.  So a map says the same as the function from keys to values, up to
the order of its keys.

*Comparison.*  `sameEntries` counts the entries and looks up those of one map in
the other.  It holds exactly if every key looks up related values in both maps
(`sameEntries_iff`), that is, if the two maps are one function.  That no key of
the second map is missed follows from the count: its keys are a permutation of
those of the first.

*Writing.*  A new key goes to the end of the entries
(`upsert_append_of_not_mem`).  Entries with distinct keys that are all written to
a map are found in it, and every other key keeps its value (`get?_insertAll`).
However often keys are written, each stands where it was written first
(`keys_foldl_upsert`).  The value it is written with last stays (`get?_ofList`).
-/

namespace FormRules

namespace Entries

variable {α : Type}

theorem find?_eq_some_of_mem {key : String} {a : α} {es : List (String × α)}
    (nodup : (es.map Prod.fst).Nodup) (h : (key, a) ∈ es) : find? key es = some a := by
  induction es with
  | nil => cases h
  | cons e rest ih =>
    rw [List.map_cons, List.nodup_cons] at nodup
    rcases List.mem_cons.1 h with rfl | h
    · rw [find?, if_pos rfl]
    · have hk : e.1 ≠ key := by
        intro hk
        exact nodup.1 (hk ▸ List.mem_map_of_mem h)
      rw [find?, if_neg hk]
      exact ih nodup.2 h

theorem mem_of_find?_eq_some {key : String} {a : α} {es : List (String × α)}
    (h : find? key es = some a) : (key, a) ∈ es := by
  induction es with
  | nil => cases h
  | cons e rest ih =>
    obtain ⟨k, b⟩ := e
    by_cases hk : k = key
    · rw [find?, if_pos hk] at h
      cases h
      rw [hk]
      exact List.mem_cons_self
    · rw [find?, if_neg hk] at h
      exact List.mem_cons_of_mem _ (ih h)

theorem find?_map {β : Type} (f : α → β) (key : String) (es : List (String × α)) :
    find? key (es.map fun e => (e.1, f e.2)) = (find? key es).map f := by
  induction es with
  | nil => rfl
  | cons e rest ih =>
    rw [List.map_cons, find?, find?, ih]
    split <;> rfl

theorem find?_append (key : String) (es fs : List (String × α)) :
    find? key (es ++ fs) = (find? key es).or (find? key fs) := by
  induction es with
  | nil => rfl
  | cons e rest ih =>
    rw [List.cons_append, find?, find?, ih]
    split <;> rfl

/-- From the end, the last entry with the key comes first. -/
theorem find?_reverse_of_last {key : String} {after : List (String × α)}
    (h : key ∉ after.map Prod.fst) (before : List (String × α)) (a : α) :
    find? key (before ++ (key, a) :: after).reverse = some a := by
  have hafter : find? key after.reverse = none := by
    rwa [find?_eq_none_iff, List.map_reverse, List.mem_reverse]
  rw [List.reverse_append, List.reverse_cons, find?_append, find?_append, hafter, find?, if_pos rfl]
  rfl

/-- Entries without the key stay in front of what writing it does. -/
theorem upsert_append_of_not_mem {key : String} {es : List (String × α)}
    (h : key ∉ es.map Prod.fst) (f : Option α → α) (rest : List (String × α)) :
    upsert key f (es ++ rest) = es ++ upsert key f rest := by
  induction es with
  | nil => rfl
  | cons e es ih =>
    obtain ⟨k, a⟩ := e
    rw [List.map_cons, List.mem_cons, not_or] at h
    have hk : k ≠ key := fun hk => h.1 hk.symm
    rw [List.cons_append, upsert, if_neg hk, ih h.2, List.cons_append]

end Entries

namespace OrderedMap

variable {α : Type}

/-! ## Entries and lookups -/

theorem mem_entries_iff (m : OrderedMap α) (key : String) (a : α) :
    (key, a) ∈ m.entries ↔ m.get? key = some a :=
  ⟨Entries.find?_eq_some_of_mem m.nodup, Entries.mem_of_find?_eq_some⟩

theorem mem_keys_iff (m : OrderedMap α) (key : String) :
    key ∈ m.keys ↔ ∃ a, m.get? key = some a := by
  rw [← Option.ne_none_iff_exists', ne_eq, m.get?_eq_none_iff, not_not]

theorem contains_eq_false_iff (m : OrderedMap α) (key : String) :
    m.contains key = false ↔ m.get? key = none := by
  rw [contains, Option.isSome_eq_false_iff, Option.isNone_iff_eq_none]

/-! ## Writing -/

theorem get?_insertAll (key : String) {es : List (String × α)} (nodup : (es.map Prod.fst).Nodup) :
    ∀ m : OrderedMap α, (m.insertAll es).get? key = (Entries.find? key es).or (m.get? key) := by
  -- The map grows on the way, so the statement is about all maps to start with.
  induction es with
  | nil => exact fun m => rfl
  | cons e rest ih =>
    intro m
    obtain ⟨k, a⟩ := e
    rw [List.map_cons, List.nodup_cons] at nodup
    have hinsert : m.insertAll ((k, a) :: rest) = (m.insert k a).insertAll rest := rfl
    rw [hinsert, ih nodup.2, get?_insert, Entries.find?]
    by_cases hk : k = key
    · subst hk
      have hrest : Entries.find? k rest = none := (Entries.find?_eq_none_iff k rest).2 nodup.1
      rw [hrest, if_pos rfl, if_pos rfl]
      rfl
    · rw [if_neg hk, if_neg hk]

/-- An element at the end is left out if it stands before. -/
theorem eraseDups_append_singleton (l : List String) (a : String) :
    (l ++ [a]).eraseDups = if a ∈ l then l.eraseDups else l.eraseDups ++ [a] := by
  rw [List.eraseDups_append, List.removeAll]
  split
  case isTrue h => rw [List.filter_cons_of_neg (by simp [h])]; exact List.append_nil _
  case isFalse h => rw [List.filter_cons_of_pos (by simp [h])]; rfl

/-- The keys that are written one after the other stand in the order of their first writing. -/
theorem keys_foldl_upsert {γ : Type} (key : γ → String) (f : γ → Option α → α) (writes : List γ) :
    (writes.foldl (fun m w => m.upsert (key w) (f w)) empty).keys =
      (writes.map key).eraseDups := by
  induction writes using List.reverseRecOn with
  | nil => rfl
  | append_singleton earlier last ih =>
    rw [List.foldl_append, List.foldl_cons, List.foldl_nil, keys_upsert, ih, List.map_append,
      List.map_singleton, eraseDups_append_singleton]
    simp only [List.mem_eraseDups]

theorem keys_ofList (es : List (String × α)) : (ofList es).keys = (es.map Prod.fst).eraseDups :=
  keys_foldl_upsert Prod.fst (fun e _ => e.2) es

theorem get?_ofList (es : List (String × α)) (key : String) :
    (ofList es).get? key = Entries.find? key es.reverse := by
  induction es using List.reverseRecOn with
  | nil => rfl
  | append_singleton earlier last ih =>
    have hlast : ofList (earlier ++ [last]) = (ofList earlier).insert last.1 last.2 :=
      List.foldl_append
    rw [hlast, get?_insert, ih, List.reverse_append, List.reverse_singleton, List.singleton_append,
      Entries.find?]

/-! ## Comparison -/

/-- Two maps with the same keys have as many entries. -/
theorem size_eq_of_mem_keys_iff {m n : OrderedMap α} (h : ∀ key, key ∈ m.keys ↔ key ∈ n.keys) :
    m.size = n.size := by
  have perm : m.keys.Perm n.keys := (List.perm_ext_iff_of_nodup m.nodup n.nodup).2 h
  simpa [keys, size] using perm.length_eq

/-- Keys that are all found in a map of the same size are all the keys of that map. -/
theorem mem_keys_of_size_eq {m n : OrderedMap α} (size : m.size = n.size)
    (sub : ∀ key ∈ m.keys, key ∈ n.keys) {key : String} (h : key ∈ n.keys) : key ∈ m.keys := by
  have short : n.keys.length ≤ m.keys.length := by
    simp only [keys, List.length_map]
    exact Nat.le_of_eq size.symm
  have perm : m.keys.Perm n.keys :=
    (List.subperm_of_subset m.nodup sub).perm_of_length_le short
  exact perm.mem_iff.2 h

/-- The comparison of entries is a comparison of what the first map looks up. -/
theorem all_entries_iff (related : α → α → Bool) (m n : OrderedMap α) :
    (m.entries.all fun e => (n.get? e.1).any (related e.2)) = true ↔
      ∀ key a, m.get? key = some a → ∃ b, n.get? key = some b ∧ related a b = true := by
  simp only [List.all_eq_true, Option.any_eq_true, Prod.forall, mem_entries_iff]

/-- Two maps compare as the same if every key looks up related values in both. -/
theorem sameEntries_iff (related : α → α → Bool) (m n : OrderedMap α) :
    m.sameEntries related n = true ↔
      ∀ key, Option.Rel (fun a b => related a b = true) (m.get? key) (n.get? key) := by
  rw [sameEntries, Bool.and_eq_true, beq_iff_eq, all_entries_iff]
  constructor
  · rintro ⟨size, all⟩ key
    cases hm : m.get? key with
    | some a =>
      obtain ⟨b, hn, hab⟩ := all key a hm
      rw [hn]
      exact .some hab
    | none =>
      -- A key that only the second map has would be one too many.
      have sub : ∀ k ∈ m.keys, k ∈ n.keys := by
        intro k hk
        obtain ⟨a, ha⟩ := (m.mem_keys_iff k).1 hk
        obtain ⟨b, hb, -⟩ := all k a ha
        exact (n.mem_keys_iff k).2 ⟨b, hb⟩
      have hn : n.get? key = none := by
        rw [get?_eq_none_iff] at hm ⊢
        exact fun h => hm (mem_keys_of_size_eq size sub h)
      rw [hn]
      exact .none
  · intro h
    constructor
    · apply size_eq_of_mem_keys_iff
      intro key
      have hkey := h key
      rw [mem_keys_iff, mem_keys_iff]
      generalize m.get? key = a, n.get? key = b at hkey
      cases hkey <;> simp
    · intro key a ha
      have hkey := h key
      rw [ha] at hkey
      generalize n.get? key = b at hkey
      cases hkey with
      | some hab => exact ⟨_, rfl, hab⟩

/-- For values compared by equality, maps are the same if they are one function. -/
theorem sameEntries_beq_iff [BEq α] [LawfulBEq α] (m n : OrderedMap α) :
    m.sameEntries (· == ·) n = true ↔ ∀ key, m.get? key = n.get? key := by
  rw [sameEntries_iff]
  refine forall_congr' fun key => ?_
  cases m.get? key <;> cases n.get? key <;> simp

end OrderedMap

end FormRules
