import FormRules.Proofs.RuleCache

/-!
# Runs of the cache

A cache is asked for the rule sets of expressions, one after the other.  Expressions
may come back, and others with a new identity may say the same as old ones.  An
identity always stands for the same expressions, and nothing else is asked of the
calls.

* Every call gives the rule set of its own expressions.
* Expressions are read again exactly when their identity is not the one of the call
  before.  So the cache counts these changes (`parses_afterCalls`).
* A rule set has the count of readings up to it as its serial number, also when it is
  given once more (`serial_answers`).  So two calls are given one and the same rule
  set exactly if the identity has not changed from the first to the second.

The second and the third go by induction on the calls from any cache, and all that
the rest of a run sees of the calls before is the identity in the cache.
-/

namespace FormRules.RuleCache

/-! ## Runs -/

/-- What a cache gives when it is asked for expressions, first to last. -/
def answers (c : RuleCache) : List SharedExpressions → List ParsedRules
  | [] => []
  | shared :: rest => (c.fetch shared).parsed :: (c.fetch shared).answers rest

/-- The cache after it was asked for expressions, first to last. -/
def afterCalls (c : RuleCache) (calls : List SharedExpressions) : RuleCache :=
  calls.foldl fetch c

/-- How many identities differ from the one before.  Before the first there may be one or none. -/
def changes : Option Nat → List Nat → Nat
  | _, [] => 0
  | before, i :: rest => (if before = some i then 0 else 1) + changes (some i) rest

variable {c : RuleCache} {calls : List SharedExpressions}

/-! ## Readings -/

/-- The readings of a run are the changes of identity in it. -/
theorem parses_afterCalls (c : RuleCache) (calls : List SharedExpressions) :
    (c.afterCalls calls).parses =
      c.parses + changes c.identity? (calls.map SharedExpressions.identity) := by
  induction calls generalizing c with
  | nil => rfl
  | cons shared rest ih =>
    have h : (c.afterCalls (shared :: rest)).parses =
        ((c.fetch shared).afterCalls rest).parses := rfl
    rw [h, ih, identity?_fetch, parses_fetch, List.map_cons, changes, Nat.add_assoc]

/-- The rule set in the cache has the count of all readings as its serial number. -/
def Numbered (c : RuleCache) : Prop := c.parsed.serial = c.parses

theorem numbered_empty : empty.Numbered := rfl

theorem Numbered.fetch (numbered : c.Numbered) (shared : SharedExpressions) :
    (c.fetch shared).Numbered := by
  by_cases h : c.holds shared = true
  · rw [fetch_of_holds h]
    exact numbered
  · rw [fetch_of_not_holds h]
    rfl

/-- The answer to a call has the count of the changes up to the call. -/
theorem serial_answers (numbered : c.Numbered) {k : Nat} (hk : k < calls.length) :
    (c.answers calls)[k]?.map ParsedRules.serial =
      some (c.parses +
        changes c.identity? ((calls.map SharedExpressions.identity).take (k + 1))) := by
  induction calls generalizing c k with
  | nil => cases hk
  | cons shared rest ih =>
    have hfetch := numbered.fetch shared
    cases k with
    | zero =>
      show some (c.fetch shared).parsed.serial = _
      rw [hfetch, parses_fetch]
      rfl
    | succ k =>
      show ((c.fetch shared).answers rest)[k]?.map ParsedRules.serial = _
      rw [ih hfetch (Nat.lt_of_succ_lt_succ hk), identity?_fetch, parses_fetch, Nat.add_assoc]
      rfl

/-! ## Counts that agree -/

theorem changes_eq_zero_iff (i : Nat) (ids : List Nat) :
    changes (some i) ids = 0 ↔ ∀ j ∈ ids, j = i := by
  induction ids generalizing i with
  | nil => simp [changes]
  | cons j rest ih =>
    by_cases h : i = j
    · subst h
      simp [changes, ih]
    · have h' : j ≠ i := fun heq => h heq.symm
      simp [changes, h, h']

/-- The counts up to two places agree if the identity is the same from the first to the second. -/
theorem changes_take_eq_iff (before : Option Nat) {ids : List Nat} {j k : Nat} (hjk : j ≤ k)
    (hk : k < ids.length) :
    changes before (ids.take (j + 1)) = changes before (ids.take (k + 1)) ↔
      ∀ m, j ≤ m → m ≤ k → ids[m]? = ids[j]? := by
  induction ids generalizing before j k with
  | nil => cases hk
  | cons i rest ih =>
    cases j with
    | zero =>
      have hzero : changes before ((i :: rest).take 1) =
            changes before ((i :: rest).take (k + 1)) ↔ changes (some i) (rest.take k) = 0 := by
        simp only [List.take_succ_cons, List.take_zero, changes]
        omega
      rw [hzero, changes_eq_zero_iff]
      constructor
      · intro h m _ hm
        cases m with
        | zero => rfl
        | succ m =>
          have hm' : m < rest.length := Nat.lt_of_lt_of_le hm (Nat.le_of_lt_succ hk)
          have hmem : rest[m] ∈ rest.take k :=
            List.mem_take_iff_getElem.2 ⟨m, by omega, rfl⟩
          simp [List.getElem?_eq_getElem hm', h _ hmem]
      · intro h j hj
        obtain ⟨m, hm, rfl⟩ := List.mem_take_iff_getElem.1 hj
        have hsame := h (m + 1) (Nat.zero_le _) (by omega)
        simpa [List.getElem?_eq_getElem (show m < rest.length by omega)] using hsame
    | succ j =>
      cases k with
      | zero => omega
      | succ k =>
        have hrest := ih (some i) (Nat.le_of_succ_le_succ hjk) (Nat.lt_of_succ_lt_succ hk)
        simp only [List.take_succ_cons, changes, Nat.add_left_cancel_iff] at hrest ⊢
        rw [hrest]
        constructor
        · intro h m hj hm
          cases m with
          | zero => omega
          | succ m => exact h m (by omega) (by omega)
        · intro h m hj hm
          exact h (m + 1) (by omega) (by omega)

/-! ## Answers -/

/-- Calls whose identities stand for the same expressions each are answered rightly. -/
theorem rules_answers (sound : c.Sound) (agrees : ∀ a ∈ calls, c.Agrees a)
    (fixed : ∀ a ∈ calls, ∀ b ∈ calls, a.Agrees b) :
    (c.answers calls).map ParsedRules.rules =
      calls.map fun shared => shared.content.parsed := by
  induction calls generalizing c with
  | nil => rfl
  | cons shared rest ih =>
    have hrest : ∀ a ∈ rest, (c.fetch shared).Agrees a := by
      intro a ha
      have hmem : a ∈ shared :: rest := List.mem_cons_of_mem shared ha
      exact (agrees a hmem).fetch (fixed shared List.mem_cons_self a hmem)
    have hfixed : ∀ a ∈ rest, ∀ b ∈ rest, a.Agrees b := fun a ha b hb =>
      fixed a (List.mem_cons_of_mem shared ha) b (List.mem_cons_of_mem shared hb)
    rw [answers, List.map_cons, List.map_cons, ih (sound.fetch shared) hrest hfixed,
      parsed_fetch sound (agrees shared List.mem_cons_self)]

/-- Every call of a run is given the rule set of its expressions.  Two calls are given the same
reading exactly if the identity is the same from the first to the second.  There are as many readings
as calls whose identity is not the one of the call before, the first call included. -/
theorem answers_exact (fixed : ∀ a ∈ calls, ∀ b ∈ calls, a.Agrees b) :
    let ids := calls.map SharedExpressions.identity
    let given := empty.answers calls
    given.map ParsedRules.rules = (calls.map fun shared => shared.content.parsed) ∧
      (∀ j k, j ≤ k → k < calls.length →
        (given[j]?.map ParsedRules.serial = given[k]?.map ParsedRules.serial ↔
          ∀ m, j ≤ m → m ≤ k → ids[m]? = ids[j]?)) ∧
      (empty.afterCalls calls).parses = changes none ids := by
  intro ids given
  refine ⟨?_, ?_, ?_⟩
  · exact rules_answers sound_empty (fun a _ => agrees_empty a) fixed
  · intro j k hjk hk
    have hids : k < ids.length := by simpa [ids] using hk
    rw [serial_answers numbered_empty (Nat.lt_of_le_of_lt hjk hk),
      serial_answers numbered_empty hk, Option.some.injEq, Nat.add_left_cancel_iff]
    exact changes_take_eq_iff _ hjk hids
  · rw [parses_afterCalls]
    exact Nat.zero_add _

/-- Rules that are used twice, leave and come back, and others that say the same. -/
theorem answers_exact_returning :
    let old : SharedExpressions := ⟨0, .ofList [("name", "required")]⟩
    let other : SharedExpressions := ⟨1, .ofList [("name", "email")]⟩
    let copy : SharedExpressions := ⟨2, .ofList [("name", "required")]⟩
    let given := empty.answers [old, old, other, old, copy]
    given[0]?.map ParsedRules.serial = given[1]?.map ParsedRules.serial ∧
      given[1]?.map ParsedRules.serial ≠ given[3]?.map ParsedRules.serial ∧
      given[3]?.map ParsedRules.rules = some old.content.parsed ∧
      (empty.afterCalls [old, old, other, old, copy]).parses = 4 := by
  intro old other copy given
  have fixed : ∀ a ∈ [old, old, other, old, copy], ∀ b ∈ [old, old, other, old, copy],
      a.Agrees b := by
    simp [SharedExpressions.Agrees, old, other, copy]
  obtain ⟨rules, same, parses⟩ := answers_exact fixed
  refine ⟨?_, ?_, ?_, parses⟩
  · refine (same 0 1 (by decide) (by decide)).2 fun m _ hm => ?_
    obtain rfl | rfl : m = 0 ∨ m = 1 := by omega
    · rfl
    · rfl
  · intro h
    have hother := (same 1 3 (by decide) (by decide)).1 h 2 (by decide) (by decide)
    simp [old, other, copy] at hother
  · have hthird := congrArg (fun l => l[3]?) rules
    rw [List.getElem?_map, List.getElem?_map] at hthird
    exact hthird

end FormRules.RuleCache
