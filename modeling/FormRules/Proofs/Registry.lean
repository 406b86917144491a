import FormRules.Proofs.Builtin
import FormRules.Proofs.Evaluation
import FormRules.Proofs.Text.ByteOrder

/-!
# What a registry tells

*Views.*  A registry can be looked up, asked for a name, listed and counted.
Whatever it holds, these agree: a name is listed if it has an entry
(`Registry.mem_names_iff`), and each is listed once, in the order of the bytes
(`Registry.pairwise_names`).

*Histories.*  A registry is made by registering, one entry after the other, and
the built-in validators are the beginning of such a history
(`Registry.Base.registry_eq`).  What it has under a name is the entry that was
registered under it last (`Registry.tells_putAll`), whatever was there before and
whatever was registered under other names since.
-/

namespace FormRules

namespace Registry

/-! ## Views -/

theorem contains_iff (r : Registry) (name : String) :
    r.contains name = true ↔ ∃ v, r.lookup name = some v := by
  rw [contains_eq_isSome_lookup, Option.isSome_iff_exists]

theorem mem_names_iff (r : Registry) (name : String) :
    name ∈ r.names ↔ r.contains name = true := by
  rw [names, List.mem_mergeSort, contains, OrderedMap.contains_iff]

theorem length_names (r : Registry) : r.names.length = r.size := by
  rw [names, List.length_mergeSort, OrderedMap.keys, List.length_map]
  rfl

theorem isEmpty_iff_names (r : Registry) : r.isEmpty = true ↔ r.names = [] := by
  rw [← List.length_eq_zero_iff, length_names, size, OrderedMap.size, List.length_eq_zero_iff]
  exact List.isEmpty_iff

/-- The comparison that sorts the names is `≤`. -/
theorem not_decide_lt_iff (a b : String) : (!decide (b < a)) = true ↔ a ≤ b := by
  rw [Bool.not_eq_true', decide_eq_false_iff_not, String.not_lt]

/-- The names are listed in ascending order of their bytes, none of them twice. -/
theorem pairwise_names (r : Registry) :
    r.names.Pairwise fun a b => Text.bytes a < Text.bytes b := by
  have sorted : r.names.Pairwise fun a b => (!decide (b < a)) = true := by
    refine List.pairwise_mergeSort ?_ ?_ _
    · intro a b c
      rw [not_decide_lt_iff, not_decide_lt_iff, not_decide_lt_iff]
      exact String.le_trans
    · intro a b
      rw [Bool.or_eq_true, not_decide_lt_iff, not_decide_lt_iff]
      exact String.le_total a b
  have distinct : r.names.Nodup := (List.mergeSort_perm _ _).nodup_iff.2 r.table.nodup
  refine (sorted.and distinct).imp fun {a b} h => Text.bytes_lt_bytes ?_
  have hab : a ≤ b := (not_decide_lt_iff a b).1 h.1
  exact String.not_le.1 fun hba => h.2 (String.le_antisymm hab hba)

/-! ## Histories -/

/-- Registers an entry under its name. -/
def put (r : Registry) (v : Registered) : Registry := r.register v.name v.validator v.template

/-- Registers entries, first to last. -/
def putAll (r : Registry) (history : List Registered) : Registry := history.foldl put r

/-- The entry is in the history, and none after it has its name. -/
def Latest (history : List Registered) (v : Registered) : Prop :=
  ∃ before after, history = before ++ v :: after ∧ ∀ w ∈ after, w.name ≠ v.name

theorem lookup_put (r : Registry) (v : Registered) (name : String) :
    (r.put v).lookup name = if v.name = name then some v else r.lookup name := by
  rw [put, lookup_register]
  split
  case isTrue h =>
    subst h
    rfl
  case isFalse => rfl

theorem lookup_putAll (history : List Registered) (name : String) :
    (empty.putAll history).lookup name = history.reverse.find? fun v => v.name = name := by
  induction history using List.reverseRecOn with
  | nil => rfl
  | append_singleton earlier last ih =>
    have hlast : empty.putAll (earlier ++ [last]) = (empty.putAll earlier).put last :=
      List.foldl_append
    rw [hlast, lookup_put, ih, List.reverse_append, List.reverse_singleton, List.singleton_append,
      List.find?_cons]
    by_cases h : last.name = name <;> simp [h]

/-- A name has the entry that was registered under it last. -/
theorem lookup_putAll_eq_some_iff (history : List Registered) (name : String) (v : Registered) :
    (empty.putAll history).lookup name = some v ↔ v.name = name ∧ Latest history v := by
  rw [lookup_putAll, List.find?_eq_some_iff_append]
  simp only [decide_eq_true_eq, Bool.not_eq_true', decide_eq_false_iff_not]
  refine and_congr_right fun hname => ⟨?_, ?_⟩
  · rintro ⟨after, before, hreverse, hafter⟩
    refine ⟨before.reverse, after.reverse, ?_, ?_⟩
    · rw [← List.reverse_reverse history, hreverse]
      simp
    · rw [hname]
      simpa using hafter
  · rintro ⟨before, after, rfl, hafter⟩
    rw [hname] at hafter
    exact ⟨after.reverse, before.reverse, by simp, by simpa using hafter⟩

theorem lookup_putAll_eq_none_iff (history : List Registered) (name : String) :
    (empty.putAll history).lookup name = none ↔ ∀ v ∈ history, v.name ≠ name := by
  rw [lookup_putAll, List.find?_eq_none]
  simp

/-- What a registry tells of the entries that were registered, one after the other. -/
structure Tells (r : Registry) (history : List Registered) : Prop where
  /-- A name has the entry that was registered under it last. -/
  lookup_eq_some_iff : ∀ name v, r.lookup name = some v ↔ v.name = name ∧ Latest history v
  /-- A name under which none was registered has no entry. -/
  lookup_eq_none_iff : ∀ name, r.lookup name = none ↔ ∀ v ∈ history, v.name ≠ name
  contains_iff_lookup : ∀ name, r.contains name = true ↔ ∃ v, r.lookup name = some v
  contains_iff_names : ∀ name, r.contains name = true ↔ name ∈ r.names
  mem_names_iff_history : ∀ name, name ∈ r.names ↔ ∃ v ∈ history, v.name = name
  /-- The names are in strictly ascending order of their bytes. -/
  names_ascending : r.names.Pairwise fun a b => Text.bytes a < Text.bytes b
  size_eq : r.size = r.names.length
  isEmpty_iff : r.isEmpty = true ↔ r.names = []

/-- A registry tells of each name what was registered under it last, and all its views agree. -/
theorem tells_putAll (history : List Registered) : (empty.putAll history).Tells history where
  lookup_eq_some_iff := lookup_putAll_eq_some_iff history
  lookup_eq_none_iff := lookup_putAll_eq_none_iff history
  contains_iff_lookup := contains_iff _
  contains_iff_names name := (mem_names_iff _ name).symm
  mem_names_iff_history name := by
    rw [mem_names_iff, contains_iff, ← Option.ne_none_iff_exists', ne_eq,
      lookup_putAll_eq_none_iff]
    simp
  names_ascending := pairwise_names _
  size_eq := (length_names _).symm
  isEmpty_iff := isEmpty_iff_names _

/-! ## Calls -/

/-- A call that registers a validator, or a check alone. -/
inductive Call where
  /-- Registers a validator. -/
  | validator (name : String) (validator : Validator) (template : String)
  /-- Registers a check, with no parts of the rule to show. -/
  | check (name template : String) (test : Value → List String → Record → Bool)

/-- The entry that a call registers. -/
def Call.entry : Call → Registered
  | .validator name v template => ⟨name, v, template⟩
  | .check name template test => ⟨name, { check := test }, template⟩

/-- The registry after a call. -/
def afterCall (r : Registry) : Call → Registry
  | .validator name v template => r.register name v template
  | .check name template test => r.registerCheck name template test

/-- The registry after calls, first to last. -/
def afterCalls (r : Registry) (calls : List Call) : Registry := calls.foldl afterCall r

/-- What a registry is at first. -/
inductive Base where
  /-- Without validators. -/
  | empty
  /-- The built-in validators with the templates of a catalog. -/
  | builtins (catalog : Catalog)

/-- The registry at first. -/
def Base.registry : Base → Registry
  | .empty => Registry.empty
  | .builtins catalog => withBuiltins catalog

/-- The entries that are registered at first. -/
def Base.entries : Base → List Registered
  | .empty => []
  | .builtins catalog => Builtin.all.map fun v => ⟨v.1, v.2, catalog.template v.1⟩

theorem afterCall_eq_put (r : Registry) (call : Call) : r.afterCall call = r.put call.entry := by
  cases call <;> rfl

theorem Base.registry_eq (base : Base) : base.registry = Registry.empty.putAll base.entries := by
  cases base with
  | empty => rfl
  | builtins catalog =>
    rw [registry, entries, withBuiltins, putAll, List.foldl_map]
    rfl

theorem afterCalls_eq_putAll (base : Base) (calls : List Call) :
    base.registry.afterCalls calls = empty.putAll (base.entries ++ calls.map Call.entry) := by
  have hstep : afterCall = fun r call => r.put call.entry := by
    funext r call
    exact r.afterCall_eq_put call
  rw [afterCalls, hstep, base.registry_eq, putAll, putAll, List.foldl_append, List.foldl_map]

end Registry

end FormRules
