import FormRules.Builtin
import FormRules.Proofs.OrderedMap

/-!
# Looking up built-in validators

A registry of the built-in validators has an entry for each of their names and no
other (`Registry.lookup_withBuiltins`).  The catalog gives the template of an
entry and nothing else of it.
-/

namespace FormRules.Registry

theorem lookup_empty (name : String) : empty.lookup name = none := rfl

theorem lookup_register (r : Registry) (key : String) (v : Validator) (template name : String) :
    (r.register key v template).lookup name =
      if key = name then some ⟨name, v, template⟩ else r.lookup name := by
  rw [lookup, register, OrderedMap.get?_insert]
  split <;> rfl

/-- Of validators that are registered under different names, a name has the one that is listed with
it.  Every other name keeps its entry. -/
theorem lookup_foldl_register (template : String → String) (name : String)
    {validators : List (String × Validator)} (nodup : (validators.map Prod.fst).Nodup) :
    ∀ r : Registry,
      (validators.foldl (fun r v => r.register v.1 v.2 (template v.1)) r).lookup name =
        ((Entries.find? name validators).map fun v => ⟨name, v, template name⟩).or
          (r.lookup name) := by
  -- The registry grows on the way, so the statement is about all registries to start with.
  induction validators with
  | nil => exact fun r => rfl
  | cons v rest ih =>
    intro r
    obtain ⟨key, v⟩ := v
    rw [List.map_cons, List.nodup_cons] at nodup
    rw [List.foldl_cons, ih nodup.2, lookup_register, Entries.find?]
    by_cases hkey : key = name
    · subst hkey
      have hrest : Entries.find? key rest = none := (Entries.find?_eq_none_iff key rest).2 nodup.1
      simp [hrest]
    · rw [if_neg hkey, if_neg hkey]

/-- The entry of a built-in validator has the template of the catalog. -/
theorem lookup_withBuiltins (catalog : Catalog) (name : String) :
    (withBuiltins catalog).lookup name =
      (Entries.find? name Builtin.all).map fun v => ⟨name, v, catalog.template name⟩ := by
  rw [withBuiltins, lookup_foldl_register _ _ (by decide), lookup_empty, Option.or_none]

end FormRules.Registry
