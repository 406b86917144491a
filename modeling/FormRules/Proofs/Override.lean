import FormRules.Override
import FormRules.Proofs.OrderedMap

/-!
# Overrides that say the same

Two override maps are compared without regard to order, and so are the tables in
them.  A message is found by lookups alone, so maps that compare as the same have
the same message for every validator in every field (`lookup_eq_of_same`).
-/

namespace FormRules

namespace Override

theorem inField?_eq_of_same {a b : Override} (h : a.same b = true) (validator : String) :
    a.inField? validator = b.inField? validator := by
  cases a with
  | everywhere s =>
    cases b with
    | everywhere t => rfl
    | inField n => cases h
  | inField m =>
    cases b with
    | everywhere t => cases h
    | inField n => exact (m.sameEntries_beq_iff n).1 h validator

theorem everywhere?_eq_of_same {a b : Override} (h : a.same b = true) :
    a.everywhere? = b.everywhere? := by
  cases a with
  | everywhere s =>
    cases b with
    | everywhere t => rw [everywhere?, everywhere?, eq_of_beq h]
    | inField n => cases h
  | inField m =>
    cases b with
    | everywhere t => cases h
    | inField n => rfl

@[simp] theorem same_refl (a : Override) : a.same a = true := by
  cases a with
  | everywhere s => exact beq_self_eq_true s
  | inField m => exact (m.sameEntries_beq_iff m).2 fun _ => rfl

end Override

namespace Overrides

/-- Related overrides are not told apart by what does not tell their entries apart. -/
theorem bind_eq_of_same {α : Type} {a b : Overrides} (h : a.same b = true) (key : String)
    {f : Override → Option α} (hf : ∀ {x y : Override}, x.same y = true → f x = f y) :
    (a.get? key).bind f = (b.get? key).bind f := by
  have hkey := (a.sameEntries_iff Override.same b).1 h key
  generalize a.get? key = x, b.get? key = y at hkey
  cases hkey with
  | some hxy => exact hf hxy
  | none => rfl

theorem lookup_eq_of_same {a b : Overrides} (h : a.same b = true) (field validator : String) :
    a.lookup field validator = b.lookup field validator := by
  rw [lookup, lookup, bind_eq_of_same h field (Override.inField?_eq_of_same · validator),
    bind_eq_of_same h validator Override.everywhere?_eq_of_same]

@[simp] theorem same_refl (a : Overrides) : a.same a = true := by
  refine (a.sameEntries_iff Override.same a).2 fun key => ?_
  cases a.get? key with
  | some x => exact .some x.same_refl
  | none => exact .none

end Overrides

end FormRules
