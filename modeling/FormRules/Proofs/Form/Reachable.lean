import FormRules.Proofs.Watch.Reload

/-!
# Reachable forms

A form is *reachable* if it was made with a registry and then changed in any ways,
done or refused: its rules, its record or its overrides were replaced, or a file was
taken in again, whatever the files were at that time.  Replacing one value is
replacing the record.

Rules that replace others are new ones, those of the form, or older ones that come
back.  All that is asked of them is what an identity is for: they say what the rules
of the form and those in the cache say, if they have the identity of these.

Reachable forms are fresh (`Reachable.fresh`), so whatever is shown of fresh forms
holds in every state that a form can get into.
-/

namespace FormRules.Form

/-- The form was made with the registry and changed in any ways. -/
inductive Reachable (registry : Registry) : Form → Prop where
  /-- A new form. -/
  | create {f : Form} {rules : SharedExpressions} {record : Record} {overrides : Overrides} :
      Form.create registry rules record overrides = .ok f → Reachable registry f
  /-- The rules were replaced, or refused. -/
  | setRules {f : Form} {rules : SharedExpressions} : Reachable registry f →
      f.cache.Agrees rules → rules.Agrees f.rules → Reachable registry (f.setRules rules).form
  /-- The record was replaced. -/
  | setRecord {f : Form} (record : Record) : Reachable registry f →
      Reachable registry (f.setRecord record).form
  /-- The overrides were replaced. -/
  | setOverrides {f : Form} (overrides : Overrides) : Reachable registry f →
      Reachable registry (f.setOverrides overrides).form
  /-- A file was taken in again, or refused. -/
  | reload {f : Form} (files : Files) (paths : WatchedPaths) (input : Input) :
      Reachable registry f → Reachable registry (f.reload files paths input).form

variable {registry : Registry} {f : Form}

theorem Reachable.setValue (reachable : f.Reachable registry) (field : String) (value : Value) :
    (f.setValue field value).form.Reachable registry :=
  .setRecord _ reachable

theorem Reachable.fresh (reachable : f.Reachable registry) : f.Fresh registry := by
  induction reachable with
  | create created => exact fresh_create created
  | setRules _ agrees own fresh => exact fresh.change agrees own _ _
  | setRecord record _ fresh => exact fresh.change_own record _
  | setOverrides overrides _ fresh => exact fresh.change_own _ overrides
  | reload files paths input _ fresh => exact fresh.reload files paths input

end FormRules.Form
