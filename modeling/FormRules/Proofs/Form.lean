import FormRules.Form
import FormRules.Proofs.Evaluation
import FormRules.Proofs.RuleCache

/-!
# Forms that are up to date

A form is *fresh* for a registry if its result is the one of its rules, its
record and its overrides, read and evaluated anew.  A change asks the cache for a rule set and
may then be refused, so that the cache holds rules which are not those of the
form.  What keeps the next change right is said in `Form.Fresh`: the cache is
sound, and it agrees with the rules of the form.

A change gives one of two forms (`Form.Fresh.change_cases`), and either is fresh
again (`Form.Fresh.change`).  It is refused exactly if the check of its rules
fails, and for the same reason.  The rules of a fresh form have passed the check,
so a change that leaves them is always made (`Form.Fresh.change_own_made`).
-/

namespace FormRules

/-- The form has the inputs and the result of another. -/
structure Form.Keeps (g f : Form) : Prop where
  rules : g.rules = f.rules
  record : g.record = f.record
  overrides : g.overrides = f.overrides
  result : g.result = f.result

/-- The change was refused: the form has what it had. -/
structure Change.Refused (c : Change) (f : Form) (e : UnknownValidator) : Prop where
  failure : c.failure = some e
  kept : c.form.Keeps f

/-- The change was made: the form has what it was given. -/
structure Change.Made (c : Change) (rules : SharedExpressions) (record : Record)
    (overrides : Overrides) : Prop where
  failure : c.failure = none
  rules : c.form.rules = rules
  record : c.form.record = record
  overrides : c.form.overrides = overrides

namespace RuleCache

theorem pass_eq {c : RuleCache} {shared : SharedExpressions} (sound : c.Sound)
    (agrees : c.Agrees shared) (registry : Registry) (record : Record) (overrides : Overrides) :
    (c.pass registry shared record overrides).result =
      registry.evaluate record shared.content.parsed overrides := by
  rw [pass, parsed_fetch sound agrees, Registry.evaluate]

end RuleCache

namespace Form

/-- The result of the form is the one of its inputs, and its cache may be trusted. -/
structure Fresh (registry : Registry) (f : Form) : Prop where
  registry_eq : f.registry = registry
  sound : f.cache.Sound
  agrees : f.cache.Agrees f.rules
  current : registry.evaluate f.record f.rules.content.parsed f.overrides = .ok f.result

/-! ## New forms -/

/-- Making a form fails as the check of its rules does. -/
theorem map_create (registry : Registry) (rules : SharedExpressions) (record : Record)
    (overrides : Overrides) :
    (create registry rules record overrides).map (fun _ => ()) =
      registry.checkRules rules.content.parsed := by
  rw [create, RuleCache.pass_eq RuleCache.sound_empty (RuleCache.agrees_empty rules),
    ← registry.map_evaluate rules.content.parsed record overrides]
  cases registry.evaluate record rules.content.parsed overrides <;> rfl

theorem exists_create_eq_ok {registry : Registry} {rules : SharedExpressions}
    (checked : registry.checkRules rules.content.parsed = .ok ()) (record : Record)
    (overrides : Overrides) : ∃ f, create registry rules record overrides = .ok f := by
  rw [← map_create registry rules record overrides] at checked
  cases h : create registry rules record overrides with
  | error e => rw [h] at checked; cases checked
  | ok f => exact ⟨f, rfl⟩

/-- A form is made of what it is given and of the result. -/
theorem create_eq_ok_iff {registry : Registry} {rules : SharedExpressions} {record : Record}
    {overrides : Overrides} {f : Form} :
    create registry rules record overrides = .ok f ↔
      ∃ result, registry.evaluate record rules.content.parsed overrides = .ok result ∧
        f = ⟨registry, RuleCache.empty.fetch rules, rules, record, overrides, result⟩ := by
  rw [create, RuleCache.pass_eq RuleCache.sound_empty (RuleCache.agrees_empty rules)]
  cases registry.evaluate record rules.content.parsed overrides with
  | error e => simp
  | ok result => simp [eq_comm]

theorem fresh_create {registry : Registry} {rules : SharedExpressions} {record : Record}
    {overrides : Overrides} {f : Form} (h : create registry rules record overrides = .ok f) :
    f.Fresh registry := by
  obtain ⟨result, hresult, rfl⟩ := create_eq_ok_iff.1 h
  exact ⟨rfl, RuleCache.sound_empty.fetch rules,
    (RuleCache.agrees_empty rules).fetch fun _ => rfl, hresult⟩

/-! ## Changes -/

variable {registry : Registry} {f : Form} {shared : SharedExpressions}

/-- What a change of a fresh form gives, with and without a result. -/
theorem Fresh.change_cases (fresh : f.Fresh registry) (agrees : f.cache.Agrees shared)
    (record : Record) (overrides : Overrides) :
    (∃ e, registry.evaluate record shared.content.parsed overrides = .error e ∧
      (f.change shared record overrides).failure = some e ∧
      (f.change shared record overrides).form = { f with cache := f.cache.fetch shared }) ∨
    (∃ result, registry.evaluate record shared.content.parsed overrides = .ok result ∧
      (f.change shared record overrides).failure = none ∧
      (f.change shared record overrides).form =
        { f with cache := f.cache.fetch shared, rules := shared, record, overrides, result }) := by
  obtain ⟨rfl, sound, -, -⟩ := fresh
  rw [change, RuleCache.pass_eq sound agrees]
  cases f.registry.evaluate record shared.content.parsed overrides with
  | error e => exact .inl ⟨e, rfl, rfl, rfl⟩
  | ok result => exact .inr ⟨result, rfl, rfl, rfl⟩

/-- Every change of a fresh form gives a fresh form, also one that is refused. -/
theorem Fresh.change (fresh : f.Fresh registry) (agrees : f.cache.Agrees shared)
    (own : shared.Agrees f.rules) (record : Record) (overrides : Overrides) :
    (f.change shared record overrides).form.Fresh registry := by
  have sound : (f.cache.fetch shared).Sound := fresh.sound.fetch shared
  rcases fresh.change_cases agrees record overrides with ⟨e, -, -, hform⟩ | ⟨result, hr, -, hform⟩
  · rw [hform]
    exact ⟨fresh.registry_eq, sound, fresh.agrees.fetch own, fresh.current⟩
  · rw [hform]
    exact ⟨fresh.registry_eq, sound, agrees.fetch fun _ => rfl, hr⟩

/-- A change that leaves the rules gives a fresh form. -/
theorem Fresh.change_own (fresh : f.Fresh registry) (record : Record) (overrides : Overrides) :
    (f.change f.rules record overrides).form.Fresh registry :=
  fresh.change fresh.agrees (fun _ => rfl) record overrides

/-- The rules of a fresh form pass the check. -/
theorem Fresh.checkRules (fresh : f.Fresh registry) :
    registry.checkRules f.rules.content.parsed = .ok () :=
  Registry.checkRules_eq_ok fresh.current

/-- A change is made if its rules pass the check. -/
theorem Fresh.change_made (fresh : f.Fresh registry) (agrees : f.cache.Agrees shared)
    (checked : registry.checkRules shared.content.parsed = .ok ()) (record : Record)
    (overrides : Overrides) :
    (f.change shared record overrides).Made shared record overrides := by
  rcases fresh.change_cases agrees record overrides with ⟨e, he, -, -⟩ | ⟨result, -, hfail, hform⟩
  · rw [Registry.evaluate_eq_error_iff, checked] at he
    cases he
  · exact ⟨hfail, by rw [hform], by rw [hform], by rw [hform]⟩

/-- A change is refused as the check refuses its rules. -/
theorem Fresh.change_refused (fresh : f.Fresh registry) (agrees : f.cache.Agrees shared)
    {e : UnknownValidator} (checked : registry.checkRules shared.content.parsed = .error e)
    (record : Record) (overrides : Overrides) :
    (f.change shared record overrides).Refused f e := by
  rcases fresh.change_cases agrees record overrides with ⟨e', he, hfail, hform⟩ | ⟨result, hr, -, -⟩
  · rw [Registry.evaluate_eq_error_iff, checked] at he
    cases he
    exact ⟨hfail, ⟨by rw [hform], by rw [hform], by rw [hform], by rw [hform]⟩⟩
  · rw [Registry.checkRules_eq_ok hr] at checked
    cases checked

/-- A change that leaves the rules is always made. -/
theorem Fresh.change_own_made (fresh : f.Fresh registry) (record : Record)
    (overrides : Overrides) :
    (f.change f.rules record overrides).Made f.rules record overrides :=
  fresh.change_made fresh.agrees fresh.checkRules record overrides

end Form

end FormRules
