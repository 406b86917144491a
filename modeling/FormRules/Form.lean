import FormRules.Evaluation
import FormRules.RuleCache

/-!
# Forms

A form holds rules, a record and overrides, and the result of evaluating them.
Every change of one of the three runs a full pass with the new input.

* If the pass has a result, the form takes the new input and the result.
* If a rule names no registered validator, the form keeps its inputs and its
  result, and the change reports the error.

The cache of parsed rules is written by every pass, also by one without a
result.
-/

namespace FormRules

/-- A form with the result of its inputs. -/
structure Form where
  /-- The validators. -/
  registry : Registry
  /-- The cache of parsed rules. -/
  cache : RuleCache
  /-- The rules. -/
  rules : SharedExpressions
  /-- The record. -/
  record : Record
  /-- The overrides of messages. -/
  overrides : Overrides
  /-- The result of the three. -/
  result : Result

/-- What a change of a form gives. -/
structure Change where
  /-- The form after the change. -/
  form : Form
  /-- Why the form kept its inputs, if it did. -/
  failure : Option UnknownValidator
  /-- What was logged. -/
  log : List Log.Entry

/-! ## Passes through the cache -/

namespace RuleCache

/-- One pass with the rule set that the cache gives for shared expressions. -/
def pass (cache : RuleCache) (registry : Registry) (rules : SharedExpressions)
    (record : Record) (overrides : Overrides) : Pass :=
  registry.pass record (cache.fetch rules).parsed.rules overrides

/-- What that pass logs, the reading of the rules included. -/
def passLog (cache : RuleCache) (registry : Registry) (rules : SharedExpressions)
    (record : Record) (overrides : Overrides) : List Log.Entry :=
  cache.fetchLog rules ++
    (cache.pass registry rules record overrides).log (cache.fetch rules).parsed.rules.size

end RuleCache

namespace Form

/-! ## New forms -/

/-- A new form, with its first result. -/
def create (registry : Registry) (rules : SharedExpressions) (record : Record)
    (overrides : Overrides) : Except UnknownValidator Form :=
  match (RuleCache.empty.pass registry rules record overrides).result with
  | .error e => .error e
  | .ok result =>
    .ok ⟨registry, RuleCache.empty.fetch rules, rules, record, overrides, result⟩

/-- What making a form logs, also if there is no form in the end. -/
def createLog (registry : Registry) (rules : SharedExpressions) (record : Record)
    (overrides : Overrides) : List Log.Entry :=
  RuleCache.empty.passLog registry rules record overrides

/-! ## Changes -/

/-- Replaces the inputs of a form, if they have a result. -/
def change (f : Form) (rules : SharedExpressions) (record : Record) (overrides : Overrides) :
    Change :=
  let cache := f.cache.fetch rules
  let log := f.cache.passLog f.registry rules record overrides
  match (f.cache.pass f.registry rules record overrides).result with
  | .error e => ⟨{ f with cache }, some e, log⟩
  | .ok result => ⟨{ f with cache, rules, record, overrides, result }, none, log⟩

/-- Replaces the rules. -/
def setRules (f : Form) (rules : SharedExpressions) : Change :=
  f.change rules f.record f.overrides

/-- Replaces the record. -/
def setRecord (f : Form) (record : Record) : Change := f.change f.rules record f.overrides

/-- Replaces the value of one field, which keeps its place in the record if it has one. -/
def setValue (f : Form) (field : String) (value : Value) : Change :=
  f.setRecord (f.record.insert field value)

/-- Replaces the overrides. -/
def setOverrides (f : Form) (overrides : Overrides) : Change :=
  f.change f.rules f.record overrides

/-! ## Views -/

/-- Whether the form is valid. -/
def valid (f : Form) : Bool := f.result.valid

/-- The messages of the form. -/
def errors (f : Form) : Errors := f.result.errors

/-- How often rules have been read for the form. -/
def parses (f : Form) : Nat := f.cache.parses

end Form

end FormRules
