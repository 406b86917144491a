import FormRules.Builtin
import FormRules.Evaluation.Errors
import FormRules.Evaluation.Message
import FormRules.Log
import FormRules.Rule.RuleSet

/-!
# Evaluation

A *pass* runs every rule of every field, in order.  A rule that fails leaves a
*failure*, and the pass goes on.  A rule that names no registered validator ends
the pass, which then has no result.

* The value of a field is normalized.  The record goes to the validator as it is.
* A field that is not in the record is run on the empty text.
* A field may collect several messages.

`Registry.checkRules` finds the rule that would end a pass without running
anything.
-/

namespace FormRules

/-- A rule that names no registered validator. -/
structure UnknownValidator where
  /-- The field of the rule. -/
  field : String
  /-- The name in the rule. -/
  validator : String
deriving DecidableEq, Repr

/-- The error in words. -/
def UnknownValidator.message (e : UnknownValidator) : String :=
  "unknown validator '" ++ e.validator ++ "' in rules for field '" ++ e.field ++ "'"

/-- A rule that failed. -/
structure Failure where
  /-- The field of the rule. -/
  field : String
  /-- The validator that the rule names. -/
  validator : String
  /-- The value that did not pass. -/
  value : Value
  /-- The message of the failure. -/
  message : String
deriving DecidableEq

/-! ## Passes -/

/-- A pass over a form. -/
structure Pass where
  /-- The rules that failed, in order. -/
  failures : List Failure
  /-- The rule that ended the pass, if one did. -/
  stopped : Option UnknownValidator
deriving DecidableEq

namespace RuleSet

/-- The rules of a rule set with their fields, in the order in which they run. -/
def rules (ruleSet : RuleSet) : List (String × Rule) :=
  ruleSet.entries.flatMap fun e => e.2.map fun rule => (e.1, rule)

end RuleSet

namespace Pass

/-- What a rule of a field leaves if it fails. -/
def failure? (registered : Registered) (record : Record) (overrides : Overrides)
    (field : String) (rule : Rule) : Option Failure :=
  let value := record.normalized field
  let outcome := registered.run value rule.args record
  if outcome.passed then none
  else some ⟨field, rule.name, value, outcome.resolve field rule.name overrides⟩

/-- Runs rules until one names no registered validator. -/
def run (registry : Registry) (record : Record) (overrides : Overrides) :
    List (String × Rule) → Pass
  | [] => ⟨[], none⟩
  | (field, rule) :: rest =>
    match registry.lookup rule.name with
    | none => ⟨[], some ⟨field, rule.name⟩⟩
    | some registered =>
      let later := run registry record overrides rest
      ⟨(failure? registered record overrides field rule).toList ++ later.failures, later.stopped⟩

/-- The error list of the failures of a pass. -/
def errors (p : Pass) : Errors :=
  Errors.empty.addAll (p.failures.map fun f => (f.field, f.message))

/-- The result of a pass that was not ended. -/
def result (p : Pass) : Except UnknownValidator Result :=
  match p.stopped with
  | some e => .error e
  | none => .ok ⟨p.errors⟩

/-- What a pass over a number of fields logs: each failure, and a summary at its end. -/
def log (p : Pass) (fields : Nat) : List Log.Entry :=
  p.failures.map (fun f => ⟨.trace, .evaluation,
      f.field ++ " failed '" ++ f.validator ++ "' with value " ++ f.value.detail⟩) ++
    match p.stopped with
    | some _ => []
    | none => [⟨.debug, .evaluation,
        "Evaluated " ++ toString fields ++ " fields: " ++ toString p.errors.count ++
          " messages across " ++ toString p.errors.fields.length ++ " fields"⟩]

end Pass

/-! ## Evaluating with a registry -/

namespace Registry

/-- The first rule that names no registered validator, as an error. -/
def checkRules (registry : Registry) (ruleSet : RuleSet) : Except UnknownValidator Unit :=
  match ruleSet.rules.find? fun r => !registry.contains r.2.name with
  | some (field, rule) => .error ⟨field, rule.name⟩
  | none => .ok ()

/-- One pass over a record. -/
def pass (registry : Registry) (record : Record) (ruleSet : RuleSet) (overrides : Overrides) :
    Pass :=
  Pass.run registry record overrides ruleSet.rules

/-- The result of one pass over a record. -/
def evaluate (registry : Registry) (record : Record) (ruleSet : RuleSet)
    (overrides : Overrides) : Except UnknownValidator Result :=
  (registry.pass record ruleSet overrides).result

end Registry

/-- Reads the expressions of a form and evaluates a record once, with the built-in validators. -/
def validate (expressions : Expressions) (record : Record) (overrides : Overrides) :
    Except UnknownValidator Result :=
  Registry.standard.evaluate record expressions.parsed overrides

end FormRules
