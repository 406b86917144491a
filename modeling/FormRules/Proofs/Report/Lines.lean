import FormRules.Proofs.Builtin.Dependent
import FormRules.Proofs.Errors
import FormRules.Proofs.Evaluation.Reference
import FormRules.Proofs.Template
import FormRules.Report

/-!
# The lines of a text report

A text report has a line for the verdict at its end, and in front of it each message with its field.
Both are written as they are, so a line break in one of them is a line break of the report.

*What a reader sees.*  Each line break in a field or a message makes one line more
(`Result.length_textLines`).  So a report has a line for each message, and one for the verdict,
exactly if none of its fields and messages holds a line break (`Result.textLines_eq_iff`).

*Where line breaks come from.*  A message is filled from an override or a template with the field
and with arguments of the rule.  No text of the record gets into it.  So a report of the built-in
validators has its lines if nobody wrote a line break into the rules, the overrides or the catalog,
whatever is entered (`Result.oneLine_of_evaluate`).
-/

namespace FormRules

/-- The text holds no line break. -/
def Text.OneLine (s : String) : Prop := '\n' ∉ s.toList

instance (s : String) : Decidable (Text.OneLine s) := inferInstanceAs (Decidable (_ ∉ _))

open Text (OneLine)

/-! ## What a reader sees -/

namespace Errors

theorem length_lines (e : Errors) : e.lines.length = e.count := by
  rw [count_eq_length_all, lines, all, OrderedMap.values, List.length_flatMap, List.length_flatten,
    List.map_map]
  simp [entries, Function.comp_def]

end Errors

namespace Result

/-- The lines of the text report. -/
def textLines (r : Result) : List (List Char) := Text.split '\n' (r.render .text).toList

theorem oneLine_verdict (r : Result) : OneLine r.verdict := by
  rw [verdict]
  split <;> simp [OneLine]

theorem toList_toText (r : Result) :
    r.toText.toList =
      Text.join '\n' (r.errors.lines.map String.toList ++ [r.verdict.toList]) := by
  rw [toText, String.toList_append, String.toList_join, Text.join_append_singleton,
    List.flatMap_map, List.flatMap_map]
  simp [String.toList_append]

/-- The report has the lines of its messages, one after the other, and then the verdict. -/
theorem textLines_eq (r : Result) :
    r.textLines =
      (r.errors.lines.flatMap fun line => Text.split '\n' line.toList) ++ [r.verdict.toList] := by
  rw [textLines, render, toList_toText, Text.split_join_eq_flatMap _ (by simp),
    List.flatMap_append, List.flatMap_map, List.flatMap_singleton,
    Text.split_of_not_mem r.oneLine_verdict]

/-- Every line break in a message or in its field makes one line more. -/
theorem length_textLines (r : Result) :
    r.textLines.length =
      r.errors.count + 1 + (r.errors.lines.flatMap String.toList).count '\n' := by
  rw [textLines_eq, ← Errors.length_lines, List.length_append, List.length_singleton]
  induction r.errors.lines with
  | nil => rfl
  | cons line rest ih =>
    rw [List.flatMap_cons, List.flatMap_cons, List.length_append, Text.length_split,
      List.count_append, List.length_cons]
    omega

/-- The report has a line for each message exactly if no message and no field holds a line break. -/
theorem textLines_eq_iff (r : Result) :
    r.textLines = r.errors.lines.map String.toList ++ [r.verdict.toList] ↔
      ∀ line ∈ r.errors.lines, OneLine line := by
  constructor
  · intro h line hline
    refine Text.not_mem_of_mem_split (s := (r.render .text).toList) ?_
    rw [← textLines, h]
    exact List.mem_append_left _ (List.mem_map_of_mem hline)
  · intro h
    rw [textLines_eq, ← List.flatMap_map, Text.flatMap_split]
    simpa [OneLine] using h

end Result

/-! ## Where line breaks come from -/

theorem Text.oneLine_append {s t : String} (hs : OneLine s) (ht : OneLine t) :
    OneLine (s ++ t) := by
  rw [OneLine, String.toList_append, List.mem_append]
  exact fun h => h.elim hs ht

theorem Text.oneLine_intercalate {separator : String} (hseparator : OneLine separator)
    {texts : List String} (h : ∀ s ∈ texts, OneLine s) :
    OneLine (separator.intercalate texts) := by
  induction texts with
  | nil => simp [OneLine]
  | cons s rest ih =>
    obtain ⟨hs, hrest⟩ := List.forall_mem_cons.1 h
    cases rest with
    | nil => rwa [String.intercalate_singleton]
    | cons t rest =>
      rw [String.intercalate_cons_cons]
      exact oneLine_append (oneLine_append hs hseparator) (ih hrest)

namespace Builtin

theorem mem_args_of_mem_conditionArgs {args : List String} {c : Condition} {a : String}
    (hc : c ∈ conditions args) (ha : a ∈ conditionArgs c) : a ∈ args := by
  obtain ⟨i, hi⟩ := List.getElem?_of_mem hc
  rw [getElem?_conditions, Option.map_eq_some_iff] at hi
  obtain ⟨field, hfield, rfl⟩ := hi
  rw [conditionArgs, List.mem_cons, Option.mem_toList] at ha
  rcases ha with rfl | ha
  · exact List.mem_of_getElem? hfield
  · exact List.mem_of_getElem? ha

theorem mem_args_of_mem_named {names args : List String} {b : Template.Binding}
    (h : b ∈ named names args) : b.2 ∈ args :=
  (List.of_mem_zip h).2

/-- What a message of a built-in validator may show is on one line if the arguments are. -/
theorem oneLine_placeholders {name : String} {v : Validator} (hv : (name, v) ∈ all)
    {args : List String} (hargs : ∀ a ∈ args, OneLine a) (record : Record) :
    ∀ b ∈ v.placeholders args record, OneLine b.2 := by
  intro b hb
  simp only [all, List.mem_cons, Prod.mk.injEq, List.not_mem_nil, or_false] at hv
  rcases hv with ⟨-, rfl⟩ | ⟨-, rfl⟩ | ⟨-, rfl⟩ | ⟨-, rfl⟩ | ⟨-, rfl⟩ | ⟨-, rfl⟩ | ⟨-, rfl⟩ |
    ⟨-, rfl⟩
  · cases hb
  · exact hargs _ (mem_args_of_mem_named hb)
  · exact hargs _ (mem_args_of_mem_named hb)
  · exact hargs _ (mem_args_of_mem_named hb)
  · cases hb
  · cases hb
  · have hmem := mem_args_of_mem_named hb
    cases hdeciding : deciding args record with
    | none =>
      rw [hdeciding] at hmem
      exact hargs _ hmem
    | some c =>
      rw [hdeciding] at hmem
      exact hargs _ (mem_args_of_mem_conditionArgs (deciding_mem_conditions hdeciding) hmem)
  · simp only [requiredWith] at hb
    split at hb
    · cases hb
    · rw [List.mem_singleton.1 hb]
      exact Text.oneLine_intercalate (by decide) hargs

end Builtin

/-- The author of a form writes no line break: no field, no argument and no override has one. -/
structure Authored (ruleSet : RuleSet) (overrides : Overrides) : Prop where
  fields : ∀ e ∈ ruleSet.entries, OneLine e.1
  args : ∀ e ∈ ruleSet.entries, ∀ rule ∈ e.2, ∀ a ∈ rule.args, OneLine a
  overrides : ∀ field validator message,
    overrides.lookup field validator = some message → OneLine message

theorem Outcome.oneLine_resolve {o : Outcome} {field validator : String} {overrides : Overrides}
    (htemplate : OneLine o.template) (hfield : OneLine field)
    (hparams : ∀ b ∈ o.params, OneLine b.2)
    (hoverrides : ∀ message, overrides.lookup field validator = some message → OneLine message) :
    OneLine (o.resolve field validator overrides) := by
  intro h
  rcases Template.mem_fill h with h | ⟨b, hb, h⟩
  · cases hlookup : overrides.lookup field validator with
    | none =>
      rw [hlookup] at h
      exact htemplate h
    | some message =>
      rw [hlookup] at h
      exact hoverrides message hlookup h
  · rcases List.mem_cons.1 hb with rfl | hb
    · exact hfield h
    · exact hparams b hb h

/-- The built-in templates hold no line break, and neither does the one that stands in for a missing
template. -/
theorem Catalog.oneLine_template_builtin (name : String) : OneLine (builtin.template name) := by
  have hall : ∀ e ∈ builtin.templates.entries, OneLine e.2 := by decide
  rw [template]
  cases hget : builtin.templates.get? name with
  | none => decide
  | some text => exact hall _ (Entries.mem_of_find?_eq_some hget)

namespace Registry

theorem oneLine_message {catalog : Catalog} (hcatalog : ∀ name, OneLine (catalog.template name))
    {record : Record} {overrides : Overrides} {field : String} {rule : Rule} {message : String}
    (hfield : OneLine field) (hargs : ∀ a ∈ rule.args, OneLine a)
    (hoverrides : ∀ message, overrides.lookup field rule.name = some message → OneLine message)
    (h : (withBuiltins catalog).message? record overrides field rule = some message) :
    OneLine message := by
  rw [message?, lookup_withBuiltins, Option.map_map, Option.map_eq_some_iff] at h
  obtain ⟨v, hv, rfl⟩ := h
  have hplaceholders := Builtin.oneLine_placeholders (Entries.mem_of_find?_eq_some hv) hargs record
  exact Outcome.oneLine_resolve (hcatalog rule.name) hfield hplaceholders hoverrides

end Registry

namespace Result

/-- Whatever is entered, there is no line break in the messages of the built-in validators if there
is none in the catalog and in what the author of the form wrote. -/
theorem oneLine_of_evaluate {catalog : Catalog} {record : Record} {ruleSet : RuleSet}
    {overrides : Overrides} {result : Result}
    (hcatalog : ∀ name, OneLine (catalog.template name)) (hauthor : Authored ruleSet overrides)
    (h : (Registry.withBuiltins catalog).evaluate record ruleSet overrides = .ok result) :
    ∀ line ∈ result.errors.lines, OneLine line := by
  intro line hline
  simp only [Errors.lines, Registry.entries_of_evaluate_eq_ok h, Registry.reference,
    List.mem_flatMap, List.mem_map, List.mem_filter] at hline
  obtain ⟨_, ⟨e, ⟨he, -⟩, rfl⟩, message, hmessage, rfl⟩ := hline
  have hfield := hauthor.fields e he
  rw [Registry.chainMessages, List.mem_filterMap] at hmessage
  obtain ⟨rule, hrule, hmessage⟩ := hmessage
  have hargs := hauthor.args e he rule (List.mem_filter.1 hrule).1
  have hone : OneLine message := Registry.oneLine_message hcatalog hfield hargs
    (hauthor.overrides e.1 rule.name) hmessage
  exact Text.oneLine_append (Text.oneLine_append hfield (by decide)) hone

/-- A report has the messages of the rules that fail, field by field, and then the verdict.  It has
a line for each, and one more for each line break in a message or its field.  So the lines are those
messages exactly if they hold no line break.  With built-in validators that is so for every record,
if there is no line break in the catalog and in what the author of the form wrote. -/
theorem text_report_lines {registry : Registry} {record : Record} {ruleSet : RuleSet}
    {overrides : Overrides} {result : Result}
    (h : registry.evaluate record ruleSet overrides = .ok result) :
    result.errors.lines = (registry.reference record ruleSet overrides).flatMap
        (fun e => e.2.map fun message => e.1 ++ ": " ++ message) ∧
    result.textLines.length = result.errors.count + 1 +
        (result.errors.lines.flatMap String.toList).count '\n' ∧
    (result.textLines = result.errors.lines.map String.toList ++
          [(if result.valid then "valid" else "invalid").toList] ↔
        ∀ line ∈ result.errors.lines, OneLine line) ∧
    ∀ catalog, registry = .withBuiltins catalog → (∀ name, OneLine (catalog.template name)) →
      Authored ruleSet overrides → ∀ line ∈ result.errors.lines, OneLine line := by
  refine ⟨?_, result.length_textLines, result.textLines_eq_iff, ?_⟩
  · rw [Errors.lines, Registry.entries_of_evaluate_eq_ok h]
  · rintro catalog rfl hcatalog hauthor
    exact oneLine_of_evaluate hcatalog hauthor h

/-- Colons in a field, an argument or a message break no line, and neither do line breaks in the
record. -/
theorem text_report_lines_colons :
    let ruleSet := Expressions.parsed (.ofList [("", "required"), ("a: b", "min:9: 4|max:0")])
    let record : Record := .ofList [("a: b", .text "x\ny"), ("", .text "\n")]
    Authored ruleSet .empty ∧
      ∃ result, Registry.standard.evaluate record ruleSet .empty = .ok result ∧
        result.textLines.map String.ofList =
          [":  is required", "a: b: a: b must be at least 9: 4 characters",
            "a: b: a: b must be at most 0 characters", "invalid"] := by
  intro ruleSet record
  have checked : Registry.standard.checkRules ruleSet = .ok () := by
    rw [Registry.checkRules_eq_ok_iff]
    decide
  have hauthor : Authored ruleSet .empty := by
    refine ⟨by decide, by decide, ?_⟩
    intro field validator message hlookup
    cases hlookup
  obtain ⟨result, hresult⟩ := Registry.exists_evaluate_eq_ok checked record .empty
  obtain ⟨-, -, hiff, hone⟩ := text_report_lines hresult
  refine ⟨hauthor, result, hresult, ?_⟩
  rw [hiff.2 (hone .builtin rfl Catalog.oneLine_template_builtin hauthor)]
  have hentries : result.errors.entries =
      [("", [" is required"]), ("a: b", ["a: b must be at least 9: 4 characters",
        "a: b must be at most 0 characters"])] := by
    rw [Registry.entries_of_evaluate_eq_ok hresult]
    decide +kernel
  have hvalid : result.valid = false := by
    rw [valid, Errors.isEmpty, OrderedMap.isEmpty, ← Errors.entries, hentries]
    rfl
  rw [Errors.lines, hentries, hvalid]
  decide

/-- A line break in an override breaks the line of its message. -/
theorem textLines_broken_by_override :
    let ruleSet := Expressions.parsed (.ofList [("name", "required")])
    let overrides : Overrides := .ofList [("required", .everywhere "Please\nanswer")]
    ∃ result, Registry.standard.evaluate .empty ruleSet overrides = .ok result ∧
      result.errors.count = 1 ∧ result.textLines.length = 3 ∧
      result.textLines ≠ result.errors.lines.map String.toList ++
        [(if result.valid then "valid" else "invalid").toList] := by
  intro ruleSet overrides
  have checked : Registry.standard.checkRules ruleSet = .ok () := by
    rw [Registry.checkRules_eq_ok_iff]
    decide
  obtain ⟨result, hresult⟩ := Registry.exists_evaluate_eq_ok checked .empty overrides
  have hone : result = ⟨Errors.empty.addAll [("name", "Please\nanswer")]⟩ := by
    refine eq_of_entries_eq ?_
    rw [Registry.entries_of_evaluate_eq_ok hresult]
    decide +kernel
  refine ⟨result, hresult, ?_⟩
  rw [hone]
  decide +kernel

end Result

end FormRules
