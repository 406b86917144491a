import FormRules.Proofs.Errors
import FormRules.Proofs.Evaluation
import FormRules.Proofs.Rule.Chain

/-!
# Chains in sequence

An expression can be cut at any bar, and the two parts are then evaluated on their
own: first one and then the other, whatever the first has found
(`Registry.evaluateField_bar`).  Only a rule that names no registered validator in
the first part keeps the second from being run.

The text is cut first (`Chain.parse_bar`), and what is left is a law of passes: a
pass over two lists of rules is the pass over the first, followed by the pass over
the second unless the first was ended (`Pass.run_append`).
-/

namespace FormRules

/-! ## Passes one after the other -/

namespace Pass

/-- The pass that goes on with another one, unless it was ended. -/
def andThen (p q : Pass) : Pass :=
  match p.stopped with
  | some _ => p
  | none => ⟨p.failures ++ q.failures, q.stopped⟩

theorem andThen_of_stopped {p : Pass} {e : UnknownValidator} (h : p.stopped = some e) (q : Pass) :
    p.andThen q = p := by
  rw [andThen, h]

theorem andThen_of_finished {p : Pass} (h : p.stopped = none) (q : Pass) :
    p.andThen q = ⟨p.failures ++ q.failures, q.stopped⟩ := by
  rw [andThen, h]

theorem result_of_stopped {p : Pass} {e : UnknownValidator} (h : p.stopped = some e) :
    p.result = .error e := by
  rw [result, h]

theorem result_of_finished {p : Pass} (h : p.stopped = none) : p.result = .ok ⟨p.errors⟩ := by
  rw [result, h]

variable (registry : Registry) (record : Record) (overrides : Overrides)

theorem run_append (rules later : List (String × Rule)) :
    run registry record overrides (rules ++ later) =
      (run registry record overrides rules).andThen (run registry record overrides later) := by
  induction rules with
  | nil => rfl
  | cons r rest ih =>
    obtain ⟨field, rule⟩ := r
    rw [List.cons_append, run, run]
    cases registry.lookup rule.name with
    | none => rfl
    | some v =>
      -- The pass is ended behind this rule or it is not, and this rule has no part in that.
      cases h : (run registry record overrides rest).stopped with
      | none => simp [ih, andThen_of_finished, h]
      | some e => simp [ih, andThen_of_stopped, h]

/-- Every failure of the pass is in the field. -/
def Within (p : Pass) (field : String) : Prop := ∀ f ∈ p.failures, f.field = field

theorem field_of_failure?_eq_some {v : Registered} {field : String} {rule : Rule} {f : Failure}
    (h : failure? v record overrides field rule = some f) : f.field = field := by
  rw [failure?] at h
  split at h
  · cases h
  · cases h
    rfl

theorem within_run {rules : List (String × Rule)} {field : String}
    (h : ∀ r ∈ rules, r.1 = field) : (run registry record overrides rules).Within field := by
  induction rules with
  | nil =>
    intro f hf
    cases hf
  | cons r rest ih =>
    obtain ⟨key, rule⟩ := r
    obtain rfl : key = field := h (key, rule) List.mem_cons_self
    rw [run]
    intro f hf
    cases hlookup : registry.lookup rule.name with
    | none =>
      rw [hlookup] at hf
      cases hf
    | some v =>
      rw [hlookup] at hf
      rcases List.mem_append.1 hf with hf | hf
      · exact field_of_failure?_eq_some record overrides (Option.mem_toList.1 hf)
      · exact ih (fun r hr => h r (List.mem_cons_of_mem _ hr)) f hf

/-! ## The messages of one field -/

/-- The messages of a pass, in order. -/
def messages (p : Pass) : List String := p.failures.map Failure.message

variable {p q : Pass} {field : String}

theorem entries_errors (h : p.Within field) :
    p.errors.entries = if p.messages.isEmpty then [] else [(field, p.messages)] := by
  have hmessages : (p.failures.map fun f => (f.field, f.message)) =
      p.messages.map fun m => (field, m) := by
    rw [messages, List.map_map]
    exact List.map_congr_left fun f hf => by simp [h f hf]
  rw [errors, hmessages, Errors.entries_addAll_block (by simp [Errors.fields, Errors.empty])]
  rfl

theorem get_errors (h : p.Within field) (key : String) :
    p.errors.get key = if key = field then p.messages else [] := by
  rw [Errors.get, OrderedMap.get?, ← Errors.entries, entries_errors h]
  by_cases hkey : key = field
  · subst hkey
    cases p.messages <;> simp [Entries.find?]
  · have hkey' : ¬ field = key := fun heq => hkey heq.symm
    cases p.messages <;> simp [Entries.find?, hkey, hkey']

theorem isEmpty_errors (h : p.Within field) : p.errors.isEmpty = p.messages.isEmpty := by
  have hentries : p.errors.isEmpty = p.errors.entries.isEmpty := rfl
  rw [hentries, entries_errors h]
  cases p.messages <;> rfl

/-! ## Results one after the other -/

/-- The third ending is that of two parts of a chain of the field, run one after the other: the
error of the first part, or else that of the second, or else the messages of both, those of the
first in front. -/
inductive InTurn (field : String) : Except UnknownValidator Result →
    Except UnknownValidator Result → Except UnknownValidator Result → Prop where
  | first {e : UnknownValidator} {second : Except UnknownValidator Result} :
      InTurn field (.error e) second (.error e)
  | second {r : Result} {e : UnknownValidator} : InTurn field (.ok r) (.error e) (.error e)
  | both {r s t : Result} : t.errors.get field = r.errors.get field ++ s.errors.get field →
      (∀ key, key ≠ field → t.errors.get key = []) →
        (t.valid = true ↔ r.valid = true ∧ s.valid = true) → InTurn field (.ok r) (.ok s) (.ok t)

theorem inTurn_andThen (hp : p.Within field) (hq : q.Within field) :
    InTurn field p.result q.result (p.andThen q).result := by
  cases hstopped : p.stopped with
  | some e =>
    rw [andThen_of_stopped hstopped, result_of_stopped hstopped]
    exact .first
  | none =>
    rw [andThen_of_finished hstopped, result_of_finished hstopped]
    cases hstopped' : q.stopped with
    | some e =>
      rw [result_of_stopped hstopped', result_of_stopped rfl]
      exact .second
    | none =>
      rw [result_of_finished hstopped', result_of_finished rfl]
      have hpq : Within ⟨p.failures ++ q.failures, none⟩ field := by
        intro f hf
        rcases List.mem_append.1 hf with hf | hf
        · exact hp f hf
        · exact hq f hf
      refine .both ?_ ?_ ?_
      · rw [get_errors hpq, get_errors hp, get_errors hq]
        simp [messages]
      · intro key hkey
        rw [get_errors hpq, if_neg hkey]
      · rw [Result.valid, Result.valid, Result.valid, isEmpty_errors hpq, isEmpty_errors hp,
          isEmpty_errors hq]
        simp [messages]

end Pass

/-! ## Expressions with a bar -/

namespace Registry

/-- Evaluating a form that has one field, with an expression. -/
def evaluateField (registry : Registry) (record : Record) (overrides : Overrides)
    (field expression : String) : Except UnknownValidator Result :=
  registry.evaluate record (Expressions.parsed (.ofList [(field, expression)])) overrides

variable (registry : Registry) (record : Record) (overrides : Overrides) (field : String)

theorem evaluateField_eq (expression : String) :
    registry.evaluateField record overrides field expression =
      (Pass.run registry record overrides
        ((Chain.parse expression).map fun rule => (field, rule))).result := by
  have hrules : RuleSet.rules (Expressions.parsed (.ofList [(field, expression)])) =
      (Chain.parse expression).map fun rule => (field, rule) := List.append_nil _
  rw [evaluateField, evaluate, pass, hrules]

/-- Two expressions with a bar between them are evaluated one after the other.  Without an error,
the messages are those of the first and then those of the second, and the field is valid if it is
valid under both. -/
theorem evaluateField_bar {a b : String} (ha : a ≠ "") (hb : b ≠ "") :
    Pass.InTurn field (registry.evaluateField record overrides field a)
      (registry.evaluateField record overrides field b)
      (registry.evaluateField record overrides field (a ++ "|" ++ b)) := by
  have hwithin : ∀ chain : Chain, (Pass.run registry record overrides
      (chain.map fun rule => (field, rule))).Within field := by
    intro chain
    refine Pass.within_run registry record overrides fun r hr => ?_
    obtain ⟨rule, -, rfl⟩ := List.mem_map.1 hr
    rfl
  rw [evaluateField_eq, evaluateField_eq, evaluateField_eq, Chain.parse_bar ha hb,
    List.map_append, Pass.run_append]
  exact Pass.inTurn_andThen (hwithin _) (hwithin _)

/-- A comma, a bar and a colon at the seam, and a validator whose name is empty. -/
theorem evaluateField_bar_edges :
    let registry := Registry.standard.register "" ⟨fun _ _ _ => false, fun _ _ => []⟩ ":field!"
    let ending := registry.evaluateField .empty .empty "age"
    Pass.InTurn "age" (ending "min:3,|") (ending "|:x|required") (ending "min:3,|||:x|required") ∧
      (ending "min:3,|||:x|required").toOption.map (fun r => r.errors.entries) =
        some [("age", ["age must be at least 3 characters", "age!", "age!", "age!",
          "age is required"])] := by
  intro registry ending
  exact ⟨registry.evaluateField_bar .empty .empty "age" (by decide) (by decide), by decide +kernel⟩

end Registry

end FormRules
