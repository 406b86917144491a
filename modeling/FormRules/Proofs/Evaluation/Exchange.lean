import FormRules.Proofs.Builtin
import FormRules.Proofs.Builtin.Length
import FormRules.Proofs.Evaluation.Locality
import FormRules.Proofs.Evaluation.Overriding
import FormRules.Proofs.Evaluation.Sequence
import FormRules.Proofs.Rule.Chain

/-!
# Exchanging the rules of a field

A form is evaluated with one chain for a field and with another, and nothing else of it is
changed.  The two chains are *alike* if the same unknown validator comes first in both, if
there is one, and if a rule fails in both or in neither (`Chain.Alike`).  Then evaluating
ends with the same error, or with results that differ in the messages of the field only
(`Registry.evaluate_insert_of_alike`).

What stands around a part of a chain does not matter to this (`Chain.Alike.within`).  So it
is enough to compare the parts that are exchanged.  A rule `between` is a rule `min` and
a rule `max` behind it, whatever is written for the two bounds
(`Registry.between_eq_min_max`).  It leaves one message where they may leave two.
-/

namespace FormRules

/-! ## Results that differ in one field -/

/-- Two results decide the same and differ at most in what the messages of a field are. -/
structure Result.SameBut (field : String) (r s : Result) : Prop where
  valid : r.valid = s.valid
  fields : r.errors.fields = s.errors.fields
  has : ∀ key, r.errors.has key = s.errors.has key
  others : ∀ key, key ≠ field → r.errors.get key = s.errors.get key

/-- Two evaluations have the same error, or results that differ at most in the messages of a
field. -/
inductive SameEndingBut (field : String) :
    Except UnknownValidator Result → Except UnknownValidator Result → Prop where
  | error (e : UnknownValidator) : SameEndingBut field (.error e) (.error e)
  | ok {r s : Result} : r.SameBut field s → SameEndingBut field (.ok r) (.ok s)

/-- It is enough to compare the fields and the messages of the others. -/
theorem Result.SameBut.of_fields_eq {field : String} {r s : Result}
    (fields : r.errors.fields = s.errors.fields)
    (others : ∀ key, key ≠ field → r.errors.get key = s.errors.get key) :
    r.SameBut field s where
  valid := by
    rw [Result.valid, Result.valid, Errors.isEmpty_eq_isEmpty_fields,
      Errors.isEmpty_eq_isEmpty_fields, fields]
  fields := fields
  has key := by
    rw [Bool.eq_iff_iff, Errors.has, Errors.has, OrderedMap.contains_iff, OrderedMap.contains_iff,
      ← Errors.fields, ← Errors.fields, fields]
  others := others

/-! ## Chains that are alike -/

namespace Chain

/-- The same unknown validator comes first in both chains of a field, and a rule fails in both or in
neither. -/
structure Alike (registry : Registry) (record : Record) (field : String) (c d : Chain) : Prop where
  unknown : (c.find? fun r => !registry.contains r.name).map Rule.name =
    (d.find? fun r => !registry.contains r.name).map Rule.name
  fails : c.any (registry.fails record field) = d.any (registry.fails record field)

/-- Chains stay alike with the same rules in front of them and behind them. -/
theorem Alike.within {registry : Registry} {record : Record} {field : String} {c d : Chain}
    (alike : Alike registry record field c d) (before after : Chain) :
    Alike registry record field (before ++ (c ++ after)) (before ++ (d ++ after)) where
  unknown := by simp only [List.find?_append, Option.map_or, alike.unknown]
  fails := by simp only [List.any_append, alike.fails]

end Chain

/-! ## Writing to a field -/

namespace Entries

variable {α : Type}

/-- The entries around that of a key are there before it is written, whatever is written. -/
theorem exists_upsert_eq (key : String) (es : List (String × α)) :
    ∃ before after, ∀ a, upsert key (fun _ => a) es = before ++ (key, a) :: after := by
  induction es with
  | nil => exact ⟨[], [], fun a => rfl⟩
  | cons e rest ih =>
    obtain ⟨k, b⟩ := e
    by_cases hk : k = key
    · subst hk
      exact ⟨[], rest, fun a => by rw [upsert, if_pos rfl]; rfl⟩
    · obtain ⟨before, after, h⟩ := ih
      exact ⟨(k, b) :: before, after, fun a => by rw [upsert, if_neg hk, h, List.cons_append]⟩

theorem map_upsert {β : Type} (f : α → β) (key : String) (a : α) (es : List (String × α)) :
    (upsert key (fun _ => a) es).map (fun e => (e.1, f e.2)) =
      upsert key (fun _ => f a) (es.map fun e => (e.1, f e.2)) := by
  induction es with
  | nil => rfl
  | cons e rest ih =>
    rw [upsert, List.map_cons, upsert]
    split
    · rfl
    · rw [List.map_cons, ih]

end Entries

theorem Expressions.parsed_insert (expressions : Expressions) (field e : String) :
    Expressions.parsed (expressions.insert field e) =
      expressions.parsed.insert field (Chain.parse e) :=
  OrderedMap.ext (Entries.map_upsert Chain.parse field e expressions.entries)

namespace Registry

variable {registry : Registry} {record : Record} {field : String} {c d : Chain}

/-- A pass ends in the same way with chains that are alike. -/
theorem stopped_pass_insert (alike : Chain.Alike registry record field c d) (ruleSet : RuleSet)
    (overrides : Overrides) :
    (registry.pass record (ruleSet.insert field c) overrides).stopped =
      (registry.pass record (ruleSet.insert field d) overrides).stopped := by
  obtain ⟨before, after, hentries⟩ := Entries.exists_upsert_eq field ruleSet.entries
  have hrules : ∀ chain : Chain, RuleSet.rules (ruleSet.insert field chain) =
      (before.flatMap fun e => e.2.map fun rule => (e.1, rule)) ++
        ((chain.map fun rule => (field, rule)) ++
          after.flatMap fun e => e.2.map fun rule => (e.1, rule)) := by
    intro chain
    have h : OrderedMap.entries (ruleSet.insert field chain) = _ := hentries chain
    rw [RuleSet.rules, h, List.flatMap_append, List.flatMap_cons]
  have hchain : ∀ chain : Chain,
      ((chain.map fun rule => (field, rule)).find? fun r => !registry.contains r.2.name).map
          (fun r => UnknownValidator.mk r.1 r.2.name) =
        ((chain.find? fun r => !registry.contains r.name).map Rule.name).map
          (UnknownValidator.mk field) := by
    intro chain
    rw [List.find?_map, Option.map_map, Option.map_map]
    rfl
  simp only [pass, Pass.stopped_run, hrules, List.find?_append, Option.map_or, hchain,
    alike.unknown]

/-- The same fields fail with chains that are alike. -/
theorem fields_insert (alike : Chain.Alike registry record field c d) {ruleSet : RuleSet}
    {overrides : Overrides} {r s : Result}
    (hr : registry.evaluate record (ruleSet.insert field c) overrides = .ok r)
    (hs : registry.evaluate record (ruleSet.insert field d) overrides = .ok s) :
    r.errors.fields = s.errors.fields := by
  obtain ⟨before, after, hentries⟩ := Entries.exists_upsert_eq field ruleSet.entries
  have hc : OrderedMap.entries (ruleSet.insert field c) = _ := hentries c
  have hd : OrderedMap.entries (ruleSet.insert field d) = _ := hentries d
  rw [fields_of_evaluate_eq_ok hr, fields_of_evaluate_eq_ok hs, hc, hd]
  simp only [List.filter_append, List.filter_cons, List.map_append, alike.fails]
  split <;> rfl

/-- The chain of a field has no part in the messages of the others. -/
theorem get_insert_of_ne {ruleSet : RuleSet} {overrides : Overrides} {r s : Result}
    (hr : registry.evaluate record (ruleSet.insert field c) overrides = .ok r)
    (hs : registry.evaluate record (ruleSet.insert field d) overrides = .ok s)
    {key : String} (hkey : key ≠ field) : r.errors.get key = s.errors.get key := by
  have hne : ¬ field = key := fun h => hkey h.symm
  rw [get_eq_of_evaluate_eq_ok hr, get_eq_of_evaluate_eq_ok hs, failing, failing,
    OrderedMap.get?_insert, OrderedMap.get?_insert, if_neg hne, if_neg hne]

/-- With chains that are alike for a field, evaluating ends in the same way but for the messages of
the field. -/
theorem evaluate_insert_of_alike (alike : Chain.Alike registry record field c d)
    (ruleSet : RuleSet) (overrides : Overrides) :
    SameEndingBut field (registry.evaluate record (ruleSet.insert field c) overrides)
      (registry.evaluate record (ruleSet.insert field d) overrides) := by
  have hstopped := stopped_pass_insert alike ruleSet overrides
  cases hc : (registry.pass record (ruleSet.insert field c) overrides).stopped with
  | some e =>
    rw [evaluate, evaluate, Pass.result_of_stopped hc, Pass.result_of_stopped (hstopped ▸ hc)]
    exact .error e
  | none =>
    have hr : registry.evaluate record (ruleSet.insert field c) overrides = _ :=
      Pass.result_of_finished hc
    have hs : registry.evaluate record (ruleSet.insert field d) overrides = _ :=
      Pass.result_of_finished (hstopped ▸ hc)
    rw [hr, hs]
    exact .ok (.of_fields_eq (fields_insert alike hr hs) fun key => get_insert_of_ne hr hs)

end Registry

/-! ## Segments -/

namespace Chain

/-- The rules of the segments of a text.  The empty text is one segment. -/
def ofSegments (s : String) : Chain := (Text.split Token.bar s.toList).map Rule.ofSegment

theorem ofSegments_bar (a b : String) :
    ofSegments (a ++ "|" ++ b) = ofSegments a ++ ofSegments b := by
  have hlist : (a ++ "|" ++ b).toList = a.toList ++ Token.bar :: b.toList := by simp [Token.bar]
  rw [ofSegments, ofSegments, ofSegments, hlist, Text.split_append_sep, List.map_append]

/-- What stands between two bars is read by itself, whatever stands around them. -/
theorem parse_between_bars (p q : String) {e : String} (he : e ≠ "") :
    parse (p ++ "|" ++ (e ++ "|" ++ q)) = ofSegments p ++ (parse e ++ ofSegments q) := by
  rw [parse_of_ne_empty (by simp), parse_of_ne_empty he, ← ofSegments, ← ofSegments,
    ofSegments_bar, ofSegments_bar]

/-- Two arguments can be written behind a name if they have no comma and no bar. -/
theorem parse_between {a b : String} (ha : ',' ∉ a.toList ∧ '|' ∉ a.toList)
    (hb : ',' ∉ b.toList ∧ '|' ∉ b.toList) :
    parse ("between:" ++ a ++ "," ++ b) = [⟨"between", [a, b]⟩] := by
  have writable : Writable [⟨"between", [a, b]⟩] := by
    refine ⟨?_, by simp⟩
    rintro r hr
    obtain rfl := List.mem_singleton.1 hr
    exact ⟨by simp [Token.bar], by simp [Token.colon], by simp [Token.bar, ha, hb],
      by simp [Token.comma, ha, hb]⟩
  have hrender : render [⟨"between", [a, b]⟩] = "between:" ++ a ++ "," ++ b := by
    rw [← String.toList_inj, toList_render]
    simp [Rule.render, Text.join, Token.colon, Token.comma]
  rw [← hrender, writable.parse_render]

theorem parse_min_max {a b : String} (ha : ',' ∉ a.toList ∧ '|' ∉ a.toList)
    (hb : ',' ∉ b.toList ∧ '|' ∉ b.toList) :
    parse ("min:" ++ a ++ "|max:" ++ b) = [⟨"min", [a]⟩, ⟨"max", [b]⟩] := by
  have writable : Writable [⟨"min", [a]⟩, ⟨"max", [b]⟩] := by
    refine ⟨?_, by simp⟩
    rintro r hr
    simp only [List.mem_cons, List.not_mem_nil, or_false] at hr
    rcases hr with rfl | rfl
    · exact ⟨by simp [Token.bar], by simp [Token.colon], by simp [Token.bar, ha],
        by simp [Token.comma, ha]⟩
    · exact ⟨by simp [Token.bar], by simp [Token.colon], by simp [Token.bar, hb],
        by simp [Token.comma, hb]⟩
  have hrender : render [⟨"min", [a]⟩, ⟨"max", [b]⟩] = "min:" ++ a ++ "|max:" ++ b := by
    rw [← String.toList_inj, toList_render]
    simp [Rule.render, Text.join, Token.bar, Token.colon]
  rw [← hrender, writable.parse_render]

end Chain

/-! ## Two bounds at once and one by one -/

namespace Builtin

/-- Both bounds of `between` are read as the bounds of `min` and `max` are. -/
theorem between_check (value : Value) (a b : String) (record : Record) :
    between.check value [a, b] record =
      (min.check value [a] record && max.check value [b] record) := rfl

end Builtin

namespace Registry

theorem alike_between (catalog : Catalog) (record : Record) (field a b : String) :
    Chain.Alike (withBuiltins catalog) record field [⟨"between", [a, b]⟩]
      [⟨"min", [a]⟩, ⟨"max", [b]⟩] where
  unknown := rfl
  fails := by
    have hmin : ("min", Builtin.min, [0]) ∈ Builtin.bounded := by simp [Builtin.bounded]
    have hmax : ("max", Builtin.max, [0]) ∈ Builtin.bounded := by simp [Builtin.bounded]
    have hbetween : ("between", Builtin.between, [0, 1]) ∈ Builtin.bounded := by
      simp [Builtin.bounded]
    simp only [List.any_cons, List.any_nil, Bool.or_false, fails_eq_any_check?,
      Builtin.check?_withBuiltins_of_mem_bounded hmin, Option.any_some,
      Builtin.check?_withBuiltins_of_mem_bounded hmax, Builtin.between_check,
      Builtin.check?_withBuiltins_of_mem_bounded hbetween, Bool.not_and]

/-- A rule `between` does the same as a rule `min` and a rule `max` in its place, with any bounds,
in any chain and in any form: evaluating has the same error, or the same fields fail, and no other
field has other messages. -/
theorem between_eq_min_max (catalog : Catalog) (record : Record) (overrides : Overrides)
    (expressions : Expressions) (field p q : String) {a b : String}
    (ha : ',' ∉ a.toList ∧ '|' ∉ a.toList) (hb : ',' ∉ b.toList ∧ '|' ∉ b.toList) :
    let ending := fun expression : String => (withBuiltins catalog).evaluate record
      (Expressions.parsed (expressions.insert field expression)) overrides
    SameEndingBut field (ending (p ++ "|between:" ++ a ++ "," ++ b ++ "|" ++ q))
      (ending (p ++ "|min:" ++ a ++ "|max:" ++ b ++ "|" ++ q)) := by
  intro ending
  have alike := (alike_between catalog record field a b).within
    (Chain.ofSegments p) (Chain.ofSegments q)
  have hbetween : p ++ "|between:" ++ a ++ "," ++ b ++ "|" ++ q =
      p ++ "|" ++ ("between:" ++ a ++ "," ++ b ++ "|" ++ q) := by
    simp [← String.toList_inj]
  have hminmax : p ++ "|min:" ++ a ++ "|max:" ++ b ++ "|" ++ q =
      p ++ "|" ++ ("min:" ++ a ++ "|max:" ++ b ++ "|" ++ q) := by
    simp [← String.toList_inj]
  rw [← Chain.parse_between ha hb, ← Chain.parse_min_max ha hb,
    ← Chain.parse_between_bars p q (by simp), ← Chain.parse_between_bars p q (by simp),
    ← hbetween, ← hminmax] at alike
  simp only [ending, Expressions.parsed_insert]
  exact evaluate_insert_of_alike alike _ overrides

/-- The bounds are in the wrong order or empty, and there may be empty segments around them.  A
length between the two makes one message more with `min` and `max`. -/
theorem between_eq_min_max_crossed :
    let record : Record := .ofList [("name", .text "Ann")]
    let expressions : Expressions := .ofList [("mail", "email")]
    let ending := fun expression : String =>
      standard.evaluate record (Expressions.parsed (expressions.insert "name" expression)) .empty
    let count := fun expression : String => (ending expression).toOption.map fun r => r.errors.count
    SameEndingBut "name" (ending "required|between:9,2|max:x")
        (ending "required|min:9|max:2|max:x") ∧
      SameEndingBut "name" (ending "|between:,|") (ending "|min:|max:|") ∧
      count "required|between:9,2|max:x" = some 3 ∧
      count "required|min:9|max:2|max:x" = some 4 := by
  intro record expressions ending count
  refine ⟨?_, ?_, by decide +kernel, by decide +kernel⟩
  · exact between_eq_min_max .builtin record .empty expressions "name" "required" "max:x"
      (a := "9") (b := "2") (by decide) (by decide)
  · exact between_eq_min_max .builtin record .empty expressions "name" "" "" (a := "") (b := "")
      (by decide) (by decide)

end Registry

end FormRules
