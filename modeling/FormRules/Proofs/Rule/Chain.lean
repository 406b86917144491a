import FormRules.Rule.Chain
import Mathlib.Logic.Function.Basic

/-!
# Expressions and chains say the same

Reading an expression loses nothing and adds nothing.  Two functions are compared
here, `Chain.parse` and `Chain.render`, and they are inverse to each other between
all expressions and the *writable* chains (`parse_render_inverse`).

A chain is writable if no separator stands where it would be read as one: no bar
and no colon in a name, no bar and no comma in an argument.  A comma in a name
and a colon in an argument do no harm.  One chain more is left out.  The empty
expression has no rules, so the chain of one rule with an empty name and no
arguments is written by no expression.

*Segments.*  Reading goes through a flat list of tokens, in which the segments can
no longer be seen.  Grouping the tokens gives the segments back
(`Chain.ofTokens_tokens`), so a chain is read segment by segment
(`Chain.parse_of_ne_empty`).  What is left is one rule against one segment
(`Rule.render_ofSegment`, `Rule.ofSegment_render`) and the laws of cutting and
joining.
-/

namespace FormRules

/-! ## One segment -/

namespace Rule

/-- The rule that a segment writes. -/
def ofSegment (segment : List Char) : Rule :=
  match Text.splitFirst? Token.colon segment with
  | none => ⟨String.ofList segment, []⟩
  | some (n, args) => ⟨String.ofList n, (Text.split Token.comma args).map String.ofList⟩

/-- No separator stands in the rule where it would be read as one. -/
structure Writable (r : Rule) : Prop where
  name_bar : Token.bar ∉ r.name.toList
  name_colon : Token.colon ∉ r.name.toList
  args_bar : ∀ a ∈ r.args, Token.bar ∉ a.toList
  args_comma : ∀ a ∈ r.args, Token.comma ∉ a.toList

theorem ofSegment_of_not_mem {segment : List Char} (h : Token.colon ∉ segment) :
    ofSegment segment = ⟨String.ofList segment, []⟩ := by
  rw [ofSegment, Text.splitFirst?_eq_none_iff.2 h]

theorem ofSegment_append {n : List Char} (h : Token.colon ∉ n) (args : List Char) :
    ofSegment (n ++ Token.colon :: args) =
      ⟨String.ofList n, (Text.split Token.comma args).map String.ofList⟩ := by
  rw [ofSegment, Text.splitFirst?_eq_some_iff.2 ⟨rfl, h⟩]

/-- A segment is a name, or a name, a colon and the text of the arguments. -/
theorem segment_cases (segment : List Char) :
    Token.colon ∉ segment ∨
      ∃ n args, segment = n ++ Token.colon :: args ∧ Token.colon ∉ n := by
  cases h : Text.splitFirst? Token.colon segment with
  | none => exact .inl (Text.splitFirst?_eq_none_iff.1 h)
  | some cut => exact .inr ⟨cut.1, cut.2, Text.splitFirst?_eq_some_iff.1 h⟩

theorem tokens_ofSegment (segment : List Char) :
    (ofSegment segment).tokens = Token.ofSegment segment := by
  rw [ofSegment, Token.ofSegment]
  cases Text.splitFirst? Token.colon segment with
  | none => rfl
  | some cut => simp [tokens, List.map_map, Function.comp_def]

theorem render_of_args_nil {r : Rule} (h : r.args = []) : r.render = r.name.toList := by
  rw [render, h]
  rfl

theorem render_of_args_ne_nil {r : Rule} (h : r.args ≠ []) :
    r.render =
      r.name.toList ++ Token.colon :: Text.join Token.comma (r.args.map String.toList) := by
  rw [render, if_neg (by simpa using h)]

theorem render_ofSegment (segment : List Char) : (ofSegment segment).render = segment := by
  rcases segment_cases segment with h | ⟨n, args, rfl, h⟩
  · rw [ofSegment_of_not_mem h, render_of_args_nil rfl, String.toList_ofList]
  · have hne : (Text.split Token.comma args).map String.ofList ≠ [] := by
      rw [ne_eq, List.map_eq_nil_iff]
      exact Text.split_ne_nil _ _
    rw [ofSegment_append h, render_of_args_ne_nil hne]
    simp [Function.comp_def, Text.join_split]

theorem writable_ofSegment {segment : List Char} (h : Token.bar ∉ segment) :
    (ofSegment segment).Writable := by
  rcases segment_cases segment with hc | ⟨n, args, rfl, hc⟩
  · rw [ofSegment_of_not_mem hc]
    exact ⟨by rwa [String.toList_ofList], by rwa [String.toList_ofList], nofun, nofun⟩
  · rw [List.mem_append, List.mem_cons, not_or, not_or] at h
    rw [ofSegment_append hc]
    refine ⟨by rw [String.toList_ofList]; exact h.1, by rwa [String.toList_ofList], ?_, ?_⟩
    · intro a ha
      obtain ⟨p, hp, rfl⟩ := List.mem_map.1 ha
      rw [String.toList_ofList]
      intro hbar
      -- A bar in an argument would be a bar in the segment.
      have hargs : Token.bar ∈ Text.join Token.comma (Text.split Token.comma args) :=
        (Text.mem_join_iff (by decide) _).2 ⟨p, hp, hbar⟩
      rw [Text.join_split] at hargs
      exact h.2.2 hargs
    · intro a ha
      obtain ⟨p, hp, rfl⟩ := List.mem_map.1 ha
      rw [String.toList_ofList]
      exact Text.not_mem_of_mem_split hp

theorem Writable.ofSegment_render {r : Rule} (writable : r.Writable) : ofSegment r.render = r := by
  obtain ⟨name, args⟩ := r
  cases args with
  | nil =>
    rw [render_of_args_nil rfl, ofSegment_of_not_mem writable.name_colon, String.ofList_toList]
  | cons a as =>
    have hsplit : Text.split Token.comma
        (Text.join Token.comma ((a :: as).map String.toList)) = (a :: as).map String.toList := by
      refine Text.split_join (by simp) ?_
      intro p hp
      obtain ⟨b, hb, rfl⟩ := List.mem_map.1 hp
      exact writable.args_comma b hb
    rw [render_of_args_ne_nil (by simp), ofSegment_append writable.name_colon, hsplit,
      String.ofList_toList]
    simp [Function.comp_def]

/-- No bar stands in the segment of a writable rule, so the rule stays one segment. -/
theorem Writable.bar_not_mem_render {r : Rule} (writable : r.Writable) :
    Token.bar ∉ r.render := by
  by_cases hargs : r.args = []
  · rw [render_of_args_nil hargs]
    exact writable.name_bar
  · rw [render_of_args_ne_nil hargs, List.mem_append, List.mem_cons,
      Text.mem_join_iff (by decide), not_or, not_or]
    refine ⟨writable.name_bar, by decide, ?_⟩
    rintro ⟨p, hp, hbar⟩
    obtain ⟨a, ha, rfl⟩ := List.mem_map.1 hp
    exact writable.args_bar a ha hbar

end Rule

/-! ## Tokens -/

namespace Chain

theorem foldr_push_arguments (args waiting : List String) (chain : Chain) :
    (args.map Token.argument).foldr push (waiting, chain) = (args ++ waiting, chain) := by
  induction args with
  | nil => rfl
  | cons a as ih => rw [List.map_cons, List.foldr_cons, ih]; rfl

theorem foldr_push_tokens (r : Rule) (chain : Chain) :
    r.tokens.foldr push ([], chain) = ([], r :: chain) := by
  rw [Rule.tokens, List.foldr_cons, foldr_push_arguments, List.append_nil]
  rfl

/-- Grouping the tokens of a chain gives the chain back: no argument waits in front of a name. -/
theorem foldr_push_chain (chain : Chain) : chain.tokens.foldr push ([], []) = ([], chain) := by
  induction chain with
  | nil => rfl
  | cons r rest ih =>
    rw [tokens, List.flatMap_cons, List.foldr_append]
    rw [tokens] at ih
    rw [ih, foldr_push_tokens]

theorem ofTokens_tokens (chain : Chain) : ofTokens chain.tokens = chain := by
  rw [ofTokens, foldr_push_chain]

/-! ## Segment by segment -/

theorem ofExpression_of_ne_empty {e : String} (h : e ≠ "") :
    Token.ofExpression e = (Text.split Token.bar e.toList).flatMap Token.ofSegment := by
  have hne : e.toList ≠ [] := by simpa using h
  rw [Token.ofExpression]
  split
  · next hnil => exact absurd hnil hne
  · rfl

/-- Segments are cut into the tokens of the rules that they write. -/
theorem tokens_map_ofSegment (segments : List (List Char)) :
    tokens (segments.map Rule.ofSegment) = segments.flatMap Token.ofSegment := by
  rw [tokens, List.flatMap_map]
  simp only [Rule.tokens_ofSegment]

/-- Any expression but the empty one is read segment by segment. -/
theorem parse_of_ne_empty {e : String} (h : e ≠ "") :
    parse e = (Text.split Token.bar e.toList).map Rule.ofSegment := by
  rw [parse, ofExpression_of_ne_empty h, ← tokens_map_ofSegment, ofTokens_tokens]

/-- Two expressions with a bar between them are read one after the other.  Neither side can take in
a part of the other, whatever stands at the bar. -/
theorem parse_bar {a b : String} (ha : a ≠ "") (hb : b ≠ "") :
    parse (a ++ "|" ++ b) = parse a ++ parse b := by
  have hne : a ++ "|" ++ b ≠ "" := by simp
  have hlist : (a ++ "|" ++ b).toList = a.toList ++ Token.bar :: b.toList := by
    simp [Token.bar]
  rw [parse_of_ne_empty hne, parse_of_ne_empty ha, parse_of_ne_empty hb, hlist,
    Text.split_append_sep, List.map_append]

theorem toList_render (chain : Chain) :
    (render chain).toList = Text.join Token.bar (chain.map Rule.render) := by
  rw [render, String.toList_ofList]

/-! ## Writable chains -/

/-- Each rule of the chain is writable, and the chain is not the one that the empty expression would
stand for. -/
structure Writable (chain : Chain) : Prop where
  rules : ∀ r ∈ chain, r.Writable
  ne_blank : chain ≠ [⟨"", []⟩]

/-- A rule is written as nothing only if it has an empty name and no arguments. -/
theorem eq_blank_of_render_eq_nil {r : Rule} (writable : r.Writable) (h : r.render = []) :
    r = ⟨"", []⟩ := by
  rw [← writable.ofSegment_render, h]
  rfl

/-- The segments of a chain are found again in its expression. -/
theorem split_render {chain : Chain} (writable : ∀ r ∈ chain, r.Writable) (hne : chain ≠ []) :
    Text.split Token.bar (render chain).toList = chain.map Rule.render := by
  rw [toList_render]
  refine Text.split_join (by simpa using hne) ?_
  intro segment hsegment
  obtain ⟨r, hr, rfl⟩ := List.mem_map.1 hsegment
  exact (writable r hr).bar_not_mem_render

/-- A writable chain with a rule is not written by the empty expression. -/
theorem Writable.render_ne_empty {chain : Chain} (writable : chain.Writable) (hne : chain ≠ []) :
    render chain ≠ "" := by
  intro hempty
  -- The empty text has one segment, so the chain has one rule, and it is written as nothing.
  have hsplit := split_render writable.rules hne
  rw [hempty] at hsplit
  obtain ⟨r, rest, rfl, hrender, hrest⟩ := List.map_eq_cons_iff.1 hsplit.symm
  obtain rfl := List.map_eq_nil_iff.1 hrest
  have hr := eq_blank_of_render_eq_nil (writable.rules r List.mem_cons_self) hrender
  exact writable.ne_blank (by rw [hr])

theorem Writable.parse_render {chain : Chain} (writable : chain.Writable) :
    parse (render chain) = chain := by
  -- The chain without rules is the only one that is written as the empty expression.
  by_cases hne : chain = []
  · rw [hne]
    rfl
  · have hrules : ∀ r ∈ chain, (Rule.ofSegment ∘ Rule.render) r = id r :=
      fun r hr => (writable.rules r hr).ofSegment_render
    rw [parse_of_ne_empty (writable.render_ne_empty hne), split_render writable.rules hne,
      List.map_map, List.map_congr_left hrules, List.map_id]

theorem render_parse (e : String) : render (parse e) = e := by
  by_cases h : e = ""
  · rw [h]
    rfl
  · have hsegments : (parse e).map Rule.render = Text.split Token.bar e.toList := by
      rw [parse_of_ne_empty h, List.map_map]
      simp [Function.comp_def, Rule.render_ofSegment]
    rw [render, hsegments, Text.join_split, String.ofList_toList]

theorem writable_parse (e : String) : (parse e).Writable := by
  by_cases h : e = ""
  · rw [h]
    exact ⟨nofun, nofun⟩
  · constructor
    · intro r hr
      rw [parse_of_ne_empty h] at hr
      obtain ⟨segment, hsegment, rfl⟩ := List.mem_map.1 hr
      exact Rule.writable_ofSegment (Text.not_mem_of_mem_split hsegment)
    · intro hblank
      apply h
      rw [← render_parse e, hblank]
      rfl

/-! ## Both directions -/

/-- An expression is written by the chain it is read as, and that chain is writable.  A writable
chain is read from the expression it is written as.  So different expressions are different chains,
and the chains of expressions are exactly the writable ones. -/
theorem parse_render_inverse :
    (∀ e, render (parse e) = e) ∧ (∀ e, (parse e).Writable) ∧
      (∀ chain : Chain, chain.Writable → parse (render chain) = chain) ∧
      Function.Injective parse ∧ ∀ chain, (∃ e, parse e = chain) ↔ chain.Writable := by
  refine ⟨render_parse, writable_parse, fun chain writable => writable.parse_render,
    Function.LeftInverse.injective render_parse, fun chain => ⟨?_, ?_⟩⟩
  · rintro ⟨e, rfl⟩
    exact writable_parse e
  · intro writable
    exact ⟨render chain, writable.parse_render⟩

/-- A comma in a name, a colon in an argument, an empty argument at the end, a rule without name and
arguments, and a rule with an empty argument only. -/
theorem parse_render_inverse_odd :
    let chain : Chain := [⟨"a,b", ["x:y", ""]⟩, ⟨"", []⟩, ⟨"", [""]⟩]
    chain.Writable ∧ render chain = "a,b:x:y,||:" ∧ parse (render chain) = chain := by
  intro chain
  have writable : chain.Writable := by
    refine ⟨?_, by decide⟩
    intro r hr
    simp only [chain, List.mem_cons, List.not_mem_nil, or_false] at hr
    rcases hr with rfl | rfl | rfl <;> exact ⟨by decide, by decide, by decide, by decide⟩
  exact ⟨writable, by decide, parse_render_inverse.2.2.1 chain writable⟩

end Chain

end FormRules
