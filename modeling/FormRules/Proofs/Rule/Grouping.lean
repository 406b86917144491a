import FormRules.Proofs.Rule.Chain

/-!
# Grouping tokens

Any list of tokens can be grouped, also one that no expression is cut into.  What
grouping does to it is said by writing the chain as tokens again.

*From tokens.*  The arguments in front of the first name are lost and nothing
else is (`Chain.tokens_ofTokens`).  Grouping goes through the list from its end
with a chain and with arguments that wait for their name.  A chain and waiting
arguments are themselves written as tokens (`Chain.written`), and taking in one
token puts it in front of what is written (`Chain.written_push`).  So nothing is
lost on the way, and in the end exactly the waiting arguments are given up.

*From an expression.*  An expression is cut into the tokens of the chain it
writes (`Chain.tokens_parse`).  Such a list begins with a name and has one name
for each rule, so that of an expression loses nothing.
-/

namespace FormRules

/-- Whether the token is an argument. -/
def Token.isArgument : Token → Bool
  | .name _ => false
  | .argument _ => true

/-- Whether the token is a name. -/
def Token.isName : Token → Bool
  | .name _ => true
  | .argument _ => false

namespace Chain

/-! ## From tokens -/

/-- The tokens that have been read when arguments wait in front of a chain. -/
def written (read : List String × Chain) : List Token :=
  read.1.map Token.argument ++ tokens read.2

theorem written_push (token : Token) (read : List String × Chain) :
    written (push token read) = token :: written read := by
  obtain ⟨waiting, chain⟩ := read
  cases token with
  | argument a => rfl
  | name n => rw [push, written, tokens, List.flatMap_cons]; rfl

theorem written_foldr_push (ts : List Token) : written (ts.foldr push ([], [])) = ts := by
  induction ts with
  | nil => rfl
  | cons token rest ih => rw [List.foldr_cons, written_push, ih]

/-- The tokens of a chain begin with a name. -/
theorem dropWhile_tokens (chain : Chain) :
    chain.tokens.dropWhile Token.isArgument = chain.tokens := by
  cases chain with
  | nil => rfl
  | cons r rest => rfl

/-- Grouping loses the arguments in front of the first name, and only those. -/
theorem tokens_ofTokens (ts : List Token) :
    (ofTokens ts).tokens = ts.dropWhile Token.isArgument := by
  have hwaiting : ∀ t ∈ (ts.foldr push ([], [])).1.map Token.argument, t.isArgument = true :=
    List.forall_mem_map.2 fun _ _ => rfl
  calc (ofTokens ts).tokens
      = (ofTokens ts).tokens.dropWhile Token.isArgument := (dropWhile_tokens _).symm
    _ = (written (ts.foldr push ([], []))).dropWhile Token.isArgument :=
        (List.dropWhile_append_of_pos hwaiting).symm
    _ = ts.dropWhile Token.isArgument := by rw [written_foldr_push]

example : ofTokens [.argument "a", .argument "b", .name "", .name "min", .argument ""] =
    [⟨"", []⟩, ⟨"min", [""]⟩] := by decide

/-! ## From an expression -/

theorem tokens_parse (e : String) : (parse e).tokens = Token.ofExpression e := by
  by_cases h : e = ""
  · rw [h]
    rfl
  · rw [parse_of_ne_empty h, tokens_map_ofSegment, ofExpression_of_ne_empty h]

theorem head?_tokens (chain : Chain) : chain.tokens.head?.any Token.isArgument = false := by
  cases chain with
  | nil => rfl
  | cons r rest => rfl

theorem countP_isName_tokens_rule (r : Rule) : r.tokens.countP Token.isName = 1 := by
  have hargs : (r.args.map Token.argument).countP Token.isName = 0 :=
    List.countP_eq_zero.2 (List.forall_mem_map.2 fun _ _ => Bool.false_ne_true)
  rw [Rule.tokens, List.countP_cons_of_pos rfl, hargs]

/-- A chain is written with one name for each rule. -/
theorem countP_isName_tokens (chain : Chain) : chain.tokens.countP Token.isName = chain.length := by
  induction chain with
  | nil => rfl
  | cons r rest ih =>
    rw [tokens, List.flatMap_cons, ← tokens, List.countP_append, countP_isName_tokens_rule, ih,
      List.length_cons, Nat.add_comm]

/-- An expression writes one rule more than it has bars, and none if it is empty. -/
theorem length_parse (e : String) :
    (parse e).length = if e = "" then 0 else e.toList.count Token.bar + 1 := by
  split
  case isTrue h =>
    rw [h]
    rfl
  case isFalse h => rw [parse_of_ne_empty h, List.length_map, Text.length_split]

/-- Grouping any tokens and writing the chain gives the tokens without the arguments in front, and
grouping what a chain is written as gives the chain.  An expression is cut into tokens with no
argument in front and with one name more than it has bars, or none if it is empty, so grouping them
loses nothing. -/
theorem grouping_exact :
    (∀ ts, (ofTokens ts).tokens = ts.dropWhile Token.isArgument) ∧
      (∀ chain : Chain, ofTokens chain.tokens = chain) ∧
      ∀ e, (Token.ofExpression e).head?.any Token.isArgument = false ∧
        ((Token.ofExpression e).countP Token.isName =
          if e = "" then 0 else e.toList.count '|' + 1) ∧
        (ofTokens (Token.ofExpression e)).tokens = Token.ofExpression e := by
  refine ⟨tokens_ofTokens, ofTokens_tokens, fun e => ?_⟩
  rw [← tokens_parse]
  refine ⟨head?_tokens _, ?_, ?_⟩
  · rw [countP_isName_tokens, length_parse]
    rfl
  · rw [ofTokens_tokens]

end Chain

end FormRules
