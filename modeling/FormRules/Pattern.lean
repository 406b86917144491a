/-!
# Patterns

A pattern describes a set of texts with character classes, concatenation, choice
and repetition.  `Matches` says which texts a pattern describes.  `accepts`
decides it from the left with *derivatives*: the derivative by a character
describes what may follow that character.  A text is accepted if the pattern
left over after its last character describes the empty text.

Derivatives are kept small by leaving out what describes nothing.

`accepts_iff` says that `accepts` decides `Matches`.
-/

namespace FormRules

/-- A description of a set of texts. -/
inductive Pattern where
  /-- No text. -/
  | never
  /-- The empty text. -/
  | done
  /-- One character of a class. -/
  | one (holds : Char → Bool)
  /-- One pattern and then another. -/
  | seq (p q : Pattern)
  /-- One pattern or another. -/
  | alt (p q : Pattern)
  /-- A pattern any number of times. -/
  | star (p : Pattern)

namespace Pattern

/-! ## Texts of a pattern -/

/-- The text is described by the pattern. -/
inductive Matches : Pattern → List Char → Prop where
  | done : Matches .done []
  | one {holds : Char → Bool} {c : Char} : holds c = true → Matches (.one holds) [c]
  | seq {p q : Pattern} {s t : List Char} :
      Matches p s → Matches q t → Matches (.seq p q) (s ++ t)
  | left {p q : Pattern} {s : List Char} : Matches p s → Matches (.alt p q) s
  | right {p q : Pattern} {s : List Char} : Matches q s → Matches (.alt p q) s
  | starNil {p : Pattern} : Matches (.star p) []
  | starCons {p : Pattern} {s t : List Char} :
      Matches p s → Matches (.star p) t → Matches (.star p) (s ++ t)

/-! ## Derived patterns -/

/-- The character itself. -/
def char (c : Char) : Pattern := .one (· == c)

/-- A pattern at least once. -/
def plus (p : Pattern) : Pattern := .seq p (.star p)

/-- A pattern exactly as often as told. -/
def times : Nat → Pattern → Pattern
  | 0, _ => .done
  | n + 1, p => .seq p (times n p)

/-- The patterns of a list, one after the other. -/
def inOrder : List Pattern → Pattern
  | [] => .done
  | p :: ps => .seq p (inOrder ps)

/-! ## Deciding -/

/-- Whether the pattern describes the empty text. -/
def nullable : Pattern → Bool
  | .never => false
  | .done => true
  | .one _ => false
  | .seq p q => p.nullable && q.nullable
  | .alt p q => p.nullable || q.nullable
  | .star _ => true

/-- A concatenation, without what describes nothing. -/
def andThen : Pattern → Pattern → Pattern
  | .never, _ => .never
  | .done, q => q
  | _, .never => .never
  | p, q => .seq p q

/-- A choice, without what describes nothing. -/
def orElse : Pattern → Pattern → Pattern
  | .never, q => q
  | p, .never => p
  | p, q => .alt p q

/-- What may follow a character. -/
def deriv (c : Char) : Pattern → Pattern
  | .never => .never
  | .done => .never
  | .one holds => if holds c then .done else .never
  | .seq p q =>
    if p.nullable then orElse (andThen (p.deriv c) q) (q.deriv c) else andThen (p.deriv c) q
  | .alt p q => orElse (p.deriv c) (q.deriv c)
  | .star p => andThen (p.deriv c) (.star p)

/-- Whether the pattern describes the text. -/
def accepts (p : Pattern) (s : List Char) : Bool := (s.foldl (fun p c => p.deriv c) p).nullable

/-! ## Correctness -/

theorem not_matches_never {s : List Char} : ¬ Matches .never s := nofun

theorem matches_done_iff {s : List Char} : Matches .done s ↔ s = [] := by
  constructor
  · rintro ⟨⟩; rfl
  · rintro rfl; exact .done

theorem matches_one_iff {holds : Char → Bool} {s : List Char} :
    Matches (.one holds) s ↔ ∃ c, s = [c] ∧ holds c = true := by
  constructor
  · rintro ⟨⟩; next c h => exact ⟨c, rfl, h⟩
  · rintro ⟨c, rfl, h⟩; exact .one h

theorem matches_seq_iff {p q : Pattern} {s : List Char} :
    Matches (.seq p q) s ↔ ∃ u v, s = u ++ v ∧ Matches p u ∧ Matches q v := by
  constructor
  · rintro ⟨⟩; next u v hu hv => exact ⟨u, v, rfl, hu, hv⟩
  · rintro ⟨u, v, rfl, hu, hv⟩; exact .seq hu hv

theorem matches_alt_iff {p q : Pattern} {s : List Char} :
    Matches (.alt p q) s ↔ Matches p s ∨ Matches q s := by
  constructor
  · intro h
    cases h with
    | left h => exact .inl h
    | right h => exact .inr h
  · rintro (h | h)
    · exact .left h
    · exact .right h

/-- A repetition that begins with a character has a first round that does. -/
theorem matches_star_cons_iff {p : Pattern} {c : Char} {s : List Char} :
    Matches (.star p) (c :: s) ↔ ∃ u v, s = u ++ v ∧ Matches p (c :: u) ∧ Matches (.star p) v := by
  constructor
  · generalize hp : Pattern.star p = r
    generalize hs : c :: s = t
    intro h
    induction h with
    | done | one | seq | left | right => cases hp
    | starNil => cases hs
    | @starCons q u v hu hv _ ihv =>
      cases hp
      cases u with
      | nil => exact ihv rfl hs
      | cons d u =>
        rw [List.cons_append, List.cons.injEq] at hs
        obtain ⟨rfl, rfl⟩ := hs
        exact ⟨u, v, rfl, hu, hv⟩
  · rintro ⟨u, v, rfl, hu, hv⟩
    exact Matches.starCons hu hv

theorem nullable_iff (p : Pattern) : p.nullable = true ↔ Matches p [] := by
  induction p with
  | never => simp [nullable, not_matches_never]
  | done => simp [nullable, matches_done_iff]
  | one holds => simp [nullable, matches_one_iff]
  | seq p q ihp ihq =>
    simp only [nullable, Bool.and_eq_true, ihp, ihq, matches_seq_iff]
    constructor
    · rintro ⟨hp, hq⟩; exact ⟨[], [], rfl, hp, hq⟩
    · rintro ⟨u, v, huv, hu, hv⟩
      obtain ⟨rfl, rfl⟩ := List.append_eq_nil_iff.1 huv.symm
      exact ⟨hu, hv⟩
  | alt p q ihp ihq => simp [nullable, ihp, ihq, matches_alt_iff]
  | star p => simp [nullable, Matches.starNil]

theorem matches_andThen_iff {p q : Pattern} {s : List Char} :
    Matches (andThen p q) s ↔ Matches (.seq p q) s := by
  unfold andThen
  split
  · simp [matches_seq_iff, not_matches_never]
  · rw [matches_seq_iff]
    constructor
    · exact fun h => ⟨[], s, rfl, .done, h⟩
    · rintro ⟨u, v, rfl, hu, hv⟩
      rw [matches_done_iff.1 hu]
      exact hv
  · simp [matches_seq_iff, not_matches_never]
  · exact Iff.rfl

theorem matches_orElse_iff {p q : Pattern} {s : List Char} :
    Matches (orElse p q) s ↔ Matches p s ∨ Matches q s := by
  unfold orElse
  split
  · simp [not_matches_never]
  · simp [not_matches_never]
  · exact matches_alt_iff

/-- The derivative describes what may follow the character. -/
theorem matches_deriv_iff {p : Pattern} {c : Char} {s : List Char} :
    Matches (p.deriv c) s ↔ Matches p (c :: s) := by
  induction p generalizing s with
  | never => simp [deriv, not_matches_never]
  | done => simp [deriv, not_matches_never, matches_done_iff]
  | one holds =>
    simp only [deriv, matches_one_iff]
    split
    · next h =>
      rw [matches_done_iff]
      constructor
      · rintro rfl; exact ⟨c, rfl, h⟩
      · rintro ⟨d, hd, _⟩; exact (List.cons.inj hd).2
    · next h =>
      refine ⟨fun hs => absurd hs not_matches_never, ?_⟩
      rintro ⟨d, hd, hh⟩
      exact absurd ((List.cons.inj hd).1 ▸ hh) h
  | alt p q ihp ihq => simp [deriv, matches_orElse_iff, matches_alt_iff, ihp, ihq]
  | star p ih =>
    rw [deriv, matches_andThen_iff, matches_seq_iff, matches_star_cons_iff]
    simp only [ih]
  | seq p q ihp ihq =>
    have split_head : Matches (.seq p q) (c :: s) ↔
        (∃ u v, s = u ++ v ∧ Matches p (c :: u) ∧ Matches q v) ∨
          (p.nullable = true ∧ Matches q (c :: s)) := by
      rw [matches_seq_iff, nullable_iff]
      constructor
      · rintro ⟨u, v, huv, hu, hv⟩
        cases u with
        | nil => exact .inr ⟨hu, by rw [huv]; exact hv⟩
        | cons d u =>
          rw [List.cons_append, List.cons.injEq] at huv
          obtain ⟨rfl, rfl⟩ := huv
          exact .inl ⟨u, v, rfl, hu, hv⟩
      · rintro (⟨u, v, rfl, hu, hv⟩ | ⟨hp, hq⟩)
        · exact ⟨c :: u, v, rfl, hu, hv⟩
        · exact ⟨[], c :: s, rfl, hp, hq⟩
    rw [split_head, deriv]
    split
    · next h => simp [matches_orElse_iff, matches_andThen_iff, matches_seq_iff, ihp, ihq, h]
    · next h => simp [matches_andThen_iff, matches_seq_iff, ihp, h]

/-- `accepts` decides which texts the pattern describes. -/
theorem accepts_iff {p : Pattern} {s : List Char} : p.accepts s = true ↔ Matches p s := by
  induction s generalizing p with
  | nil => exact nullable_iff p
  | cons c rest ih =>
    have step : p.accepts (c :: rest) = (p.deriv c).accepts rest := rfl
    rw [step, ih, matches_deriv_iff]

end Pattern

end FormRules
