import FormRules.Pattern
import Mathlib.Data.List.Forall2

/-!
# Texts of composed patterns

A repetition describes texts that are made of rounds.  If it is known what the
rounds are made of, one thing for each round, then the repetition is known by a list
of these things (`matches_star_iff`, `matches_plus_iff`).  So a pattern of nested
repetitions is read off from the inside to the outside, and nobody has to look at a
derivation of `Matches` again.

A pattern without choices and open repetitions is a *row* of classes: it describes the
texts that have one character of each class, in order (`Row`).  Such a text is known
place by place (`Row.matches_iff`).
-/

namespace FormRules.Pattern

variable {p : Pattern} {s : List Char} {α : Type} {P : α → Prop} {f : α → List Char}

theorem matches_char_iff {c : Char} : Matches (.char c) s ↔ s = [c] := by
  rw [char, matches_one_iff]
  simp

/-- A repetition describes any number of rounds, one after the other. -/
theorem matches_star_iff (round : ∀ u, Matches p u ↔ ∃ x, P x ∧ f x = u) :
    Matches (.star p) s ↔ ∃ xs : List α, (∀ x ∈ xs, P x) ∧ xs.flatMap f = s := by
  constructor
  · generalize hr : Pattern.star p = r
    intro h
    induction h with
    | done | one | seq | left | right => cases hr
    | starNil => exact ⟨[], nofun, rfl⟩
    | starCons hu _ _ ih =>
      cases hr
      obtain ⟨x, hx, rfl⟩ := (round _).1 hu
      obtain ⟨xs, hxs, rfl⟩ := ih rfl
      exact ⟨x :: xs, List.forall_mem_cons.2 ⟨hx, hxs⟩, List.flatMap_cons⟩
  · rintro ⟨xs, hxs, rfl⟩
    induction xs with
    | nil => exact .starNil
    | cons x rest ih =>
      rw [List.forall_mem_cons] at hxs
      rw [List.flatMap_cons]
      exact .starCons ((round _).2 ⟨x, hxs.1, rfl⟩) (ih hxs.2)

/-- The same with at least one round. -/
theorem matches_plus_iff (round : ∀ u, Matches p u ↔ ∃ x, P x ∧ f x = u) :
    Matches (.plus p) s ↔
      ∃ xs : List α, xs ≠ [] ∧ (∀ x ∈ xs, P x) ∧ xs.flatMap f = s := by
  rw [plus, matches_seq_iff]
  constructor
  · rintro ⟨u, v, rfl, hu, hv⟩
    obtain ⟨x, hx, rfl⟩ := (round u).1 hu
    obtain ⟨xs, hxs, rfl⟩ := (matches_star_iff round).1 hv
    exact ⟨x :: xs, List.cons_ne_nil x xs, List.forall_mem_cons.2 ⟨hx, hxs⟩, List.flatMap_cons⟩
  · rintro ⟨xs, hne, hxs, rfl⟩
    cases xs with
    | nil => exact absurd rfl hne
    | cons x rest =>
      rw [List.forall_mem_cons] at hxs
      exact ⟨f x, rest.flatMap f, List.flatMap_cons, (round _).2 ⟨x, hxs.1, rfl⟩,
        (matches_star_iff round).2 ⟨rest, hxs.2, rfl⟩⟩

/-! ## Characters of a class -/

variable {holds : Char → Bool}

theorem matches_one_iff_singleton (u : List Char) :
    Matches (.one holds) u ↔ ∃ c, holds c = true ∧ [c] = u := by
  rw [matches_one_iff]
  simp only [and_comm, eq_comm]

theorem matches_star_one_iff : Matches (.star (.one holds)) s ↔ ∀ c ∈ s, holds c = true := by
  simp only [matches_star_iff matches_one_iff_singleton, List.flatMap_singleton', exists_eq_right]

theorem matches_plus_one_iff :
    Matches (.plus (.one holds)) s ↔ s ≠ [] ∧ ∀ c ∈ s, holds c = true := by
  simp only [matches_plus_iff matches_one_iff_singleton, List.flatMap_singleton', ← and_assoc,
    exists_eq_right]

/-! ## Rows of classes -/

/-- The pattern describes the texts that have one character of each class, in order. -/
def Row (p : Pattern) (classes : List (Char → Bool)) : Prop :=
  ∀ s, Matches p s ↔ List.Forall₂ (fun c holds => holds c = true) s classes

variable {q : Pattern} {ks ls : List (Char → Bool)}

theorem row_done : Row .done [] := by
  intro s
  rw [matches_done_iff, List.forall₂_nil_right_iff]

theorem row_one (holds : Char → Bool) : Row (.one holds) [holds] := by
  intro s
  simp only [matches_one_iff, List.forall₂_cons_right_iff, List.forall₂_nil_right_iff]
  constructor
  · rintro ⟨c, rfl, hc⟩
    exact ⟨c, [], hc, rfl, rfl⟩
  · rintro ⟨c, _, hc, rfl, rfl⟩
    exact ⟨c, rfl, hc⟩

theorem Row.seq (hp : Row p ks) (hq : Row q ls) : Row (.seq p q) (ks ++ ls) := by
  intro s
  rw [matches_seq_iff]
  constructor
  · rintro ⟨u, v, rfl, hu, hv⟩
    exact List.rel_append ((hp u).1 hu) ((hq v).1 hv)
  · intro h
    refine ⟨s.take ks.length, s.drop ks.length, (List.take_append_drop _ s).symm, ?_, ?_⟩
    · exact (hp _).2 (List.forall₂_take_append s ks ls h)
    · exact (hq _).2 (List.forall₂_drop_append s ks ls h)

theorem row_times_one (n : Nat) (holds : Char → Bool) :
    Row (.times n (.one holds)) (List.replicate n holds) := by
  induction n with
  | zero => exact row_done
  | succ n ih => exact (row_one holds).seq ih

variable {n : Nat} {classAt : Nat → Char → Bool}

/-- A row is matched place by place. -/
theorem Row.matches_iff (row : Row p ((List.range n).map classAt)) :
    Matches p s ↔ s.length = n ∧ ∀ i c, s[i]? = some c → classAt i c = true := by
  rw [row, List.forall₂_map_right_iff, List.forall₂_iff_get]
  simp only [List.length_range, List.get_eq_getElem, List.getElem_range]
  refine and_congr_right fun hlength => ?_
  constructor
  · intro h i c hc
    obtain ⟨hi, rfl⟩ := List.getElem?_eq_some_iff.1 hc
    exact h i hi (hlength ▸ hi)
  · intro h i hi _
    exact h i s[i] (List.getElem?_eq_getElem hi)

/-- Changing characters within their classes does not matter to a row. -/
theorem Row.matches_map_iff (row : Row p ((List.range n).map classAt)) {f : Char → Char}
    (blind : ∀ i c, classAt i (f c) = classAt i c) : Matches p (s.map f) ↔ Matches p s := by
  rw [row.matches_iff, row.matches_iff, List.length_map]
  simp [blind]

end FormRules.Pattern
