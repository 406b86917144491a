/-!
# Separated lists

A text is cut at every occurrence of a separator, or at its first one.  Both
cuts lose only separators.

* `split` always gives at least one piece.  No piece holds the separator, and
  the pieces joined with the separator give the text back.
* Pieces without the separator, at least one, are given back by `split` from
  their join.
* `splitFirst?` cuts at the first separator only, and fails without one.
-/

namespace FormRules.Text

/-- The list with a character put in front of its first piece. -/
def consPiece (c : Char) : List (List Char) → List (List Char)
  | [] => [[c]]
  | p :: ps => (c :: p) :: ps

/-- The pieces between the separators. -/
def split (sep : Char) : List Char → List (List Char)
  | [] => [[]]
  | c :: rest => if c = sep then [] :: split sep rest else consPiece c (split sep rest)

/-- The pieces with one separator between each and the next. -/
def join (sep : Char) : List (List Char) → List Char
  | [] => []
  | [p] => p
  | p :: q :: ps => p ++ sep :: join sep (q :: ps)

/-- What stands before and after the first separator. -/
def splitFirst? (sep : Char) : List Char → Option (List Char × List Char)
  | [] => none
  | c :: rest =>
    if c = sep then some ([], rest)
    else (splitFirst? sep rest).map fun cut => (c :: cut.1, cut.2)

/-! ## Lemmas -/

theorem split_ne_nil (sep : Char) (s : List Char) : split sep s ≠ [] := by
  cases s with
  | nil => simp [split]
  | cons c rest =>
    simp only [split]
    split
    · simp
    · cases split sep rest <;> simp [consPiece]

theorem join_cons (sep : Char) (p : List Char) {ps : List (List Char)} (h : ps ≠ []) :
    join sep (p :: ps) = p ++ sep :: join sep ps := by
  cases ps with
  | nil => exact absurd rfl h
  | cons q qs => rfl

theorem join_consPiece (sep c : Char) (ps : List (List Char)) :
    join sep (consPiece c ps) = c :: join sep ps := by
  match ps with
  | [] => rfl
  | [p] => rfl
  | p :: q :: qs => rfl

/-- A separator stands before every piece but the first. -/
theorem join_cons_eq_append_flatMap (sep : Char) (p : List Char) (ps : List (List Char)) :
    join sep (p :: ps) = p ++ ps.flatMap (sep :: ·) := by
  induction ps generalizing p with
  | nil => exact (List.append_nil p).symm
  | cons q qs ih => rw [join, ih, List.flatMap_cons, List.cons_append]

/-- A separator stands after every piece but the last. -/
theorem join_append_singleton (sep : Char) (ps : List (List Char)) (p : List Char) :
    join sep (ps ++ [p]) = ps.flatMap (· ++ [sep]) ++ p := by
  induction ps with
  | nil => rfl
  | cons q qs ih =>
    rw [List.cons_append, join_cons sep q (by simp), ih, List.flatMap_cons, List.append_assoc,
      List.append_assoc, List.singleton_append]

/-- The characters of a join other than the separator are those of the pieces. -/
theorem mem_join_iff {sep c : Char} (hc : c ≠ sep) (ps : List (List Char)) :
    c ∈ join sep ps ↔ ∃ p ∈ ps, c ∈ p := by
  induction ps with
  | nil => simp [join]
  | cons p ps ih =>
    cases ps with
    | nil => simp [join]
    | cons q qs =>
      rw [join_cons sep p (by simp), List.mem_append, List.mem_cons, or_iff_right hc, ih]
      simp only [List.mem_cons, exists_eq_or_imp]

/-- Joining the pieces gives the text back. -/
theorem join_split (sep : Char) (s : List Char) : join sep (split sep s) = s := by
  induction s with
  | nil => rfl
  | cons c rest ih =>
    simp only [split]
    split
    · next h => rw [join_cons sep [] (split_ne_nil sep rest), ih, h, List.nil_append]
    · rw [join_consPiece, ih]

/-- No piece holds the separator. -/
theorem not_mem_of_mem_split {sep : Char} {s p : List Char} (h : p ∈ split sep s) : sep ∉ p := by
  induction s generalizing p with
  | nil =>
    rw [split, List.mem_singleton] at h
    simp [h]
  | cons c rest ih =>
    simp only [split] at h
    split at h
    · rcases List.mem_cons.1 h with rfl | h
      · simp
      · exact ih h
    · next hc =>
      cases hs : split sep rest with
      | nil => exact absurd hs (split_ne_nil sep rest)
      | cons q qs =>
        rw [hs, consPiece] at h
        rcases List.mem_cons.1 h with rfl | h
        · have hq := ih (hs ▸ List.mem_cons_self)
          intro hmem
          rcases List.mem_cons.1 hmem with rfl | hmem
          · exact hc rfl
          · exact hq hmem
        · exact ih (hs ▸ List.mem_cons_of_mem q h)

/-- A piece without the separator is one piece. -/
theorem split_of_not_mem {sep : Char} {p : List Char} (h : sep ∉ p) : split sep p = [p] := by
  induction p with
  | nil => rfl
  | cons c rest ih =>
    have hc : ¬ c = sep := fun e => h (e ▸ List.mem_cons_self)
    rw [split, if_neg hc, ih fun hm => h (List.mem_cons_of_mem c hm), consPiece]

/-- The cut of two texts around a separator is the cut of one and then of the other. -/
theorem split_append_sep (sep : Char) (s t : List Char) :
    split sep (s ++ sep :: t) = split sep s ++ split sep t := by
  induction s with
  | nil => simp [split]
  | cons c rest ih =>
    simp only [List.cons_append, split]
    split
    · rw [ih, List.cons_append]
    · rw [ih]
      cases hs : split sep rest with
      | nil => exact absurd hs (split_ne_nil sep rest)
      | cons q qs => rfl

/-- There is one piece more than separators. -/
theorem length_split (sep : Char) (s : List Char) : (split sep s).length = s.count sep + 1 := by
  induction s with
  | nil => rfl
  | cons c rest ih =>
    rw [split, List.count_cons]
    split
    case isTrue h => simp [ih, h]
    case isFalse h =>
      cases hs : split sep rest with
      | nil => exact absurd hs (split_ne_nil sep rest)
      | cons p ps => simpa [consPiece, h, hs] using ih

/-- The cut of a join is the cut of its pieces, one after the other. -/
theorem split_join_eq_flatMap (sep : Char) {ps : List (List Char)} (hne : ps ≠ []) :
    split sep (join sep ps) = ps.flatMap (split sep) := by
  induction ps with
  | nil => exact absurd rfl hne
  | cons p ps ih =>
    cases ps with
    | nil => simp [join]
    | cons q qs =>
      rw [join_cons sep p (by simp), split_append_sep, ih (by simp), ← List.flatMap_cons]

/-- Pieces without the separator stay as they are. -/
theorem flatMap_split {sep : Char} {ps : List (List Char)} (h : ∀ p ∈ ps, sep ∉ p) :
    ps.flatMap (split sep) = ps := by
  induction ps with
  | nil => rfl
  | cons p ps ih =>
    rw [List.flatMap_cons, split_of_not_mem (h p List.mem_cons_self),
      ih fun q hq => h q (List.mem_cons_of_mem p hq), List.singleton_append]

/-- Pieces without the separator are read back from their join. -/
theorem split_join {sep : Char} {ps : List (List Char)} (hne : ps ≠ [])
    (h : ∀ p ∈ ps, sep ∉ p) : split sep (join sep ps) = ps := by
  rw [split_join_eq_flatMap sep hne, flatMap_split h]

theorem splitFirst?_eq_some_iff {sep : Char} {s a b : List Char} :
    splitFirst? sep s = some (a, b) ↔ s = a ++ sep :: b ∧ sep ∉ a := by
  induction s generalizing a with
  | nil => simp [splitFirst?]
  | cons c rest ih =>
    by_cases hc : c = sep
    · subst hc
      cases a with
      | nil => simp [splitFirst?]
      | cons d a => simp [splitFirst?]; exact fun h _ hn => absurd h hn
    · cases a with
      | nil => simp [splitFirst?, hc]
      | cons d a =>
        simp only [splitFirst?, hc, if_false, Option.map_eq_some_iff, Prod.exists,
          Prod.mk.injEq, List.cons.injEq, List.cons_append, List.mem_cons]
        constructor
        · rintro ⟨x, y, hxy, ⟨rfl, rfl⟩, rfl⟩
          obtain ⟨h₁, h₂⟩ := ih.1 hxy
          exact ⟨⟨rfl, h₁⟩, fun h => h.elim (fun e => hc e.symm) h₂⟩
        · rintro ⟨⟨rfl, h₁⟩, h₂⟩
          exact ⟨a, b, ih.2 ⟨h₁, fun h => h₂ (.inr h)⟩, ⟨rfl, rfl⟩, rfl⟩

theorem splitFirst?_eq_none_iff {sep : Char} {s : List Char} :
    splitFirst? sep s = none ↔ sep ∉ s := by
  induction s with
  | nil => simp [splitFirst?]
  | cons c rest ih =>
    by_cases hc : c = sep
    · simp [splitFirst?, hc]
    · have hc' : ¬ sep = c := fun h => hc h.symm
      simp [splitFirst?, hc, hc', ih]

end FormRules.Text
