import FormRules.Evaluation.Message
import Mathlib.Data.List.Forall2

/-!
# Filling a template is one pass

What the pieces of a template are can be said without scanning it.  At a colon
with an identifier behind it stands a token, and its name is the longest such
identifier.  Any other character is a piece of its own.  These two rules make a
relation between texts and lists of pieces, `Cut`, in which identifiers are told
by ranges of characters and "longest" by a comparison with all others.  A text
has exactly one cut, and `pieces` finds it (`cut_iff`).

Filling goes through the cut once.  The text of a piece is settled by the piece
and the bindings alone (`Renders`), and these texts are put one after the other.
So what a binding puts in is never read again.

*Seams.*  Two texts may be filled one by one unless a token lies over the seam
between them: it begins in the first text and goes on into the second (`Joins`).
The cuts of the two then make up the cut of both (`Cut.append`), and in no other
case do they (`Joins.not_cut_append`).

*The field.*  The bindings of an outcome begin with its field, and the first
binding of a name counts.  So no part of a rule can take the place of the field
in a message.
-/

namespace FormRules.Template

/-! ## Identifiers -/

/-- An identifier may begin with the character. -/
def NameStart (c : Char) : Prop := ('a' ≤ c ∧ c ≤ 'z') ∨ ('A' ≤ c ∧ c ≤ 'Z') ∨ c = '_'

/-- An identifier may go on with the character. -/
def NamePart (c : Char) : Prop := NameStart c ∨ ('0' ≤ c ∧ c ≤ '9')

instance (c : Char) : Decidable (NameStart c) := inferInstanceAs (Decidable (_ ∨ _))

instance (c : Char) : Decidable (NamePart c) := inferInstanceAs (Decidable (_ ∨ _))

/-- The text is an identifier. -/
def IsIdentifier : List Char → Prop
  | [] => False
  | c :: rest => NameStart c ∧ ∀ d ∈ rest, NamePart d

/-- The name is the longest identifier at the front of a text. -/
structure Longest (text name : List Char) : Prop where
  front : name <+: text
  isIdentifier : IsIdentifier name
  longest : ∀ other, other <+: text → IsIdentifier other → other <+: name

theorem isUpper_iff (c : Char) : c.isUpper = true ↔ 'A' ≤ c ∧ c ≤ 'Z' := decide_eq_true_iff

theorem isLower_iff (c : Char) : c.isLower = true ↔ 'a' ≤ c ∧ c ≤ 'z' := by
  change (decide (c.val ≥ 'a'.val) && decide (c.val ≤ 'z'.val)) = true ↔ _
  rw [Bool.and_eq_true, decide_eq_true_iff, decide_eq_true_iff, Char.le_def, Char.le_def]

theorem isAlpha_iff (c : Char) :
    c.isAlpha = true ↔ ('a' ≤ c ∧ c ≤ 'z') ∨ ('A' ≤ c ∧ c ≤ 'Z') := by
  change (c.isUpper || c.isLower) = true ↔ _
  rw [Bool.or_eq_true, isUpper_iff, isLower_iff, or_comm]

theorem isNameStart_iff (c : Char) : isNameStart c = true ↔ NameStart c := by
  rw [isNameStart, NameStart, Bool.or_eq_true, isAlpha_iff, beq_iff_eq, or_assoc]

theorem isNamePart_iff (c : Char) : isNamePart c = true ↔ NamePart c := by
  have hdigit : c.isDigit = true ↔ '0' ≤ c ∧ c ≤ '9' := by
    simp only [Char.isDigit, Char.le_def, Bool.and_eq_true, decide_eq_true_eq, ge_iff_le]
  rw [isNamePart, NamePart, Char.isAlphanum, Bool.or_right_comm, Bool.or_eq_true, hdigit,
    ← isNameStart, isNameStart_iff]

theorem IsIdentifier.of_prefix {name longer : List Char} (h : IsIdentifier longer)
    (hname : name <+: longer) (hne : name ≠ []) : IsIdentifier name := by
  obtain ⟨more, rfl⟩ := hname
  cases name with
  | nil => exact absurd rfl hne
  | cons c rest => exact ⟨h.1, fun d hd => h.2 d (List.mem_append_left more hd)⟩

theorem IsIdentifier.ne_nil {name : List Char} (h : IsIdentifier name) : name ≠ [] := by
  rintro rfl
  exact h

/-- What the scan takes is an identifier if it takes anything. -/
theorem isIdentifier_identifier {text : List Char} (h : identifier text ≠ []) :
    IsIdentifier (identifier text) := by
  cases text with
  | nil => exact absurd rfl h
  | cons c rest =>
    rw [identifier] at h ⊢
    split
    case isTrue hc =>
      refine ⟨(isNameStart_iff c).1 hc, fun d hd => ?_⟩
      exact (isNamePart_iff d).1 (List.all_eq_true.1 List.all_takeWhile d hd)
    case isFalse hc => exact absurd (if_neg hc) h

theorem identifier_isPrefix (text : List Char) : identifier text <+: text := by
  cases text with
  | nil => exact List.prefix_refl []
  | cons c rest =>
    rw [identifier]
    split
    · exact (List.prefix_cons_inj c).2 (List.takeWhile_prefix isNamePart)
    · exact List.nil_prefix

/-- The scan takes all of an identifier that stands at the front. -/
theorem prefix_identifier {name text : List Char} (h : IsIdentifier name) (hname : name <+: text) :
    name <+: identifier text := by
  obtain ⟨more, rfl⟩ := hname
  cases name with
  | nil => exact List.nil_prefix
  | cons c rest =>
    have hrest : ∀ d ∈ rest, isNamePart d = true := fun d hd => (isNamePart_iff d).2 (h.2 d hd)
    rw [List.cons_append, identifier, if_pos ((isNameStart_iff c).2 h.1),
      List.takeWhile_append_of_pos hrest, List.prefix_cons_inj]
    exact List.prefix_append rest _

theorem isIdentifier_iff (name : List Char) :
    IsIdentifier name ↔ name ≠ [] ∧ identifier name = name := by
  constructor
  · intro h
    have long : name <+: identifier name := prefix_identifier h (List.prefix_refl name)
    exact ⟨h.ne_nil, (identifier_isPrefix name).eq_of_length_le long.length_le⟩
  · rintro ⟨hne, heq⟩
    rw [← heq] at hne ⊢
    exact isIdentifier_identifier hne

instance (name : List Char) : Decidable (IsIdentifier name) :=
  decidable_of_iff _ (isIdentifier_iff name).symm

theorem longest_identifier {text : List Char} (h : identifier text ≠ []) :
    Longest text (identifier text) :=
  ⟨identifier_isPrefix text, isIdentifier_identifier h,
    fun _ hother h => prefix_identifier h hother⟩

theorem Longest.eq_identifier {text name : List Char} (h : Longest text name) :
    name = identifier text := by
  have short : name <+: identifier text := prefix_identifier h.isIdentifier h.front
  have hne : identifier text ≠ [] := fun hnil =>
    h.isIdentifier.ne_nil (List.prefix_nil.1 (hnil ▸ short))
  have long : identifier text <+: name :=
    h.longest _ (identifier_isPrefix text) (isIdentifier_identifier hne)
  exact short.eq_of_length_le long.length_le

/-! ## Cuts -/

/-- A text is cut into pieces from the left. -/
inductive Cut : List Char → List Piece → Prop where
  /-- The empty text has no pieces. -/
  | nil : Cut [] []
  /-- A colon and the longest identifier behind it are a token. -/
  | token {rest name : List Char} {ps : List Piece} :
      Longest rest name → Cut (rest.drop name.length) ps → Cut (':' :: rest) (.token name :: ps)
  /-- Any other character is a piece of its own, a colon without an identifier included. -/
  | plain {c : Char} {rest : List Char} {ps : List Piece} :
      (c = ':' → ∀ name, name <+: rest → ¬ IsIdentifier name) → Cut rest ps →
        Cut (c :: rest) (.plain c :: ps)

/-- The scan cuts what is left of a text after the characters that it skips. -/
theorem cut_piecesAfter (skip : Nat) (text : List Char) :
    Cut (text.drop skip) (piecesAfter skip text) := by
  fun_induction piecesAfter skip text with
  | case1 skip =>
    rw [List.drop_nil]
    exact .nil
  | case2 skip c rest ih => exact ih
  | case3 c rest token ih =>
    obtain ⟨rfl, hne⟩ := token
    exact .token (longest_identifier hne) ih
  | case4 c rest noToken ih =>
    refine .plain (fun hc name hname h => noToken ⟨hc, fun hnil => ?_⟩) ih
    exact h.ne_nil (List.prefix_nil.1 (hnil ▸ prefix_identifier h hname))

theorem cut_pieces (text : List Char) : Cut text (pieces text) := cut_piecesAfter 0 text

/-- A text has one cut only, since both rules agree on the next piece. -/
theorem Cut.unique {text : List Char} {ps qs : List Piece} (h : Cut text ps) (h' : Cut text qs) :
    ps = qs := by
  induction h generalizing qs with
  | nil => cases h'; rfl
  | @token rest name ps longest _ ih =>
    cases h' with
    | token longest' h' =>
      obtain rfl := longest.eq_identifier.trans longest'.eq_identifier.symm
      rw [ih h']
    | plain none _ => exact absurd longest.isIdentifier (none rfl name longest.front)
  | plain none _ ih =>
    cases h' with
    | token longest _ => exact absurd longest.isIdentifier (none rfl _ longest.front)
    | plain _ h' => rw [ih h']

theorem cut_iff {text : List Char} {ps : List Piece} : Cut text ps ↔ pieces text = ps :=
  ⟨fun h => (cut_pieces text).unique h, fun h => h ▸ cut_pieces text⟩

/-- The pieces of a cut are what was cut. -/
theorem Cut.source_eq {text : List Char} {ps : List Piece} (h : Cut text ps) :
    ps.flatMap Piece.source = text := by
  induction h with
  | nil => rfl
  | token longest _ ih =>
    rw [List.flatMap_cons, ih, Piece.source, List.cons_append,
      List.prefix_iff_eq_append.1 longest.front]
  | plain _ _ ih => rw [List.flatMap_cons, ih, Piece.source, List.singleton_append]

/-! ## Seams -/

/-- A token lies over the seam of two texts. -/
def Joins (s t : List Char) : Prop :=
  ∃ before name c rest, s = before ++ ':' :: name ∧ t = c :: rest ∧ IsIdentifier (name ++ [c])

theorem Joins.append_left {s t : List Char} (u : List Char) (h : Joins s t) : Joins (u ++ s) t := by
  obtain ⟨before, name, c, rest, rfl, rfl, hname⟩ := h
  exact ⟨u ++ before, name, c, rest, (List.append_assoc u before _).symm, rfl, hname⟩

/-- Behind a colon, an identifier ends before a seam without a token. -/
theorem prefix_of_not_joins {rest t name : List Char} (seam : ¬ Joins (':' :: rest) t)
    (hname : name <+: rest ++ t) (h : IsIdentifier name) : name <+: rest := by
  rcases List.prefix_or_prefix_of_prefix hname (List.prefix_append rest t) with hname' | ⟨more, rfl⟩
  · exact hname'
  · rw [List.prefix_append_right_inj] at hname
    cases more with
    | nil => simp
    | cons c more =>
      obtain ⟨after, rfl⟩ := hname
      refine absurd ⟨[], rest, c, more ++ after, rfl, rfl, h.of_prefix ?_ (by simp)⟩ seam
      exact (List.prefix_append_right_inj rest).2 ⟨more, rfl⟩

/-- Without a token over the seam, two texts are cut one by one. -/
theorem Cut.append {s t : List Char} {ps qs : List Piece} (hs : Cut s ps) (ht : Cut t qs)
    (seam : ¬ Joins s t) : Cut (s ++ t) (ps ++ qs) := by
  induction hs with
  | nil => exact ht
  | @token rest name ps longest _ ih =>
    have hdrop : (rest ++ t).drop name.length = rest.drop name.length ++ t :=
      List.drop_append_of_le_length longest.front.length_le
    have later : ¬ Joins (rest.drop name.length) t := by
      intro h
      have := h.append_left (':' :: rest.take name.length)
      rw [List.cons_append, List.take_append_drop] at this
      exact seam this
    have longest' : Longest (rest ++ t) name := by
      refine ⟨longest.front.trans (List.prefix_append rest t), longest.isIdentifier, ?_⟩
      exact fun other hother h => longest.longest other (prefix_of_not_joins seam hother h) h
    exact .token longest' (hdrop ▸ ih later)
  | @plain c rest ps none _ ih =>
    have later : ¬ Joins rest t := fun h => seam (h.append_left [c])
    refine .plain ?_ (ih later)
    rintro rfl name hname h
    exact none rfl name (prefix_of_not_joins seam hname h) h

/-- No token begins before a colon and goes on behind it. -/
theorem not_joins_colon (s t : List Char) : ¬ Joins s (':' :: t) := by
  rintro ⟨before, name, c, rest, -, ht, hname⟩
  obtain ⟨rfl, -⟩ := List.cons.inj ht
  have hcolon : ¬ NamePart ':' := by decide
  cases name with
  | nil => exact hcolon (.inl hname.1)
  | cons d name => exact hcolon (hname.2 ':' (by simp))

/-- The piece at a colon is a token if an identifier follows. -/
theorem head?_pieces_colon (rest : List Char) :
    (pieces (':' :: rest)).head? =
      some (if identifier rest = [] then .plain ':' else .token (identifier rest)) := by
  rw [pieces, piecesAfter]
  split <;> simp_all

/-- A token over the seam is in no cut of the two texts one by one. -/
theorem Joins.not_cut_append {s t : List Char} {ps qs : List Piece} (seam : Joins s t)
    (hs : Cut s ps) : ¬ Cut (s ++ t) (ps ++ qs) := by
  obtain ⟨before, name, c, rest, rfl, rfl, hname⟩ := seam
  intro h
  have hbefore : ∀ u, pieces (before ++ ':' :: u) = pieces before ++ pieces (':' :: u) := fun u =>
    cut_iff.1 ((cut_pieces before).append (cut_pieces _) (not_joins_colon before u))
  rw [cut_iff, hbefore] at hs
  rw [cut_iff, List.append_assoc, List.cons_append, hbefore, ← hs, List.append_assoc,
    List.append_cancel_left_eq] at h
  -- The first cut takes the character behind the seam into its token, and the second cannot.
  have hlong : name ++ [c] <+: identifier (name ++ c :: rest) :=
    prefix_identifier hname ⟨rest, by simp⟩
  have hne : identifier (name ++ c :: rest) ≠ [] := by
    intro hnil
    rw [hnil, List.prefix_nil] at hlong
    simp at hlong
  have hhead := congrArg List.head? h
  rw [List.head?_append, head?_pieces_colon, head?_pieces_colon, Option.some_or,
    if_neg hne] at hhead
  split at hhead
  · cases hhead
  · obtain hsame := Piece.token.inj (Option.some.inj hhead)
    have hshort := (hlong.trans (hsame ▸ identifier_isPrefix name)).length_le
    rw [List.length_append, List.length_singleton] at hshort
    omega

theorem Cut.append_iff {s t : List Char} {ps qs : List Piece} (hs : Cut s ps) (ht : Cut t qs) :
    Cut (s ++ t) (ps ++ qs) ↔ ¬ Joins s t :=
  ⟨fun h seam => seam.not_cut_append hs h, hs.append ht⟩

instance (s t : List Char) : Decidable (Joins s t) :=
  decidable_of_iff (pieces (s ++ t) ≠ pieces s ++ pieces t) (by
    rw [ne_eq, ← cut_iff, (cut_pieces s).append_iff (cut_pieces t), not_not])

/-- A text that cannot go on with an identifier is joined to none. -/
theorem not_joins_of_head {t : List Char} (h : ∀ c ∈ t.head?, ¬ NamePart c) (s : List Char) :
    ¬ Joins s t := by
  rintro ⟨before, name, c, rest, -, rfl, hname⟩
  refine h c rfl ?_
  cases name with
  | nil => exact .inl hname.1
  | cons d name => exact hname.2 c (by simp)

/-! ## Filling -/

/-- The first binding of a name is to a text. -/
def FirstBound (bindings : List Binding) (name : List Char) (text : String) : Prop :=
  ∃ before key after, bindings = before ++ (key, text) :: after ∧ key.toList = name ∧
    ∀ b ∈ before, b.1.toList ≠ name

/-- What stands for a piece in a filled template. -/
inductive Renders (bindings : List Binding) : Piece → List Char → Prop where
  /-- The text of the first binding of the name stands for a token. -/
  | bound {name : List Char} {text : String} :
      FirstBound bindings name text → Renders bindings (.token name) text.toList
  /-- A token whose name is not bound stays as it is. -/
  | unbound {name : List Char} :
      (∀ b ∈ bindings, b.1.toList ≠ name) → Renders bindings (.token name) (':' :: name)
  /-- Any other character stays as it is. -/
  | plain (c : Char) : Renders bindings (.plain c) [c]

variable {bindings : List Binding}

theorem bound?_eq_some_iff {name : List Char} {text : String} :
    bound? name bindings = some text ↔ FirstBound bindings name text := by
  rw [bound?, Option.map_eq_some_iff]
  simp only [List.find?_eq_some_iff_append, decide_eq_true_eq]
  constructor
  · rintro ⟨⟨key, _⟩, ⟨hkey, before, after, hsplit, hbefore⟩, rfl⟩
    exact ⟨before, key, after, hsplit, hkey, by simpa using hbefore⟩
  · rintro ⟨before, key, after, hsplit, hkey, hbefore⟩
    exact ⟨(key, text), ⟨hkey, before, after, hsplit, by simpa using hbefore⟩, rfl⟩

theorem bound?_eq_none_iff {name : List Char} :
    bound? name bindings = none ↔ ∀ b ∈ bindings, b.1.toList ≠ name := by
  simp [bound?]

theorem renders_iff {p : Piece} {text : List Char} :
    Renders bindings p text ↔ p.fill bindings = text := by
  constructor
  · intro h
    cases h with
    | bound first => rw [Piece.fill, bound?_eq_some_iff.2 first]; rfl
    | unbound none => rw [Piece.fill, bound?_eq_none_iff.2 none]; rfl
    | plain c => rfl
  · rintro rfl
    cases p with
    | plain c => exact .plain c
    | token name =>
      rw [Piece.fill]
      cases h : bound? name bindings with
      | none => exact .unbound (bound?_eq_none_iff.1 h)
      | some text => exact .bound (bound?_eq_some_iff.1 h)

theorem forall₂_renders_iff {ps : List Piece} {texts : List (List Char)} :
    List.Forall₂ (Renders bindings) ps texts ↔ ps.map (Piece.fill bindings) = texts := by
  have hrenders : Renders bindings = fun p text => p.fill bindings = text := by
    funext p text
    exact propext renders_iff
  rw [hrenders, ← List.forall₂_map_left_iff (R := Eq), List.forall₂_eq_eq_eq]

/-- A filled template is made of what stands for the pieces of its cut. -/
theorem fill_eq_iff {template text : String} :
    fill template bindings = text ↔ ∃ cut texts, Cut template.toList cut ∧
      List.Forall₂ (Renders bindings) cut texts ∧ text = String.ofList texts.flatten := by
  simp only [cut_iff, forall₂_renders_iff]
  constructor
  · rintro rfl
    exact ⟨_, _, rfl, rfl, rfl⟩
  · rintro ⟨_, _, rfl, rfl, rfl⟩
    rfl

theorem fill_nil (template : String) : fill template [] = template := by
  have hsource : Piece.fill [] = Piece.source := by
    funext p
    cases p <;> rfl
  rw [fill, hsource, (cut_pieces _).source_eq, String.ofList_toList]

theorem fill_append {s t : String} (seam : ¬ Joins s.toList t.toList)
    (bindings : List Binding) : fill (s ++ t) bindings = fill s bindings ++ fill t bindings := by
  have hpieces : pieces (s.toList ++ t.toList) = pieces s.toList ++ pieces t.toList :=
    cut_iff.1 ((cut_pieces _).append (cut_pieces _) seam)
  rw [fill, String.toList_append, hpieces, List.flatMap_append, String.ofList_append, fill, fill]

/-- A text without a colon has no placeholder to fill. -/
theorem fill_of_not_mem {text : String} (h : ':' ∉ text.toList) (bindings : List Binding) :
    fill text bindings = text := by
  have cut : ∀ s : List Char, ':' ∉ s → Cut s (s.map .plain) := by
    intro s hs
    induction s with
    | nil => exact .nil
    | cons c rest ih =>
      rw [List.mem_cons, not_or] at hs
      exact .plain (fun hc => absurd hc.symm hs.1) (ih hs.2)
  have hfill : ∀ c, Piece.fill bindings (.plain c) = [c] := fun _ => rfl
  rw [fill, cut_iff.1 (cut _ h), List.flatMap_map]
  simp only [hfill, List.flatMap_singleton', String.ofList_toList]

/-- A token is filled with the text of the first binding of its name. -/
theorem fill_token {token text : String} {name : List Char} (source : token.toList = ':' :: name)
    (hname : IsIdentifier name) (first : FirstBound bindings name text) :
    fill token bindings = text := by
  have longest : Longest name name := ⟨List.prefix_refl name, hname, fun _ hother _ => hother⟩
  have cut : Cut token.toList [.token name] := by
    rw [source]
    exact .token longest (by rw [List.drop_length]; exact .nil)
  refine fill_eq_iff.2 ⟨_, _, cut, .cons (.bound first) .nil, ?_⟩
  rw [List.flatten_singleton, String.ofList_toList]

/-- A filled template holds no characters but those of the template and of the texts put in. -/
theorem mem_fill {template : String} {c : Char} (h : c ∈ (fill template bindings).toList) :
    c ∈ template.toList ∨ ∃ b ∈ bindings, c ∈ b.2.toList := by
  rw [fill, String.toList_ofList, List.mem_flatMap] at h
  obtain ⟨p, hp, hc⟩ := h
  have source : ∀ d ∈ p.source, d ∈ template.toList := by
    intro d hd
    rw [← (cut_pieces template.toList).source_eq]
    exact List.mem_flatMap.2 ⟨p, hp, hd⟩
  generalize htext : p.fill bindings = text at hc
  cases renders_iff.2 htext with
  | bound first =>
    obtain ⟨before, key, after, rfl, -⟩ := first
    exact .inr ⟨_, List.mem_append_right before List.mem_cons_self, hc⟩
  | unbound _ => exact .inl (source c hc)
  | plain _ => exact .inl (source c hc)

/-! ## Messages -/

/-- The field stands for its placeholder, whatever else is bound. -/
theorem fill_field {before after : String} (hafter : ∀ c ∈ after.toList.head?, ¬ NamePart c)
    (field : String) (params : List Binding) :
    fill (before ++ ":field" ++ after) (("field", field) :: params) =
      fill before (("field", field) :: params) ++ field ++
        fill after (("field", field) :: params) := by
  have first : FirstBound (("field", field) :: params) "field".toList field :=
    ⟨[], "field", params, rfl, rfl, nofun⟩
  have hfield : fill ":field" (("field", field) :: params) = field :=
    fill_token (by decide) (by decide) first
  rw [fill_append (not_joins_of_head hafter _), fill_append (not_joins_colon _ _), hfield]

/-- Every text has one cut, and filling puts what stands for its pieces one after the other.
Without bindings nothing changes.  Texts are cut and filled one by one unless a token lies over the
seam between them.  In the messages of an outcome the field stands for `:field`, whatever the parts
of the rule are called. -/
theorem fill_in_one_pass :
    (∀ text, ∃! cut, Cut text cut) ∧
    (∀ template bindings text, fill template bindings = text ↔ ∃ cut texts,
      Cut template.toList cut ∧ List.Forall₂ (Renders bindings) cut texts ∧
        text = String.ofList texts.flatten) ∧
    (∀ template, fill template [] = template) ∧
    (∀ s t : String, ¬ Joins s.toList t.toList → ∀ bindings,
      fill (s ++ t) bindings = fill s bindings ++ fill t bindings) ∧
    (∀ {s t ps qs}, Cut s ps → Cut t qs → (Cut (s ++ t) (ps ++ qs) ↔ ¬ Joins s t)) ∧
    ∀ (o : Outcome) (field before after : String), (∀ c ∈ after.toList.head?, ¬ NamePart c) →
      let filled := fill before (o.bindings field) ++ field ++ fill after (o.bindings field)
      (o.template = before ++ ":field" ++ after → o.message field = filled) ∧
      ∀ validator overrides,
        (overrides.lookup field validator).getD o.template = before ++ ":field" ++ after →
          o.resolve field validator overrides = filled := by
  refine ⟨fun text => ⟨pieces text, cut_pieces text, fun cut h => (cut_iff.1 h).symm⟩,
    fun _ _ _ => fill_eq_iff, fill_nil, fun _ _ seam => fill_append seam,
    fun hs ht => hs.append_iff ht, ?_⟩
  intro o field before after hafter filled
  have hfilled : fill (before ++ ":field" ++ after) (o.bindings field) = filled :=
    fill_field hafter field o.params
  constructor
  · intro htemplate
    rw [Outcome.message, htemplate, hfilled]
  · intro validator overrides htemplate
    rw [Outcome.resolve, htemplate, hfilled]

/-- Tokens that abut, a name that goes on behind the seam, a value that looks like a token, and a
rule with a part called `field`. -/
theorem fill_in_one_pass_abutting :
    let o : Outcome := ⟨false, "::field:field\xe9:minimum:1", [("field", "other"), ("min", ":min")]⟩
    (¬ Joins "::min:".toList "1a".toList ∧
      fill "::min:1a" o.params = fill "::min:" o.params ++ fill "1a" o.params) ∧
    (∃ ps qs, Cut ":mini".toList ps ∧ Cut "mum".toList qs ∧ ¬ Cut ":minimum".toList (ps ++ qs)) ∧
    o.message "name" = ":namename\xe9:minimum:1" ∧
    o.resolve "name" "min" (.ofList [("min", .everywhere ":min :field")]) = ":min name" := by
  intro o
  obtain ⟨cuts, -, -, append, seam, field⟩ := fill_in_one_pass
  have apart : ¬ Joins "::min:".toList "1a".toList := by decide +kernel
  obtain ⟨ps, hps, -⟩ := cuts ":mini".toList
  obtain ⟨qs, hqs, -⟩ := cuts "mum".toList
  refine ⟨⟨apart, append _ _ apart o.params⟩, ⟨ps, qs, hps, hqs, ?_⟩, ?_, ?_⟩
  · have joined : Joins ":mini".toList "mum".toList := by decide +kernel
    exact fun h => (seam hps hqs).1 h joined
  · have behind : ∀ c ∈ ":field\xe9:minimum:1".toList.head?, ¬ NamePart c := by
      have hhead : ":field\xe9:minimum:1".toList.head? = some ':' := by decide +kernel
      rw [hhead]
      rintro c ⟨⟩
      decide
    rw [(field o "name" ":" ":field\xe9:minimum:1" behind).1 rfl]
    decide +kernel
  · have behind : ∀ c ∈ "".toList.head?, ¬ NamePart c := nofun
    rw [(field o "name" ":min " "" behind).2 "min" _ rfl]
    decide +kernel

end FormRules.Template
