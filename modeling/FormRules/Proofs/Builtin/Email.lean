import FormRules.Builtin.Format
import FormRules.Proofs.Pattern
import FormRules.Text.Blank
import FormRules.Text.Separated

/-!
# The grammar of email addresses

An address is cut at its last at sign.  What stands behind it is a *domain*, at
least two labels joined by single dots, the last of at least two characters.  What
stands before it is a *local part*: labels joined by single dots, or text without a
newline between double quotes.

The pattern says nothing of a last at sign, and its quoted text may hold at signs,
dots and quotes.  But no label holds an at sign, so the one that the pattern finds
is always the last, and the cut is the only one (`email_passes_iff`).

The pattern of each part is read off from its labels.  Where the local part puts a
dot before every label but the first, the domain puts one after every label but the
last.  Both are the labels joined by dots.
-/

namespace FormRules.Builtin

/-! ## The grammar -/

/-- The marks that no label holds. -/
def labelMarks : List Char := ['<', '>', '(', ')', '[', ']', '.', ',', ';', ':', '@', '"']

/-- A run of characters without white space and without marks. -/
structure IsLabel (s : List Char) : Prop where
  ne_nil : s ≠ []
  not_blank : ∀ c ∈ s, Text.isBlank c = false
  not_mark : ∀ c ∈ s, c ∉ labelMarks

/-- What stands before the at sign of an address. -/
inductive IsLocalPart : List Char → Prop where
  /-- One or more labels joined by single dots. -/
  | dotted {labels : List (List Char)} :
      labels ≠ [] → (∀ l ∈ labels, IsLabel l) → IsLocalPart (Text.join '.' labels)
  /-- At least one character between double quotes, none of them a newline. -/
  | quoted {body : List Char} :
      body ≠ [] → '\n' ∉ body → IsLocalPart ('"' :: body ++ ['"'])

/-- What stands behind the at sign of an address: two or more labels joined by single dots, the last
of at least two characters. -/
inductive IsDomain : List Char → Prop where
  | dotted {labels : List (List Char)} {last : List Char} :
      labels ≠ [] → (∀ l ∈ labels ++ [last], IsLabel l) → 2 ≤ last.length →
        IsDomain (Text.join '.' (labels ++ [last]))

/-! ## Labels -/

variable {s : List Char} {c : Char} {labels : List (List Char)}

theorem isLabelChar_iff (c : Char) :
    isLabelChar c = true ↔ Text.isBlank c = false ∧ c ∉ labelMarks := by
  have hmarks : c ∈ labelMarks ↔ (c ∈ labelPunctuation ∨ c = '@') ∨ c = '"' := by
    simp only [labelMarks, labelPunctuation, List.mem_cons, List.not_mem_nil, or_false, or_assoc]
  rw [hmarks, isLabelChar, Bool.not_eq_true', ← Bool.not_eq_true]
  simp only [Bool.or_eq_true, List.contains_iff_mem, beq_iff_eq, not_or, Bool.not_eq_true]
  constructor
  · rintro ⟨⟨⟨hpunctuation, hblank⟩, hat⟩, hquote⟩
    exact ⟨hblank, ⟨hpunctuation, hat⟩, hquote⟩
  · rintro ⟨hblank, ⟨hpunctuation, hat⟩, hquote⟩
    exact ⟨⟨⟨hpunctuation, hblank⟩, hat⟩, hquote⟩

theorem isLabel_iff (s : List Char) : IsLabel s ↔ s ≠ [] ∧ ∀ c ∈ s, isLabelChar c = true := by
  simp only [isLabelChar_iff]
  constructor
  · rintro ⟨hne, hblank, hmark⟩
    exact ⟨hne, fun c hc => ⟨hblank c hc, hmark c hc⟩⟩
  · rintro ⟨hne, h⟩
    exact ⟨hne, fun c hc => (h c hc).1, fun c hc => (h c hc).2⟩

theorem matches_labelPattern_iff : labelPattern.Matches s ↔ IsLabel s := by
  rw [labelPattern, Pattern.matches_plus_one_iff, isLabel_iff]

/-- Labels joined by dots hold no white space. -/
theorem not_blank_of_mem_join (hlabels : ∀ l ∈ labels, IsLabel l)
    (hc : c ∈ Text.join '.' labels) : Text.isBlank c = false := by
  by_cases hdot : c = '.'
  · subst hdot
    decide
  · obtain ⟨l, hl, hc⟩ := (Text.mem_join_iff hdot labels).1 hc
    exact (hlabels l hl).not_blank c hc

/-! ## The parts of an address -/

theorem matches_dottedPattern_iff :
    dottedPattern.Matches s ↔
      ∃ labels, labels ≠ [] ∧ (∀ l ∈ labels, IsLabel l) ∧ Text.join '.' labels = s := by
  have round : ∀ u, Pattern.Matches (.seq (.char '.') labelPattern) u ↔
      ∃ l, IsLabel l ∧ '.' :: l = u := by
    intro u
    simp only [Pattern.matches_seq_iff, Pattern.matches_char_iff, matches_labelPattern_iff]
    constructor
    · rintro ⟨_, l, rfl, rfl, hl⟩
      exact ⟨l, hl, rfl⟩
    · rintro ⟨l, hl, rfl⟩
      exact ⟨['.'], l, rfl, rfl, hl⟩
  simp only [dottedPattern, Pattern.matches_seq_iff, matches_labelPattern_iff,
    Pattern.matches_star_iff round]
  constructor
  · rintro ⟨first, _, rfl, hfirst, rest, hrest, rfl⟩
    exact ⟨first :: rest, List.cons_ne_nil first rest, List.forall_mem_cons.2 ⟨hfirst, hrest⟩,
      Text.join_cons_eq_append_flatMap '.' first rest⟩
  · rintro ⟨labels, hne, hlabels, rfl⟩
    cases labels with
    | nil => exact absurd rfl hne
    | cons first rest =>
      rw [List.forall_mem_cons] at hlabels
      exact ⟨first, _, Text.join_cons_eq_append_flatMap '.' first rest, hlabels.1, rest,
        hlabels.2, rfl⟩

theorem matches_quotedPattern_iff :
    quotedPattern.Matches s ↔ ∃ body, body ≠ [] ∧ '\n' ∉ body ∧ '"' :: body ++ ['"'] = s := by
  have hbody : ∀ body : List Char, (∀ c ∈ body, (c != '\n') = true) ↔ '\n' ∉ body := by
    intro body
    simp only [bne_iff_ne]
    exact ⟨fun h hmem => h _ hmem rfl, fun h c hc heq => h (heq ▸ hc)⟩
  simp only [quotedPattern, Pattern.inOrder, Pattern.matches_seq_iff, Pattern.matches_char_iff,
    Pattern.matches_plus_one_iff, Pattern.matches_done_iff, hbody]
  constructor
  · rintro ⟨_, _, rfl, rfl, body, _, rfl, ⟨hne, hnewline⟩, _, _, rfl, rfl, rfl⟩
    exact ⟨body, hne, hnewline, rfl⟩
  · rintro ⟨body, hne, hnewline, rfl⟩
    exact ⟨['"'], _, rfl, rfl, body, ['"'], rfl, ⟨hne, hnewline⟩, ['"'], [], rfl, rfl, rfl⟩

theorem matches_localPattern_iff :
    Pattern.Matches (.alt dottedPattern quotedPattern) s ↔ IsLocalPart s := by
  rw [Pattern.matches_alt_iff, matches_dottedPattern_iff, matches_quotedPattern_iff]
  constructor
  · rintro (⟨labels, hne, hlabels, rfl⟩ | ⟨body, hne, hnewline, rfl⟩)
    · exact .dotted hne hlabels
    · exact .quoted hne hnewline
  · rintro (⟨hne, hlabels⟩ | ⟨hne, hnewline⟩)
    · exact .inl ⟨_, hne, hlabels, rfl⟩
    · exact .inr ⟨_, hne, hnewline, rfl⟩

/-- Two characters and more are a label of at least two. -/
theorem matches_lastLabel_iff :
    Pattern.Matches
        (.inOrder [.one isLabelChar, .one isLabelChar, .star (.one isLabelChar)]) s ↔
      IsLabel s ∧ 2 ≤ s.length := by
  simp only [Pattern.inOrder, Pattern.matches_seq_iff, Pattern.matches_one_iff,
    Pattern.matches_star_one_iff, Pattern.matches_done_iff, isLabel_iff]
  constructor
  · rintro ⟨_, _, rfl, ⟨c, rfl, hc⟩, _, _, rfl, ⟨d, rfl, hd⟩, rest, _, rfl, hrest, rfl⟩
    rw [List.append_nil]
    exact ⟨⟨by simp, List.forall_mem_cons.2 ⟨hc, List.forall_mem_cons.2 ⟨hd, hrest⟩⟩⟩, by simp⟩
  · rintro ⟨⟨-, h⟩, hlength⟩
    match s, hlength with
    | c :: d :: rest, _ =>
      rw [List.forall_mem_cons, List.forall_mem_cons] at h
      exact ⟨[c], _, rfl, ⟨c, rfl, h.1⟩, [d], _, rfl, ⟨d, rfl, h.2.1⟩, rest, [], by simp, h.2.2, rfl⟩

theorem matches_domainPattern_iff : domainPattern.Matches s ↔ IsDomain s := by
  have round : ∀ u, Pattern.Matches (.seq labelPattern (.char '.')) u ↔
      ∃ l, IsLabel l ∧ l ++ ['.'] = u := by
    intro u
    simp only [Pattern.matches_seq_iff, Pattern.matches_char_iff, matches_labelPattern_iff]
    constructor
    · rintro ⟨l, _, rfl, hl, rfl⟩
      exact ⟨l, hl, rfl⟩
    · rintro ⟨l, hl, rfl⟩
      exact ⟨l, ['.'], rfl, hl, rfl⟩
  rw [domainPattern, Pattern.inOrder, Pattern.matches_seq_iff]
  simp only [Pattern.matches_plus_iff round, matches_lastLabel_iff]
  constructor
  · rintro ⟨_, last, rfl, ⟨labels, hne, hlabels, rfl⟩, hlast, hlength⟩
    rw [← Text.join_append_singleton]
    refine .dotted hne (fun l hl => ?_) hlength
    rcases List.mem_append.1 hl with hl | hl
    · exact hlabels l hl
    · rwa [List.mem_singleton.1 hl]
  · rintro @⟨labels, last, hne, h, hlength⟩
    refine ⟨_, last, Text.join_append_singleton '.' labels last, ⟨labels, hne, ?_, rfl⟩, ?_, hlength⟩
    · exact fun l hl => h l (List.mem_append_left [last] hl)
    · exact h last (List.mem_append_right labels (List.mem_singleton_self last))

theorem IsDomain.not_blank (h : IsDomain s) : ∀ c ∈ s, Text.isBlank c = false := by
  obtain ⟨-, hlabels, -⟩ := h
  exact fun c hc => not_blank_of_mem_join hlabels hc

theorem IsDomain.at_not_mem (h : IsDomain s) : '@' ∉ s := by
  obtain ⟨-, hlabels, -⟩ := h
  intro hmem
  obtain ⟨l, hl, hmem⟩ := (Text.mem_join_iff (by decide) _).1 hmem
  exact (hlabels l hl).not_mark '@' hmem (by decide)

/-! ## Addresses -/

/-- The only at sign at which an address can be cut is the last one. -/
theorem matches_emailPattern_iff :
    emailPattern.Matches s ↔ ∃ localPart domain, s = localPart ++ '@' :: domain ∧ '@' ∉ domain ∧
      IsLocalPart localPart ∧ IsDomain domain := by
  simp only [emailPattern, Pattern.inOrder, Pattern.matches_seq_iff, Pattern.matches_char_iff,
    Pattern.matches_done_iff, matches_localPattern_iff, matches_domainPattern_iff]
  constructor
  · rintro ⟨localPart, _, rfl, hlocal, _, _, rfl, rfl, domain, _, rfl, hdomain, rfl⟩
    rw [List.append_nil]
    exact ⟨localPart, domain, rfl, hdomain.at_not_mem, hlocal, hdomain⟩
  · rintro ⟨localPart, domain, rfl, -, hlocal, hdomain⟩
    exact ⟨localPart, '@' :: domain, rfl, hlocal, ['@'], domain, rfl, rfl, domain, [], by simp,
      hdomain, rfl⟩

/-- Nothing in an address but quoted text is white space, and quoted text holds no newline. -/
theorem newline_not_mem_address {localPart domain : List Char} (hlocal : IsLocalPart localPart)
    (hdomain : IsDomain domain) : '\n' ∉ localPart ++ '@' :: domain := by
  have hnewline : Text.isBlank '\n' ≠ false := by decide
  rw [List.mem_append, List.mem_cons]
  rintro (hmem | hmem | hmem)
  · cases hlocal with
    | dotted _ hlabels => exact hnewline (not_blank_of_mem_join hlabels hmem)
    | quoted _ hbody => simp [hbody] at hmem
  · exact absurd hmem (by decide)
  · exact hnewline (hdomain.not_blank _ hmem)

theorem head_not_blank_address {localPart domain : List Char} (hlocal : IsLocalPart localPart)
    (hc : (localPart ++ '@' :: domain).head? = some c) : Text.isBlank c = false := by
  rw [List.head?_append] at hc
  cases hhead : localPart.head? with
  | none =>
    rw [hhead] at hc
    obtain rfl : '@' = c := Option.some.inj hc
    decide
  | some d =>
    rw [hhead] at hc
    obtain rfl : d = c := Option.some.inj hc
    cases hlocal with
    | dotted _ hlabels => exact not_blank_of_mem_join hlabels (List.mem_of_mem_head? hhead)
    | quoted _ _ =>
      obtain rfl : '"' = d := Option.some.inj hhead
      decide

theorem last_not_blank_address {localPart domain : List Char} (hdomain : IsDomain domain)
    (hc : (localPart ++ '@' :: domain).getLast? = some c) : Text.isBlank c = false := by
  have hmem : c ∈ '@' :: domain := by
    rw [List.getLast?_append, List.getLast?_cons, Option.some_or] at hc
    exact List.mem_of_getLast? (List.getLast?_cons.trans hc)
  rcases List.mem_cons.1 hmem with rfl | hmem
  · decide
  · exact hdomain.not_blank c hmem

/-- A value passes `email` if its text, cut at the last at sign, has a local part before it and a
domain behind it.  Then there is no newline in it and no white space at its ends. -/
theorem email_passes_iff (value : Value) (args : List String) (record : Record) :
    let text := value.display.toList
    (email.check value args record = true ↔ ∃ localPart domain,
      text = localPart ++ '@' :: domain ∧ '@' ∉ domain ∧
        IsLocalPart localPart ∧ IsDomain domain) ∧
    (email.check value args record = true → '\n' ∉ text ∧
      (∀ c, text.head? = some c → Text.isBlank c = false) ∧
      ∀ c, text.getLast? = some c → Text.isBlank c = false) := by
  intro text
  have passes : email.check value args record = true ↔ ∃ localPart domain,
      text = localPart ++ '@' :: domain ∧ '@' ∉ domain ∧
        IsLocalPart localPart ∧ IsDomain domain :=
    Pattern.accepts_iff.trans matches_emailPattern_iff
  refine ⟨passes, fun h => ?_⟩
  obtain ⟨localPart, domain, htext, -, hlocal, hdomain⟩ := passes.1 h
  rw [htext]
  exact ⟨newline_not_mem_address hlocal hdomain, fun _ => head_not_blank_address hlocal,
    fun _ => last_not_blank_address hdomain⟩

/-- Quoted text may look like an address with a domain of its own. -/
example : email.check (.text "\"a@b.de\"@example.com") [] .empty = true ∧
    email.check (.text "a@b.de\n") [] .empty = false := by decide +kernel

end FormRules.Builtin
