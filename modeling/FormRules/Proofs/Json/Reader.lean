import FormRules.Proofs.Json.Grammar

/-!
# The reader takes exactly the grammar

A text is read as a value just if it writes the value, with nothing but white space around it
(`read?_eq_some_iff`).

* What writes a value is read as the value, by induction on the grammar.  A value is read in front
  of any text that does not go on with a numeral, so the text behind it stays what it is.
* What is read writes the value, by induction on the steps (`ReadsWritten`).  Values, items and
  members read each other, so the induction carries all three.
* Each step of the reader takes a character, so the length of the text is enough steps.
-/

namespace FormRules.Json

variable {c : Char} {j : Json} {n : Nat} {s t rest : List Char}

/-! ## What a value begins with -/

/-- Whether a numeral may begin with the character. -/
def beginsNumeral (c : Char) : Bool := c.isDigit || ['+', '-', '.'].contains c

theorem not_mem_of_beginsNumeral (h : beginsNumeral c = true) {ds : List Char}
    (hds : ds.any beginsNumeral = false) : c ∉ ds := by
  intro hc
  rw [List.any_eq_true.2 ⟨c, hc, h⟩] at hds
  cases hds

theorem exists_numeral_cons {n : Numeral} (h : n.Writes Char.isDigit t) :
    ∃ c u, t = c :: u ∧ beginsNumeral c = true := by
  cases h with
  | parts hsign hdigits _ =>
    cases hsign with
    | plus => exact ⟨'+', _, rfl, by decide⟩
    | minus => exact ⟨'-', _, rfl, by decide⟩
    | none =>
      obtain ⟨c, u, rfl, hc⟩ := hdigits.exists_cons
      refine ⟨c, _, rfl, ?_⟩
      rcases hc with hc | rfl
      · rw [beginsNumeral, hc, Bool.true_or]
      · decide

/-- The text of a value begins neither with white space nor with a closing bracket. -/
theorem Writes.exists_cons (h : Writes j t) :
    ∃ c u, t = c :: u ∧ isSpace c = false ∧ c ≠ ']' := by
  cases h with
  | null => exact ⟨'n', _, rfl, by decide⟩
  | truth => exact ⟨'t', _, rfl, by decide⟩
  | falsehood => exact ⟨'f', _, rfl, by decide⟩
  | number _ hwrites =>
    obtain ⟨c, u, rfl, hc⟩ := exists_numeral_cons hwrites
    have hspace : c ∉ [' ', '\t', '\n', '\r'] := not_mem_of_beginsNumeral hc (by decide)
    have hclose : c ∉ [']'] := not_mem_of_beginsNumeral hc (by decide)
    exact ⟨c, u, rfl, by simpa [isSpace, and_assoc] using hspace, by simpa using hclose⟩
  | string _ => exact ⟨'"', _, rfl, by decide⟩
  | emptyArray _ => exact ⟨'[', _, rfl, by decide⟩
  | array _ => exact ⟨'[', _, rfl, by decide⟩
  | emptyObject _ => exact ⟨'\x7b', _, rfl, by decide⟩
  | object _ => exact ⟨'\x7b', _, rfl, by decide⟩

/-- White space is skipped up to a value, and nothing of the value. -/
theorem Writes.skipSpace_append (h : Writes j t) (hs : AllSpace s) (rest : List Char) :
    skipSpace (s ++ (t ++ rest)) = t ++ rest := by
  obtain ⟨c, u, rfl, hspace, -⟩ := h.exists_cons
  rw [Json.skipSpace_append hs, List.cons_append, skipSpace_cons hspace]

theorem Writes.skipSpace (h : Writes j t) (rest : List Char) : skipSpace (t ++ rest) = t ++ rest :=
  h.skipSpace_append allSpace_nil rest

theorem WritesItems.head?_skipSpace {items : List Json} (h : WritesItems items t)
    (rest : List Char) : (skipSpace (t ++ rest)).head? ≠ some ']' := by
  cases h with
  | last hbefore hvalue _ =>
    obtain ⟨c, u, hcons, -, hclose⟩ := hvalue.exists_cons
    rw [List.append_assoc, List.append_assoc, hvalue.skipSpace_append hbefore, hcons]
    simpa using hclose
  | cons hbefore hvalue _ _ =>
    obtain ⟨c, u, hcons, -, hclose⟩ := hvalue.exists_cons
    rw [List.append_assoc, List.append_assoc, hvalue.skipSpace_append hbefore, hcons]
    simpa using hclose

/-- A name is read up to its value. -/
theorem WritesName.exists_read {name : String} (h : WritesName name t) (s : List Char) :
    ∃ u v w, skipSpace (t ++ s) = '"' :: u ∧ stringRest u = some (name.toList, v) ∧
      skipSpace v = ':' :: w ∧ skipSpace w = skipSpace s := by
  cases h with
  | quoted hbefore hname hbetween hafter =>
    refine ⟨_, _, _, ?_, hname.stringRest_append _, skipSpace_mark hbetween ':' (by decide) _,
      skipSpace_append hafter s⟩
    rw [List.append_assoc, skipSpace_append hbefore, List.cons_append, skipSpace_cons (by decide)]
    simp only [List.append_assoc, List.cons_append]

theorem WritesMembers.head?_skipSpace {members : List (String × Json)} (h : WritesMembers members t)
    (rest : List Char) : (skipSpace (t ++ rest)).head? ≠ some '\x7d' := by
  cases h with
  | last hname _ _ =>
    obtain ⟨u, v, w, hopen, -⟩ := hname.exists_read (_ ++ rest)
    rw [List.append_assoc, hopen]
    exact fun h => by cases h
  | cons hname _ _ _ =>
    obtain ⟨u, v, w, hopen, -⟩ := hname.exists_read (_ ++ rest)
    rw [List.append_assoc, hopen]
    exact fun h => by cases h

/-! ## Reading what is written -/

theorem value_numeral (h : beginsNumeral c = true) (n : Nat) (s : List Char) :
    value (n + 1) (c :: s) = (number? (c :: s)).map fun r => (.number r.1, r.2) := by
  have hother : c ∉ ['"', '[', '\x7b', 't', 'f', 'n'] := not_mem_of_beginsNumeral h (by decide)
  unfold value
  split <;> simp_all

/-- A bracket opens items, unless it is closed at once. -/
theorem value_array (h : (skipSpace s).head? ≠ some ']') (n : Nat) :
    value (n + 1) ('[' :: s) = (items n (skipSpace s)).map fun r => (.array r.1, r.2) := by
  simp only [value]
  split
  case h_1 hclose => simp [hclose] at h
  case h_2 => rfl

/-- A brace opens members, unless it is closed at once. -/
theorem value_object (h : (skipSpace s).head? ≠ some '\x7d') (n : Nat) :
    value (n + 1) ('\x7b' :: s) = (members n (skipSpace s)).map fun r => (.object r.1, r.2) := by
  simp only [value]
  split
  case h_1 hclose => simp [hclose] at h
  case h_2 => rfl

/-- The last member is read in front of a brace. -/
theorem WritesName.members_last {name : String} {r : List Char} (h : WritesName name t)
    (hs : skipSpace s = s) (hvalue : value n s = some (j, r))
    (hclose : skipSpace r = '\x7d' :: rest) :
    members (n + 1) (skipSpace (t ++ s)) = some ([(name, j)], rest) := by
  obtain ⟨u, v, w, hopen, hname, hcolon, hafter⟩ := h.exists_read s
  rw [hopen, members]
  simp only [hname, hcolon, hafter, hs, hvalue, hclose, String.ofList_toList]

/-- Any other member is read in front of a comma. -/
theorem WritesName.members_comma {name : String} {r : List Char} (h : WritesName name t)
    (hs : skipSpace s = s) (hvalue : value n s = some (j, r)) (hcomma : skipSpace r = ',' :: rest) :
    members (n + 1) (skipSpace (t ++ s)) =
      (members n (skipSpace rest)).map fun q => ((name, j) :: q.1, q.2) := by
  obtain ⟨u, v, w, hopen, hname, hcolon, hafter⟩ := h.exists_read s
  rw [hopen, members]
  simp only [hname, hcolon, hafter, hs, hvalue, hcomma, String.ofList_toList]

mutual

/-- What writes a value is read as the value, in front of what does not go on with a numeral.  The
count of its characters is enough steps. -/
theorem Writes.value_append {j : Json} {t rest : List Char} {n : Nat} :
    Writes j t → t.length ≤ n → Delimits rest → value (n + 1) (t ++ rest) = some (j, rest)
  | .null, _, _ => rfl
  | .truth, _, _ => rfl
  | .falsehood, _, _ => rfl
  | .number hstrict hwrites, _, hrest => by
    obtain ⟨c, u, rfl, hc⟩ := exists_numeral_cons hwrites
    rw [List.cons_append, value_numeral hc, ← List.cons_append,
      number?_append hstrict hwrites hrest, Option.map_some]
  | .string hwrites, _, _ => by
    rw [List.cons_append, List.append_assoc, List.singleton_append]
    simp only [value, hwrites.stringRest_append, Option.map_some, String.ofList_toList]
  | .emptyArray hspace, _, _ => by
    rw [List.cons_append, List.append_assoc, List.singleton_append]
    simp only [value, skipSpace_mark hspace ']' (by decide)]
  | .array hitems, hn, _ => by
    rw [List.length_cons, List.length_append, List.length_singleton] at hn
    rw [List.cons_append, List.append_assoc, List.singleton_append,
      value_array (hitems.head?_skipSpace _), hitems.items_append (by omega), Option.map_some]
  | .emptyObject hspace, _, _ => by
    rw [List.cons_append, List.append_assoc, List.singleton_append]
    simp only [value, skipSpace_mark hspace '\x7d' (by decide)]
  | .object hmembers, hn, _ => by
    rw [List.length_cons, List.length_append, List.length_singleton] at hn
    rw [List.cons_append, List.append_assoc, List.singleton_append,
      value_object (hmembers.head?_skipSpace _), hmembers.members_append (by omega),
      Option.map_some]

theorem WritesItems.items_append {js : List Json} {t : List Char} {n : Nat} :
    WritesItems js t → t.length + 2 ≤ n → ∀ rest : List Char,
      items n (skipSpace (t ++ ']' :: rest)) = some (js, rest)
  | .last hbefore hvalue hafter, hn, rest => by
    simp only [List.length_append] at hn
    obtain ⟨n, rfl⟩ : ∃ m, n = m + 2 := ⟨n - 2, by omega⟩
    have hread := hvalue.value_append (by omega : _ ≤ n)
      (delimits_mark hafter ']' (by decide) rest)
    rw [List.append_assoc, List.append_assoc, hvalue.skipSpace_append hbefore, items]
    simp only [hread, skipSpace_mark hafter ']' (by decide)]
  | .cons (u := u) hbefore hvalue hafter hitems, hn, rest => by
    simp only [List.length_append, List.length_cons] at hn
    obtain ⟨n, rfl⟩ : ∃ m, n = m + 2 := ⟨n - 2, by omega⟩
    have hread := hvalue.value_append (by omega : _ ≤ n)
      (delimits_mark hafter ',' (by decide) (u ++ ']' :: rest))
    have hitems := hitems.items_append (by omega : _ ≤ n + 1) rest
    rw [List.append_assoc, List.append_assoc, List.append_assoc, List.cons_append,
      hvalue.skipSpace_append hbefore, items]
    simp only [hread, skipSpace_mark hafter ',' (by decide), hitems, Option.map_some]

theorem WritesMembers.members_append {ms : List (String × Json)} {t : List Char} {n : Nat} :
    WritesMembers ms t → t.length + 2 ≤ n → ∀ rest : List Char,
      members n (skipSpace (t ++ '\x7d' :: rest)) = some (ms, rest)
  | .last hname hvalue hafter, hn, rest => by
    simp only [List.length_append] at hn
    obtain ⟨n, rfl⟩ : ∃ m, n = m + 2 := ⟨n - 2, by omega⟩
    have hread := hvalue.value_append (by omega : _ ≤ n)
      (delimits_mark hafter '\x7d' (by decide) rest)
    rw [List.append_assoc, List.append_assoc]
    exact hname.members_last (hvalue.skipSpace _) hread (skipSpace_mark hafter '\x7d' (by decide) _)
  | .cons (u := u) hname hvalue hafter hmembers, hn, rest => by
    simp only [List.length_append, List.length_cons] at hn
    obtain ⟨n, rfl⟩ : ∃ m, n = m + 2 := ⟨n - 2, by omega⟩
    have hread := hvalue.value_append (by omega : _ ≤ n)
      (delimits_mark hafter ',' (by decide) (u ++ '\x7d' :: rest))
    have hmembers := hmembers.members_append (by omega : _ ≤ n + 1) rest
    rw [List.append_assoc, List.append_assoc, List.append_assoc, List.cons_append,
      hname.members_comma (hvalue.skipSpace _) hread (skipSpace_mark hafter ',' (by decide) _),
      hmembers, Option.map_some]

end

/-! ## What is read is written -/

/-- A mark that is found stands behind the white space that was skipped. -/
theorem exists_mark (h : skipSpace s = c :: rest) :
    ∃ space, AllSpace space ∧ s = space ++ c :: rest := by
  rw [← h]
  exact exists_allSpace s

/-- Members that are read begin with a name and go on with a value and with a comma or a brace. -/
theorem members_cases {ms : List (String × Json)}
    (h : members (n + 1) (skipSpace s) = some (ms, rest)) :
    ∃ name front j u r, WritesName name front ∧ s = front ++ u ∧ value n u = some (j, r) ∧
      (ms = [(name, j)] ∧ skipSpace r = '\x7d' :: rest ∨
        ∃ r' others, skipSpace r = ',' :: r' ∧ members n (skipSpace r') = some (others, rest) ∧
          ms = (name, j) :: others) := by
  simp only [members] at h
  split at h
  case h_2 => cases h
  case h_1 r₀ hopen =>
    obtain ⟨before, hbefore, rfl⟩ := exists_mark hopen
    split at h
    case h_1 => cases h
    case h_2 name r₁ hname =>
      obtain ⟨text, htext, rfl⟩ := exists_writesString hname
      split at h
      case h_2 => cases h
      case h_1 r₂ hcolon =>
        obtain ⟨between, hbetween, rfl⟩ := exists_mark hcolon
        obtain ⟨after, hafter, hr₂⟩ := exists_allSpace r₂
        split at h
        case h_1 => cases h
        case h_2 j r hvalue =>
          have hfront : WritesName (String.ofList name)
              (before ++ '"' :: (text ++ '"' :: (between ++ ':' :: after))) :=
            .quoted hbefore (by rwa [String.toList_ofList]) hbetween hafter
          generalize skipSpace r₂ = u at hr₂ hvalue
          subst hr₂
          refine ⟨_, _, j, u, r, hfront, ?_, hvalue, ?_⟩
          · simp only [List.append_assoc, List.cons_append]
          · split at h
            case h_1 r' hclose =>
              cases h
              exact .inl ⟨rfl, hclose⟩
            case h_2 r' hcomma =>
              obtain ⟨⟨others, r''⟩, hothers, heq⟩ := Option.map_eq_some_iff.1 h
              cases heq
              exact .inr ⟨r', others, hcomma, hothers, rfl⟩
            case h_3 => cases h

/-- Items that are read begin with a value and go on with a comma or a bracket. -/
theorem items_cases {js : List Json} (h : items (n + 1) s = some (js, rest)) :
    ∃ j r, value n s = some (j, r) ∧
      (js = [j] ∧ skipSpace r = ']' :: rest ∨
        ∃ r' others, skipSpace r = ',' :: r' ∧ items n (skipSpace r') = some (others, rest) ∧
          js = j :: others) := by
  simp only [items] at h
  split at h
  case h_1 => cases h
  case h_2 j r hvalue =>
    refine ⟨j, r, hvalue, ?_⟩
    split at h
    case h_1 r' hclose =>
      cases h
      exact .inl ⟨rfl, hclose⟩
    case h_2 r' hcomma =>
      obtain ⟨⟨others, r''⟩, hothers, heq⟩ := Option.map_eq_some_iff.1 h
      cases heq
      exact .inr ⟨r', others, hcomma, hothers, rfl⟩
    case h_3 => cases h

/-- In so many steps, what is read is written. -/
structure ReadsWritten (n : Nat) : Prop where
  value {s rest : List Char} {j : Json} :
    value n s = some (j, rest) → ∃ t, Writes j t ∧ s = t ++ rest
  items {s rest : List Char} {js : List Json} :
    items n (skipSpace s) = some (js, rest) → ∃ t, WritesItems js t ∧ s = t ++ ']' :: rest
  members {s rest : List Char} {ms : List (String × Json)} :
    members n (skipSpace s) = some (ms, rest) →
      ∃ t, WritesMembers ms t ∧ s = t ++ '\x7d' :: rest

theorem exists_writes_succ (ih : ReadsWritten n) (h : value (n + 1) s = some (j, rest)) :
    ∃ t, Writes j t ∧ s = t ++ rest := by
  simp only [value] at h
  split at h
  case h_1 r =>
    obtain ⟨⟨u, r'⟩, hstring, heq⟩ := Option.map_eq_some_iff.1 h
    cases heq
    obtain ⟨t, ht, rfl⟩ := exists_writesString hstring
    exact ⟨_, .string (by rwa [String.toList_ofList]), by simp⟩
  case h_2 r =>
    split at h
    case h_1 r' hclose =>
      cases h
      obtain ⟨space, hspace, rfl⟩ := exists_mark hclose
      exact ⟨_, .emptyArray hspace, by simp⟩
    case h_2 =>
      obtain ⟨⟨js, r'⟩, hitems, heq⟩ := Option.map_eq_some_iff.1 h
      cases heq
      obtain ⟨t, ht, rfl⟩ := ih.items hitems
      exact ⟨_, .array ht, by simp⟩
  case h_3 r =>
    split at h
    case h_1 r' hclose =>
      cases h
      obtain ⟨space, hspace, rfl⟩ := exists_mark hclose
      exact ⟨_, .emptyObject hspace, by simp⟩
    case h_2 =>
      obtain ⟨⟨ms, r'⟩, hmembers, heq⟩ := Option.map_eq_some_iff.1 h
      cases heq
      obtain ⟨t, ht, rfl⟩ := ih.members hmembers
      exact ⟨_, .object ht, by simp⟩
  case h_4 r =>
    cases h
    exact ⟨_, .truth, rfl⟩
  case h_5 r =>
    cases h
    exact ⟨_, .falsehood, rfl⟩
  case h_6 r =>
    cases h
    exact ⟨_, .null, rfl⟩
  case h_7 =>
    obtain ⟨⟨m, r'⟩, hnumber, heq⟩ := Option.map_eq_some_iff.1 h
    cases heq
    obtain ⟨t, hstrict, hwrites, rfl⟩ := exists_writes_of_number? hnumber
    exact ⟨t, .number hstrict hwrites, rfl⟩

theorem exists_writesItems_succ {js : List Json} (ih : ReadsWritten n)
    (h : items (n + 1) (skipSpace s) = some (js, rest)) :
    ∃ t, WritesItems js t ∧ s = t ++ ']' :: rest := by
  obtain ⟨j, r, hvalue, hmark⟩ := items_cases h
  obtain ⟨before, hbefore, hs⟩ := exists_allSpace s
  obtain ⟨t, ht, hskip⟩ := ih.value hvalue
  rw [hs, hskip]
  rcases hmark with ⟨rfl, hclose⟩ | ⟨r', others, hcomma, hothers, rfl⟩
  · obtain ⟨after, hafter, rfl⟩ := exists_mark hclose
    exact ⟨_, .last hbefore ht hafter, by simp⟩
  · obtain ⟨after, hafter, rfl⟩ := exists_mark hcomma
    obtain ⟨u, hu, rfl⟩ := ih.items hothers
    exact ⟨_, .cons hbefore ht hafter hu, by simp⟩

theorem exists_writesMembers_succ {ms : List (String × Json)} (ih : ReadsWritten n)
    (h : members (n + 1) (skipSpace s) = some (ms, rest)) :
    ∃ t, WritesMembers ms t ∧ s = t ++ '\x7d' :: rest := by
  obtain ⟨name, front, j, u, r, hfront, rfl, hvalue, hmark⟩ := members_cases h
  obtain ⟨t, ht, rfl⟩ := ih.value hvalue
  rcases hmark with ⟨rfl, hclose⟩ | ⟨r', others, hcomma, hothers, rfl⟩
  · obtain ⟨after, hafter, rfl⟩ := exists_mark hclose
    exact ⟨_, .last hfront ht hafter, by simp⟩
  · obtain ⟨after, hafter, rfl⟩ := exists_mark hcomma
    obtain ⟨v, hv, rfl⟩ := ih.members hothers
    exact ⟨_, .cons hfront ht hafter hv, by simp⟩

theorem readsWritten (n : Nat) : ReadsWritten n := by
  induction n with
  | zero => constructor <;> intros <;> contradiction
  | succ n ih =>
    exact ⟨exists_writes_succ ih, exists_writesItems_succ ih, exists_writesMembers_succ ih⟩

/-- A text is read as a value just if it writes the value. -/
theorem read?_eq_some_iff {text : String} : read? text = some j ↔ WritesDocument j text.toList := by
  rw [read?]
  constructor
  · intro h
    split at h
    case h_2 => cases h
    case h_1 k rest hvalue =>
      split at h
      case isFalse => cases h
      case isTrue hend =>
        cases h
        obtain ⟨before, hbefore, htext⟩ := exists_allSpace text.toList
        obtain ⟨t, ht, hskip⟩ := (readsWritten _).value hvalue
        rw [htext, hskip]
        exact .padded hbefore ht (skipSpace_eq_nil_iff.1 (List.isEmpty_iff.1 hend))
  · generalize text.toList = s
    intro h
    cases h with
    | @padded before t after hbefore ht hafter =>
      have hsteps : t.length ≤ 2 * (before ++ (t ++ after)).length := by
        simp only [List.length_append]
        omega
      have hdelimits : Delimits after := by simpa using delimits_of_allSpace hafter delimits_nil
      rw [ht.skipSpace_append hbefore, ht.value_append hsteps hdelimits]
      simp only [skipSpace_eq_nil_iff.2 hafter, List.isEmpty_nil, if_true]

end FormRules.Json
