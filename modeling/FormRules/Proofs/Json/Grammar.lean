import FormRules.Json.Reader
import FormRules.Proofs.Number.Numeral
import Mathlib.Data.Option.Basic

/-!
# The grammar of JSON

The strict grammar of a text, without any account of how it is read: which texts write a value
(`Writes`), and which write it with white space around it (`WritesDocument`).

* *Strings.*  A character stands for itself unless it is a quote, a backslash or below U+0020.  It
  may also be a letter after a backslash, or have its number in hexadecimal digits.  A number
  beyond four digits is a pair of surrogates (`WritesChar`).
* *Numbers.*  A numeral has no plus sign, digits on both sides of its point, and no zero in front of
  another digit (`Strict`).  White space and marks do not go on with it (`Delimits`).
* *Arrays and objects.*  Commas stand between the items or the members, and none behind the last.

The functions that read strings and numbers take these texts and no others
(`WritesString.stringRest_append` and `exists_writesString`, `number?_append` and
`exists_writes_of_number?`).
-/

namespace FormRules.Json

variable {c : Char} {n : Nat} {s t rest : List Char}

/-! ## The grammar -/

/-- White space between tokens, or nothing. -/
def AllSpace (s : List Char) : Prop := ∀ c ∈ s, isSpace c = true

/-- The text writes the character inside a string. -/
inductive WritesChar : Char → List Char → Prop where
  /-- The character stands for itself. -/
  | plain {c : Char} : c ≠ '"' → c ≠ '\\' → 0x20 ≤ c.toNat → WritesChar c [c]
  /-- A letter stands for the character. -/
  | letter {c l : Char} : escaped? l = some c → WritesChar c ['\\', l]
  /-- Four hexadecimal digits are the number of the character. -/
  | number {ch a b c d : Char} :
      Text.hexNumber? [a, b, c, d] = some ch.toNat → WritesChar ch ['\\', 'u', a, b, c, d]
  /-- Two numbers are a high and a low surrogate, which make up the character. -/
  | pair {ch a b c d e f g h : Char} {high low : Nat} :
      Text.hexNumber? [a, b, c, d] = some (0xD800 + high) → high < 0x400 →
      Text.hexNumber? [e, f, g, h] = some (0xDC00 + low) → low < 0x400 →
      ch.toNat = 0x10000 + high * 0x400 + low →
      WritesChar ch ['\\', 'u', a, b, c, d, '\\', 'u', e, f, g, h]

/-- The text writes the string between its quotes. -/
inductive WritesString : List Char → List Char → Prop where
  | nil : WritesString [] []
  | cons {c : Char} {s t u : List Char} :
      WritesChar c t → WritesString s u → WritesString (c :: s) (t ++ u)

/-- The text writes the name of a member and the colon behind it, with any white space. -/
inductive WritesName : String → List Char → Prop where
  | quoted {name : String} {s before between after : List Char} :
      AllSpace before → WritesString name.toList s → AllSpace between → AllSpace after →
      WritesName name (before ++ '"' :: (s ++ '"' :: (between ++ ':' :: after)))

/-- The numeral is one of JSON: without a plus sign, with digits on both sides of a point, and with
no zero in front of another digit. -/
structure Strict (n : Numeral) : Prop where
  sign : n.sign ≠ some '+'
  whole : n.whole ≠ []
  fraction : n.fraction ≠ some []
  zero : n.whole.head? = some '0' → n.whole = ['0']

mutual

/-- The text writes the value, from its first character to its last. -/
inductive Writes : Json → List Char → Prop where
  | null : Writes .null ['n', 'u', 'l', 'l']
  | truth : Writes (.bool true) ['t', 'r', 'u', 'e']
  | falsehood : Writes (.bool false) ['f', 'a', 'l', 's', 'e']
  | number {n : Numeral} {t : List Char} :
      Strict n → n.Writes Char.isDigit t → Writes (.number n) t
  | string {s : String} {t : List Char} :
      WritesString s.toList t → Writes (.string s) ('"' :: (t ++ ['"']))
  | emptyArray {space : List Char} : AllSpace space → Writes (.array []) ('[' :: (space ++ [']']))
  | array {items : List Json} {t : List Char} :
      WritesItems items t → Writes (.array items) ('[' :: (t ++ [']']))
  | emptyObject {space : List Char} :
      AllSpace space → Writes (.object []) ('\x7b' :: (space ++ ['\x7d']))
  | object {members : List (String × Json)} {t : List Char} :
      WritesMembers members t → Writes (.object members) ('\x7b' :: (t ++ ['\x7d']))

/-- The text writes the items of an array, at least one, with commas between them. -/
inductive WritesItems : List Json → List Char → Prop where
  | last {j : Json} {before t after : List Char} :
      AllSpace before → Writes j t → AllSpace after → WritesItems [j] (before ++ (t ++ after))
  | cons {j : Json} {items : List Json} {before t after u : List Char} :
      AllSpace before → Writes j t → AllSpace after → WritesItems items u →
      WritesItems (j :: items) (before ++ (t ++ (after ++ ',' :: u)))

/-- The text writes the members of an object, at least one, with commas between them. -/
inductive WritesMembers : List (String × Json) → List Char → Prop where
  | last {name : String} {j : Json} {front t after : List Char} :
      WritesName name front → Writes j t → AllSpace after →
      WritesMembers [(name, j)] (front ++ (t ++ after))
  | cons {name : String} {j : Json} {members : List (String × Json)}
      {front t after u : List Char} :
      WritesName name front → Writes j t → AllSpace after → WritesMembers members u →
      WritesMembers ((name, j) :: members) (front ++ (t ++ (after ++ ',' :: u)))

end

/-- The text writes the value, with white space around it. -/
inductive WritesDocument : Json → List Char → Prop where
  | padded {j : Json} {before t after : List Char} :
      AllSpace before → Writes j t → AllSpace after → WritesDocument j (before ++ (t ++ after))

/-! ## White space -/

theorem allSpace_nil : AllSpace [] := fun _ h => absurd h List.not_mem_nil

theorem skipSpace_append (h : AllSpace s) (t : List Char) : skipSpace (s ++ t) = skipSpace t :=
  List.dropWhile_append_of_pos h

theorem skipSpace_cons (h : isSpace c = false) (s : List Char) : skipSpace (c :: s) = c :: s := by
  rw [skipSpace, List.dropWhile_cons_of_neg (by simp [h])]

/-- What is skipped is white space. -/
theorem exists_allSpace (s : List Char) : ∃ space, AllSpace space ∧ s = space ++ skipSpace s :=
  ⟨s.takeWhile isSpace, fun _ => List.mem_takeWhile_imp, List.takeWhile_append_dropWhile.symm⟩

theorem skipSpace_mark (hs : AllSpace s) (c : Char) (h : isSpace c = false) (t : List Char) :
    skipSpace (s ++ c :: t) = c :: t := by
  rw [skipSpace_append hs, skipSpace_cons h]

theorem skipSpace_eq_nil_iff : skipSpace s = [] ↔ AllSpace s := List.dropWhile_eq_nil_iff

/-! ## Strings -/

theorem charOf?_eq_some_iff : Text.charOf? n = some c ↔ n = c.toNat := by
  rw [Text.charOf?]
  constructor
  · intro h
    split at h
    case isTrue hvalid =>
      have hchar : Char.ofNat n = Char.ofNatAux n hvalid := dif_pos hvalid
      rw [← Option.some.inj h, hchar]
      rfl
    case isFalse => cases h
  · rintro rfl
    have hvalid : c.toNat.isValidChar := c.valid
    rw [if_pos hvalid, Char.ofNat_toNat]

theorem pairOf?_eq_some_iff {high low : Nat} :
    pairOf? high low = some c ↔
      0xDC00 ≤ low ∧ low < 0xE000 ∧
        c.toNat = 0x10000 + (high - 0xD800) * 0x400 + (low - 0xDC00) := by
  rw [pairOf?]
  split
  case isTrue h => rw [charOf?_eq_some_iff, eq_comm, ← and_assoc, and_iff_right h]
  case isFalse h =>
    rw [← and_assoc]
    exact ⟨nofun, fun h' => absurd h'.1 h⟩

/-- A letter after a backslash is the character it stands for. -/
theorem stringRest_letter {letter : Char} (h : escaped? letter = some c) (s : List Char) :
    stringRest ('\\' :: letter :: s) = (stringRest s).map fun r => (c :: r.1, r.2) := by
  have hu : letter ≠ 'u' := by
    rintro rfl
    cases h
  rw [stringRest, h]
  · cases stringRest s <;> rfl
  · simp [hu]

/-- A character that is not escaped stands for itself. -/
theorem stringRest_plain (hquote : c ≠ '"') (hslash : c ≠ '\\') (hcontrol : 0x20 ≤ c.toNat)
    (s : List Char) : stringRest (c :: s) = (stringRest s).map fun r => (c :: r.1, r.2) := by
  rw [stringRest, (Option.guard_eq_some' ()).2 hcontrol]
  · cases stringRest s <;> rfl
  all_goals simp [hquote, hslash]

/-- An escape by number is the character with the number, which is no surrogate. -/
theorem stringRest_number {a b c d ch : Char} (h : Text.hexNumber? [a, b, c, d] = some ch.toNat)
    (s : List Char) :
    stringRest ('\\' :: 'u' :: a :: b :: c :: d :: s) =
      (stringRest s).map fun r => (ch :: r.1, r.2) := by
  have hsurrogate : ¬ (0xD800 ≤ ch.toNat ∧ ch.toNat < 0xDC00) := by
    have hvalid : ch.toNat.isValidChar := ch.valid
    unfold Nat.isValidChar at hvalid
    omega
  have hchar : Text.charOf? ch.toNat = some ch := charOf?_eq_some_iff.2 rfl
  simp only [stringRest, h, Option.bind_eq_bind, Option.bind_some, if_neg hsurrogate, hchar]
  cases stringRest s <;> rfl

/-- A pair of surrogates is the character they make up. -/
theorem stringRest_pair {a b c d e f g h ch : Char} {high low : Nat}
    (hhigh : Text.hexNumber? [a, b, c, d] = some (0xD800 + high)) (hhigh' : high < 0x400)
    (hlow : Text.hexNumber? [e, f, g, h] = some (0xDC00 + low)) (hlow' : low < 0x400)
    (hch : ch.toNat = 0x10000 + high * 0x400 + low) (s : List Char) :
    stringRest ('\\' :: 'u' :: a :: b :: c :: d :: '\\' :: 'u' :: e :: f :: g :: h :: s) =
      (stringRest s).map fun r => (ch :: r.1, r.2) := by
  have hsurrogate : 0xD800 ≤ 0xD800 + high ∧ 0xD800 + high < 0xDC00 := by omega
  have hpair : pairOf? (0xD800 + high) (0xDC00 + low) = some ch :=
    pairOf?_eq_some_iff.2 (by omega)
  simp only [stringRest, hhigh, hlow, Option.bind_eq_bind, Option.bind_some, if_pos hsurrogate,
    hpair]
  cases stringRest s <;> rfl

/-- Whatever a character is written as, it is read as one character. -/
theorem WritesChar.stringRest_append (h : WritesChar c t) (s : List Char) :
    stringRest (t ++ s) = (stringRest s).map fun r => (c :: r.1, r.2) := by
  cases h with
  | plain hquote hslash hcontrol => exact stringRest_plain hquote hslash hcontrol s
  | letter hletter => exact stringRest_letter hletter s
  | number hnumber => exact stringRest_number hnumber s
  | pair hhigh hhigh' hlow hlow' hch => exact stringRest_pair hhigh hhigh' hlow hlow' hch s

/-- A string is read up to the quote behind it, whatever it holds. -/
theorem WritesString.stringRest_append (h : WritesString s t) (rest : List Char) :
    stringRest (t ++ '"' :: rest) = some (s, rest) := by
  induction h with
  | nil => rfl
  | cons hchar _ ih => rw [List.append_assoc, hchar.stringRest_append, ih, Option.map_some]

/-- What is read of a string is its closing quote, or what writes its first character. -/
theorem stringRest_cases (h : stringRest s = some (t, rest)) :
    (t = [] ∧ s = '"' :: rest) ∨
      ∃ c u s' t', WritesChar c u ∧ s = u ++ s' ∧ stringRest s' = some (t', rest) ∧
        t = c :: t' := by
  unfold stringRest at h
  split at h
  case h_1 => cases h
  case h_2 =>
    cases h
    exact .inl ⟨rfl, rfl⟩
  case h_3 a b c d r =>
    simp only [Option.bind_eq_bind, Option.bind_eq_some_iff] at h
    obtain ⟨number, hnumber, h⟩ := h
    split at h
    case isTrue hsurrogate =>
      split at h
      case h_1 e f g k r' =>
        simp only [Option.bind_eq_some_iff] at h
        obtain ⟨low, hlow, ch, hpair, ⟨t', rest'⟩, hrest, heq⟩ := h
        cases heq
        obtain ⟨hlow₁, hlow₂, hch⟩ := pairOf?_eq_some_iff.1 hpair
        obtain ⟨high, rfl⟩ := Nat.exists_eq_add_of_le hsurrogate.1
        obtain ⟨low, rfl⟩ := Nat.exists_eq_add_of_le hlow₁
        rw [Nat.add_sub_cancel_left, Nat.add_sub_cancel_left] at hch
        exact .inr ⟨ch, _, r', t', .pair hnumber (by omega) hlow (by omega) hch, rfl, hrest, rfl⟩
      case h_2 => cases h
    case isFalse hsurrogate =>
      simp only [Option.bind_eq_some_iff] at h
      obtain ⟨ch, hch, ⟨t', rest'⟩, hrest, heq⟩ := h
      cases heq
      rw [charOf?_eq_some_iff.1 hch] at hnumber
      exact .inr ⟨ch, _, r, t', .number hnumber, rfl, hrest, rfl⟩
  case h_4 c r hne =>
    simp only [Option.bind_eq_bind, Option.bind_eq_some_iff] at h
    obtain ⟨ch, hch, ⟨t', rest'⟩, hrest, heq⟩ := h
    cases heq
    exact .inr ⟨ch, _, r, t', .letter hch, rfl, hrest, rfl⟩
  case h_5 c r hquote hnumber hslash =>
    simp only [Option.bind_eq_bind, Option.bind_eq_some_iff] at h
    obtain ⟨_, hcontrol, ⟨t', rest'⟩, hrest, heq⟩ := h
    cases heq
    refine .inr ⟨c, [c], r, t', .plain ?_ ?_ ?_, rfl, hrest, rfl⟩
    · exact fun h => hquote h
    · rintro rfl
      cases r with
      | nil => cases hrest
      | cons c r => exact hslash c r rfl rfl
    · exact (Option.guard_eq_some' ()).1 hcontrol

theorem WritesChar.length_pos (h : WritesChar c t) : 0 < t.length := by
  cases h <;> exact Nat.succ_pos _

/-- What is read as a string writes it. -/
theorem exists_writesString {s : List Char} (h : stringRest s = some (t, rest)) :
    ∃ u, WritesString t u ∧ s = u ++ '"' :: rest := by
  induction hn : s.length using Nat.strongRecOn generalizing s t with
  | ind n ih =>
    rcases stringRest_cases h with ⟨rfl, rfl⟩ | ⟨c, u, s', t', hchar, rfl, hs', rfl⟩
    · exact ⟨[], .nil, rfl⟩
    · have hlt : s'.length < n := by
        have hpos := hchar.length_pos
        rw [← hn, List.length_append]
        omega
      obtain ⟨v, hv, rfl⟩ := ih _ hlt hs' rfl
      exact ⟨u ++ v, .cons hchar hv, (List.append_assoc u v _).symm⟩

/-! ## Numbers -/

/-- The text does not go on with a numeral. -/
def Delimits (rest : List Char) : Prop :=
  ∀ c, rest.head? = some c → c.isDigit = false ∧ c ∉ ['.', 'e', 'E']

theorem delimits_nil : Delimits [] := by
  intro c h
  cases h

theorem delimits_cons (h : c.isDigit = false ∧ c ∉ ['.', 'e', 'E']) (rest : List Char) :
    Delimits (c :: rest) := by
  rintro _ ⟨⟩
  exact h

theorem delimits_of_isSpace (h : isSpace c = true) (rest : List Char) : Delimits (c :: rest) := by
  simp only [isSpace, Bool.or_eq_true, beq_iff_eq] at h
  rcases h with ((rfl | rfl) | rfl) | rfl <;> exact delimits_cons (by decide) rest

theorem delimits_of_allSpace (hs : AllSpace s) (hrest : Delimits rest) : Delimits (s ++ rest) := by
  cases s with
  | nil => exact hrest
  | cons c s => exact delimits_of_isSpace (hs c List.mem_cons_self) (s ++ rest)

theorem delimits_mark (hs : AllSpace s) (c : Char) (h : c.isDigit = false ∧ c ∉ ['.', 'e', 'E'])
    (rest : List Char) : Delimits (s ++ c :: rest) :=
  delimits_of_allSpace hs (delimits_cons h rest)

theorem strict_iff {n : Numeral} : isJsonNumeral n = true ↔ Strict n := by
  have hparts : isJsonNumeral n = true ↔ (n.sign ≠ some '+' ∧ n.fraction ≠ some []) ∧
      n.whole ≠ [] ∧ (n.whole.head? = some '0' → n.whole = ['0']) := by
    simp only [isJsonNumeral, Bool.and_eq_true, bne_iff_ne]
    refine and_congr_right fun _ => ?_
    split
    case h_1 h => simp [h]
    case h_2 h => simp [h]
    case h_3 c r hne h =>
      rw [h]
      simp only [bne_iff_ne, ne_eq, List.head?_cons, Option.some.injEq, List.cons.injEq]
      exact ⟨fun hc => ⟨by simp, fun hzero => absurd hzero hc⟩, fun h hc => hne hc (h.2 hc).2⟩
  rw [hparts]
  exact ⟨fun ⟨⟨hsign, hfraction⟩, hne, hzero⟩ => ⟨hsign, hne, hfraction, hzero⟩,
    fun ⟨hsign, hne, hfraction, hzero⟩ => ⟨⟨hsign, hfraction⟩, hne, hzero⟩⟩

/-- A strict numeral is read up to what does not go on with it. -/
theorem number?_append {n : Numeral} (hstrict : Strict n) (hwrites : n.Writes Char.isDigit t)
    (hrest : Delimits rest) : number? (t ++ rest) = some (n, rest) := by
  have hends : Numeral.Ends Char.isDigit rest := by
    intro c hc
    obtain ⟨hdigit, hmark⟩ := hrest c hc
    exact ⟨hdigit, fun h => hmark (by simp [h])⟩
  have hmark : ∀ c, rest.head? = some c → ¬ (c = 'e' ∨ c = 'E') := by
    intro c hc h
    exact (hrest c hc).2 (by simp [h])
  rw [number?, Numeral.scan_append_of_ends Numeral.digitClass_isDigit hwrites hends hmark]
  show Option.bind (guard (isJsonNumeral n = true)) (fun _ => some (n, rest)) = some (n, rest)
  rw [(Option.guard_eq_some' ()).2 (strict_iff.2 hstrict)]
  rfl

/-- What is read as a number writes it. -/
theorem exists_writes_of_number? {n : Numeral} (h : number? s = some (n, rest)) :
    ∃ t, Strict n ∧ n.Writes Char.isDigit t ∧ s = t ++ rest := by
  simp only [number?, Option.bind_eq_bind, Option.bind_eq_some_iff] at h
  obtain ⟨⟨m, r⟩, hscan, _, hjson, heq⟩ := h
  cases heq
  obtain ⟨t, hwrites, rfl⟩ := Numeral.exists_writes_of_scan Numeral.digitClass_isDigit hscan
  exact ⟨t, strict_iff.1 ((Option.guard_eq_some' ()).1 hjson), hwrites, rfl⟩

end FormRules.Json
