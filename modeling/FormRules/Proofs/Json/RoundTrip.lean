import FormRules.Json.Writer
import FormRules.Proofs.Json.Reader

/-!
# Reading indented JSON back

What the pretty layout writes, the reader reads again (`Sound.read?_toPretty`).  The layout writes
the value by the grammar of JSON (`Sound.writes`), and the reader takes whatever the grammar has.

* Every item and every member starts a line of its own, so the indentation is the white space in
  front of it.  The line of the closing bracket is the white space behind the last one.
* A value has to be *sound*: a numeral of JSON writes each of its numbers.
-/

namespace FormRules.Json

variable {level : Nat} {c : Char} {j : Json} {s : List Char}

/-! ## Strings -/

/-- Four hexadecimal digits write the number of a control character. -/
theorem hexNumber?_hexDigit :
    ∀ n < 0x20, Text.hexNumber? ['0', '0', hexDigit (n / 16), hexDigit n] = some n := by
  decide

/-- A character is written, whether it is escaped or not. -/
theorem writesChar_escape (c : Char) : WritesChar c (escape c) := by
  unfold escape
  split_ifs with hquote hslash _ _ _ _ _ hcontrol
  iterate 7
    · subst c
      exact .letter rfl
  · exact .number (hexNumber?_hexDigit _ hcontrol)
  · exact .plain hquote hslash (by omega)

theorem writesString_flatMap_escape (s : List Char) : WritesString s (s.flatMap escape) := by
  induction s with
  | nil => exact .nil
  | cons c s ih => exact .cons (writesChar_escape c) ih

theorem writes_writeString (s : String) : Writes (.string s) (writeString s) :=
  .string (writesString_flatMap_escape s.toList)

/-! ## Lines -/

theorem allSpace_newLine (level : Nat) : AllSpace (newLine level) := by
  intro c hc
  simp only [newLine, List.mem_cons, List.mem_replicate] at hc
  rcases hc with rfl | ⟨-, rfl⟩ <;> rfl

/-- A member starts with a line break and its name, and a blank follows the colon. -/
theorem writesName_newLine (level : Nat) (name : String) :
    WritesName name (newLine level ++ (writeString name ++ [':', ' '])) := by
  have hblank : AllSpace [' '] := by simp [AllSpace, isSpace]
  have h : WritesName name (newLine level ++
      '"' :: (name.toList.flatMap escape ++ '"' :: ([] ++ ':' :: [' ']))) :=
    .quoted (allSpace_newLine level) (writesString_flatMap_escape _) allSpace_nil hblank
  simpa [writeString] using h

/-! ## Values -/

/-- Every number in the value is written by a numeral of JSON. -/
inductive Sound : Json → Prop where
  | null : Sound .null
  | bool (b : Bool) : Sound (.bool b)
  | number {n : Numeral} :
      isJsonNumeral n = true → n.Writes Char.isDigit (writeNumeral n) → Sound (.number n)
  | string (s : String) : Sound (.string s)
  | array {items : List Json} : (∀ j ∈ items, Sound j) → Sound (.array items)
  | object {members : List (String × Json)} :
      (∀ m ∈ members, Sound m.2) → Sound (.object members)

/-- Items are written, each on its line, and white space may follow the last. -/
theorem writesItems_prettyItems {js : List Json} (hne : js ≠ [])
    (h : ∀ j ∈ js, Writes j (pretty level j)) (hs : AllSpace s) :
    WritesItems js (prettyItems level js ++ s) := by
  induction js with
  | nil => exact absurd rfl hne
  | cons j others ih =>
    obtain ⟨hj, hothers⟩ := List.forall_mem_cons.1 h
    cases others with
    | nil =>
      rw [prettyItems, List.append_assoc]
      exact .last (allSpace_newLine level) hj hs
    | cons k others =>
      rw [prettyItems, List.append_assoc, List.append_assoc]
      · exact .cons (allSpace_newLine level) hj allSpace_nil (ih (by simp) hothers)
      · simp

/-- Members are written, each on its line, and white space may follow the last. -/
theorem writesMembers_prettyMembers {ms : List (String × Json)} (hne : ms ≠ [])
    (h : ∀ m ∈ ms, Writes m.2 (pretty level m.2)) (hs : AllSpace s) :
    WritesMembers ms (prettyMembers level ms ++ s) := by
  induction ms with
  | nil => exact absurd rfl hne
  | cons m others ih =>
    obtain ⟨name, j⟩ := m
    obtain ⟨hj, hothers⟩ := List.forall_mem_cons.1 h
    have hname := writesName_newLine level name
    cases others with
    | nil =>
      have hlast := WritesMembers.last hname hj hs
      simpa [prettyMembers] using hlast
    | cons k others =>
      have hcons := WritesMembers.cons hname hj allSpace_nil (ih (by simp) hothers)
      simpa [prettyMembers] using hcons

/-- The pretty layout writes a sound value at any level. -/
theorem Sound.writes (h : Sound j) (level : Nat) : Writes j (pretty level j) := by
  induction h generalizing level with
  | null => exact .null
  | bool b =>
    cases b with
    | true => exact .truth
    | false => exact .falsehood
  | number hjson hwrites => exact .number (strict_iff.1 hjson) hwrites
  | string s => exact writes_writeString s
  | @array items _ ih =>
    cases items with
    | nil => exact .emptyArray allSpace_nil
    | cons j others =>
      have hitems := writesItems_prettyItems (by simp) (fun k hk => ih k hk (level + 1))
        (allSpace_newLine level)
      exact .array hitems
  | @object members _ ih =>
    cases members with
    | nil => exact .emptyObject allSpace_nil
    | cons m others =>
      have hmembers := writesMembers_prettyMembers (by simp) (fun k hk => ih k hk (level + 1))
        (allSpace_newLine level)
      exact .object hmembers

/-- The reader gives a sound value back from its indented text. -/
theorem Sound.read?_toPretty (h : Sound j) : read? j.toPretty = some j := by
  have hdocument := WritesDocument.padded allSpace_nil (h.writes 0) allSpace_nil
  rw [read?_eq_some_iff, toPretty, String.toList_ofList]
  simpa using hdocument

end FormRules.Json
