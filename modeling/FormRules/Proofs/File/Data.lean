import FormRules.File.Data
import FormRules.Proofs.Json.Number
import FormRules.Proofs.Json.RoundTrip
import FormRules.Proofs.OrderedMap
import Mathlib.Data.List.Forall2

/-!
# JSON data files are flat objects

Which texts are JSON data files is said by the grammar of JSON and by what a value of a record is
(`Value.Reads`): an object all of whose members are strings, nulls or numbers that are finite in
double precision (`json_parse_flat_objects`).

* Every member counts, also one that is overwritten later.  So whether there is a record is a matter
  of the entries one by one (`exists_recordOf?_iff`).
* What a number comes to, and when it is not finite, is settled in `FormRules.Proofs.Json.Number`.
  The number nearest to a numeral may be finite although the numeral is refused
  (`json_parse_refuses_finite`).
* Writing a key again keeps its place and replaces its value.  So the keys are the names without
  their repetitions, and a key has the value of the last member with its name, which is the first
  from the end (`keys_of_recordOf?`, `get?_of_recordOf?`).

The records of TOML data files are made in the same way, from other values.
-/

namespace FormRules

/-! ## Values -/

/-- The value of a record that a JSON value is read as. -/
inductive Value.Reads : Json → Value → Prop where
  /-- A string is a text, also if it is one of digits. -/
  | text (s : String) : Reads (.string s) (.text s)
  /-- A number is the number that it comes to in double precision. -/
  | number {n : Numeral} {x : Number} : Json.ReadsAs n x → Reads (.number n) (.number x)
  /-- Null is nothing. -/
  | missing : Reads .null .missing

theorem Value.ofJson?_eq_some_iff {j : Json} {v : Value} : ofJson? j = some v ↔ Reads j v := by
  constructor
  · intro h
    cases j with
    | string s => cases h; exact .text s
    | null => cases h; exact .missing
    | number n =>
      obtain ⟨x, hx, rfl⟩ := Option.map_eq_some_iff.1 h
      exact .number (Json.toNumber?_eq_some_iff.1 hx)
    | _ => cases h
  · rintro (s | hx | _)
    · rfl
    · exact Option.map_eq_some_iff.2 ⟨_, hx.toNumber?_eq, rfl⟩
    · rfl

/-- Strings, nulls and numbers that do not overflow are values. -/
theorem Value.exists_reads_iff {j : Json} :
    (∃ v, Reads j v) ↔
      (∃ s, j = .string s) ∨ j = .null ∨ ∃ n, j = .number n ∧ ¬ Json.Overflows n := by
  constructor
  · rintro ⟨v, s | hx | _⟩
    · exact .inl ⟨s, rfl⟩
    · exact .inr (.inr ⟨_, rfl, Json.exists_readsAs_iff.1 ⟨_, hx⟩⟩)
    · exact .inr (.inl rfl)
  · rintro (⟨s, rfl⟩ | rfl | ⟨n, rfl, hn⟩)
    · exact ⟨_, .text s⟩
    · exact ⟨_, .missing⟩
    · obtain ⟨x, hx⟩ := Json.exists_readsAs_iff.2 hn
      exact ⟨_, .number hx⟩

/-! ## Records -/

namespace DataFormat

variable {α : Type} {read : α → Option Value} {entries : List (String × α)} {record : Record}

/-- The value of an entry is read under its key. -/
def ReadsEntry (read : α → Option Value) (e : String × α) (w : String × Value) : Prop :=
  w.1 = e.1 ∧ read e.2 = some w.2

theorem readsEntry_iff {e : String × α} {w : String × Value} :
    ((read e.2).map fun v => (e.1, v)) = some w ↔ ReadsEntry read e w := by
  rw [Option.map_eq_some_iff]
  constructor
  · rintro ⟨v, hv, rfl⟩
    exact ⟨rfl, hv⟩
  · rintro ⟨hkey, hv⟩
    exact ⟨w.2, hv, Prod.ext hkey.symm rfl⟩

/-- A record is made of the values of all entries. -/
theorem recordOf?_eq_some_iff :
    recordOf? read entries = some record ↔
      ∃ values, List.Forall₂ (ReadsEntry read) entries values ∧ .ofList values = record := by
  have hvalues : ∀ values, (entries.mapM fun e => (read e.2).map fun v => (e.1, v)) = some values ↔
      List.Forall₂ (ReadsEntry read) entries values := by
    induction entries with
    | nil => simp [eq_comm]
    | cons e rest ih =>
      intro values
      simp only [List.mapM_cons, Option.bind_eq_bind, Option.bind_eq_some_iff, readsEntry_iff, ih,
        List.forall₂_cons_left_iff]
      constructor
      · rintro ⟨w, hw, others, hothers, heq⟩
        exact ⟨w, others, hw, hothers, (Option.some.inj heq).symm⟩
      · rintro ⟨w, others, hw, hothers, rfl⟩
        exact ⟨w, hw, others, hothers, rfl⟩
  simp only [recordOf?, Option.map_eq_some_iff, hvalues]

/-- There is a record if every entry can be read, also those that are overwritten. -/
theorem exists_recordOf?_iff :
    (∃ record, recordOf? read entries = some record) ↔ ∀ e ∈ entries, ∃ v, read e.2 = some v := by
  simp only [recordOf?_eq_some_iff]
  induction entries with
  | nil => simp
  | cons e rest ih =>
    rw [List.forall_mem_cons, ← ih]
    constructor
    · rintro ⟨_, values, hall, rfl⟩
      cases hall with
      | cons hw hothers => exact ⟨⟨_, hw.2⟩, _, _, hothers, rfl⟩
    · rintro ⟨⟨v, hv⟩, _, others, hothers, rfl⟩
      exact ⟨_, (e.1, v) :: others, .cons ⟨rfl, hv⟩ hothers, rfl⟩

theorem keys_of_recordOf? (h : recordOf? read entries = some record) :
    record.keys = (entries.map Prod.fst).eraseDups := by
  obtain ⟨values, hall, rfl⟩ := recordOf?_eq_some_iff.1 h
  clear h
  have hkeys : values.map Prod.fst = entries.map Prod.fst := by
    induction hall with
    | nil => rfl
    | cons hw _ ih => rw [List.map_cons, List.map_cons, hw.1, ih]
  rw [OrderedMap.keys_ofList, hkeys]

theorem get?_of_recordOf? (h : recordOf? read entries = some record) (key : String) :
    record.get? key = (Entries.find? key entries.reverse).bind read := by
  obtain ⟨values, hall, rfl⟩ := recordOf?_eq_some_iff.1 h
  have hreverse := List.forall₂_reverse_iff.2 hall
  rw [OrderedMap.get?_ofList]
  generalize values.reverse = ws, entries.reverse = es at hreverse
  induction hreverse with
  | nil => rfl
  | cons hw _ ih =>
    rw [Entries.find?, Entries.find?, hw.1, ih]
    split
    · exact hw.2.symm
    · rfl

theorem parse_eq_ok_iff {format : DataFormat} {text : String} :
    format.parse text = .ok record ↔ format.record? text = some record := by
  rw [parse]
  cases format.record? text with
  | none => exact ⟨fun h => (by cases h), fun h => (by cases h)⟩
  | some r => rw [Except.ok.injEq, Option.some.injEq]

theorem json_record?_eq_some_iff {text : String} :
    json.record? text = some record ↔
      ∃ members, Json.WritesDocument (.object members) text.toList ∧
        recordOf? Value.ofJson? members = some record := by
  rw [record?, Option.bind_eq_some_iff]
  simp only [Option.bind_eq_some_iff, Json.read?_eq_some_iff]
  constructor
  · rintro ⟨members, ⟨j, hj, hmembers⟩, hrecord⟩
    cases j with
    | object ms =>
      cases hmembers
      exact ⟨members, hj, hrecord⟩
    | _ => cases hmembers
  · rintro ⟨members, hj, hrecord⟩
    exact ⟨members, ⟨_, hj, rfl⟩, hrecord⟩

/-- A text is read as a JSON data file just if it is an object of strings, nulls and numbers that do
not overflow in double precision.  Every key then stands where it came first and has the value that
came last.

A number of a record is a finite one of double precision.  Whether a numeral overflows is a matter
of its exact value only, unless that is within `2⁹⁷³` of `2¹⁰²⁴` or the exponent is written with
`2³¹` or more.  A short numeral is the number nearest to it. -/
theorem json_parse_flat_objects (text : String) :
    ((∃ record, json.parse text = .ok record) ↔
      ∃ members, Json.WritesDocument (.object members) text.toList ∧
        ∀ m ∈ members, (∃ s, m.2 = .string s) ∨ m.2 = .null ∨
          ∃ n, m.2 = .number n ∧ ¬ Json.Overflows n) ∧
    (∀ members record, Json.WritesDocument (.object members) text.toList →
      json.parse text = .ok record →
        record.keys = (members.map Prod.fst).eraseDups ∧
        ∀ before name j after, members = before ++ (name, j) :: after →
          name ∉ after.map Prod.fst →
            ∃ v, record.get? name = some v ∧ ∀ w, Value.Reads j w ↔ w = v) ∧
    ∀ n t, Json.Writes (.number n) t →
      (∀ v, Value.Reads (.number n) v →
        ∃ units, v = .number (.finite (n.sign = some '-') units) ∧
          Number.IsRepresentable units ∧ units < Number.unitLimit) ∧
      (Json.Short n → Value.Reads (.number n) (.number (Decimal.ofNumeral n).toNumber)) ∧
      (Json.writtenExponent n < 2 ^ 31 →
        ((Decimal.ofNumeral n).numerator <
          (2 ^ 1024 - 2 ^ 973) * (Decimal.ofNumeral n).denominator → ¬ Json.Overflows n) ∧
        ((2 ^ 1024 + 2 ^ 973) * (Decimal.ofNumeral n).denominator ≤
          (Decimal.ofNumeral n).numerator → Json.Overflows n)) ∧
      (2 ^ 31 ≤ Json.writtenExponent n →
        (Json.Overflows n ↔ (Decimal.ofNumeral n).coefficient ≠ 0 ∧ Json.isSmall n = false)) := by
  simp only [parse_eq_ok_iff, json_record?_eq_some_iff, ← Value.exists_reads_iff]
  refine ⟨?_, ?_, fun n t hwrites => ?_⟩
  · simp only [← Value.ofJson?_eq_some_iff]
    rw [exists_comm]
    refine exists_congr fun members => ?_
    rw [exists_and_left, exists_recordOf?_iff]
  · rintro members record hwrites ⟨members', hwrites', hrecord⟩
    obtain rfl : members = members' := by
      have hread := Json.read?_eq_some_iff.2 hwrites
      rw [Json.read?_eq_some_iff.2 hwrites'] at hread
      cases hread
      rfl
    refine ⟨keys_of_recordOf? hrecord, ?_⟩
    rintro before name j after rfl hlast
    have hget := get?_of_recordOf? hrecord name
    rw [Entries.find?_reverse_of_last hlast] at hget
    obtain ⟨v, hv⟩ := exists_recordOf?_iff.1 ⟨record, hrecord⟩ (name, j) (by simp)
    refine ⟨v, by rw [hget, Option.bind_some, hv], fun w => ?_⟩
    rw [← Value.ofJson?_eq_some_iff, hv, Option.some.injEq, eq_comm]
  · have hdigits : n.isAscii = true := by
      cases hwrites with
      | number _ hnumeral => exact hnumeral.isAscii_iff.2 hnumeral
    refine ⟨?_, fun hshort => .number (Json.readsAs_of_short hshort),
      fun hwritten => ⟨Json.not_overflows_of_lt hdigits hwritten,
        Json.overflows_of_le hdigits hwritten⟩,
      Json.overflows_iff_of_le hdigits⟩
    rintro v (_ | hx | _)
    obtain ⟨units, rfl, hunits⟩ := hx.finite
    exact ⟨units, rfl, hunits⟩

/-- A name comes twice, first with a number and then with a string of digits.  There is a number for
`-1.5` and for `1e300`, and none for `1e309` or with an exponent of `2³¹`. -/
theorem json_parse_flat_objects_repeated :
    let members : List (String × Json) :=
      [("id", .number ⟨none, ['7'], none, none⟩), ("a\nb", .string "\""), ("id", .string "07"),
        ("note", .null)]
    let text := "\x7b\n  \"id\": 7,\n  \"a\\nb\": \"\\\"\",\n  \"id\": \"07\",\n" ++
      "  \"note\": null\n\x7d"
    (Json.WritesDocument (.object members) text.toList ∧
      ∃ record, json.parse text = .ok record ∧ record.keys = ["id", "a\nb", "note"] ∧
        record.get? "id" = some (.text "07")) ∧
    Value.Reads (.number ⟨some '-', ['1'], some ['5'], none⟩) (.number (.ofRatio true 15 10)) ∧
    ¬ Json.Overflows ⟨none, ['1'], none, some (none, ['3', '0', '0'])⟩ ∧
    Json.Overflows ⟨none, ['1'], none, some (none, ['3', '0', '9'])⟩ ∧
    Json.Overflows ⟨none, ['1'], none, some (none, "2147483648".toList)⟩ := by
  intro members text
  have hwhole : ∀ c : Char, c.isDigit = true → Numeral.WritesDigits Char.isDigit [c] none [c] :=
    fun c hc => .whole (by simp) (List.forall_mem_singleton.2 hc)
  have hseven : Json.Sound (.number ⟨none, ['7'], none, none⟩) :=
    .number (by decide) (.parts .none (hwhole '7' rfl) .none)
  have hsound : Json.Sound (.object members) := by
    refine .object fun m hm => ?_
    simp only [members, List.mem_cons, List.not_mem_nil, or_false] at hm
    rcases hm with rfl | rfl | rfl | rfl
    · exact hseven
    · exact .string _
    · exact .string _
    · exact .null
  have htext : (Json.object members).toPretty = text := by decide +kernel
  have hwrites : Json.WritesDocument (.object members) text.toList := by
    rw [← htext]
    exact Json.read?_eq_some_iff.1 hsound.read?_toPretty
  have hparse : json.parse text =
      .ok (.ofList [("id", .text "07"), ("a\nb", .text "\""), ("note", .missing)]) := by
    decide +kernel
  obtain ⟨-, hrecord, hnumbers⟩ := json_parse_flat_objects text
  obtain ⟨hkeys, hlast⟩ := hrecord _ _ hwrites hparse
  obtain ⟨v, hget, hv⟩ := hlast [_, _] "id" _ [_] rfl (by decide)
  obtain rfl := (hv _).1 (.text "07")
  have hpower : ∀ ds, ds ≠ [] → Text.allDigits ds = true →
      Json.Writes (.number ⟨none, ['1'], none, some (none, ds)⟩) ('1' :: 'e' :: ds) :=
    fun ds hne hds => .number ⟨by simp, by simp, by simp, by simp⟩
      (.parts .none (hwhole '1' rfl)
        (.marked (.inl rfl) .none hne ((Text.allDigits_iff ds).1 hds)))
  have hnegative : Json.Writes (.number ⟨some '-', ['1'], some ['5'], none⟩) "-1.5".toList :=
    .number ⟨by decide, by decide, by decide, by decide⟩
      (.parts .minus (.pointed (by decide) (List.forall_mem_singleton.2 rfl)
        (List.forall_mem_singleton.2 rfl)) .none)
  refine ⟨⟨hwrites, _, hparse, hkeys.trans (by decide), hget⟩, ?_, ?_, ?_, ?_⟩
  · have hread := (hnumbers _ _ hnegative).2.1 ⟨by decide, by decide, by decide⟩
    rwa [Decimal.toNumber_eq_ofRatio] at hread
  · exact ((hnumbers _ _ (hpower _ (by decide) (by decide))).2.2.1 (by decide)).1
      (by decide +kernel)
  · exact ((hnumbers _ _ (hpower _ (by decide) (by decide))).2.2.1 (by decide)).2
      (by decide +kernel)
  · exact ((hnumbers _ _ (hpower _ (by decide) (by decide))).2.2.2 (by decide)).2 (by decide)

/-- The number nearest to `1.7976931348623158e308` is the largest finite one, but there is no record
with it, since `17976931348623158 · 10²⁹²` overflows. -/
theorem json_parse_refuses_finite :
    ¬ ((∃ record, json.parse "\x7b\"n\": 1.7976931348623158e308\x7d" = .ok record) ↔
      ∃ members, Json.WritesDocument (.object members)
          "\x7b\"n\": 1.7976931348623158e308\x7d".toList ∧
        ∀ m ∈ members, (∃ s, m.2 = .string s) ∨ m.2 = .null ∨
          ∃ n, m.2 = .number n ∧
            ∃ negative units, (Decimal.ofNumeral n).toNumber = .finite negative units) := by
  have hparse : json.parse "\x7b\"n\": 1.7976931348623158e308\x7d" = .error ⟨json⟩ := by
    decide +kernel
  have hfinite := (Decimal.exists_toNumber_eq_finite_iff (.ofNumeral
    ⟨none, ['1'], some "7976931348623158".toList, some (none, ['3', '0', '8'])⟩)).2
      (by decide +kernel)
  have hname : Json.WritesString "n".toList ['n'] :=
    .cons (.plain (by decide) (by decide) (by decide)) .nil
  have hmember : Json.WritesName "n" "\"n\": ".toList :=
    .quoted Json.allSpace_nil hname Json.allSpace_nil (List.forall_mem_singleton.2 rfl)
  have hnumber : Json.Writes (.number ⟨none, ['1'], some "7976931348623158".toList,
      some (none, ['3', '0', '8'])⟩) "1.7976931348623158e308".toList :=
    .number ⟨by decide, by decide, by decide, by decide⟩
      (.parts .none (.pointed (by decide) (List.forall_mem_singleton.2 rfl)
        ((Text.allDigits_iff _).1 (by decide)))
        (.marked (.inl rfl) .none (by decide) ((Text.allDigits_iff _).1 (by decide))))
  intro h
  obtain ⟨record, hrecord⟩ := h.2 ⟨_, .padded Json.allSpace_nil
    (.object (.last hmember hnumber Json.allSpace_nil)) Json.allSpace_nil, by
      rw [List.forall_mem_singleton]
      exact .inr (.inr ⟨_, rfl, hfinite⟩)⟩
  cases hparse.symm.trans hrecord

end DataFormat

end FormRules
