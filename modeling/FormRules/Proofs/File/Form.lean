import FormRules.File.Form
import FormRules.Proofs.File.Data

/-!
# No text is both a form file and a data file

A text that is a form file is a data file in neither format (`FormFile.record?_eq_none`).

* *TOML.*  A form file has rules, which are a table or a moment that counts as one.  Neither is a
  value of a record, and a record leaves no entry out.
* *JSON.*  An object opens with a brace, and no line of a TOML document begins with one.  What may
  stand in front of the brace is white space, which TOML skips too, except for a carriage return
  alone, and that begins no line either (`Toml.read?_of_writesDocument`).
-/

namespace FormRules

/-! ## Objects are no documents -/

namespace Json

/-- An object opens with a brace behind white space. -/
theorem WritesDocument.exists_brace {members : List (String × Json)} {s : List Char}
    (h : WritesDocument (.object members) s) :
    ∃ before rest, AllSpace before ∧ s = before ++ '\x7b' :: rest := by
  cases h with
  | padded hbefore hvalue _ =>
    cases hvalue with
    | emptyObject _ => exact ⟨_, _, hbefore, rfl⟩
    | object _ => exact ⟨_, _, hbefore, rfl⟩

end Json

namespace Toml

variable {c : Char} {s before : List Char}

/-- The white space of JSON is skipped up to the brace behind it, or up to a carriage return. -/
theorem exists_skipLines_brace (h : Json.AllSpace before) (rest : List Char) :
    ∃ c s, skipLines false (before ++ '\x7b' :: rest) = some (c :: s) ∧
      (c = '\r' ∨ c = '\x7b') := by
  -- A carriage return is skipped together with the newline behind it.
  induction hn : before.length using Nat.strongRecOn generalizing before with
  | ind n ih =>
    subst hn
    cases before with
    | nil => exact ⟨_, _, rfl, .inr rfl⟩
    | cons c before =>
      obtain ⟨hc, hbefore⟩ := List.forall_mem_cons.1 h
      have hstep := ih before.length (Nat.lt_succ_self _) hbefore rfl
      simp only [Json.isSpace, Bool.or_eq_true, beq_iff_eq] at hc
      rcases hc with ((rfl | rfl) | rfl) | rfl
      · exact hstep
      · exact hstep
      · exact hstep
      · cases before with
        | nil => exact ⟨_, _, rfl, .inl rfl⟩
        | cons d before =>
          by_cases hd : d = '\n'
          · subst hd
            have hlt : before.length < ('\r' :: '\n' :: before).length := by
              simp only [List.length_cons]
              omega
            have hskip := ih _ hlt (List.forall_mem_cons.1 hbefore).2 rfl
            exact hskip
          · refine ⟨'\r', d :: (before ++ '\x7b' :: rest), ?_, .inl rfl⟩
            simp [skipLines, hd, isGap]

/-- No line begins with a carriage return or a brace. -/
theorem statement?_eq_none (h : c = '\r' ∨ c = '\x7b') (s : List Char) :
    statement? (c :: s) = none := by
  rcases h with rfl | rfl <;> rfl

/-- A text of a JSON object is no TOML document. -/
theorem read?_of_writesDocument {members : List (String × Json)} {text : String}
    (h : Json.WritesDocument (.object members) text.toList) : read? text = none := by
  obtain ⟨before, rest, hbefore, htext⟩ := h.exists_brace
  have hmark : dropMark (before ++ '\x7b' :: rest) = before ++ '\x7b' :: rest := by
    cases before with
    | nil => rfl
    | cons c before =>
      have hc := hbefore c List.mem_cons_self
      simp only [Json.isSpace, Bool.or_eq_true, beq_iff_eq] at hc
      rcases hc with ((rfl | rfl) | rfl) | rfl <;> rfl
  obtain ⟨c, s, hskip, hc⟩ := exists_skipLines_brace hbefore rest
  have hlines : ∀ n, statements? (n + 1) (before ++ '\x7b' :: rest) = none := by
    intro n
    rw [statements?, hskip]
    simp only [Option.bind_eq_bind, Option.bind_some, statement?_eq_none hc, Option.bind_none]
  rw [read?, htext, hmark]
  simp only [hlines, Option.bind_eq_bind, Option.bind_none]

end Toml

/-! ## Form files are no data files -/

namespace FormFile

variable {root : TomlEntries} {file : FormFile} {text : String}

/-- What counts as a table is no value of a record. -/
theorem ofToml?_eq_none_of_strings? {v : Toml} {entries : OrderedMap String}
    (h : v.strings? = some entries) : Value.ofToml? v = none := by
  cases v with
  | table _ _ => rfl
  | moment _ => rfl
  | _ => cases h

/-- The root of a form file is no record, since its rules are not. -/
theorem recordOf?_eq_none_of_ofToml? (h : ofToml? root = some file) :
    DataFormat.recordOf? Value.ofToml? root = none := by
  simp only [ofToml?, Option.bind_eq_bind, Option.bind_eq_some_iff] at h
  obtain ⟨_, _, v, hfind, entries, hstrings, _⟩ := h
  rw [Option.eq_none_iff_forall_ne_some]
  intro record hrecord
  obtain ⟨w, hw⟩ := DataFormat.exists_recordOf?_iff.1 ⟨record, hrecord⟩ _
    (Entries.mem_of_find?_eq_some hfind)
  rw [ofToml?_eq_none_of_strings? hstrings] at hw
  cases hw

/-- A form file is a data file in neither format. -/
theorem record?_eq_none (h : (Toml.read? text).bind ofToml? = some file) (format : DataFormat) :
    format.record? text = none := by
  obtain ⟨root, hroot, hfile⟩ := Option.bind_eq_some_iff.1 h
  cases format with
  | toml => rw [DataFormat.record?, hroot, Option.bind_some, recordOf?_eq_none_of_ofToml? hfile]
  | json =>
    rw [Option.eq_none_iff_forall_ne_some]
    intro record hrecord
    obtain ⟨members, hwrites, -⟩ := DataFormat.json_record?_eq_some_iff.1 hrecord
    rw [Toml.read?_of_writesDocument hwrites] at hroot
    cases hroot

theorem parse_eq_ok_iff {path : Option Path} :
    parse path text = .ok file ↔ (Toml.read? text).bind ofToml? = some file := by
  rw [parse]
  cases (Toml.read? text).bind ofToml? with
  | none => exact ⟨fun h => (by cases h), fun h => (by cases h)⟩
  | some f => rw [Except.ok.injEq, Option.some.injEq]

/-- Reading a form file as a data file is an error in either format. -/
theorem parse_data_eq_error {path : Option Path} (h : parse path text = .ok file)
    (format : DataFormat) : format.parse text = .error ⟨format⟩ := by
  rw [DataFormat.parse, record?_eq_none (parse_eq_ok_iff.1 h)]

end FormFile

end FormRules
