import FormRules.Proofs.Errors
import FormRules.Proofs.Json.RoundTrip
import FormRules.Report

/-!
# What a report tells

The JSON report of a result is read back as an object with two members, `valid` and `errors`
(`Result.json_report_lossless`).  It has the verdict of the result.  It has the same fields in the
same order, each once, and for each field the same messages in the same order, whatever
characters stand in them.  So a text is the report of one result at most.
-/

namespace FormRules

/-! ## The JSON form -/

theorem Json.sound_strings (items : List String) : (Json.strings items).Sound := by
  refine .array fun j hj => ?_
  obtain ⟨s, -, rfl⟩ := List.mem_map.1 hj
  exact .string s

theorem Json.strings_injective : Function.Injective Json.strings := by
  intro xs ys h
  exact List.map_injective_iff.2 (fun x y hxy => Json.string.inj hxy) (Json.array.inj h)

theorem Errors.sound_toJson (e : Errors) : e.toJson.Sound := by
  refine .object fun m hm => ?_
  obtain ⟨entry, -, rfl⟩ := List.mem_map.1 hm
  exact Json.sound_strings entry.2

/-- An error list is told by its JSON form. -/
theorem Errors.entries_eq_of_toJson_eq {e e' : Errors} (h : e.toJson = e'.toJson) :
    e.entries = e'.entries := by
  refine List.map_injective_iff.2 ?_ (Json.object.inj h)
  intro x y hxy
  obtain ⟨hfield, hmessages⟩ := Prod.mk.inj hxy
  exact Prod.ext hfield (Json.strings_injective hmessages)

namespace Result

theorem sound_toJson (r : Result) : r.toJson.Sound := by
  refine .object fun m hm => ?_
  simp only [List.mem_cons, List.not_mem_nil, or_false] at hm
  rcases hm with rfl | rfl
  · exact .bool r.valid
  · exact r.errors.sound_toJson

/-- A result is told by its JSON form. -/
theorem toJson_injective : Function.Injective toJson := by
  intro r s h
  have herrors : r.errors.toJson = s.errors.toJson := by
    simp only [toJson, Json.object.injEq, List.cons.injEq, Prod.mk.injEq] at h
    exact h.2.1.2
  exact eq_of_entries_eq (Errors.entries_eq_of_toJson_eq herrors)

/-! ## Reading a report -/

theorem read?_render_json (r : Result) : Json.read? (r.render .json) = some r.toJson :=
  r.sound_toJson.read?_toPretty

-- Without messages the inner object stays on its line.
example : (Result.mk .empty).render .json =
    "\x7b\n  \"valid\": true,\n  \"errors\": \x7b\x7d\n\x7d" := by decide +kernel

/-- The JSON report of a result is read back as an object with the verdict of the result and, for
each field with messages, these messages.  Fields and messages keep their order, and no field
stands twice.  Another result has another report. -/
theorem json_report_lossless (r : Result) :
    Json.read? (r.render .json) =
        some (.object [("valid", .bool r.valid),
          ("errors", .object (r.errors.entries.map fun e => (e.1, .array (e.2.map .string))))]) ∧
      r.errors.fields.Nodup ∧ ∀ s : Result, s.render .json = r.render .json ↔ s = r := by
  refine ⟨read?_render_json r, r.errors.byField.nodup, fun s => ⟨fun h => ?_, ?_⟩⟩
  · have hread := read?_render_json s
    rw [h, read?_render_json r] at hread
    exact toJson_injective (Option.some.inj hread).symm
  · rintro rfl
    rfl

/-- Quotes, backslashes and control characters are escaped, and a field or a message may be
empty. -/
theorem json_report_lossless_escaped :
    let r : Result := ⟨Errors.empty.addAll
      [("", "a\\b\u0000"), ("\"\n", ""), ("", "\u007f\u2028😀"), ("\"\n", "\u001f/")]⟩
    r.render .json = "\x7b\n  \"valid\": false,\n  \"errors\": \x7b\n    \"\": [\n" ++
        "      \"a\\\\b\\u0000\",\n      \"\u007f\u2028😀\"\n    ],\n    \"\\\"\\n\": [\n" ++
        "      \"\",\n      \"\\u001f/\"\n    ]\n  \x7d\n\x7d" ∧
      Json.read? (r.render .json) =
        some (.object [("valid", .bool false),
          ("errors", .object [("", .array [.string "a\\b\u0000", .string "\u007f\u2028😀"]),
            ("\"\n", .array [.string "", .string "\u001f/"])])]) := by
  intro r
  exact ⟨by decide +kernel, (json_report_lossless r).1⟩

end Result

end FormRules
