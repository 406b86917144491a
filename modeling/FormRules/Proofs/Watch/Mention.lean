import FormRules.Watch
import Mathlib.Data.List.Induction
import Mathlib.Data.List.Nodup

/-!
# First mentions

The events of a batch mention inputs in some order, and some of them again and again.
What is taken in are the mentioned inputs, each once, in the order of the first
mention (`distinctInputs_inFirstMentionOrder`).  Two batches that mention the same
inputs differ at most in that order (`perm_distinctInputs`).

Mentions come one at a time, so the proofs follow them from the last one back: a
mention counts only if none before it was of the same input.
-/

namespace FormRules

/-- The inputs that the events of a batch mention, one after the other. -/
def Batch.mentions (b : Batch) (paths : WatchedPaths) : List Input :=
  b.events.flatMap (WatchEvent.inputs paths)

/-- The inputs are those that are mentioned, each once, in the order of the first mention. -/
structure InFirstMentionOrder (inputs mentions : List Input) : Prop where
  mem_iff : ∀ input, input ∈ inputs ↔ input ∈ mentions
  pairwise : inputs.Pairwise fun i j => mentions.idxOf i < mentions.idxOf j

theorem InFirstMentionOrder.nodup {inputs mentions : List Input}
    (h : InFirstMentionOrder inputs mentions) : inputs.Nodup :=
  h.pairwise.imp fun hlt => by
    rintro rfl
    exact Nat.lt_irrefl _ hlt

theorem distinctInputs_append_singleton (mentions : List Input) (input : Input) :
    distinctInputs (mentions ++ [input]) =
      if input ∈ distinctInputs mentions then distinctInputs mentions
      else distinctInputs mentions ++ [input] := by
  rw [distinctInputs, List.foldl_append, ← distinctInputs, List.foldl_cons, List.foldl_nil]
  simp only [List.contains_iff_mem]

theorem mem_distinctInputs_iff {input : Input} {mentions : List Input} :
    input ∈ distinctInputs mentions ↔ input ∈ mentions := by
  induction mentions using List.reverseRecOn with
  | nil => exact Iff.rfl
  | append_singleton mentions last ih =>
    rw [distinctInputs_append_singleton, List.mem_append, List.mem_singleton, ← ih]
    split
    case isTrue h =>
      refine ⟨.inl, ?_⟩
      rintro (hmem | rfl)
      · exact hmem
      · exact h
    case isFalse => rw [List.mem_append, List.mem_singleton]

theorem distinctInputs_inFirstMentionOrder (mentions : List Input) :
    InFirstMentionOrder (distinctInputs mentions) mentions := by
  refine ⟨fun _ => mem_distinctInputs_iff, ?_⟩
  induction mentions using List.reverseRecOn with
  | nil => exact .nil
  | append_singleton mentions input ih =>
    -- The places of the inputs that were mentioned before stay as they are.
    have earlier : (distinctInputs mentions).Pairwise fun i j =>
        (mentions ++ [input]).idxOf i < (mentions ++ [input]).idxOf j := by
      refine ih.imp_of_mem fun hi hj hlt => ?_
      rwa [List.idxOf_append_of_mem (mem_distinctInputs_iff.1 hi),
        List.idxOf_append_of_mem (mem_distinctInputs_iff.1 hj)]
    rw [distinctInputs_append_singleton]
    split
    case isTrue => exact earlier
    case isFalse h =>
      have hfirst : input ∉ mentions := fun hmem => h (mem_distinctInputs_iff.2 hmem)
      refine List.pairwise_append.2 ⟨earlier, List.pairwise_singleton _ _, fun i hi j hj => ?_⟩
      have hi : i ∈ mentions := mem_distinctInputs_iff.1 hi
      rw [List.mem_singleton.1 hj, List.idxOf_append_of_mem hi, List.idxOf_append_of_notMem hfirst]
      exact Nat.lt_of_lt_of_le (List.idxOf_lt_length_of_mem hi) (Nat.le_add_right _ _)

/-- Up to their order, the inputs depend only on what is mentioned. -/
theorem perm_distinctInputs (mentions : List Input) :
    (distinctInputs mentions).Perm ([.form, .data].filter (· ∈ mentions)) := by
  have nodup := (distinctInputs_inFirstMentionOrder mentions).nodup
  refine (List.perm_ext_iff_of_nodup nodup (List.Nodup.filter _ (by decide))).2 fun input => ?_
  have hinput : input ∈ [Input.form, .data] := by cases input <;> decide
  rw [mem_distinctInputs_iff, List.mem_filter, decide_eq_true_iff, and_iff_right hinput]

end FormRules
