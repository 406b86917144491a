import FormRules.Proofs.Form.Edits

/-!
# How often a form reads its rules

Every change of a form runs a pass, and every pass asks the cache for a rule set.  A
pass on the rules of the form reads them again only if the cache does not hold them.

The cache holds one reading, and a change that is refused puts in the rules that were
refused.  So the form keeps its rules and loses their reading.  The next change that
leaves the rules reads them once more, and then the cache holds them again
(`Edited.holdsOwn_edit_iff`).  After any other edit such a change reads nothing
(`parses_leavesRules`).
-/

namespace FormRules.Form

/-! ## Passes and readings -/

/-- The cache holds the rules of the form. -/
def HoldsOwn (f : Form) : Prop := f.cache.holds f.rules = true

variable {registry : Registry} {f : Form} {shared : SharedExpressions}

theorem cache_change (f : Form) (rules : SharedExpressions) (record : Record)
    (overrides : Overrides) :
    (f.change rules record overrides).form.cache = f.cache.fetch rules := by
  rw [change]
  split
  case h_1 => rfl
  case h_2 => rfl

/-- A change reads the rules that it is given once, unless they are in the cache. -/
theorem parses_change (f : Form) (rules : SharedExpressions) (record : Record)
    (overrides : Overrides) :
    (f.change rules record overrides).form.parses =
      f.parses + if f.cache.identity? = some rules.identity then 0 else 1 := by
  rw [parses, cache_change, RuleCache.parses_fetch, parses]

theorem holdsOwn_iff (f : Form) : f.HoldsOwn ↔ f.cache.identity? = some f.rules.identity :=
  f.cache.holds_iff_identity? f.rules

theorem HoldsOwn.parses_change (own : f.HoldsOwn) (record : Record) (overrides : Overrides) :
    (f.change f.rules record overrides).form.parses = f.parses := by
  rw [Form.parses_change, if_pos (f.holdsOwn_iff.1 own), Nat.add_zero]

theorem parses_change_of_not_holdsOwn (other : ¬ f.HoldsOwn) (record : Record)
    (overrides : Overrides) :
    (f.change f.rules record overrides).form.parses = f.parses + 1 := by
  rw [Form.parses_change, if_neg (mt f.holdsOwn_iff.2 other)]

theorem holdsOwn_create {rules : SharedExpressions} {record : Record} {overrides : Overrides}
    (created : create registry rules record overrides = .ok f) : f.HoldsOwn := by
  obtain ⟨result, -, rfl⟩ := create_eq_ok_iff.1 created
  exact (RuleCache.empty.holds_fetch_iff rules rules).2 rfl

/-- A form that took the rules it was given holds them. -/
theorem holdsOwn_change_of_made {rules : SharedExpressions} {record : Record}
    {overrides : Overrides}
    (made : (f.change rules record overrides).Made rules record overrides) :
    (f.change rules record overrides).form.HoldsOwn := by
  rw [HoldsOwn, made.rules, cache_change]
  exact (f.cache.holds_fetch_iff rules rules).2 rfl

/-- A form that refused rules does not hold its own any more. -/
theorem not_holdsOwn_change_of_refused {record : Record} {overrides : Overrides}
    {e : UnknownValidator} (hne : shared.identity ≠ f.rules.identity)
    (refused : (f.change shared record overrides).Refused f e) :
    ¬ (f.change shared record overrides).form.HoldsOwn := by
  rw [HoldsOwn, refused.kept.rules, cache_change, f.cache.holds_fetch_iff]
  exact hne

/-! ## Edits -/

/-- The edit does not replace the rules, or replaces them by themselves. -/
def Edit.LeavesRules (f : Form) : Edit → Prop
  | .rules identity => identity = f.rules.identity
  | .record _ => True
  | .value _ _ => True
  | .overrides _ => True

/-- The last of some edits was made, if there is one. -/
def LastMade (contents : Contents) (f : Form) (edits : List Edit) : Prop :=
  ∀ before last, edits = before ++ [last] →
    ((f.afterEdits contents before).edit contents last).failure = none

variable {contents : Contents}

/-- Every edit is a change to the rules of some identity. -/
theorem Edited.edit_eq_change (edited : f.Edited contents registry) (e : Edit) :
    ∃ identity record overrides,
      f.edit contents e = f.change (contents.shared identity) record overrides := by
  have own := edited.rules_eq
  cases e with
  | rules identity => exact ⟨identity, f.record, f.overrides, rfl⟩
  | record record => exact ⟨f.rules.identity, record, f.overrides, by rw [← own]; rfl⟩
  | value field value =>
    exact ⟨f.rules.identity, f.record.insert field value, f.overrides, by rw [← own]; rfl⟩
  | overrides overrides => exact ⟨f.rules.identity, f.record, overrides, by rw [← own]; rfl⟩

theorem Edited.edit_eq_change_own (edited : f.Edited contents registry) {e : Edit}
    (leaves : e.LeavesRules f) :
    ∃ record overrides, f.edit contents e = f.change f.rules record overrides := by
  cases e with
  | rules identity =>
    have hidentity : identity = f.rules.identity := leaves
    refine ⟨f.record, f.overrides, ?_⟩
    show f.setRules (contents.shared identity) = _
    rw [setRules, hidentity, ← edited.rules_eq]
  | record record => exact ⟨record, f.overrides, rfl⟩
  | value field value => exact ⟨f.record.insert field value, f.overrides, rfl⟩
  | overrides overrides => exact ⟨f.record, overrides, rfl⟩

/-- After an edit the cache holds the rules of the form exactly if the edit was made. -/
theorem Edited.holdsOwn_edit_iff (edited : f.Edited contents registry) (e : Edit) :
    (f.edit contents e).form.HoldsOwn ↔ (f.edit contents e).failure = none := by
  obtain ⟨identity, record, overrides, hedit⟩ := edited.edit_eq_change e
  rw [hedit]
  have agrees := edited.agrees identity
  cases hcheck : registry.checkRules (contents.shared identity).content.parsed with
  | ok _ =>
    have made := edited.fresh.change_made agrees hcheck record overrides
    exact ⟨fun _ => made.failure, fun _ => holdsOwn_change_of_made made⟩
  | error e =>
    have refused := edited.fresh.change_refused agrees hcheck record overrides
    -- The rules of the form are not refused, so these are other ones.
    have hne : (contents.shared identity).identity ≠ f.rules.identity := by
      intro heq
      have hown : contents.shared identity = f.rules := by
        rw [edited.rules_eq, ← heq]
        rfl
      rw [hown, edited.fresh.checkRules] at hcheck
      cases hcheck
    constructor
    · intro own
      exact absurd own (not_holdsOwn_change_of_refused hne refused)
    · intro hnone
      rw [refused.failure] at hnone
      cases hnone

/-! ## Runs -/

theorem afterEdits_append_singleton (contents : Contents) (f : Form) (before : List Edit)
    (last : Edit) :
    f.afterEdits contents (before ++ [last]) =
      ((f.afterEdits contents before).edit contents last).form := by
  rw [afterEdits, List.foldl_append, List.foldl_cons, List.foldl_nil, ← afterEdits]

/-- After a run the cache holds the rules of the form exactly if the last edit was made. -/
theorem holdsOwn_afterEdits_iff {identity : Nat} {record : Record} {overrides : Overrides}
    (created : create registry (contents.shared identity) record overrides = .ok f)
    (edits : List Edit) :
    (f.afterEdits contents edits).HoldsOwn ↔ LastMade contents f edits := by
  rcases List.eq_nil_or_concat edits with rfl | ⟨before, last, rfl⟩
  · have none : LastMade contents f [] := fun before last h => by simp at h
    exact ⟨fun _ => none, fun _ => holdsOwn_create created⟩
  · have edited := (edited_create created).afterEdits before
    rw [List.concat_eq_append, afterEdits_append_singleton, edited.holdsOwn_edit_iff]
    constructor
    · intro made before' last' h
      obtain ⟨rfl, hlast⟩ := List.append_inj' h rfl
      obtain rfl : last = last' := List.head_eq_of_cons_eq hlast
      exact made
    · intro made
      exact made before last rfl

/-- After any edits, an edit that leaves the rules is made.  It reads nothing if the edit before it
was made, or if there was none.  If the edit before it was refused, it reads the rules once. -/
theorem parses_leavesRules {identity : Nat} {record : Record} {overrides : Overrides}
    (created : create registry (contents.shared identity) record overrides = .ok f)
    (edits : List Edit) :
    let g := f.afterEdits contents edits
    ∀ e : Edit, e.LeavesRules g →
      (g.edit contents e).failure = none ∧
        (LastMade contents f edits → (g.edit contents e).form.parses = g.parses) ∧
        (¬ LastMade contents f edits → (g.edit contents e).form.parses = g.parses + 1) := by
  intro g e leaves
  have edited : g.Edited contents registry := (edited_create created).afterEdits edits
  obtain ⟨record, overrides, hedit⟩ := edited.edit_eq_change_own leaves
  rw [hedit, ← holdsOwn_afterEdits_iff created edits]
  refine ⟨(edited.fresh.change_own_made record overrides).failure, ?_, ?_⟩
  · intro own
    exact own.parses_change record overrides
  · intro other
    exact parses_change_of_not_holdsOwn other record overrides

/-- Overrides that are replaced after rules were refused and a value was then set. -/
theorem parses_leavesRules_after_value :
    let contents : Contents := fun i =>
      .ofList [("name", if i = 0 then "required|min:3" else "slug")]
    ∃ f, create .standard (contents.shared 0) .empty .empty = .ok f ∧
      let g := f.afterEdits contents [.rules 1, .value "name" (.text "Jo")]
      LastMade contents f [.rules 1, .value "name" (.text "Jo")] ∧
        (g.setOverrides .empty).form.parses = g.parses := by
  intro contents
  have checked : Registry.standard.checkRules (contents.shared 0).content.parsed = .ok () :=
    Registry.checkRules_eq_ok_of_contains _ _ (by decide)
  obtain ⟨f, created⟩ := exists_create_eq_ok checked .empty .empty
  have edited := (edited_create created).afterEdits [.rules 1]
  have made : LastMade contents f [.rules 1, .value "name" (.text "Jo")] := by
    rw [← holdsOwn_afterEdits_iff created]
    exact (edited.holdsOwn_edit_iff _).2 (edited.fresh.change_own_made _ _).failure
  have kept := parses_leavesRules created [.rules 1, .value "name" (.text "Jo")]
    (.overrides .empty) trivial
  exact ⟨f, created, made, kept.2.1 made⟩

/-- A value that is set right after rules were refused makes the form read its own rules again. -/
theorem parses_value_after_refused :
    let contents : Contents := fun i =>
      .ofList [("name", if i = 0 then "required|min:3" else "slug")]
    ∃ f, create .standard (contents.shared 0) .empty .empty = .ok f ∧
      let g := f.afterEdits contents [.rules 1]
      g.rules = f.rules ∧ (g.setValue "name" (.text "Jo")).form.parses = g.parses + 1 := by
  intro contents
  have checked : Registry.standard.checkRules (contents.shared 0).content.parsed = .ok () :=
    Registry.checkRules_eq_ok_of_contains _ _ (by decide)
  have unknown : Registry.standard.checkRules (contents.shared 1).content.parsed =
      .error ⟨"name", "slug"⟩ := by
    rfl
  obtain ⟨f, created⟩ := exists_create_eq_ok checked .empty .empty
  have edited := edited_create created
  have refused := edited.fresh.change_refused (edited.agrees 1) unknown f.record f.overrides
  have other : ¬ (f.afterEdits contents [.rules 1]).HoldsOwn := by
    intro own
    have hnone := (edited.holdsOwn_edit_iff (.rules 1)).1 own
    have hsome : (f.edit contents (.rules 1)).failure = some ⟨"name", "slug"⟩ := refused.failure
    rw [hnone] at hsome
    cases hsome
  exact ⟨f, created, refused.kept.rules, parses_change_of_not_holdsOwn other _ _⟩

end FormRules.Form
