import FormRules.Proofs.Form

/-!
# Forms under any edits

A form is made once and then edited: its rules, its record, one value or its
overrides are replaced, in any order and as often as one likes.  Edits may fail.
Rules are given by identity, and the *contents* say what stands under every
identity, once and for all.  So an edit may bring new rules, the rules that the
form has, or any that it had before.

Whatever the edits are, the result of the form is the one of its inputs
(`result_afterEdits`), and an edit is refused only for unknown validators in the
rules that it brings (`edits_made_or_refused`).

Both follow from an invariant, `Form.Edited`.  A fresh form is not enough, since
the cache may hold rules that were refused, and the next edit may bring back
older ones.  The invariant adds that all rules in sight have the content of their
identity, so that any two of them agree.
-/

namespace FormRules

/-- What the expressions with each identity say. -/
abbrev Contents := Nat → Expressions

/-- The shared expressions with an identity. -/
def Contents.shared (contents : Contents) (identity : Nat) : SharedExpressions :=
  ⟨identity, contents identity⟩

namespace Form

/-! ## Edits -/

/-- An edit of a form. -/
inductive Edit where
  /-- Replaces the rules by those with an identity. -/
  | rules (identity : Nat)
  /-- Replaces the record. -/
  | record (record : Record)
  /-- Replaces the value of a field. -/
  | value (field : String) (value : Value)
  /-- Replaces the overrides. -/
  | overrides (overrides : Overrides)

/-- What an edit gives. -/
def edit (contents : Contents) (f : Form) : Edit → Change
  | .rules identity => f.setRules (contents.shared identity)
  | .record record => f.setRecord record
  | .value field value => f.setValue field value
  | .overrides overrides => f.setOverrides overrides

/-- The form after edits, first to last, refused ones included. -/
def afterEdits (contents : Contents) (f : Form) (edits : List Edit) : Form :=
  edits.foldl (fun f e => (f.edit contents e).form) f

/-! ## The invariant -/

/-- The form is fresh, and the rules that it and its cache have are known by their contents. -/
structure Edited (contents : Contents) (registry : Registry) (f : Form) : Prop where
  fresh : f.Fresh registry
  own : f.rules.content = contents f.rules.identity
  cached : ∀ source, f.cache.source = some source → source.content = contents source.identity

variable {contents : Contents} {registry : Registry} {f : Form}

theorem edited_create {identity : Nat} {record : Record} {overrides : Overrides}
    (h : create registry (contents.shared identity) record overrides = .ok f) :
    f.Edited contents registry := by
  have fresh := fresh_create h
  obtain ⟨result, -, rfl⟩ := create_eq_ok_iff.1 h
  refine ⟨fresh, rfl, fun source hsource => ?_⟩
  rcases RuleCache.source_fetch hsource with hold | rfl
  · cases hold
  · rfl

theorem Edited.agrees (edited : f.Edited contents registry) (identity : Nat) :
    f.cache.Agrees (contents.shared identity) := by
  intro source hsource hidentity
  rw [edited.cached source hsource, hidentity]
  rfl

/-- A change to rules of any identity keeps the invariant. -/
theorem Edited.change {shared : SharedExpressions} (edited : f.Edited contents registry)
    (hshared : shared = contents.shared shared.identity) (record : Record)
    (overrides : Overrides) :
    (f.change shared record overrides).form.Edited contents registry := by
  have hcontent : shared.content = contents shared.identity := congrArg _ hshared
  have agrees : f.cache.Agrees shared := by
    rw [hshared]
    exact edited.agrees _
  have own : shared.Agrees f.rules := by
    intro h
    rw [hcontent, edited.own, h]
  have cached : ∀ source, (f.cache.fetch shared).source = some source →
      source.content = contents source.identity := by
    intro source hsource
    rcases RuleCache.source_fetch hsource with hold | rfl
    · exact edited.cached source hold
    · exact hcontent
  have fresh := edited.fresh.change agrees own record overrides
  rcases edited.fresh.change_cases agrees record overrides with
    ⟨e, -, -, hform⟩ | ⟨result, -, -, hform⟩
  · -- The cache may now hold the refused rules, which have the content of their identity too.
    rw [hform] at fresh ⊢
    exact ⟨fresh, edited.own, cached⟩
  · rw [hform] at fresh ⊢
    exact ⟨fresh, hcontent, cached⟩

theorem Edited.rules_eq (edited : f.Edited contents registry) :
    f.rules = contents.shared f.rules.identity := by
  rw [Contents.shared, ← edited.own]

/-- One edit keeps the invariant. -/
theorem Edited.edit (edited : f.Edited contents registry) (e : Edit) :
    (f.edit contents e).form.Edited contents registry := by
  cases e with
  | rules identity => exact edited.change rfl f.record f.overrides
  | record record => exact edited.change edited.rules_eq record f.overrides
  | value field value => exact edited.change edited.rules_eq _ f.overrides
  | overrides overrides => exact edited.change edited.rules_eq f.record overrides

/-- Any edits keep the invariant. -/
theorem Edited.afterEdits (edited : f.Edited contents registry) (edits : List Edit) :
    (f.afterEdits contents edits).Edited contents registry := by
  induction edits generalizing f with
  | nil => exact edited
  | cons e rest ih => exact ih (edited.edit e)

/-! ## Results -/

/-- After any edits the result is the one of the inputs, evaluated anew with the registry the form
was made with, and the cache gives every rules their own rule set. -/
theorem result_afterEdits {identity : Nat} {record : Record} {overrides : Overrides}
    (created : create registry (contents.shared identity) record overrides = .ok f)
    (edits : List Edit) :
    let g := f.afterEdits contents edits
    registry.evaluate g.record g.rules.content.parsed g.overrides = .ok g.result ∧
      ∀ i, (g.cache.fetch (contents.shared i)).parsed.rules = (contents i).parsed := by
  intro g
  have edited : g.Edited contents registry := (edited_create created).afterEdits edits
  refine ⟨edited.fresh.current, fun i => ?_⟩
  exact RuleCache.parsed_fetch edited.fresh.sound (edited.agrees i)

/-- Rules that are refused between two edits, and older rules that come back. -/
theorem result_afterEdits_older_rules :
    let contents : Contents := fun i =>
      .ofList [("name", if i = 0 then "required|min:3" else "slug")]
    ∃ f, create .standard (contents.shared 0) .empty .empty = .ok f ∧
      let g := f.afterEdits contents [.rules 1, .value "name" (.text "Jo"), .rules 0]
      Registry.standard.evaluate g.record g.rules.content.parsed g.overrides = .ok g.result ∧
        ∀ i, (g.cache.fetch (contents.shared i)).parsed.rules = (contents i).parsed := by
  intro contents
  have checked : Registry.standard.checkRules (contents.shared 0).content.parsed = .ok () :=
    Registry.checkRules_eq_ok_of_contains _ _ (by decide)
  obtain ⟨f, created⟩ := exists_create_eq_ok checked .empty .empty
  exact ⟨f, created, result_afterEdits created _⟩

/-! ## Refusals -/

/-- After any edits, replacing the record, a value or the overrides is always done, and replacing
the rules is done unless their check fails.  Then the form keeps all it has and tells why the check
failed.  An edit that is done replaces its input, and one value in place if it replaces a value.
Making a form fails as the check of its rules does. -/
theorem edits_made_or_refused {identity : Nat} {record : Record} {overrides : Overrides}
    (created : create registry (contents.shared identity) record overrides = .ok f)
    (edits : List Edit) :
    let g := f.afterEdits contents edits
    (∀ record, (g.setRecord record).Made g.rules record g.overrides) ∧
    (∀ overrides, (g.setOverrides overrides).Made g.rules g.record overrides) ∧
    (∀ field value, ∃ record, (g.setValue field value).Made g.rules record g.overrides ∧
      record.keys = (if field ∈ g.record.keys then g.record.keys else g.record.keys ++ [field]) ∧
      ∀ k, record.get? k = if field = k then some value else g.record.get? k) ∧
    (∀ i, match registry.checkRules (contents i).parsed with
      | .ok () =>
        (g.setRules (contents.shared i)).Made (contents.shared i) g.record g.overrides
      | .error e => (g.setRules (contents.shared i)).Refused g e) ∧
    ∀ shared record overrides e, create registry shared record overrides = .error e ↔
      registry.checkRules shared.content.parsed = .error e := by
  intro g
  have edited : g.Edited contents registry := (edited_create created).afterEdits edits
  refine ⟨fun record => edited.fresh.change_own_made record g.overrides,
    fun overrides => edited.fresh.change_own_made g.record overrides, ?_, ?_, ?_⟩
  · intro field value
    exact ⟨g.record.insert field value, edited.fresh.change_own_made _ g.overrides,
      g.record.keys_upsert field _, g.record.get?_insert field value⟩
  · intro i
    have agrees := edited.agrees i
    cases hcheck : registry.checkRules (contents i).parsed with
    | ok _ => exact edited.fresh.change_made agrees hcheck g.record g.overrides
    | error e => exact edited.fresh.change_refused agrees hcheck g.record g.overrides
  · intro shared record overrides e
    rw [← map_create registry shared record overrides]
    cases create registry shared record overrides <;> simp [Except.map]

/-- Rules with an unknown validator are refused again after edits, and a record is still taken. -/
theorem edits_made_or_refused_slug :
    let contents : Contents := fun i =>
      .ofList [("name", if i = 0 then "required|min:3" else "slug")]
    ∃ f, create .standard (contents.shared 0) .empty .empty = .ok f ∧
      let g := f.afterEdits contents [.rules 1, .value "name" (.text "Jo")]
      (g.setRecord .empty).Made g.rules .empty g.overrides ∧
        (g.setRules (contents.shared 1)).Refused g ⟨"name", "slug"⟩ := by
  intro contents
  have checked : Registry.standard.checkRules (contents.shared 0).content.parsed = .ok () :=
    Registry.checkRules_eq_ok_of_contains _ _ (by decide)
  have unknown : Registry.standard.checkRules (contents 1).parsed = .error ⟨"name", "slug"⟩ := by
    rfl
  obtain ⟨f, created⟩ := exists_create_eq_ok checked .empty .empty
  obtain ⟨taken, -, -, rules, -⟩ :=
    edits_made_or_refused created [.rules 1, .value "name" (.text "Jo")]
  have refused := rules 1
  rw [unknown] at refused
  exact ⟨f, created, taken .empty, refused⟩

end Form

end FormRules
