import FormRules.RuleCache

/-!
# What the cache gives

The cache compares identities and never looks at what expressions say.  It gives
the right rule set for two reasons (`parsed_fetch`).

* It is *sound*: the rule set in it is the one its source writes.  Every fetch
  keeps that.
* It *agrees* with the expressions it is asked for: if its source has their
  identity, it says what they say.

Whether a fetch reads anything is a matter of identities alone (`parses_fetch`).
-/

namespace FormRules

/-- Shared expressions that say the same if they have one identity. -/
def SharedExpressions.Agrees (a b : SharedExpressions) : Prop :=
  a.identity = b.identity → a.content = b.content

namespace RuleCache

/-- The rule set in the cache is the one its source writes. -/
def Sound (c : RuleCache) : Prop :=
  ∀ source, c.source = some source → c.parsed.rules = source.content.parsed

/-- The source of the cache agrees with shared expressions. -/
def Agrees (c : RuleCache) (shared : SharedExpressions) : Prop :=
  ∀ source, c.source = some source → source.Agrees shared

theorem sound_empty : empty.Sound := by
  intro source h
  cases h

theorem agrees_empty (shared : SharedExpressions) : empty.Agrees shared := by
  intro source h
  cases h

theorem holds_iff (c : RuleCache) (shared : SharedExpressions) :
    c.holds shared = true ↔
      ∃ source, c.source = some source ∧ source.identity = shared.identity := by
  simp [holds, Option.any_eq_true]

theorem fetch_of_holds {c : RuleCache} {shared : SharedExpressions} (h : c.holds shared = true) :
    c.fetch shared = c := by
  rw [fetch, if_pos h]

theorem fetch_of_not_holds {c : RuleCache} {shared : SharedExpressions}
    (h : ¬ c.holds shared = true) :
    c.fetch shared =
      ⟨some shared, ⟨c.parses + 1, shared.content.parsed⟩, c.parses + 1⟩ := by
  rw [fetch, if_neg h]

/-- The identity of the expressions that were read last. -/
def identity? (c : RuleCache) : Option Nat := c.source.map SharedExpressions.identity

theorem holds_iff_identity? (c : RuleCache) (shared : SharedExpressions) :
    c.holds shared = true ↔ c.identity? = some shared.identity := by
  rw [holds_iff, identity?, Option.map_eq_some_iff]

/-- A fetch leaves the identity that it was asked for in the cache. -/
@[simp] theorem identity?_fetch (c : RuleCache) (shared : SharedExpressions) :
    (c.fetch shared).identity? = some shared.identity := by
  by_cases h : c.holds shared = true
  · rw [fetch_of_holds h]
    exact (holds_iff_identity? c shared).1 h
  · rw [fetch_of_not_holds h]
    rfl

theorem holds_fetch_iff (c : RuleCache) (a b : SharedExpressions) :
    (c.fetch a).holds b = true ↔ a.identity = b.identity := by
  rw [holds_iff_identity?, identity?_fetch, Option.some.injEq]

/-- A fetch reads the expressions once, unless their identity is in the cache. -/
theorem parses_fetch (c : RuleCache) (shared : SharedExpressions) :
    (c.fetch shared).parses =
      c.parses + if c.identity? = some shared.identity then 0 else 1 := by
  by_cases h : c.holds shared = true
  · rw [fetch_of_holds h, if_pos ((holds_iff_identity? c shared).1 h), Nat.add_zero]
  · rw [fetch_of_not_holds h, if_neg (mt (holds_iff_identity? c shared).2 h)]

/-- A sound cache that agrees with expressions gives the rule set they write. -/
theorem parsed_fetch {c : RuleCache} {shared : SharedExpressions} (sound : c.Sound)
    (agrees : c.Agrees shared) : (c.fetch shared).parsed.rules = shared.content.parsed := by
  by_cases h : c.holds shared = true
  · rw [fetch_of_holds h]
    obtain ⟨source, hsource, hidentity⟩ := (c.holds_iff shared).1 h
    rw [sound source hsource, agrees source hsource hidentity]
  · rw [fetch_of_not_holds h]

theorem Sound.fetch {c : RuleCache} (sound : c.Sound) (shared : SharedExpressions) :
    (c.fetch shared).Sound := by
  by_cases h : c.holds shared = true
  · rw [fetch_of_holds h]
    exact sound
  · rw [fetch_of_not_holds h]
    intro source hsource
    cases hsource
    rfl

/-- A fetch brings no expressions into the cache but those it is asked for. -/
theorem source_fetch {c : RuleCache} {shared source : SharedExpressions}
    (h : (c.fetch shared).source = some source) : c.source = some source ∨ source = shared := by
  by_cases hc : c.holds shared = true
  · rw [fetch_of_holds hc] at h
    exact .inl h
  · rw [fetch_of_not_holds hc] at h
    cases h
    exact .inr rfl

theorem Agrees.fetch {c : RuleCache} {shared other : SharedExpressions} (agrees : c.Agrees other)
    (h : shared.Agrees other) : (c.fetch shared).Agrees other := by
  intro source hsource
  rcases source_fetch hsource with hold | rfl
  · exact agrees source hold
  · exact h

end RuleCache

end FormRules
