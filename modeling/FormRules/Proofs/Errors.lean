import FormRules.Evaluation.Errors
import FormRules.Proofs.OrderedMap

/-!
# Collecting messages

Messages are added one at a time, each to its field.

*In any order.*  Whatever messages were added and in whatever order, the list
tells all of them and no other (`records_addAll`): those of a field in the order
in which they came, and the fields in the order of their first message.  Every
view of the list is settled by what one more message does to the messages of a
field (`get_add`), to the fields and to the count.

*Field by field.*  Messages that come field by field make one entry for every
field that has any (`entries_addAll_spread`): the entries of the list are the
blocks of messages that are not empty, in order.
-/

namespace FormRules

/-- A result is told by the entries of its error list. -/
theorem Result.eq_of_entries_eq {r s : Result} (h : r.errors.entries = s.errors.entries) :
    r = s := by
  obtain ⟨⟨m⟩⟩ := r
  obtain ⟨⟨n⟩⟩ := s
  have hmap : m = n := OrderedMap.ext h
  rw [hmap]

namespace Errors

/-- The messages of fields, one after the other, each with its field. -/
def spread (blocks : List (String × List String)) : List (String × String) :=
  blocks.flatMap fun b => b.2.map fun message => (b.1, message)

theorem entries_add (e : Errors) (field message : String) :
    (e.add field message).entries =
      Entries.upsert field (fun earlier => earlier.getD [] ++ [message]) e.entries := rfl

theorem addAll_cons (e : Errors) (m : String × String) (ms : List (String × String)) :
    e.addAll (m :: ms) = (e.add m.1 m.2).addAll ms := rfl

theorem addAll_append (e : Errors) (ms ns : List (String × String)) :
    e.addAll (ms ++ ns) = (e.addAll ms).addAll ns := List.foldl_append

theorem isEmpty_eq_isEmpty_fields (e : Errors) : e.isEmpty = e.fields.isEmpty := by
  rw [fields, OrderedMap.keys, List.isEmpty_map]
  rfl

/-! ## One message more -/

theorem get_add (e : Errors) (field message key : String) :
    (e.add field message).get key = e.get key ++ if field = key then [message] else [] := by
  rw [get, get, add, OrderedMap.get?_upsert]
  split
  case isTrue h =>
    subst h
    rfl
  case isFalse => rw [List.append_nil]

theorem length_flatten_upsert (field message : String) (es : List (String × List String)) :
    ((Entries.upsert field (fun earlier => earlier.getD [] ++ [message]) es).map
      Prod.snd).flatten.length = (es.map Prod.snd).flatten.length + 1 := by
  induction es with
  | nil => rfl
  | cons b rest ih =>
    obtain ⟨key, messages⟩ := b
    rw [Entries.upsert]
    split
    case isTrue =>
      simp only [List.map_cons, List.flatten_cons, List.length_append, Option.getD_some,
        List.length_singleton]
      omega
    case isFalse =>
      simp only [List.map_cons, List.flatten_cons, List.length_append, ih]
      omega

theorem length_all_add (e : Errors) (field message : String) :
    (e.add field message).all.length = e.all.length + 1 :=
  length_flatten_upsert field message e.entries

/-! ## All messages -/

/-- The messages of the list are those of its fields, one after the other. -/
theorem all_eq_flatMap_get (e : Errors) : e.all = e.fields.flatMap e.get := by
  rw [all, OrderedMap.values, fields, OrderedMap.keys, List.flatMap_map, ← List.flatMap_id',
    List.flatMap_map]
  refine List.flatMap_congr fun b hb => ?_
  rw [get, (e.byField.mem_entries_iff b.1 b.2).1 hb, Option.getD_some]

theorem count_eq_length_all (e : Errors) : e.count = e.all.length := by
  rw [count, all, List.length_flatten, List.sum_eq_foldl, List.foldl_map]

/-! ## Any messages -/

/-- The messages of a field are followed by those that are added to it. -/
theorem get_addAll (e : Errors) (messages : List (String × String)) (field : String) :
    (e.addAll messages).get field =
      e.get field ++ (messages.filter fun m => m.1 = field).map Prod.snd := by
  induction messages generalizing e with
  | nil => exact (List.append_nil _).symm
  | cons m rest ih =>
    rw [addAll_cons, ih, get_add, List.append_assoc, List.filter_cons]
    simp only [decide_eq_true_eq]
    split <;> rfl

theorem get_addAll_empty (messages : List (String × String)) (field : String) :
    (empty.addAll messages).get field = (messages.filter fun m => m.1 = field).map Prod.snd :=
  get_addAll empty messages field

theorem fields_addAll (messages : List (String × String)) :
    (empty.addAll messages).fields = (messages.map Prod.fst).eraseDups := by
  have hmap : (empty.addAll messages).byField = messages.foldl
      (fun byField m => byField.upsert m.1 fun earlier => earlier.getD [] ++ [m.2]) .empty :=
    (List.foldl_hom byField fun _ _ => rfl).symm
  rw [fields, hmap, OrderedMap.keys_foldl_upsert]

theorem length_all_addAll (e : Errors) (messages : List (String × String)) :
    (e.addAll messages).all.length = e.all.length + messages.length := by
  induction messages generalizing e with
  | nil => rfl
  | cons m rest ih => rw [addAll_cons, ih, length_all_add, List.length_cons, Nat.add_right_comm,
      Nat.add_assoc]

theorem has_addAll_iff (messages : List (String × String)) (field : String) :
    (empty.addAll messages).has field = true ↔ ∃ message, (field, message) ∈ messages := by
  rw [has, OrderedMap.contains_iff, ← fields, fields_addAll, List.mem_eraseDups, List.mem_map]
  simp

/-- A field is listed if it has a message. -/
theorem has_addAll_iff_get (messages : List (String × String)) (field : String) :
    (empty.addAll messages).has field = true ↔ (empty.addAll messages).get field ≠ [] := by
  rw [has_addAll_iff, get_addAll_empty, ne_eq, List.map_eq_nil_iff, List.filter_eq_nil_iff]
  simp

theorem isEmpty_addAll_iff (messages : List (String × String)) :
    (empty.addAll messages).isEmpty = true ↔ messages = [] := by
  rw [isEmpty_eq_isEmpty_fields, fields_addAll]
  cases messages with
  | nil => simp
  | cons m rest => simp [List.eraseDups_cons]

/-- What an error list tells of the messages that were added to it, one after the other. -/
structure Records (e : Errors) (messages : List (String × String)) : Prop where
  /-- A field has the messages that were added to it, in order. -/
  get_eq : ∀ field, e.get field = (messages.filter fun m => m.1 = field).map Prod.snd
  /-- The fields stand in the order of their first message. -/
  fields_eq : e.fields = (messages.map Prod.fst).eraseDups
  nodup_fields : e.fields.Nodup
  all_eq : e.all = e.fields.flatMap e.get
  count_eq : e.count = messages.length
  first?_eq : ∀ field, e.first? field = (messages.find? fun m => m.1 = field).map Prod.snd
  has_iff : ∀ field, e.has field = true ↔ ∃ message, (field, message) ∈ messages
  has_iff_get : ∀ field, e.has field = true ↔ e.get field ≠ []
  /-- No field is listed without a message. -/
  filled : ∀ b ∈ e.entries, b.2 ≠ []
  isEmpty_iff : e.isEmpty = true ↔ messages = []
  valid_iff : (Result.mk e).valid = true ↔ messages = []

/-- Whatever messages are added to the empty list, it tells all of them and no other, and all its
views agree. -/
theorem records_addAll (messages : List (String × String)) :
    (empty.addAll messages).Records messages where
  get_eq := get_addAll_empty messages
  fields_eq := fields_addAll messages
  nodup_fields := (empty.addAll messages).byField.nodup
  all_eq := all_eq_flatMap_get _
  count_eq := by
    rw [count_eq_length_all, length_all_addAll]
    exact Nat.zero_add _
  first?_eq := by
    intro field
    rw [first?, get_addAll_empty, List.head?_map, List.head?_filter]
  has_iff := has_addAll_iff messages
  has_iff_get := has_addAll_iff_get messages
  filled := by
    intro b hb
    have hb := (OrderedMap.mem_entries_iff _ b.1 b.2).1 hb
    have hget : (empty.addAll messages).get b.1 = b.2 := by rw [get, hb, Option.getD_some]
    have hhas : (empty.addAll messages).has b.1 = true := by rw [has, OrderedMap.contains, hb]; rfl
    rw [← hget]
    exact (has_addAll_iff_get messages b.1).1 hhas
  isEmpty_iff := isEmpty_addAll_iff messages
  valid_iff := isEmpty_addAll_iff messages

/-! ## Field by field -/

/-- Messages for the field that has the last entry all go to that entry. -/
theorem entries_addAll_last {field : String} {es : List (String × List String)}
    (fresh : field ∉ es.map Prod.fst) (messages : List String) :
    ∀ {e : Errors} {earlier : List String}, e.entries = es ++ [(field, earlier)] →
      (e.addAll (messages.map fun m => (field, m))).entries =
        es ++ [(field, earlier ++ messages)] := by
  induction messages with
  | nil =>
    intro e earlier h
    rw [List.append_nil]
    exact h
  | cons m ms ih =>
    intro e earlier h
    have hadd : (e.add field m).entries = es ++ [(field, earlier ++ [m])] := by
      rw [entries_add, h, Entries.upsert_append_of_not_mem fresh]
      simp [Entries.upsert]
    rw [List.map_cons, addAll_cons, ih hadd, List.append_assoc, List.singleton_append]

/-- Messages for a new field make one entry at the end, if there are any. -/
theorem entries_addAll_block {e : Errors} {field : String} (fresh : field ∉ e.fields)
    (messages : List String) :
    (e.addAll (messages.map fun m => (field, m))).entries =
      e.entries ++ if messages.isEmpty then [] else [(field, messages)] := by
  cases messages with
  | nil => simp [addAll]
  | cons m ms =>
    have hadd : (e.add field m).entries = e.entries ++ [(field, [m])] := by
      have h := Entries.upsert_append_of_not_mem fresh
        (fun earlier => Option.getD earlier [] ++ [m]) []
      rw [List.append_nil] at h
      rw [entries_add]
      exact h
    rw [List.map_cons, addAll_cons, entries_addAll_last fresh ms hadd]
    rfl

theorem mem_fields_of_mem_fields_addAll_block {e : Errors} {field : String}
    (fresh : field ∉ e.fields) (messages : List String) {key : String}
    (h : key ∈ (e.addAll (messages.map fun m => (field, m))).fields) :
    key ∈ e.fields ∨ key = field := by
  have h' : key ∈ (e.addAll (messages.map fun m => (field, m))).entries.map Prod.fst := h
  rw [entries_addAll_block fresh, List.map_append, List.mem_append] at h'
  rcases h' with h' | h'
  · exact .inl h'
  · split at h'
    · cases h'
    · exact .inr (List.mem_singleton.1 h')

/-- Messages added field by field make the entries of those fields that have any. -/
theorem entries_addAll_spread (blocks : List (String × List String)) :
    ∀ {e : Errors}, (blocks.map Prod.fst).Nodup → (∀ b ∈ blocks, b.1 ∉ e.fields) →
      (e.addAll (spread blocks)).entries = e.entries ++ blocks.filter fun b => !b.2.isEmpty := by
  induction blocks with
  | nil =>
    intro e _ _
    exact (List.append_nil _).symm
  | cons b bs ih =>
    intro e nodup fresh
    obtain ⟨field, messages⟩ := b
    rw [List.map_cons, List.nodup_cons] at nodup
    have hfield : field ∉ e.fields := fresh (field, messages) List.mem_cons_self
    have later : ∀ b ∈ bs, b.1 ∉ (e.addAll (messages.map fun m => (field, m))).fields := by
      intro b hb hmem
      rcases mem_fields_of_mem_fields_addAll_block hfield messages hmem with h | h
      · exact fresh b (List.mem_cons_of_mem _ hb) h
      · have hmap : b.1 ∈ bs.map Prod.fst := List.mem_map_of_mem hb
        exact nodup.1 (h ▸ hmap)
    have hspread : spread ((field, messages) :: bs) =
        (messages.map fun m => (field, m)) ++ spread bs := List.flatMap_cons
    rw [hspread, addAll_append, ih nodup.2 later, entries_addAll_block hfield, List.append_assoc]
    cases messages <;> rfl

/-- Blocks without messages can be left out: a field without an entry has no messages either. -/
theorem getD_find?_filter (field : String) {blocks : List (String × List String)}
    (nodup : (blocks.map Prod.fst).Nodup) :
    (Entries.find? field (blocks.filter fun b => !b.2.isEmpty)).getD [] =
      (Entries.find? field blocks).getD [] := by
  induction blocks with
  | nil => rfl
  | cons b rest ih =>
    obtain ⟨key, messages⟩ := b
    rw [List.map_cons, List.nodup_cons] at nodup
    cases messages with
    | cons m ms =>
      rw [List.filter_cons_of_pos (by rfl), Entries.find?, Entries.find?]
      split
      · rfl
      · exact ih nodup.2
    | nil =>
      rw [List.filter_cons_of_neg (by simp), ih nodup.2, Entries.find?]
      split
      · next hkey =>
        have hrest : Entries.find? field rest = none := by
          rw [Entries.find?_eq_none_iff, ← hkey]
          exact nodup.1
        rw [hrest]
        rfl
      · rfl

end Errors

end FormRules
