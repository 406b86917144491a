import FormRules.OrderedMap

/-!
# Error lists

A pass over a form collects messages by field.  Fields stand in the order of
their first message, and the messages of a field in the order in which they came.
A field without messages is not listed.

The *result* of a pass is its error list, and a form is valid if it is empty.
-/

namespace FormRules

/-- The messages of every field that has one. -/
structure Errors where
  /-- The messages, by field. -/
  byField : OrderedMap (List String)
deriving DecidableEq

namespace Errors

/-- No messages. -/
def empty : Errors := ⟨.empty⟩

/-- Adds a message to a field. -/
def add (e : Errors) (field message : String) : Errors :=
  ⟨e.byField.upsert field fun earlier => earlier.getD [] ++ [message]⟩

/-- Adds messages, first to last, each to its field. -/
def addAll (e : Errors) (messages : List (String × String)) : Errors :=
  messages.foldl (fun acc m => acc.add m.1 m.2) e

/-- The fields with their messages, in order. -/
def entries (e : Errors) : List (String × List String) := e.byField.entries

/-- Every message, field by field. -/
def all (e : Errors) : List String := e.byField.values.flatten

/-- The messages of a field. -/
def get (e : Errors) (field : String) : List String := (e.byField.get? field).getD []

/-- The first message of a field. -/
def first? (e : Errors) (field : String) : Option String := (e.get field).head?

/-- Whether a field has a message. -/
def has (e : Errors) (field : String) : Bool := e.byField.contains field

/-- The fields with messages, in order. -/
def fields (e : Errors) : List String := e.byField.keys

/-- The number of messages. -/
def count (e : Errors) : Nat := e.byField.values.foldl (fun n messages => n + messages.length) 0

/-- Whether there is no message. -/
def isEmpty (e : Errors) : Bool := e.byField.isEmpty

end Errors

/-- What a pass over a form gives. -/
structure Result where
  /-- The messages of the pass. -/
  errors : Errors
deriving DecidableEq

namespace Result

/-- Whether the form is valid. -/
def valid (r : Result) : Bool := r.errors.isEmpty

end Result

end FormRules
