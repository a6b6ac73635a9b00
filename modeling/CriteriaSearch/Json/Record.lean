import CriteriaSearch.Json.Basic

/-!
# Records in JSON documents

A record with named fields is written as an object, or as an array of its fields in their order.
An object may hold fields of other names, which are ignored, but no field of the record twice. An
array may be cut short, but not hold more items than there are fields.
-/

namespace CriteriaSearch

inductive Slot where
  | given (value : Json)
  | missing
  /-- The array ends before this field. -/
  | cutOff

namespace Slot

def required {α : Type} (read : Json → Option α) : Slot → Option α
  | .given v => read v
  | _ => none

/-- A field that is null or missing for no value, and may not be cut off. -/
def nullable {α : Type} (read : Json → Option α) : Slot → Option (Option α)
  | .given .null => some none
  | .given v => (read v).map some
  | .missing => some none
  | .cutOff => none

/-- A field that is null or not given for no value. -/
def optional {α : Type} (read : Json → Option α) : Slot → Option (Option α)
  | .given .null => some none
  | .given v => (read v).map some
  | _ => some none

/-- A field with a default, which null does not stand for. -/
def orElse {α : Type} (default : α) (read : Json → Option α) : Slot → Option α
  | .given v => read v
  | _ => some default

/-- A field with a default, for which null stands too. -/
def orNull {α : Type} (default : α) (read : Json → Option α) : Slot → Option α
  | .given .null => some default
  | .given v => read v
  | _ => some default

end Slot

namespace Json

def slotOf (fields : List (String × Json)) (name : String) : Slot :=
  match fields.lookup name with
  | some v => .given v
  | none => .missing

def slotAt (items : List Json) (i : Nat) : Slot :=
  match items[i]? with
  | some v => .given v
  | none => .cutOff

def unique (fields : List (String × Json)) (name : String) : Bool :=
  (fields.filter fun field => field.1 == name).length ≤ 1

def slots? (names : List String) : Json → Option (List Slot)
  | .object fields =>
    if names.all (unique fields) then some (names.map (slotOf fields)) else none
  | .array items =>
    if items.length ≤ names.length then some ((List.range names.length).map (slotAt items))
    else none
  | _ => none

def list? {α : Type} (read : Json → Option α) : Json → Option (List α)
  | .array items => items.mapM read
  | _ => none

/-- A tag and what it describes: two fields of an object, or the two items of an array. -/
def tagged? (tag content : String) (j : Json) : Option (String × Json) := do
  match ← j.slots? [tag, content] with
  | [kind, value] => some (← kind.required text?, ← value.required some)
  | _ => none

/-- The name that stands for a choice without parts: a text, or an object whose only field has
that name and the value null. -/
def choice? : Json → Option String
  | .text s => some s
  | .object [(name, .null)] => some name
  | _ => none

end Json

end CriteriaSearch
