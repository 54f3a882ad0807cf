import Subtitler.Json.Basic

/-!
# Records in JSON

A record is written as an object, or as an array of its fields in order. In an object a name that
the record does not know is passed over, and a name that occurs twice makes the record invalid.
An array has exactly one item per field. A tagged record has its kind in a field of its own, or as
the first item of its array; nothing in it may be unreadable, not even what is passed over.
-/

namespace Subtitler.Json

/-! ## Plain values -/

/-- A text. -/
def text? : Json → Option String
  | .text s => some s
  | _ => none

/-- A truth value. -/
def bool? : Json → Option Bool
  | .bool b => some b
  | _ => none

/-- An integer below a bound. -/
def natBelow? (bound : Nat) : Json → Option Nat
  | .number (.integer n) => if 0 ≤ n ∧ n.toNat < bound then some n.toNat else none
  | _ => none

/-- A count of 32 bits. -/
def word32? (value : Json) : Option UInt32 := (natBelow? UInt32.size value).map UInt32.ofNat

/-- A number of the 32-bit format: an integer is rounded once, a float from the 64-bit format. -/
def single? : Json → Option Binary
  | .number (.integer n) => some (Binary.ofInt .single n)
  | .number (.real x) => some (x.convert .single)
  | _ => none

/-- The items of an array, each read by `f`. -/
def list? {α : Type} (f : Json → Option α) : Json → Option (List α)
  | .array items => items.mapM f
  | _ => none

/-- A value that may be null. -/
def nullable? {α : Type} (f : Json → Option α) : Json → Option (Option α)
  | .null => some none
  | value => (f value).map some

/-- The name of a choice: a text, or an object whose only field has the name and null. -/
def choice? : Json → Option String
  | .text s => some s
  | .object [(name, .null)] => some name
  | _ => none

/-! ## Fields -/

/-- The values of one name. -/
def valuesOf (name : String) (fields : List (String × Json)) : List Json :=
  (fields.filter (·.1 == name)).map (·.2)

/-- The field of one name in a record that has it at most once. -/
def slot? (name : String) (fields : List (String × Json)) : Option (Option Json) :=
  match valuesOf name fields with
  | [] => some none
  | [value] => some (some value)
  | _ => none

/-- The fields of a record in the order of its names, `none` for an absent one. -/
def record? (names : List String) : Json → Option (List (Option Json))
  | .object fields => names.mapM fun name => slot? name fields
  | .array items => if items.length = names.length then some (items.map some) else none
  | _ => none

/-- A field that has to be there. -/
def required {α : Type} (f : Json → Option α) (slot : Option Json) : Option α := slot.bind f

/-- A field that may be absent or null. -/
def maybe {α : Type} (f : Json → Option α) : Option Json → Option (Option α)
  | none => some none
  | some value => nullable? f value

mutual

/-- Whether a value has nothing unreadable in it. -/
def isReadable : Json → Bool
  | .unreadable => false
  | .array items => areReadable items
  | .object fields => fieldsReadable fields
  | _ => true

/-- Whether items have nothing unreadable in them. -/
def areReadable : List Json → Bool
  | [] => true
  | item :: rest => isReadable item && areReadable rest

/-- Whether fields have nothing unreadable in them. -/
def fieldsReadable : List (String × Json) → Bool
  | [] => true
  | (_, value) :: rest => isReadable value && fieldsReadable rest

end

/-- The kind of a tagged record, and the record without it. -/
def tagged? (tag : String) (value : Json) : Option (String × Json) :=
  match value with
  | .object fields => do
    let kind ← (← slot? tag fields).bind text?
    if value.isReadable then some (kind, .object (fields.filter (·.1 != tag))) else none
  | .array (.text kind :: items) => if value.isReadable then some (kind, .array items) else none
  | _ => none

end Subtitler.Json
