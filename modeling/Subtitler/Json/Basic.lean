import Subtitler.Number.Binary

/-!
# JSON values

A number is an integer or a floating-point number. The fields of an object keep their order, and
a name may occur twice: whether that is an error is up to the reader of the record. Some values can
be written but not read; a reader that does not ask for them passes them over.
-/

namespace Subtitler

/-- A JSON number. -/
inductive JsonNumber
  | integer (n : Int)
  | real (x : Binary)
deriving DecidableEq, Repr, Inhabited

/-- A JSON value. -/
inductive Json
  | null
  | bool (b : Bool)
  | number (n : JsonNumber)
  | text (s : String)
  | array (items : List Json)
  | object (fields : List (String × Json))
  | unreadable
deriving Repr, Inhabited

namespace Json

/-- An integer. -/
def int (n : Int) : Json := .number (.integer n)

/-- A natural number. -/
def nat (n : Nat) : Json := .int n

/-- A text, or null. -/
def optionalText : Option String → Json
  | some s => .text s
  | none => .null

/-- A value, or null. -/
def optional {α : Type} (f : α → Json) : Option α → Json
  | some a => f a
  | none => .null

/-- The last field of a name: later fields replace earlier ones. -/
def field? (name : String) : Json → Option Json
  | .object fields => (fields.reverse.find? (·.1 == name)).map (·.2)
  | _ => none

end Json

end Subtitler
