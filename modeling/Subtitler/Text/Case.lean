import Subtitler.Text.CaseTable

/-!
# Lower case

Lowering follows Unicode: each character has its simple mapping, `İ` becomes two characters, and
a capital sigma at the end of a word becomes the final sigma. A sigma ends a word when a cased
character stands before it and none after it, case-ignorable characters skipped on both sides.
-/

namespace Subtitler.Text

open CaseTable

/-- Whether a code point lies in one of the ranges. -/
def inRanges (ranges : Array (Nat × Nat)) (n : Nat) : Bool :=
  ranges.any fun (first, last) => first ≤ n && n ≤ last

/-- The property `Cased`. -/
def isCased (c : Char) : Bool := inRanges casedRanges c.toNat

/-- The property `Case_Ignorable`. -/
def isCaseIgnorable (c : Char) : Bool := inRanges ignorableRanges c.toNat

/-- The simple lower-case mapping of a code point. -/
def shiftDown (n : Nat) : Nat :=
  match shifts.find? fun s => s.first ≤ n && n ≤ s.last && (n - s.first) % s.step == 0 with
  | some s => (n + s.shift).toNat
  | none => n

/-- The lower case of a character that does not depend on its neighbours. -/
def lowerChar (c : Char) : List Char :=
  if c.toNat < 0x80 then [c.toLower]
  else if c.toNat = 0x130 then ['i', Char.ofNat 0x307]
  else [Char.ofNat (shiftDown c.toNat)]

/-- Whether the first character that is not case-ignorable is cased. -/
def meetsCased (cs : List Char) : Bool :=
  match cs.dropWhile isCaseIgnorable with
  | [] => false
  | c :: _ => isCased c

/-- Lowers a text, given what stands before it in reverse. -/
def lowerAfter : List Char → List Char → List Char
  | _, [] => []
  | before, c :: rest =>
    let lowered :=
      if c.toNat = 0x3A3 then
        if meetsCased before && !meetsCased rest then [Char.ofNat 0x3C2] else [Char.ofNat 0x3C3]
      else lowerChar c
    lowered ++ lowerAfter (c :: before) rest

/-- The lower case of a text. -/
def lower (cs : List Char) : List Char := lowerAfter [] cs

/-- The lower case of a `String`. -/
def lowered (s : String) : String := String.ofList (lower s.toList)

end Subtitler.Text
