import EdgeMeter.Text.Ranges
import EdgeMeter.Text.Utf8

/-!
# Blank text

* `whiteRanges`, `isWhite`: the characters with the property White_Space;
* `isBlank`: whether a string of bytes is text of white space only. Bytes that are not UTF-8 are
  not blank, whatever stands between them.
-/

namespace EdgeMeter.Text

def whiteRanges : List (Nat × Nat) :=
  [(0x9, 0xD), (0x20, 0x20), (0x85, 0x85), (0xA0, 0xA0), (0x1680, 0x1680), (0x2000, 0x200A),
   (0x2028, 0x2029), (0x202F, 0x202F), (0x205F, 0x205F), (0x3000, 0x3000)]

/-- Whether a character is white space. -/
def isWhite (c : Char) : Bool := inRanges whiteRanges c

/-- Whether the bytes are UTF-8 text of white space only, possibly empty. -/
def isBlank (bs : Bytes) : Bool :=
  match Utf8.decode? bs with
  | some cs => cs.all isWhite
  | none => false

end EdgeMeter.Text
