/-!
# UTF-8

Byte strings need not be text. Reading one as UTF-8 cuts it into segments: characters, and between
them ill-formed stretches, each as long as it could still have begun a character.

* `Bytes`, `Bytes.ofString`;
* `Utf8.Segment`, `Utf8.segments`: the bytes cut up, nothing lost;
* `Utf8.decode?`: the characters of a well-formed string of bytes;
* `Utf8.lossy`: text for display, with U+FFFD for every ill-formed stretch.
-/

namespace EdgeMeter

abbrev Bytes := List UInt8

namespace Utf8

/-- The encoding of a list of characters. -/
def encode (cs : List Char) : Bytes := cs.flatMap String.utf8EncodeChar

/-- What a first byte of two or more announces: its own bits, the number of bytes that follow, and
the range of the next one. Later ones lie between `0x80` and `0xBF`. -/
structure Lead where
  bits : Nat
  follow : Nat
  low : UInt8
  high : UInt8

/-- **The first bytes.** The ranges for the second byte leave out overlong forms, surrogates and
code points above U+10FFFF. -/
def lead? (b : UInt8) : Option Lead :=
  if b < 0x80 then some ⟨b.toNat, 0, 0x80, 0xBF⟩
  else if b < 0xC2 then none
  else if b < 0xE0 then some ⟨b.toNat - 0xC0, 1, 0x80, 0xBF⟩
  else if b < 0xF0 then
    some ⟨b.toNat - 0xE0, 2, if b = 0xE0 then 0xA0 else 0x80, if b = 0xED then 0x9F else 0xBF⟩
  else if b < 0xF5 then
    some ⟨b.toNat - 0xF0, 3, if b = 0xF0 then 0x90 else 0x80, if b = 0xF4 then 0x8F else 0xBF⟩
  else none

/-- The longest beginning, of at most so many bytes, that continues a character. -/
def following : Nat → UInt8 → UInt8 → Bytes → Bytes
  | n + 1, low, high, b :: rest =>
    if low ≤ b && b ≤ high then b :: following n 0x80 0xBF rest else []
  | _, _, _, _ => []

/-- A character, or a stretch of bytes that is none. -/
inductive Segment where
  | char (c : Char)
  | broken (bytes : Bytes)
deriving DecidableEq

def Segment.bytes : Segment → Bytes
  | .char c => String.utf8EncodeChar c
  | .broken bs => bs

/-- The segment that begins with the byte `b`, and how many bytes it takes after that. -/
def segmentAt (b : UInt8) (rest : Bytes) : Segment × Nat :=
  match lead? b with
  | none => (.broken [b], 0)
  | some lead =>
    let taken := following lead.follow lead.low lead.high rest
    if taken.length = lead.follow then
      (.char (.ofNat (taken.foldl (fun v t => 64 * v + (t.toNat - 0x80)) lead.bits)), taken.length)
    else (.broken (b :: taken), taken.length)

/-- **The segments of a string of bytes**, in order. -/
def segments : Bytes → List Segment
  | [] => []
  | b :: rest => (segmentAt b rest).1 :: segments (rest.drop (segmentAt b rest).2)
termination_by bs => bs.length
decreasing_by simp only [List.length_drop, List.length_cons]; omega

/-- The character of a segment that is one. -/
def Segment.char? : Segment → Option Char
  | .char c => some c
  | .broken _ => none

/-- The characters of the bytes, if they are well-formed throughout. -/
def decode? (bs : Bytes) : Option (List Char) := (segments bs).mapM Segment.char?

/-- The bytes as text, every ill-formed stretch shown as U+FFFD. -/
def lossy (bs : Bytes) : String :=
  String.ofList ((segments bs).map fun s => s.char?.getD '\uFFFD')

end Utf8

/-- The UTF-8 bytes of a text. -/
def Bytes.ofString (s : String) : Bytes := Utf8.encode s.toList

end EdgeMeter
