import EdgeMeter.Text.Extender
import EdgeMeter.Text.Hidden
import EdgeMeter.Text.Utf8

/-!
# Quoted text

Diagnostics show text between double quotes, on one line and so that it can be read back. Quotes,
backslashes and four controls have escapes of their own; hidden characters and grapheme extenders
are shown by code point, `\u` and braces; a byte that is not text is shown as `\x` and two digits.

* `escape`: a character inside quotes;
* `quote`: a text;
* `quoteBytes`: a string of bytes, which need not be text.
-/

namespace EdgeMeter.Text

/-- A character by its code point in hexadecimal digits. -/
def escapeCode (c : Char) : List Char :=
  ['\\', 'u', '{'] ++ Nat.toDigits 16 c.toNat ++ ['}']

/-- **A character as written inside quotes.** A single quote stands for itself. -/
def escape (c : Char) : List Char :=
  if c = '\x00' then ['\\', '0']
  else if c = '\t' then ['\\', 't']
  else if c = '\n' then ['\\', 'n']
  else if c = '\r' then ['\\', 'r']
  else if c = '"' then ['\\', '"']
  else if c = '\\' then ['\\', '\\']
  else if isExtender c || isHidden c then escapeCode c
  else [c]

/-- A byte as two upper case hexadecimal digits. -/
def escapeByte (b : UInt8) : List Char :=
  ['\\', 'x'] ++ (Nat.toDigits 16 (b.toNat / 16) ++ Nat.toDigits 16 (b.toNat % 16)).map Char.toUpper

/-- A segment as written inside quotes. -/
def escapeSegment : Utf8.Segment → List Char
  | .char c => escape c
  | .broken bs => bs.flatMap escapeByte

def quote (s : String) : String := String.ofList ('"' :: s.toList.flatMap escape ++ ['"'])

def quoteBytes (bs : Bytes) : String :=
  String.ofList ('"' :: (Utf8.segments bs).flatMap escapeSegment ++ ['"'])

end EdgeMeter.Text
