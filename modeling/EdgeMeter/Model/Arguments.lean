import EdgeMeter.Failure

/-!
# Arguments as terminated strings

Model libraries take their arguments as strings of bytes that end at a zero byte. A text with a zero
inside cannot be passed, since it would be read short.

* `Arguments.marshal`: all arguments, or the first that cannot be passed;
* `Arguments.counted`: the same with their number, if a parser can be told it;
* `Arguments.read`: a terminated string as its reader sees it.
-/

namespace EdgeMeter.Arguments

/-- A text as bytes with a terminator. -/
def terminated (text : String) : Bytes := Bytes.ofString text ++ [0]

/-- **The arguments as terminated strings**, in order. The first text with a zero inside is
refused, whatever comes after it. -/
def marshal : List String → Except Failure (List Bytes)
  | [] => .ok []
  | text :: rest =>
    if text.toList.contains '\x00' then .error (.interiorNul text)
    else (marshal rest).map (terminated text :: ·)

/-- **The arguments with their number.** A parser is told the number by a signed word, and more
arguments than that can say are refused. -/
def counted (arguments : List String) : Except Failure (Int32 × List Bytes) := do
  let blocks ← marshal arguments
  if blocks.length < Nat.pow 2 31 then return (.ofNat blocks.length, blocks)
  else throw (.reported "too many arguments")

/-- The bytes before the first zero. -/
def read (block : Bytes) : Bytes := block.takeWhile (· != 0)

end EdgeMeter.Arguments
