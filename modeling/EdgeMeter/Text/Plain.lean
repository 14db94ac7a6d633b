/-!
# Text without terminal control

A terminal acts on control characters and on sequences that an escape character begins. Text for
other readers leaves both out; of the controls only the white space stays. White space interrupts a
sequence: text follows it, up to a control character, with which the sequence goes on.

* `Plain.Mode`: the sequence that has begun, and `Plain.Mode.next`, how a character carries it on;
* `Plain.State`, `Plain.step`: reading text one character at a time;
* `plain`: what is left of a text.
-/

namespace EdgeMeter.Text

namespace Plain

/-- What the characters so far have begun. -/
inductive Mode where
  /-- Nothing: characters are text. -/
  | text
  /-- A sequence of unknown form. -/
  | escape
  /-- A sequence that the next character from `0` to `~` ends. -/
  | short
  /-- A sequence with parameters. -/
  | parameters
  /-- A title or other text for the terminal, which a bell may end. -/
  | title
  /-- The head of a message for a device. -/
  | head
  /-- The parameters in such a head. -/
  | headParameters
  /-- The last part of such a head. -/
  | headEnd
  /-- Data for the terminal or a device. -/
  | data
deriving DecidableEq

/-- White space that is a control character. -/
def isBreak (c : Char) : Bool := c == '\t' || c == '\n' || c == '\x0c' || c == '\r'

/-- Characters that stay where no sequence takes them. -/
def isShown (c : Char) : Bool := isBreak c || (' ' ≤ c && c != '\x7f')

/-- Whether the byte `0x9C`, which terminates data, is in the encoding of a character. -/
def isTerminator (c : Char) : Bool := (String.utf8EncodeChar c).contains 0x9C

/-- The characters that a mode leaves to the text. -/
def Mode.leaves : Mode → Char → Bool
  | .text, c => isShown c
  | .escape, c => isBreak c
  | .short, c => isBreak c
  | .parameters, c => isBreak c
  | _, _ => false

/-- The mode after a character that the mode takes. -/
def Mode.next : Mode → Char → Mode
  | .text, _ => .text
  | .escape, c =>
    if c == '[' then .parameters
    else if c == ']' then .title
    else if c == 'P' then .head
    else if c == 'X' || c == '^' || c == '_' then .data
    else if ' ' ≤ c && c ≤ '/' then .short
    else if '0' ≤ c && c ≤ '~' then .text
    else .escape
  | .short, c => if '0' ≤ c && c ≤ '~' then .text else .short
  | .parameters, c => if '@' ≤ c && c ≤ '~' then .text else .parameters
  | .title, c => if c == '\x07' then .text else .title
  | .head, c =>
    if ' ' ≤ c && c ≤ '/' then .headEnd
    else if '0' ≤ c && c ≤ '?' then .headParameters
    else if '@' ≤ c && c ≤ '~' then .data
    else .head
  | .headParameters, c =>
    if ' ' ≤ c && c ≤ '/' then .headEnd
    else if '<' ≤ c && c ≤ '~' then .data
    else .headParameters
  | .headEnd, c => if '0' ≤ c && c ≤ '~' then .data else .headEnd
  | .data, c => if isTerminator c then .text else .data

/-- A mode, and whether white space has interrupted its sequence. -/
structure State where
  mode : Mode
  interrupted : Bool

/-- Reading begins in the text. -/
def State.start : State := ⟨.text, false⟩

/-- **The state after a character, and whether the character stays.** Escape begins a sequence
anywhere; cancel and substitute end one, and so does a character beyond ASCII after white space. -/
def step (s : State) (c : Char) : State × Bool :=
  if c == '\x1b' then (⟨.escape, false⟩, false)
  else if c == '\x18' || c == '\x1a' then (.start, false)
  else if s.interrupted && isShown c then (if c ≤ '~' then s else .start, true)
  else if s.mode.leaves c then (⟨s.mode, true⟩, true)
  else (⟨s.mode.next c, false⟩, false)

/-- The characters that stay. -/
def strip : State → List Char → List Char
  | _, [] => []
  | s, c :: rest =>
    let (after, stays) := step s c
    if stays then c :: strip after rest else strip after rest

end Plain

/-- A text without terminal control. -/
def plain (s : String) : String := String.ofList (Plain.strip .start s.toList)

end EdgeMeter.Text
