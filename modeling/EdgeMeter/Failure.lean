import EdgeMeter.SystemError
import EdgeMeter.Text.Quoted

/-!
# What can go wrong

* `IoError`: why a write or a flush was refused, with its `message`;
* `Failure`: why a run, a request or the whole program stopped, with its `message`;
* `Failure.display`, `Failure.describe`: the message as shown to users and for inspection.
-/

namespace EdgeMeter

/-- The kinds of input and output errors that carry a standard text. -/
inductive IoError.Kind where
  | notFound
  | permissionDenied
  | brokenPipe
  | invalidData
  | interrupted
  | unexpectedEof
  | writeZero
  | timedOut
  | other
deriving DecidableEq

/-- **An input or output error**: a numbered error of the operating system with its text, a kind,
or a kind with a text of its own. -/
inductive IoError where
  | system (number : Nat) (text : String := SystemError.text number)
  | kind (k : IoError.Kind)
  | custom (k : IoError.Kind) (text : String)
deriving DecidableEq

namespace IoError

def Kind.text : Kind → String
  | .notFound => "entity not found"
  | .permissionDenied => "permission denied"
  | .brokenPipe => "broken pipe"
  | .invalidData => "invalid data"
  | .interrupted => "operation interrupted"
  | .unexpectedEof => "unexpected end of file"
  | .writeZero => "write zero"
  | .timedOut => "timed out"
  | .other => "other error"

def message : IoError → String
  | .system n text => text ++ " (os error " ++ Nat.repr n ++ ")"
  | .kind k => k.text
  | .custom _ text => text

/-- The error of a sink that takes none of what it is offered. -/
def wroteNothing : IoError := .custom .writeZero "failed to write whole buffer"

end IoError

/-- **A failure**, by its cause. -/
inductive Failure where
  /-- A failure with a given text, such as a workshop's. -/
  | reported (text : String)
  /-- A result could not be written or flushed. -/
  | output (e : IoError)
  /-- The library at `path` could not be opened. -/
  | notOpened (path : Bytes) (reason : String)
  | noSymbol (name reason : String)
  /-- Another library is loaded already. -/
  | occupied (loaded asked : Bytes)
  /-- An argument cannot be passed as a terminated string. -/
  | interiorNul (argument : String)
  /-- The library made no instance. -/
  | nullModel
deriving DecidableEq

namespace Failure

def message : Failure → String
  | .reported text => text
  | .output e => "I/O failure: " ++ e.message
  | .notOpened path reason =>
    "Failed to load model library " ++ Utf8.lossy path ++ ": " ++ reason
  | .noSymbol name reason => "Failed to load symbol \x60" ++ name ++ "\x60: " ++ reason
  | .occupied loaded asked =>
    "model library " ++ Utf8.lossy loaded ++ " already loaded; cannot load " ++ Utf8.lossy asked
  | .interiorNul argument =>
    "argument contains an interior NUL byte: " ++ Text.quote argument
  | .nullModel => "tickbench_model_new returned a null model"

/-- The message as shown to users. -/
def display (f : Failure) : String := "tickbench error: " ++ f.message

def describe (f : Failure) : String := "TickbenchError(" ++ Text.quote f.message ++ ")"

end Failure

end EdgeMeter
