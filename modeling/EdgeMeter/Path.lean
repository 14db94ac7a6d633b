import EdgeMeter.Text.Utf8

/-!
# Paths

A path is a string of bytes. Two paths are the same when they have the same components: repeated
and trailing slashes count for nothing, nor does a `.` unless a relative path begins with it.

* `Path.Component`, `Path.components`;
* `Path.same`.
-/

namespace EdgeMeter

namespace Path

inductive Component where
  | root
  | here
  | up
  | name (bytes : Bytes)
deriving DecidableEq

def slash : UInt8 := 0x2F

def dot : UInt8 := 0x2E

/-- The stretches between slashes, empty ones included. -/
def pieces (path : Bytes) : List Bytes :=
  path.foldr (fun b ps =>
    if b = slash then [] :: ps
    else match ps with
      | [] => [[b]]
      | p :: ps => (b :: p) :: ps) [[]]

/-- What a stretch inside a path stands for, if anything. -/
def inner? (piece : Bytes) : Option Component :=
  if piece = [] ∨ piece = [dot] then none
  else if piece = [dot, dot] then some .up
  else some (.name piece)

/-- What stands before the inner components: the root, or a leading `.`. -/
def lead (path : Bytes) : List Component :=
  if path.head? = some slash then [.root]
  else if (pieces path).head? = some [dot] then [.here]
  else []

/-- **The components of a path**, in order. -/
def components (path : Bytes) : List Component := lead path ++ (pieces path).filterMap inner?

/-- Whether two paths have the same components. -/
def same (p q : Bytes) : Bool := components p == components q

end Path

end EdgeMeter
