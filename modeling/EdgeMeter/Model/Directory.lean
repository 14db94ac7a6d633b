import EdgeMeter.Path

/-!
# A directory of model libraries

Paths with a slash are followed from a directory through its folders; paths without one are names of
system libraries. A path is passed on as a terminated string, so a zero byte may stand at its end
only.

* `Model.Folder`: files and folders by name;
* `Model.Folder.follow?`: the file that the pieces of a path lead to;
* `Model.Directory.find?`: what a path leads to.
-/

namespace EdgeMeter.Model

/-- A folder: files by name, each with a content or none of interest, and folders by name. -/
inductive Folder (α : Type) where
  | mk (files : List (Bytes × Option α)) (folders : List (Bytes × Folder α))

namespace Folder

variable {α : Type}

def files : Folder α → List (Bytes × Option α)
  | mk fs _ => fs

def folders : Folder α → List (Bytes × Folder α)
  | mk _ ds => ds

/-- **Follow the pieces of a path** from a folder, given the folders around it from the inside out.
Only the last piece may name a file, and a path that leaves the outermost folder leads nowhere. -/
def follow? : List Bytes → Folder α → List (Folder α) → Option α
  | [], _, _ => none
  | [p], here, _ => (here.files.lookup p).join
  | p :: rest, here, around =>
    if p = [] ∨ p = [Path.dot] then follow? rest here around
    else if p = [Path.dot, Path.dot] then
      match around with
      | [] => none
      | outer :: around => follow? rest outer around
    else
      match here.folders.lookup p with
      | none => none
      | some inner => follow? rest inner (here :: around)

end Folder

/-- Where libraries are looked for: a folder, the names of system libraries, and the contents of
those. -/
structure Directory (α : Type) where
  folder : Folder α
  system : List (Bytes × α)

namespace Directory

variable {α : Type}

/-- The path without a terminator, unless it has a zero inside. -/
def unterminated? (path : Bytes) : Option Bytes :=
  let path := if path.getLast? = some 0 then path.dropLast else path
  if path.contains 0 then none else some path

/-- The greatest length of a path that is followed. -/
def longestPath : Nat := 4095

/-- **What a path leads to**, if to a library. Nothing is known outside the folder, so a path from
the root leads nowhere. -/
def find? (d : Directory α) (path : Bytes) : Option α :=
  (unterminated? path).bind fun path =>
    if !path.contains Path.slash then d.system.lookup path
    else if path.head? = some Path.slash ∨ longestPath < path.length then none
    else Folder.follow? (Path.pieces path) d.folder []

end Directory

end EdgeMeter.Model
