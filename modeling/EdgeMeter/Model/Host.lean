import EdgeMeter.Log
import EdgeMeter.Model.Library
import EdgeMeter.Path

/-!
# Hosts

A host is a process that may load one model library. Once a library is loaded it stays, and asking
for it again, under any path with the same components, gives the same library.

* `Model.Loader`: opens libraries by path;
* `Model.Host`, `Model.Host.load`: load a library once.
-/

namespace EdgeMeter.Model

/-- Opens libraries, as a function of its state: gives the symbols found, or the reason why the
library could not be opened. -/
structure Loader (φ μ : Type) where
  fetch : Bytes → φ → Except String (Exports μ) × φ

/-- A process that may load one model library. -/
structure Host (φ μ : Type) where
  loader : φ
  guest : Guest μ
  loaded : Option (Library μ) := none
  log : Journal Log.Record := {}

namespace Host

variable {φ μ : Type}

/-- The record that a library is about to be opened. -/
def opening (path : Bytes) : Log.Record :=
  ⟨.info, .loader, "loading simulation model from: " ++ Utf8.lossy path⟩

/-- The record that a library takes no arguments. -/
def noParser : Log.Record := ⟨.debug, .loader, "model library exports no argument parser"⟩

def record (r : Log.Record) (h : Host φ μ) : Host φ μ := { h with log := h.log.record r }

def fetch (loader : Loader φ μ) (path : Bytes) (h : Host φ μ) :
    Except Failure (Library μ) × Host φ μ :=
  let h := h.record (opening path)
  let (found, state) := loader.fetch path h.loader
  let h := { h with loader := state }
  match found with
  | .error reason => (.error (.notOpened path reason), h)
  | .ok exports =>
    let h := if exports.commandArgs.isOk then h else h.record noParser
    (exports.resolve.map fun entries => ⟨path, entries⟩, h)

/-- **Load a library.** The first that opens with all required symbols stays; until then every
request is tried. Afterwards the loader is not asked again, and only paths with the components of
the first one are granted. -/
def load (loader : Loader φ μ) (path : Bytes) (h : Host φ μ) :
    Except Failure (Library μ) × Host φ μ :=
  match h.loaded with
  | some lib =>
    (if Path.same lib.path path then .ok lib else .error (.occupied lib.path path), h)
  | none =>
    match h.fetch loader path with
    | (.error f, h) => (.error f, h)
    | (.ok lib, h) => (.ok lib, { h with loaded := some lib })

end Host

end EdgeMeter.Model
