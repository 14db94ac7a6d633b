import EdgeMeter.Model.Circuit
import EdgeMeter.Model.Directory
import EdgeMeter.Model.Host

/-!
# The stock of model libraries

Libraries with counter circuits, by file name.

* `Stock.files`: the variants in the main folder;
* `Stock.directory`: the folder, with other files that are no libraries, and the system libraries
  that have no entry points.
-/

namespace EdgeMeter.Model.Stock

open Circuit

def everySymbol : List Symbol :=
  [.new, .free, .setClk, .getClk, .setRst, .eval, .readOutput, .commandArgs]

def plain : Variant := {}

/-- A circuit whose clock reads as a byte when high. -/
def reportingHigh (b : UInt8) : Bool → UInt8 := fun high => if high then b else 0

/-- The libraries with names that are text. -/
def named : List (String × Variant) :=
  [("libtop.so", plain),
   ("lib top \"é\".so", plain),
   ("libnoargs.so", { lacks := [.commandArgs] }),
   ("libnull.so", { exhaustedFrom := some 1 }),
   ("libonce.so", { exhaustedFrom := some 2 }),
   ("libthird.so", { exhaustedFrom := some 3, lacks := [.commandArgs] }),
   ("libhigh2.so", { report := reportingHigh 2 }),
   ("libhigh128.so", { report := reportingHigh 128, lacks := [.commandArgs] }),
   ("libstuck0.so", { report := fun _ => 0 }),
   ("libstuck1.so", { report := fun _ => 255 }),
   ("libwrap.so", { start := { count := 0xFFFFFFFE }, clears := false }),
   ("libdual.so", { start := { count := 0xFFFFFFFF }, bothEdges := true }),
   ("libstart.so", { start := { clock := true } }),
   ("libno_new.so", { lacks := [.new] }),
   ("libno_free.so", { lacks := [.free] }),
   ("libno_set_clk.so", { lacks := [.setClk] }),
   ("libno_get_clk.so", { lacks := [.getClk] }),
   ("libno_set_rst.so", { lacks := [.setRst] }),
   ("libno_eval.so", { lacks := [.eval] }),
   ("libno_read.so", { lacks := [.readOutput] }),
   ("libno_read_noargs.so", { lacks := [.readOutput, .commandArgs] }),
   ("libno_eval_free.so", { lacks := [.eval, .free] }),
   ("libno_clks.so", { lacks := [.getClk, .setClk] }),
   ("libno_rst_read.so", { lacks := [.setRst, .readOutput] }),
   ("libonly_args.so",
    { lacks := [.new, .free, .setClk, .getClk, .setRst, .eval, .readOutput] }),
   ("libnothing.so", { lacks := everySymbol })]

/-- The library whose name is not text. -/
def unnamed : Bytes × Variant :=
  (Bytes.ofString "lib" ++ [0xFF] ++ Bytes.ofString ".so", { lacks := [.commandArgs] })

/-- Files that are no libraries. -/
def others : List Bytes := [Bytes.ofString "libtext.so", Bytes.ofString "libzero.so"]

/-- The files of the main folder. -/
def files : List (Bytes × Option Variant) :=
  named.map (fun f => (Bytes.ofString f.1, some f.2)) ++ [(unnamed.1, some unnamed.2)] ++
    others.map (·, none)

/-- The main folder and the folders in it. -/
def folder : Folder Variant :=
  .mk files
    [(Bytes.ofString "sub", .mk [(Bytes.ofString "libtop.so", some plain)] []),
     (Bytes.ofString "dir.so", .mk [] [])]

/-- The system libraries: the program itself under the empty name, and another. -/
def system : List (Bytes × Variant) :=
  [([], { lacks := everySymbol }), (Bytes.ofString "libc.so.6", { lacks := everySymbol })]

def directory : Directory Variant := ⟨folder, system⟩

/-- A loader of the stock; the reason is given for paths that lead to no library and for symbols
that a library lacks. -/
def loader (reason : String) : Loader Unit Memory where
  fetch path _ :=
    ((directory.find? path).elim (.error reason) fun v => .ok (v.exports reason), ())

end EdgeMeter.Model.Stock
