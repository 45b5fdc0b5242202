import Dalvik.Emulator.Shared

/-!
Listings that cannot come to their end, and a count of those that do not.
-/

namespace Dalvik.Benchmark

/-- One listing for each way in which a run breaks off. -/
def brokenListings : List (List String) := [
  [],
  ["nop"],
  ["new-instance v0, Ljava/lang/Object;"],
  ["invoke-virtual \x7bv0\x7d, Ljava/lang/String;->trim()Ljava/lang/String;"],
  ["return-float v0"],
  [":pswitch_data_0", ".packed-switch 0", "const v0, 1", ".end packed-switch"]]

/-- Reads an array behind its end. -/
def readBehindEnd : List String := [
  "new-array v0, size, [I",
  "aget v1, v0, size",
  "return v1"]

def breaksOff (lines : List String) (registers : Table Datum) : Bool :=
  match Emulator.Shared.run {} lines (({} : Machine).load registers) false Emulator.unlimited with
  | (_, .done _) => false
  | _ => true

/-- How many of the broken listings, and of `n` reads behind the end, break off. -/
def errorPaths (n : Int) : Nat :=
  (brokenListings.filter (breaksOff · [])).length +
    ((List.range n.toNat).filter fun (size : Nat) =>
      breaksOff readBehindEnd [("size", .int size)]).length

end Dalvik.Benchmark
