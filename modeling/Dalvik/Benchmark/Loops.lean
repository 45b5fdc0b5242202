import Dalvik.Benchmark.Basic
import Dalvik.Number.Bits

/-!
Loops over a counter. Each listing counts up from zero until it reaches `p0`, and runs its body at
least once.
-/

namespace Dalvik.Benchmark

/-- Result and steps of a listing that counts up to `n`. -/
def countTo (lines : List String) (n : Int) : Option (Datum × Nat) := do
  let measured ← measure lines n []
  return (measured.result, measured.steps)

/-! ### Counting alone, from the text of a file -/

def countingText : String :=
  "const/16 v0, 0\n" ++
  ":loop\n" ++
  "add-int/lit8 v0, v0, 1\n" ++
  "if-lt v0, p0, :loop\n" ++
  "return v0\n"

def runFile (n : Int) : Option (Datum × Nat) :=
  countTo (Text.lines countingText) n

/-! ### Arithmetic -/

def arithmeticLines : List String := [
  "# arithmetic bench",
  "const/16 v0, 0",
  "const/16 v1, 7",
  "const/16 v2, 3",
  "const/4 v9, 0",
  ".local whatever",
  ":loop",
  "    add-int v3, v0, v1",
  "    sub-int v4, v1, v2",
  "    mul-int v5, v1, v2",
  "    div-int v6, v1, v2",
  "    rem-int v7, v1, v2",
  "    and-int v8, v1, v2",
  "    or-int v8, v1, v2",
  "    add-int/lit8 v3, v3, 5",
  "    mul-int/lit8 v5, v5, 2",
  "    div-int/lit8 v6, v1, 2",
  "    rem-int/lit8 v7, v3, 4",
  "    and-int/lit8 v8, v3, 0xF",
  "    xor-int/lit8 v8, v8, 0x3",
  "    shl-int/lit8 v8, v8, 1",
  "    xor-int v3, v1",
  "    xor-int/2addr v3, v2",
  "    move v9, v3",
  "    move-object v9, v3",
  "    int-to-byte v4, v3",
  "    int-to-char v4, v8",
  "    sput v3, Lfoo;->bar:I",
  "    sget v5, Lfoo;->bar:I",
  "    add-int/lit8 v0, v0, 1",
  "    if-lt v0, p0, :loop",
  "",
  "return v3"]

/-- Result, steps, and the number of instruction forms. -/
def arithmeticLoop (n : Int) : Option (Datum × Nat × Nat) := do
  let (result, steps) ← countTo arithmeticLines n
  return (result, steps, Form.all.length)

/-! ### Branches -/

def branchingLines : List String := [
  "const/16 v0, 0",
  "const/16 v1, 1",
  "const/16 v2, -1",
  "const/16 vz, 0",
  ":loop",
  "    if-eqz vz, :z",
  "    :z",
  "    if-eq v0, v0, :a",
  "    :a",
  "    if-ne v0, v1, :b",
  "    :b",
  "    if-lt v0, p0, :c",
  "    :c",
  "    if-le v0, v0, :d",
  "    :d",
  "    if-gt v1, v0, :e",
  "    :e",
  "    if-ge v0, v0, :f",
  "    :f",
  "    if-eqz v2, :g",
  "    const/16 v3, 1",
  "    :g",
  "    if-nez v1, :h",
  "    :h",
  "    if-ltz v2, :i",
  "    :i",
  "    if-lez v2, :j",
  "    :j",
  "    if-gtz v1, :k",
  "    :k",
  "    if-gez v0, :l",
  "    :l",
  "    if-eq v0, v1, :skip",
  "    if-ne v0, v0, :skip",
  "    if-lt v1, v0, :skip",
  "    if-le v1, v0, :skip",
  "    if-gt v0, v1, :skip",
  "    if-ge v0, v1, :skip",
  "    if-nez v2, :m",
  "    :m",
  "    if-eqz v1, :skip",
  "    if-ltz v1, :skip",
  "    if-lez v1, :skip",
  "    if-gtz v2, :skip",
  "    if-gez v2, :skip",
  "    goto :inc",
  "    :skip",
  "    const/16 v3, 999",
  "    :inc",
  "    add-int/lit8 v0, v0, 1",
  "    if-lt v0, p0, :loop",
  "",
  "return v0"]

def branchingLoop (n : Int) : Option (Datum × Nat) :=
  countTo branchingLines n

/-! ### Faults that a handler takes -/

def exceptionLines : List String := [
  "const/16 v0, 0",
  "const/16 ex, 0",
  ":loop",
  "    :try_start_0",
  "    const-string vs, \"boom\"",
  "    :try_end_0",
  "    .catch Ljava/lang/Exception; \x7b:try_start_0 .. :try_end_0\x7d :handler",
  "    goto :after",
  "    :handler",
  "    move-exception ve",
  "    add-int/lit8 ex, ex, 1",
  "    :after",
  "    add-int/lit8 v0, v0, 1",
  "    if-lt v0, p0, :loop",
  "",
  "return ex"]

def exceptionFlow (n : Int) : Option (Datum × Nat) :=
  countTo exceptionLines n

end Dalvik.Benchmark
