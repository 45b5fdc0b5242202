import Dalvik.Benchmark.Basic

/-!
Loops that work with arrays, switches and objects.
-/

namespace Dalvik.Benchmark

/-! ### Arrays and switches -/

def arrayLines : List String := [
  "const/16 v0, 0",
  "const/16 sz, 4",
  ":loop",
  "    new-array va, sz, [I",
  "    const/16 i0, 0",
  "    const/16 i1, 1",
  "    const/16 i2, 2",
  "    const/16 i3, 3",
  "    const/16 x0, 10",
  "    const/16 x1, 20",
  "    const/16 x2, 30",
  "    const/16 x3, 40",
  "    aput x0, va, i0",
  "    aput x1, va, i1",
  "    aput x2, va, i2",
  "    aput x3, va, i3",
  "    const/16 i4, 4",
  "    aput x3, va, i4",
  "    aget g0, va, i0",
  "    aget-object g1, va, i1",
  "    array-length ln, va",
  "    new-array vb, sz, [I",
  "    fill-array-data vb, :array_0",
  "    aget g2, vb, i2",
  "    rem-int/lit8 sw, v0, 3",
  "    packed-switch sw, :pswitch_data_0",
  "    const/16 pk, 100",
  "    goto :done",
  "    :pswitch_0",
  "    const/16 pk, 0",
  "    goto :done",
  "    :pswitch_1",
  "    const/16 pk, 1",
  "    goto :done",
  "    :pswitch_2",
  "    const/16 pk, 2",
  "    :done",
  "    const/16 sw2, 99",
  "    packed-switch sw2, :pswitch_data_0",
  "    const/16 sw3, -5",
  "    packed-switch sw3, :pswitch_data_0",
  "    add-int/lit8 v0, v0, 1",
  "    if-lt v0, p0, :loop",
  "",
  "return-object va",
  "",
  ":array_0",
  ".array-data 4",
  "    0x1",
  "    0x2",
  "    0x3",
  "    0x4",
  ".end array-data",
  "",
  ":pswitch_data_0",
  ".packed-switch 0x0",
  "    :pswitch_0",
  "    :pswitch_1",
  "    :pswitch_2",
  ".end packed-switch"]

/-- Length of the array, an item of the constant data, and steps. -/
def arraysAndSwitch (n : Int) : Option (Datum × Datum × Nat) := do
  let measured ← measure arrayLines n []
  return (← measured.register? "ln", ← measured.register? "g2", measured.steps)

/-! ### Objects -/

def objectLines : List String := [
  "const/16 v0, 0",
  ":loop",
  "    new-instance sb, Ljava/lang/StringBuilder;",
  "    invoke-direct \x7bsb\x7d, Ljava/lang/StringBuilder;-><init>()V",
  "    invoke-virtual \x7bsb, p1\x7d, " ++
    "Ljava/lang/StringBuilder;->append(Ljava/lang/String;)Ljava/lang/StringBuilder;",
  "    invoke-virtual \x7bsb, p2\x7d, " ++
    "Ljava/lang/StringBuilder;->append(C)Ljava/lang/StringBuilder;",
  "    invoke-virtual \x7bsb\x7d, Ljava/lang/StringBuilder;->toString()Ljava/lang/String;",
  "    move-result-object s",
  "    invoke-virtual \x7bs\x7d, Ljava/lang/String;->length()I",
  "    move-result ln",
  "    invoke-virtual \x7bs\x7d, Ljava/lang/String;->toCharArray()[C",
  "    move-result-object ca",
  "    const/16 i0, 0",
  "    invoke-virtual \x7bs, i0\x7d, Ljava/lang/String;->charAt(I)C",
  "    move-result ch",
  "    xor-int/lit8 xx, ch, 0x1",
  "    xor-int/2addr i0, ch",
  "    const/16 lo, 0",
  "    const/16 hi, 3",
  "    invoke-virtual \x7bs, lo, hi\x7d, Ljava/lang/String;->substring(II)Ljava/lang/String;",
  "    move-result-object ss",
  "    invoke-virtual \x7bss\x7d, Ljava/lang/String;->intern()Ljava/lang/String;",
  "    move-result-object si",
  "    invoke-static \x7bca, lo, hi\x7d, Ljava/lang/String;->valueOf([CII)Ljava/lang/String;",
  "    move-result-object sv",
  "    new-instance ns, Ljava/lang/String;",
  "    invoke-direct \x7bns, ca\x7d, Ljava/lang/String;-><init>([C)V",
  "    new-instance ni, Ljava/lang/Integer;",
  "    invoke-static \x7bp3, p4\x7d, Ljava/lang/Integer;->parseInt(Ljava/lang/String;I)I",
  "    move-result iv",
  "    invoke-static \x7bp5, p4\x7d, Ljava/lang/Integer;->parseInt(Ljava/lang/String;I)I",
  "    move-result ih",
  "    add-int/lit8 v0, v0, 1",
  "    if-lt v0, p0, :loop",
  "",
  "return-wide s"]

/-- The text that was built, the number of rounds that were asked for, and steps. -/
def invokeObjects (n : Int) : Option (Datum × Datum × Nat) := do
  let measured ← measure objectLines n
    [("p1", .text "hello"), ("p2", .text "!"), ("p3", .text "42"), ("p4", .int 16),
      ("p5", .text "0x2A")]
  return (measured.result, ← measured.register? "p0", measured.steps)

end Dalvik.Benchmark
