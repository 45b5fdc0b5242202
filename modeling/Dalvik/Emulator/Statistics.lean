import Dalvik.Instruction.Form
import Dalvik.Value.Show

/-!
The statistics of a run, as text.
-/

namespace Dalvik

structure Statistics where
  declaring : Value := .int 0
  running : Value := .int 0
  steps : Value := .int 0

/-- One line for the number of instruction forms, for each of the two times and for the steps. -/
def Statistics.text (statistics : Statistics) (heap : Heap) : Except Fault String := do
  let declaring ← statistics.declaring.plain heap
  let running ← statistics.running.plain heap
  let steps ← statistics.steps.plain heap
  return "opcode handlers    : " ++ toString Form.all.length ++ "\n" ++
    "preprocessing time : " ++ declaring ++ " ms\n" ++
    "execution time     : " ++ running ++ " ms\n" ++
    "execution steps    : " ++ steps ++ "\n"

end Dalvik
