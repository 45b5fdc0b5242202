import Dalvik.Text.Word
import Dalvik.Value.Fault

/-!
The mnemonic of a line: its first run of word characters, hyphens and slashes.
-/

namespace Dalvik.Instruction

def isMnemonicChar (c : Char) : Bool :=
  Text.isWord c || c == '-' || c == '/'

def mnemonic? (line : String) : Option String :=
  match (line.toList.dropWhile (!isMnemonicChar ·)).takeWhile isMnemonicChar with
  | [] => none
  | chars => some (String.ofList chars)

def mnemonic (line : String) : Except Fault String :=
  match mnemonic? line with
  | some text => .ok text
  | none => .error (.noAttribute .null "group")

end Dalvik.Instruction
