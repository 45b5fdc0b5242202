import Dalvik.Text.Blank
import Dalvik.Text.Case
import Dalvik.Text.Digit
import Dalvik.Text.Word

/-!
Sets of characters that a pattern accepts at one place, also such that take letters of both cases
for the same.
-/

namespace Dalvik

/-- How letters of different case compare. -/
inductive CaseRule where
  | distinct
  /-- The two cases of an ASCII letter are the same. -/
  | asciiAlike
  | alike
deriving DecidableEq, Repr

namespace CaseRule

/-- The letter that stands for a character and all those that are the same. -/
def small : CaseRule → Char → Char
  | .distinct, c => c
  | .asciiAlike, c => Text.lowerAscii c
  | .alike, c => Text.lower c

/-- The small letters that are the same as that of the given character. -/
def kin : CaseRule → Char → List Char
  | .distinct, c => [c]
  | .asciiAlike, c => [Text.lowerAscii c]
  | .alike, c => Text.kin (Text.lower c)

/-- The characters that are the same as the given small letter. -/
def sources : CaseRule → Char → List Char
  | .distinct, c => [c]
  | .asciiAlike, c =>
    if 'a' ≤ c && c ≤ 'z' then [c, Char.ofNat (c.toNat - 32)]
    else if Text.lowerAscii c = c then [c]
    else []
  | .alike, c => (Text.kin c).flatMap Text.withLower

end CaseRule

inductive CharSet where
  | nothing
  | only (c : Char)
  | between (low high : Char)
  | digit
  | word
  | blank
  | either (first second : CharSet)
  | outside (set : CharSet)
  /-- Characters whose small letter is in the set. -/
  | lowered (rule : CaseRule) (set : CharSet)
  /-- Small letters of the characters in an interval. -/
  | smallOf (rule : CaseRule) (low high : Char)
deriving DecidableEq, Repr

namespace CharSet

def accepts : CharSet → Char → Bool
  | .nothing, _ => false
  | .only expected, c => c == expected
  | .between low high, c => low ≤ c && c ≤ high
  | .digit, c => Text.isDigit c
  | .word, c => Text.isWord c
  | .blank, c => Text.isBlank c
  | .either first second, c => first.accepts c || second.accepts c
  | .outside set, c => !set.accepts c
  | .lowered rule set, c => set.accepts (rule.small c)
  | .smallOf rule low high, c => (rule.sources c).any fun source => low ≤ source && source ≤ high

/-- Everything but the line feed. -/
def inLine : CharSet :=
  .outside (.only '\n')

def anything : CharSet :=
  .outside .nothing

def lowerLetter : CharSet :=
  .between 'a' 'z'

def asciiDigit : CharSet :=
  .between '0' '9'

def asciiWord : CharSet :=
  .either (.either asciiDigit (.only '_')) (.either lowerLetter (.between 'A' 'Z'))

def asciiBlank : CharSet :=
  .either (.between '\t' '\r') (.only ' ')

def anyOf (sets : List CharSet) : CharSet :=
  sets.foldr .either .nothing

/-- One character, or any that is the same under the rule. -/
def letter (rule : CaseRule) (c : Char) : CharSet :=
  match rule with
  | .distinct => .only c
  | _ => .lowered rule (anyOf ((rule.kin c).map .only))

/-- The first code point beyond those that sets keep by their small letters. -/
def supplement : Char :=
  Char.ofNat 0x10000

/-- The small letters of one member of a set. A single character of the supplementary planes is
kept as it stands. -/
def smallMember (rule : CaseRule) : CharSet → CharSet
  | .only c =>
    if c < supplement then anyOf ((rule.kin c).map .only) else .only c
  | .between low high =>
    if high < supplement || rule = .alike then .smallOf rule low high
    else .either (.either (.between low high) (.smallOf rule low high)) (.smallOf .alike low high)
  | set => set

/-- A set of several members, in which letters compare by the rule. -/
def ofMembers (rule : CaseRule) (members : List CharSet) : CharSet :=
  match rule, members with
  | .distinct, _ => anyOf members
  | _, [.only c] => letter rule c
  | _, _ => .lowered rule (anyOf (members.map (smallMember rule)))

end CharSet

end Dalvik
