import Dalvik.Text.Code
import Dalvik.Text.Quoted

/-!
What can be wrong with a pattern given as text, with the exact wording of each defect and the place
where it stands.
-/

namespace Dalvik.Pattern

inductive Defect where
  | unterminatedSet
  | badRange (low high : List Char)
  | nothingToRepeat
  | multipleRepeat
  | emptyRepeatRange
  | tooManyRepetitions
  | numeralTooLong (digits : Nat)
  | unterminatedGroup
  | unterminatedComment
  | unterminatedName (closing : Char)
  | missingName (what : String)
  | badName (name : List Char)
  | repeatedName (name : List Char) (number earlier : Nat)
  | unknownName (name : List Char)
  | unknownCharacter (name : List Char)
  | missingBrace
  | badGroupNumber
  | unknownGroup (number : Nat)
  | openGroup
  | groupBehind
  | tooManyBranches
  | misplacedSwitches
  | localeSwitch
  | mixedAlphabets
  | fixedAlphabet
  | wholeSwitchOn
  | wholeSwitchOff
  | onAndOff
  | unknownSwitch
  | missingSwitch
  | missingSwitchEnd
  | missingColon
  | unbalancedParenthesis
  | unexpectedEnd
  | unknownExtension (mark : List Char)
  | incompleteEscape (written : List Char)
  | badEscape (written : List Char)
  | endingEscape
  | octalTooLarge (written : List Char)
  | looksTooFar
  | varyingWidth

def Defect.message : Defect → String
  | .unterminatedSet => "unterminated character set"
  | .badRange low high => "bad character range " ++ String.ofList (low ++ '-' :: high)
  | .nothingToRepeat => "nothing to repeat"
  | .multipleRepeat => "multiple repeat"
  | .emptyRepeatRange => "min repeat greater than max repeat"
  | .tooManyRepetitions => "the repetition number is too large"
  | .numeralTooLong digits => "too many digits: " ++ toString digits
  | .unterminatedGroup => "missing ), unterminated subpattern"
  | .unterminatedComment => "missing ), unterminated comment"
  | .unterminatedName closing => "missing " ++ closing.toString ++ ", unterminated name"
  | .missingName what => "missing " ++ what
  | .badName name => "bad character in group name " ++ Text.quote (String.ofList name)
  | .repeatedName name number earlier =>
    "redefinition of group name " ++ Text.quote (String.ofList name) ++ " as group " ++
      toString number ++ "; was group " ++ toString earlier
  | .unknownName name => "unknown group name " ++ Text.quote (String.ofList name)
  | .unknownCharacter name => "undefined character name " ++ Text.quote (String.ofList name)
  | .missingBrace => "missing \x7b"
  | .badGroupNumber => "bad group number"
  | .unknownGroup number => "invalid group reference " ++ toString number
  | .openGroup => "cannot refer to an open group"
  | .groupBehind => "cannot refer to group defined in the same lookbehind subpattern"
  | .tooManyBranches => "conditional backref with more than two branches"
  | .misplacedSwitches => "global flags not at the start of the expression"
  | .localeSwitch => "bad inline flags: cannot use 'L' flag with a str pattern"
  | .mixedAlphabets => "bad inline flags: flags 'a', 'u' and 'L' are incompatible"
  | .fixedAlphabet => "bad inline flags: cannot turn off flags 'a', 'u' and 'L'"
  | .wholeSwitchOn => "bad inline flags: cannot turn on global flag"
  | .wholeSwitchOff => "bad inline flags: cannot turn off global flag"
  | .onAndOff => "bad inline flags: flag turned on and off"
  | .unknownSwitch => "unknown flag"
  | .missingSwitch => "missing flag"
  | .missingSwitchEnd => "missing -, : or )"
  | .missingColon => "missing :"
  | .unbalancedParenthesis => "unbalanced parenthesis"
  | .unexpectedEnd => "unexpected end of pattern"
  | .unknownExtension mark => "unknown extension ?" ++ String.ofList mark
  | .incompleteEscape written => "incomplete escape " ++ String.ofList written
  | .badEscape written => "bad escape " ++ String.ofList written
  | .endingEscape => "bad escape (end of pattern)"
  | .octalTooLarge written =>
    "octal escape value " ++ String.ofList written ++ " outside of range 0-0o377"
  | .looksTooFar => "looks too much behind"
  | .varyingWidth => "look-behind requires fixed-width pattern"

/-- A defect and, if it has one, its place: the number of characters before it. -/
structure Misprint where
  defect : Defect
  position : Option Nat

/-- The message of a defect; in a pattern of several lines it also names line and column. -/
def Misprint.message (misprint : Misprint) (written : String) : String :=
  match misprint.position with
  | none => misprint.defect.message
  | some position =>
    let text := written.toList
    let before := text.take position
    let base := misprint.defect.message ++ " at position " ++ toString position
    if text.contains '\n' then
      let line := before.count '\n' + 1
      let column := (before.reverse.takeWhile (· != '\n')).length + 1
      base ++ " (line " ++ toString line ++ ", column " ++ toString column ++ ")"
    else base

end Dalvik.Pattern
