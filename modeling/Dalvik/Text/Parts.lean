/-!
Parts of texts: beginnings, pieces between separators, and what surrounds a part.
-/

namespace Dalvik.Text

def beginsWith (part text : String) : Bool :=
  part.toList.isPrefixOf text.toList

/-- Pieces of a text between the occurrences of one character. -/
def splitAt (separator : Char) : List Char → List (List Char)
  | [] => [[]]
  | c :: rest =>
    match splitAt separator rest with
    | [] => [[c]]
    | first :: others =>
      if c = separator then [] :: first :: others else (c :: first) :: others

def split (separator : Char) (text : String) : List String :=
  (splitAt separator text.toList).map String.ofList

/-- What stands before and behind the first occurrence of a part. -/
def cut (part : List Char) : List Char → Option (List Char × List Char)
  | [] => none
  | c :: rest =>
    if part.isPrefixOf (c :: rest) then some ([], (c :: rest).drop part.length)
    else (cut part rest).map fun (before, behind) => (c :: before, behind)

end Dalvik.Text
