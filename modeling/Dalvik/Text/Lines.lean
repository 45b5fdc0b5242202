/-!
The lines of a text file. A line ends at a line feed, at a carriage return, or at a carriage return
with its line feed; whichever it was, the line keeps a single line feed at its end.
-/

namespace Dalvik.Text

def splitLines (current : List Char) : List Char → List (List Char)
  | [] => if current.isEmpty then [] else [current.reverse]
  | '\n' :: rest => ('\n' :: current).reverse :: splitLines [] rest
  | '\r' :: '\n' :: rest => ('\n' :: current).reverse :: splitLines [] rest
  | '\r' :: rest => ('\n' :: current).reverse :: splitLines [] rest
  | c :: rest => splitLines (c :: current) rest

def lines (content : String) : List String :=
  (splitLines [] content.toList).map String.ofList

end Dalvik.Text
