/-!
# Texts in fields

A text that is cut at every occurrence of a separator (`KnxIp.Text.fields`), or once at
the first one (`KnxIp.Text.cutFirst`); and the comparison of texts that ignores the
case of the letters from `a` to `z`.
-/

namespace KnxIp.Text

/-- The fields between the occurrences of a separator: always one more than there are
separators, so that an empty text has one empty field. -/
def fields (separator : Char) : List Char → List (List Char)
  | [] => [[]]
  | c :: cs =>
    if c = separator then
      [] :: fields separator cs
    else
      match fields separator cs with
      | [] => [[c]]
      | field :: rest => (c :: field) :: rest

/-- What stands before and what stands after the first separator. -/
def cutFirst (separator : Char) : List Char → Option (List Char × List Char)
  | [] => none
  | c :: cs =>
    if c = separator then
      some ([], cs)
    else
      (cutFirst separator cs).map fun p => (c :: p.1, p.2)

/-- The lines of a text. A carriage return before the line feed stays with its line;
whoever reads lines trims them. -/
def lines (cs : List Char) : List (List Char) := fields '\n' cs

/-- Whether two texts are the same up to the case of the letters from `a` to `z`. -/
def sameFolded (a b : List Char) : Bool := a.map Char.toLower == b.map Char.toLower

end KnxIp.Text
