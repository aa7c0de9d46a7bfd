/-!
# Lines of a text
-/

namespace HomeConsole

/-- The lines of a text. A line ends in LF or CR LF, and nothing stands behind the last one. -/
def linesOf (text : String) : List String :=
  let rec go (current : List Char) : List Char → List String
    | [] => if current.isEmpty then [] else [String.ofList current.reverse]
    | '\n' :: cs =>
      let line := match current with
        | '\r' :: before => before
        | line => line
      String.ofList line.reverse :: go [] cs
    | c :: cs => go (c :: current) cs
  go [] text.toList

end HomeConsole
