/-!
The words of a command line by their form. Two dashes begin a long name, which may carry a value
behind an equals sign; one dash begins short names. A dash alone is a plain word, and two dashes
alone end the names.
-/

namespace ClipFeed.CommandLine

inductive Word where
  | separator
  | long (name : String) (value : Option String)
  | short (first : Char) (more : List Char)
  | plain (text : String)
  deriving DecidableEq, Repr

namespace Word

/-- A long name, and the value behind the first equals sign. -/
def ofLong (cs : List Char) : Word :=
  .long (String.ofList (cs.takeWhile (· != '=')))
    (match cs.dropWhile (· != '=') with
      | [] => none
      | _ :: value => some (String.ofList value))

def ofString (s : String) : Word :=
  match s.toList with
  | ['-', '-'] => .separator
  | '-' :: '-' :: cs => ofLong cs
  | '-' :: c :: cs => .short c cs
  | _ => .plain s

end Word

end ClipFeed.CommandLine
