import ClipFeed.Log.Threshold
/-!
Filters: which events are written, by where they come from. A filter is a list of directives with
commas between them; each sets a threshold for all targets that begin with a name, and the longest
such name decides. A directive that cannot be read is left out.
-/

namespace ClipFeed.Log

structure Directive where
  /-- What a target has to begin with; nothing for every target. -/
  target : String
  /-- Whether only events inside certain spans are meant. -/
  inSpan : Bool
  threshold : Threshold
  deriving DecidableEq, Repr

namespace Directive

def everything : Threshold := .atLeast .trace

def isOpening (c : Char) : Bool :=
  c.isAlphanum || c == '-' || c == ':' || c == '_'

/-- A level for every target, or a target and, behind an equals sign, its level. -/
def parse? (s : String) : Option Directive :=
  let name := s.toList.takeWhile (· != '=')
  let target := String.ofList (name.takeWhile (· != '['))
  let inSpan := name.contains '['
  if !(name.head?.any fun c => isOpening c || c == '[') then none
  else match s.toList.dropWhile (· != '=') with
    | [] =>
      match Threshold.parse? s with
      | some threshold => some ⟨"", false, threshold⟩
      | none => some ⟨target, inSpan, everything⟩
    | [_] => some ⟨target, inSpan, everything⟩
    | _ :: level => (Threshold.parse? (String.ofList level)).map (⟨target, inSpan, ·⟩)

/-- Whether a directive speaks about events of a target. No event stands inside a span. -/
def covers (d : Directive) (target : String) : Bool :=
  !d.inSpan && target.startsWith d.target

end Directive

structure Filter where
  directives : List Directive
  deriving DecidableEq, Repr

namespace Filter

def uniform (threshold : Threshold) : Filter := ⟨[⟨"", false, threshold⟩]⟩

/-- The filter of a text, or the given threshold when the text holds no directive. -/
def ofText (text : String) (otherwise : Threshold) : Filter :=
  match ((text.splitOn ",").filter (!·.isEmpty)).filterMap Directive.parse? with
  | [] => uniform otherwise
  | ds => ⟨ds⟩

/-- The threshold for a target: that of the longest name, and of several the last. -/
def threshold (f : Filter) (target : String) : Threshold :=
  let best := (f.directives.filter (·.covers target)).foldl (fun (best : Option Directive) d =>
    match best with
    | some b => if d.target.length < b.target.length then some b else some d
    | none => some d) none
  (best.map (·.threshold)).getD .off

def admits (f : Filter) (target : String) (level : Level) : Bool :=
  (f.threshold target).admits level

end Filter

end ClipFeed.Log
