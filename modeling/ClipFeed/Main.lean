import ClipFeed.Startup.Session
/-!
The program. It reads files and the environment and writes lines; it has no client for a database or
a Redis server, so a run ends where it needs one.
-/

namespace ClipFeed.Startup

def noClient : String := "no client for this server is linked"

def findFile (path : String) : IO Settings.Source := do
  try
    let input := (← IO.FS.readBinFile path).toList
    match Json.Value.parse input with
    | .ok value => return .json path value
    | .error stop => return .malformed path (stop.message input)
  catch _ => return .missing path

def respond : (q : Question) → IO q.Answer
  | .file path => findFile path
  | .print line => IO.println line
  | .complain line => IO.eprintln line
  | .connect .. => return .error (.io noClient)
  | .statement _ => return .error ⟨none, noClient, none⟩
  | .greet _ => return .error (.backend noClient)
  | .listen _ => return .error noClient

def perform {α : Type} : Session α → IO α
  | Dialogue.done a => return a
  | Dialogue.ask q next => do perform (next (← respond q))

def findVariables : IO (List (String × String)) := do
  let found ← (Session.fileVariable :: Session.filterVariable ::
    Settings.variableNames).mapM fun name => do
    return (← IO.getEnv name).map fun value => (name, value)
  return found.filterMap id

end ClipFeed.Startup

def main (words : List String) : IO UInt32 := do
  match ← ClipFeed.Startup.perform (ClipFeed.Startup.Session.run words
      (← ClipFeed.Startup.findVariables)) with
  | .exit status => return status.toUInt32
  | .serving _ => return 0
