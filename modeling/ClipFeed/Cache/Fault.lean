/-!
What can go wrong with the cache. None of it ever reaches a reader.
-/

namespace ClipFeed.Cache

inductive Fault where
  | backend (detail : String)
  | timeout (operation : String)
  | codec (detail : String)
  deriving DecidableEq, Repr

def Fault.message : Fault → String
  | .backend detail => "cache backend error: " ++ detail
  | .timeout operation => "cache operation `" ++ operation ++ "` timed out"
  | .codec detail => "cache payload codec error: " ++ detail

end ClipFeed.Cache
