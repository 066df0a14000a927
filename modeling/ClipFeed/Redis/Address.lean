import ClipFeed.Cache.Fault
import ClipFeed.Net.Url
import ClipFeed.Text.Integer
/-!
Addresses of Redis servers. An address that cannot be one is refused before anything is sent.
-/

namespace ClipFeed.Redis.Address

open Net

def invalid (reason : String) : Cache.Fault :=
  .backend (reason ++ "- InvalidClientConfig")

/-- The path of a server's address may name one of its databases by number. -/
def isDatabase (path : String) : Bool :=
  let name := ((path.toList.dropWhile (· == '/')).reverse.dropWhile (· == '/')).reverse
  name.isEmpty || (Text.parseInt64? (String.ofList name)).isSome

def check (address : String) : Except Cache.Fault Unit :=
  match Url.parse address with
  | .error _ => .error (invalid "Redis URL did not parse")
  | .ok url =>
    if url.scheme = "redis" ∨ url.scheme = "rediss" then
      if url.host.isNone then .error (invalid "Missing hostname")
      else if url.scheme = "rediss" then
        .error (invalid "can't connect with TLS, the feature is not enabled")
      else if isDatabase url.path then .ok ()
      else .error (invalid "Invalid database number")
    else if url.scheme = "redis+unix" ∨ url.scheme = "unix" then .ok ()
    else .error (invalid "Redis URL did not parse")

end ClipFeed.Redis.Address
