import ApiGateway.Http.Message
import ApiGateway.Http.Uri

/-!
# The host a request is for

The `Host` field decides where it is present and not empty, the absolute target otherwise.  Either
way the host is written small and without a port, which is the form virtual hosts are kept in.
-/

namespace ApiGateway
namespace Host

/-- A host without its port.  An address in brackets ends with its bracket; without brackets only
a single `:` starts a port, since several make up an IPv6 address. -/
def dropPort (s : List Char) : List Char :=
  if s.head? = some '[' then
    if ']' ∈ s then s.takeWhile (· != ']') ++ [']'] else s
  else if s.count ':' = 1 then s.takeWhile (· != ':')
  else s

def withoutPort (s : String) : String :=
  String.ofList (dropPort s.toList)

/-- The form in which hosts are compared. -/
def canonical (s : String) : String :=
  Ascii.lowerCase (withoutPort s)

/-- The host of an absolute target, and nothing for any other. -/
def ofUri (uri : String) : String :=
  match Uri.hostPort? uri.toList with
  | some s => canonical (String.ofList s)
  | none => ""

end Host

def Request.host (r : Request) : String :=
  match r.headers.get? "Host" with
  | some h => if h.isEmpty then Host.ofUri r.uri else Host.canonical h
  | none => Host.ofUri r.uri

end ApiGateway
