/-!
# Context paths

An API is served below its context path.  A context path starts and ends with `/`, so that what it
covers is a whole number of segments: `/shop/` covers `/shop` and `/shop/cart` but not `/shopping`.
-/

namespace ApiGateway
namespace ContextPath

def opened (s : List Char) : List Char :=
  if s.head? = some '/' then s else '/' :: s

def closed (s : List Char) : List Char :=
  if s.getLast? = some '/' then s else s ++ ['/']

/-- A context path from its definition; an empty one stays empty. -/
def normalize (s : String) : String :=
  match s.toList with
  | [] => ""
  | cs => String.ofList (closed (opened cs))

/-- A request path as it is compared with context paths. -/
def target (path : String) : String :=
  String.ofList (closed path.toList)

def covers (context path : String) : Bool :=
  context.toList.isPrefixOf (closed path.toList)

def maxLength : Nat := 1024

/-- A context path that can be published: 1 to 1024 bytes with a `/` at both ends. -/
def valid (s : String) : Bool :=
  s.utf8ByteSize ≤ maxLength && s.toList.head? == some '/' && s.toList.getLast? == some '/'

end ContextPath
end ApiGateway
