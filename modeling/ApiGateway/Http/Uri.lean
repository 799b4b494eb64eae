/-!
# Request targets

The parts of a request target that routing looks at.  An absolute target is
`scheme://authority` and whatever follows; any other target is taken as a path with an optional
query or fragment.
-/

namespace ApiGateway
namespace Uri

def afterScheme? : List Char → Option (List Char)
  | [] => none
  | ':' :: '/' :: '/' :: rest => some rest
  | _ :: rest => afterScheme? rest

def endsPath (c : Char) : Bool :=
  c == '?' || c == '#'

def endsAuthority (c : Char) : Bool :=
  c == '/' || endsPath c

/-- What follows the last `c`, or everything if there is none. -/
def afterLast (c : Char) (s : List Char) : List Char :=
  (s.reverse.takeWhile (· != c)).reverse

/-- The host with its port in an absolute target, without user information. -/
def hostPort? (uri : List Char) : Option (List Char) :=
  (afterScheme? uri).map fun rest => afterLast '@' (rest.takeWhile (!endsAuthority ·))

def orRoot : List Char → List Char
  | [] => ['/']
  | s => s

/-- The target from its path on: for an absolute target what starts at the first `/` behind the
authority, and `/` if there is none. -/
def fromPath (uri : List Char) : List Char :=
  match afterScheme? uri with
  | some rest => orRoot (rest.dropWhile (· != '/'))
  | none => uri

def path (uri : String) : String :=
  String.ofList (orRoot ((fromPath uri.toList).takeWhile (!endsPath ·)))

end Uri
end ApiGateway
