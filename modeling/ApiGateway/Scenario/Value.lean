import ApiGateway.Fault

/-!
# Values of answers

What a step answers, and the compact text of it.
-/

namespace ApiGateway
namespace Scenario

inductive Value
  | null
  | bool (b : Bool)
  | num (n : Int)
  | text (s : String)
  | list (values : List Value)
  | object (fields : List (String × Value))
deriving Repr, Inhabited

namespace Value

def ofText? : Option String → Value
  | some s => text s
  | none => null

def texts (l : List String) : Value :=
  list (l.map text)

/-- The answer in place of a result that a fault prevented. -/
def ofFault (f : Fault) : Value :=
  let kind := match f with
    | .failed _ => "runtime_error"
    | .emptyCallback => "bad_function_call"
    | .foreign => "foreign"
  object [("error", text kind), ("message", text (f.message?.getD ""))]

def escapeCode (c : Char) : String :=
  let digits := Nat.toDigits 16 c.toNat
  String.ofList (List.replicate (4 - digits.length) '0' ++ digits)

def escape (c : Char) : String :=
  if c = '"' then "\\\""
  else if c = '\\' then "\\\\"
  else if c = '\n' then "\\n"
  else if c = '\r' then "\\r"
  else if c = '\t' then "\\t"
  else if c.toNat = 8 then "\\b"
  else if c.toNat = 12 then "\\f"
  else if c.toNat < 32 then "\\u" ++ escapeCode c
  else String.singleton c

def quote (s : String) : String :=
  "\"" ++ String.join (s.toList.map escape) ++ "\""

mutual

def compact : Value → String
  | null => "null"
  | bool b => if b then "true" else "false"
  | num n => toString n
  | text s => quote s
  | list l => "[" ++ compactList l ++ "]"
  | object l => "\x7b" ++ compactFields l ++ "\x7d"

def compactList : List Value → String
  | [] => ""
  | [v] => v.compact
  | v :: rest => v.compact ++ "," ++ compactList rest

def compactFields : List (String × Value) → String
  | [] => ""
  | [(k, v)] => quote k ++ ":" ++ v.compact
  | (k, v) :: rest => quote k ++ ":" ++ v.compact ++ "," ++ compactFields rest

end

def plain : Value → String
  | text s => s
  | v => v.compact

end Value
end Scenario
end ApiGateway
