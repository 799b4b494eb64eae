import ApiGateway.Text.Ascii

/-!
# Header fields

A header map has one field for each name up to ASCII case and is kept in the order of the folded
names.  Setting a field that is there replaces its value and keeps the spelling of its name.
-/

namespace ApiGateway

/-- Header fields as name and value, in the order of their folded names. -/
structure Headers where
  fields : List (String × String) := []
deriving DecidableEq, Repr, Inhabited

namespace Headers

def before (a b : String) : Bool :=
  Ascii.caseLess (Ascii.bytes a) (Ascii.bytes b)

def insertField {ν : Type} (before : ν → ν → Bool) (name : ν) (value : String) :
    List (ν × String) → List (ν × String)
  | [] => [(name, value)]
  | (n, v) :: rest =>
    if before name n then (name, value) :: (n, v) :: rest
    else if before n name then (n, v) :: insertField before name value rest
    else (n, value) :: rest

/-- Sets a field: a new name finds its place in the order, a known one keeps its spelling. -/
def insert (h : Headers) (name value : String) : Headers :=
  ⟨insertField before name value h.fields⟩

def insertMany (h : Headers) (fields : List (String × String)) : Headers :=
  fields.foldl (fun acc f => acc.insert f.1 f.2) h

def ofList (fields : List (String × String)) : Headers :=
  insertMany {} fields

/-- The value of a name in any spelling. -/
def get? (h : Headers) (name : String) : Option String :=
  (h.fields.find? fun f => Ascii.foldKey f.1 == Ascii.foldKey name).map Prod.snd

end Headers
end ApiGateway
