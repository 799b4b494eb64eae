/-!
# ASCII letter case

Host names and header names are compared without regard to the case of the letters `A` to `Z`;
no other letter is folded.  `lowerCase` gives the folded text, `foldKey` its folded bytes, and
`caseLess` orders byte strings by their folded, unsigned bytes.
-/

namespace ApiGateway
namespace Ascii

def lowerCase (s : String) : String :=
  String.ofList (s.toList.map Char.toLower)

def lowerByte (b : UInt8) : UInt8 :=
  if 65 ≤ b ∧ b ≤ 90 then b + 32 else b

/-- Bytes `a` come before bytes `b` once both are folded; a proper beginning comes first. -/
def caseLess (a b : List UInt8) : Bool :=
  decide (a.map lowerByte < b.map lowerByte)

def bytes (s : String) : List UInt8 :=
  s.toUTF8.data.toList

/-- The folded bytes of a name; names with the same key are the same name. -/
def foldKey (name : String) : List UInt8 :=
  (bytes name).map lowerByte

theorem toList_lowerCase (s : String) : (lowerCase s).toList = s.toList.map Char.toLower := by
  simp [lowerCase]

end Ascii
end ApiGateway
