/-!
# INI text

A text of sections with keys.  A line is trimmed of blanks and tabs at both ends; a line that
starts with `[` opens a section, one that starts with `;` is a comment, and one with a `=` sets a
key of the section above it.  Blanks and tabs around a key, a value or a section name are dropped,
and those inside a value stay.  Lines of no such form say nothing.  No two sections have one name.

A program that uses a reader of its own may find other things in text that is not written so; what
it goes by is a `Reader`.
-/

namespace ApiGateway
namespace Ini

structure Section where
  name : String
  entries : List (String × String) := []
deriving DecidableEq, Repr, Inhabited

def Section.get? (s : Section) (key : String) : Option String :=
  s.entries.lookup key

def isBlank (c : Char) : Bool :=
  c == ' ' || c == '\t'

def trim (s : List Char) : List Char :=
  ((s.dropWhile isBlank).reverse.dropWhile isBlank).reverse

def lines : List Char → List (List Char)
  | [] => [[]]
  | '\n' :: rest => [] :: lines rest
  | c :: rest =>
    match lines rest with
    | [] => [[c]]
    | l :: more => (c :: l) :: more

inductive Line
  | blank
  | opening (name : String)
  /-- A line that opens a section but has no `]`. -/
  | unclosed
  | entry (key value : String)
deriving DecidableEq, Repr, Inhabited

def entry? (s : List Char) : Line :=
  if '=' ∈ s then
    .entry (String.ofList (trim (s.takeWhile (· != '='))))
      (String.ofList (trim ((s.dropWhile (· != '=')).drop 1)))
  else .blank

def Line.ofChars (s : List Char) : Line :=
  match trim s with
  | [] => .blank
  | ';' :: _ => .blank
  | '[' :: rest =>
    if ']' ∈ rest then .opening (String.ofList (trim (rest.takeWhile (· != ']')))) else .unclosed
  | cs => entry? cs

/-- The sections that lines describe, read from the last line up: what stands below the first
opening, and the sections.  `none` if a section is not closed. -/
def collect : List Line → Option (List (String × String) × List Section)
  | [] => some ([], [])
  | l :: rest =>
    match l, collect rest with
    | _, none => none
    | .unclosed, _ => none
    | .blank, some found => some found
    | .entry key value, some (entries, sections) => some ((key, value) :: entries, sections)
    | .opening name, some (entries, sections) => some ([], ⟨name, entries⟩ :: sections)

/-- The sections of a text in their order, or `none` if one is not closed or two have one name.
Keys above the first section belong to none and are dropped. -/
def parse? (text : String) : Option (List Section) :=
  ((collect ((lines text.toList).map Line.ofChars)).map (·.2)).filter fun sections =>
    (sections.map (·.name)).Nodup

def truth? : String → Option Bool
  | "true" => some true
  | "false" => some false
  | _ => none

/-- How text is read: its sections, or `none` where it does not follow the grammar, and the words
for truth values. -/
structure Reader where
  sections : String → Option (List Section)
  truth : String → Option Bool

def Reader.plain : Reader where
  sections := parse?
  truth := truth?

end Ini
end ApiGateway
