/-!
# Nanoseconds written as milliseconds

An access line shows a duration in milliseconds with three decimals.  The quotient is taken in
binary floating point with 53 significant digits and the decimals are rounded from its exact
value, so the text differs from the plain decimal quotient in its last digit for a few durations.
Every rounding goes to the nearest value, a tie to the even one.
-/

namespace ApiGateway
namespace Milliseconds

/-- `num / den` rounded to the nearest whole number, a tie to the even one. -/
def roundDiv (num den : Nat) : Nat :=
  let q := num / den
  let twice := 2 * (num % den)
  if twice < den ∨ (twice = den ∧ q % 2 = 0) then q else q + 1

/-- The `k`th power of two, below which a whole number has at most `k` binary digits. -/
def binade (k : Nat) : Nat :=
  Nat.pow 2 k

/-- A whole number rounded to 53 significant binary digits. -/
def round53 (n : Nat) : Nat :=
  if n < binade 53 then n
  else
    let scale := binade (n.log2 - 52)
    roundDiv n scale * scale

/-- A positive fraction below `2 ^ 53` rounded to 53 significant binary digits, as `(m, k)` for
`m / 2 ^ k`. -/
def binaryQuotient (num den : Nat) : Nat × Nat :=
  let guess := 53 + den.log2 - num.log2
  let k := if num * binade guess < binade 53 * den then guess else guess - 1
  (roundDiv (num * binade k) den, k)

def thousandths (ns : Nat) : Nat :=
  if ns = 0 then 0
  else
    let (m, k) := binaryQuotient (round53 ns) 1000000
    roundDiv (m * 1000) (binade k)

def threeDigits (n : Nat) : String :=
  (if n < 10 then "00" else if n < 100 then "0" else "") ++ toString n

/-- The text of a duration: the sign stays even where the digits are all zero. -/
def format (ns : Int) : String :=
  let t := thousandths ns.natAbs
  (if ns < 0 then "-" else "") ++ toString (t / 1000) ++ "." ++ threeDigits (t % 1000)

end Milliseconds
end ApiGateway
