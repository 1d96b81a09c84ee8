/-! Binary floating point numbers of 64 bits as exact values, and the nearest one to a quotient or
a decimal. -/
namespace GraphSchema

/-- A finite number is `mantissa * 2 ^ exponent` with its sign; zero keeps its sign as well. -/
inductive Binary64 where
  | nan
  | infinite (negative : Bool)
  | finite (negative : Bool) (mantissa : Nat) (exponent : Int)
  deriving DecidableEq, Repr, Inhabited

namespace Binary64

def leastExponent : Int := -1074
def greatestExponent : Int := 971
def mantissaLimit : Nat := Nat.pow 2 53

/-- The integer nearest to `p / q`; a half goes to the even neighbour. -/
def roundQuotient (p q : Nat) : Nat :=
  let n := p / q
  let twice := 2 * (p % q)
  if twice < q then n else if q < twice then n + 1 else n + n % 2

/-- The quotient `p / q` divided by `2 ^ e`, as numerator and denominator. -/
def scale (p q : Nat) (e : Int) : Nat × Nat :=
  (p * Nat.pow 2 (-e).toNat, q * Nat.pow 2 e.toNat)

/-- The exponent at which `p / q` has a mantissa of 53 bits, or the least one there is. -/
def exponentOf (p q : Nat) : Int :=
  let e : Int := (p.log2 : Int) - q.log2 - 52
  let s := scale p q e
  max leastExponent (if s.1 / s.2 < mantissaLimit / 2 then e - 1 else e)

def ofQuotient (negative : Bool) (p q : Nat) : Binary64 :=
  let e := exponentOf p q
  let s := scale p q e
  let m := roundQuotient s.1 s.2
  let (m, e) := if m = mantissaLimit then (mantissaLimit / 2, e + 1) else (m, e)
  if p = 0 then finite negative 0 leastExponent
  else if greatestExponent < e then infinite negative
  else finite negative m e

def digitCount (n : Nat) : Nat := (Nat.toDigits 10 n).length

/-- The number nearest to `n * 10 ^ e`. Far beyond either end of the range the power is not
computed. -/
def ofDecimal (negative : Bool) (n : Nat) (e : Int) : Binary64 :=
  let size := (digitCount n : Int) + e
  if n = 0 ∨ size < -330 then finite negative 0 leastExponent
  else if 310 < size then infinite negative
  else ofQuotient negative (n * Nat.pow 10 e.toNat) (Nat.pow 10 (-e).toNat)

/-- The integer that a number is, if it is one. -/
def toInt? : Binary64 → Option Int
  | finite negative m e =>
    let signed (n : Nat) : Int := if negative then -(n : Int) else n
    let unit := Nat.pow 2 (-e).toNat
    if 0 ≤ e then some (signed (m * Nat.pow 2 e.toNat))
    else if m % unit = 0 then some (signed (m / unit))
    else none
  | _ => none

def isZero : Binary64 → Bool
  | finite _ m _ => m = 0
  | _ => false

end Binary64
end GraphSchema
