import GraphSchema.Number.Binary64

/-! The text of a floating point number: the fewest digits that read back, nearest to the number,
written plainly for moderate exponents and with a power of ten otherwise. -/
namespace GraphSchema.Binary64

/-- The numbers that round to a given one, in units of `10 ^ (-shift)`. -/
structure Interval where
  value : Nat
  below : Nat
  above : Nat
  closed : Bool
  shift : Nat
  deriving DecidableEq, Repr

/-- Half way to either neighbour; the lower one is nearer where the exponent changes. -/
def intervalOf (m : Nat) (e : Int) : Interval :=
  let quarter := e - 2
  let shift := (-quarter).toNat
  let unit := Nat.pow 2 quarter.toNat * Nat.pow 5 shift
  let down := if m = mantissaLimit / 2 ∧ leastExponent < e then 1 else 2
  ⟨4 * m * unit, down * unit, 2 * unit, m % 2 = 0, shift⟩

def Interval.contains (i : Interval) (n : Nat) : Bool :=
  if i.closed then i.value ≤ n + i.below && n ≤ i.value + i.above
  else i.value < n + i.below && n < i.value + i.above

/-- The neighbour of the value on the grid of multiples of `step` that lies in the interval; of
two the nearer, of two as near the even multiple. -/
def Interval.onGrid (i : Interval) (step : Nat) : Option Nat :=
  let low := i.value / step
  let high := low + 1
  match i.contains (low * step), i.contains (high * step) with
  | false, false => none
  | true, false => some low
  | false, true => some high
  | true, true =>
    let below := i.value - low * step
    let above := high * step - i.value
    if below < above then some low
    else if above < below then some high
    else some (low + low % 2)

/-- The shortest digits of a number, and the power of ten of the first of them. -/
def shortestDigits (m : Nat) (e : Int) : List Char × Int :=
  let i := intervalOf m e
  let size := digitCount i.value
  let found := (List.range 17).findSome? fun k =>
    let step := Nat.pow 10 (size - (k + 1))
    (i.onGrid step).map (· * step)
  let n := found.getD i.value
  let digits := (Nat.toDigits 10 n).reverse.dropWhile (· = '0')
  (digits.reverse, (digitCount n : Int) - 1 - i.shift)

/-- The exponents that are written plainly: from the first up to, not including, the second. -/
def plainExponents : Int × Int := (-4, 16)

def zeros (n : Nat) : List Char := List.replicate n '0'

def layOut (digits : List Char) (e : Int) : List Char :=
  if plainExponents.1 ≤ e ∧ e < plainExponents.2 then
    let whole := e.toNat + 1
    if e < 0 then '0' :: '.' :: zeros ((-e).toNat - 1) ++ digits
    else if digits.length ≤ whole then digits ++ zeros (whole - digits.length) ++ ['.', '0']
    else digits.take whole ++ '.' :: digits.drop whole
  else
    let power := Nat.toDigits 10 e.natAbs
    digits.take 1 ++ (if digits.length = 1 then [] else '.' :: digits.drop 1) ++
      'e' :: (if e < 0 then '-' else '+') :: zeros (2 - power.length) ++ power

def text : Binary64 → List Char
  | nan => "nan".toList
  | infinite negative => if negative then "-inf".toList else "inf".toList
  | finite negative m e =>
    let sign := if negative then ['-'] else []
    if m = 0 then sign ++ "0.0".toList
    else
      let (digits, power) := shortestDigits m e
      sign ++ layOut digits power

end GraphSchema.Binary64
