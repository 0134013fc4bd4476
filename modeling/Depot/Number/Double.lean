import Depot.Text

/-!
# Double precision numbers

A `Double` is a binary64 number kept as what it means: a sign, a mantissa and a
power of two, or one of the values that are no numbers. Reading a decimal
(`Double.ofDecimal`) rounds the exact quotient to the nearest double, a tie to
the even mantissa. Writing (`Double.shortest`) finds the fewest decimal digits
that read back, and of those the ones nearest to the value. Both work on exact
natural numbers.
-/

namespace Depot

/-- A binary64 number. -/
inductive Double where
  /-- No number at all. -/
  | nan
  /-- Beyond the finite numbers. -/
  | infinity (negative : Bool)
  /-- The number `± mantissa * 2 ^ exponent`. -/
  | finite (negative : Bool) (mantissa : Nat) (exponent : Int)
  deriving DecidableEq

namespace Double

/-- The exponent of the smallest numbers. -/
def minExponent : Int := -1074

/-- The exponent of the largest finite numbers. -/
def maxExponent : Int := 971

/-- Mantissas are below this. -/
def mantissaBound : Nat := Nat.pow 2 53

/-- Zero, with a sign. -/
def zero (negative : Bool) : Double := .finite negative 0 minExponent

/-! ## Reading -/

/-- The quotient rounded to the nearest natural number, a tie to the even one. -/
def roundHalfEven (num den : Nat) : Nat :=
  let q := num / den
  let r := num % den
  if 2 * r < den then q
  else if den < 2 * r then q + 1
  else if q % 2 = 0 then q else q + 1

/-- A quotient divided by a power of two. -/
def scale (num den : Nat) (e : Int) : Nat × Nat :=
  if e < 0 then (num * Nat.pow 2 (-e).toNat, den) else (num, den * Nat.pow 2 e.toNat)

/-- The double nearest to `± num / den`, where `den` is positive. -/
def ofRatio (negative : Bool) (num den : Nat) : Double :=
  if num = 0 then zero negative
  else
    let low := (num.log2 : Int) - den.log2 - 53
    let (n, d) := scale num den low
    let fitted := if n / d < mantissaBound then low else low + 1
    let e := max fitted minExponent
    let (n, d) := scale num den e
    let m := roundHalfEven n d
    let (m, e) := if m < mantissaBound then (m, e) else (m / 2, e + 1)
    if maxExponent < e then .infinity negative else .finite negative m e

/-- The double nearest to `± digits * 10 ^ e`. Numbers far out of range are
    settled by their size alone. -/
def ofDecimal (negative : Bool) (digits : Nat) (e : Int) : Double :=
  if digits = 0 then zero negative
  else
    let size := (Text.ofNat digits).length + e
    if 320 < size then .infinity negative
    else if size < -340 then zero negative
    else if 0 ≤ e then ofRatio negative (digits * Nat.pow 10 e.toNat) 1
    else ofRatio negative digits (Nat.pow 10 (-e).toNat)

/-! ## Writing -/

/-- The place of the decimal point of a positive quotient: the `k` with
    `10 ^ (k - 1) ≤ num / den < 10 ^ k`. -/
def pointPlace (num den : Nat) : Int :=
  if den ≤ num then (Text.ofNat (num / den)).length
  else
    let d := (Text.ofNat (den / num)).length
    let j := if den ≤ num * Nat.pow 10 (d - 1) then d - 1 else d
    1 - (j : Int)

/-- The candidate with `n` digits: the multiple of `10 ^ (place - n)` next to
    the value that reads back as the value, the nearer one of two. All numbers
    are multiples of `1 / (4 * den)` here: `value`, the ends `low` and `high` of
    the interval of numbers that are rounded to it, and whether the ends belong
    to it. -/
def candidate? (value low high den : Nat) (closed : Bool) (place : Int) (n : Nat) : Option Nat :=
  let (up, down) : Nat × Nat :=
    if 0 ≤ place - n then (Nat.pow 10 (place - n).toNat, 1) else (1, Nat.pow 10 (n - place).toNat)
  let unit := den * up
  let inside (c : Nat) : Bool :=
    let x := c * unit
    if closed then low * down ≤ x && x ≤ high * down else low * down < x && x < high * down
  let below := value * down / unit
  let above := below + 1
  match inside below, inside above with
  | true, true =>
    let fromBelow := value * down - below * unit
    let fromAbove := above * unit - value * down
    if fromBelow < fromAbove then some below
    else if fromAbove < fromBelow then some above
    else if below % 2 = 0 then some below else some above
  | true, false => some below
  | false, true => some above
  | false, false => none

/-- The number without the zeros at its end, and their count. -/
def stripZeros : Nat → Nat → Nat × Nat
  | 0, n => (n, 0)
  | fuel + 1, n =>
    if n ≠ 0 ∧ n % 10 = 0 then
      let (m, k) := stripZeros fuel (n / 10)
      (m, k + 1)
    else (n, 0)

/-- The fewest digits that read back as `mantissa * 2 ^ exponent`, and the power
    of ten of the last digit. The mantissa is positive. -/
def shortest (mantissa : Nat) (exponent : Int) : Nat × Int :=
  let (num, den) : Nat × Nat :=
    if 0 ≤ exponent then (mantissa * Nat.pow 2 exponent.toNat, 1)
    else (mantissa, Nat.pow 2 (-exponent).toNat)
  let ulp := if 0 ≤ exponent then Nat.pow 2 exponent.toNat else 1
  let place := pointPlace num den
  let value := 4 * num
  let high := value + 2 * ulp
  let low :=
    if mantissa = mantissaBound / 2 ∧ minExponent < exponent then value - ulp else value - 2 * ulp
  let closed := mantissa % 2 = 0
  let digits := (List.range 17).findSome? fun n =>
    (candidate? value low high (4 * den) closed place (n + 1)).map fun c => (c, place - (n + 1))
  let (c, e) := digits.getD (value, 0)
  let (c, zeros) := stripZeros 400 c
  (c, e + zeros)

/-- The spellings of the values that have no digits. -/
structure Spelling where
  /-- The value that is no number. -/
  nan : Text
  /-- The value beyond all numbers. -/
  infinity : Text

/-- The sign in front of a number. -/
def signOf (negative : Bool) : Text := if negative then ['-'] else []

/-- A double in decimal: positional notation with a fraction when the first
    digit stands for a power of ten from -4 to 15, and otherwise one digit
    before the point and an exponent of at least two digits. -/
def render (spelling : Spelling) : Double → Text
  | .nan => spelling.nan
  | .infinity negative => signOf negative ++ spelling.infinity
  | .finite negative mantissa exponent =>
    let sign := signOf negative
    if mantissa = 0 then sign ++ "0.0"
    else
      let (c, e) := shortest mantissa exponent
      let digits := Text.ofNat c
      let place := digits.length + e
      sign ++
        if -4 < place ∧ place ≤ 16 then
          if place ≤ 0 then "0." ++ Text.repeated (-place).toNat '0' ++ digits
          else if digits.length ≤ place then
            digits ++ Text.repeated (place.toNat - digits.length) '0' ++ ".0"
          else digits.take place.toNat ++ "." ++ digits.drop place.toNat
        else
          let fraction : Text := if digits.length = 1 then [] else '.' :: digits.drop 1
          let power := place - 1
          digits.take 1 ++ fraction ++ (if power < 0 then "e-" else "e+" : Text) ++
            Text.ofNatPadded 2 power.natAbs

/-! ## Parts -/

/-- Whether the double is zero, of either sign. -/
def isZero : Double → Bool
  | .finite _ mantissa _ => mantissa = 0
  | _ => false

/-- The integer that remains of a finite double when its fraction is cut off. -/
def truncate? : Double → Option Int
  | .finite negative mantissa exponent =>
    let n : Int :=
      if 0 ≤ exponent then mantissa * Nat.pow 2 exponent.toNat
      else (mantissa / Nat.pow 2 (-exponent).toNat : Nat)
    some (if negative then -n else n)
  | _ => none

end Double

end Depot
