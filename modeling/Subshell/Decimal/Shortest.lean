import Subshell.Text.Basic
/-!
The shortest decimal of a binary fraction.

A finite positive float is `mantissa * 2 ^ exponent`. Among the decimals that read back as the same
float, the ones with the fewest digits are sought, and of these the nearest to the float; the search
goes through the grids of one, two, … seventeen digits and tests the two grid points next to the
float in exact arithmetic.
-/

namespace Subshell.Decimal

/-- A positive binary fraction, `mantissa * 2 ^ exponent`, as the bits of a float give it. -/
structure Binary where
  mantissa : Nat
  exponent : Int
  /-- The mantissa is the least of its binade, so that the float below is half as far away. -/
  tight : Bool

/-- The binary fraction of a finite float's bits, the sign left out. -/
def Binary.ofBits (bits : Nat) : Binary :=
  let fraction : Nat := bits % Nat.pow 2 52
  let binade : Nat := bits / Nat.pow 2 52 % Nat.pow 2 11
  if binade = 0 then ⟨fraction, -1074, false⟩
  else ⟨fraction + Nat.pow 2 52, (binade : Int) - 1075, fraction = 0 && 1 < binade⟩

/-- A number with a decimal point: its digits, and the place of the point counted from the front. -/
structure Scientific where
  digits : Nat
  count : Nat
  point : Int

/-- The products of `n` and of a common denominator such that their quotient is
`n * 2 ^ two * 10 ^ ten`. -/
def scale (n : Nat) (two ten : Int) : Nat × Nat :=
  (n * Nat.pow 2 two.toNat * Nat.pow 10 ten.toNat,
    Nat.pow 2 (-two).toNat * Nat.pow 10 (-ten).toNat)

/-- Whether the decimal `digits * 10 ^ ten` reads back as the binary fraction: it lies between the
middles to the two neighbours, which belong to it when its mantissa is even. -/
def readsBack (b : Binary) (digits : Nat) (ten : Int) : Bool :=
  -- everything in quarters of the last binary place
  let (num, den) := scale (4 * digits) (-b.exponent) ten
  let low := (4 * b.mantissa - (if b.tight then 1 else 2)) * den
  let high := (4 * b.mantissa + 2) * den
  if b.mantissa % 2 = 0 then low ≤ num && num ≤ high else low < num && num < high

/-- The decimals of the grid `10 ^ ten` next to the fraction that read back, the nearer first; the
even one of two equally near. -/
def candidate? (b : Binary) (ten : Int) : Option Nat :=
  let (num, den) := scale b.mantissa b.exponent (-ten)
  let below := num / den
  let above := below + 1
  let twice := 2 * (num % den)
  let first := if twice < den || (twice = den && below % 2 = 0) then below else above
  let second := if first = below then above else below
  if 0 < first && readsBack b first ten then some first
  else if 0 < second && readsBack b second ten then some second
  else none

/-- The least `k` with `n < 10 ^ k`, that is, the number of decimal digits of a positive `n`. -/
def digitCount (n : Nat) : Nat := (Nat.toDigits 10 n).length

/-- The place of the decimal point of a positive fraction: the number of digits before the point,
or minus the number of zeros after it. -/
def Binary.point (b : Binary) : Int :=
  let (num, den) := scale b.mantissa b.exponent 0
  if den ≤ num then digitCount (num / den)
  else
    -- zeros after the point: the least power of ten that lifts the fraction to one, less one
    let zeros := digitCount (den / num) - 1
    if den ≤ num * Nat.pow 10 zeros then 1 - (zeros : Int) else -(zeros : Int)

/-- The shortest decimal with `count` or more digits, among those of at most
`count + more` digits. -/
def searchFrom (b : Binary) (point : Int) (count : Nat) : (more : Nat) → Scientific
  | 0 => ⟨b.mantissa, count, point⟩
  | more + 1 =>
    match candidate? b (point - count) with
    | some digits => ⟨digits, count, point⟩
    | none => searchFrom b point (count + 1) more

/-- The shortest decimal of a positive binary fraction, zeros at the end of its digits dropped. -/
def shortest (b : Binary) : Scientific :=
  let found := searchFrom b b.point 1 17
  -- a grid point may have reached the next power of ten
  let count := digitCount found.digits
  ⟨found.digits, count, found.point + count - found.count⟩

end Subshell.Decimal
