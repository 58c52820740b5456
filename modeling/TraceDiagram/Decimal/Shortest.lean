/-! # Shortest decimals

The fewest digits that read back as a given double, found by exact arithmetic on natural numbers.

* **`Double`** a double taken apart into a sign and a magnitude `mantissa * 2 ^ exponent`.
* **`Decimal`** a number `digits * 10 ^ exponent`.
* **`Double.shortest`** the decimal with the fewest digits among those that round to the magnitude, and of
  two such the nearer.
* **`Decimal.positional`** and **`Decimal.scientific`** its two written forms.
-/

namespace TraceDiagram

/-- A number `digits * 10 ^ exponent`. -/
structure Decimal where
  /-- The digits, read as one natural number. -/
  digits : Nat
  /-- The power of ten. -/
  exponent : Int
  deriving DecidableEq, Repr

/-- The magnitude `mantissa * 2 ^ exponent` of a finite double. -/
structure Magnitude where
  /-- The bits, with the leading one of a normal number. -/
  mantissa : Nat
  /-- The power of two. -/
  exponent : Int
  /-- Whether the gap below is half the gap above: so it is at a power of two. -/
  atPower : Bool
  deriving DecidableEq, Repr

/-- A double taken apart. -/
inductive Double where
  /-- A finite number. -/
  | finite (negative : Bool) (magnitude : Magnitude)
  /-- An infinity. -/
  | infinite (negative : Bool)
  /-- Not a number. -/
  | nan
  deriving DecidableEq, Repr

namespace Double

/-- Takes a double apart. -/
def ofFloat (x : Float) : Double :=
  let bits := x.toBits.toNat
  let negative := decide (bits / Nat.pow 2 63 = 1)
  let power := bits / Nat.pow 2 52 % Nat.pow 2 11
  let fraction := bits % Nat.pow 2 52
  if power = 2047 then if fraction = 0 then .infinite negative else .nan
  else if power = 0 then .finite negative ⟨fraction, -1074, false⟩
  else .finite negative
    ⟨fraction + Nat.pow 2 52, Int.ofNat power - 1075, decide (fraction = 0) && decide (1 < power)⟩

end Double

namespace Magnitude

/-- `n` times the smallest power of two, times the power of ten, that make the fractions whole: the place of
`n / 4` last bits on a grid that also holds `10 ^ exponent`. -/
def scaled (v : Magnitude) (exponent : Int) (n : Nat) : Nat :=
  n * Nat.pow 2 (v.exponent - 2).toNat * Nat.pow 10 (-exponent).toNat

/-- The place of `10 ^ exponent` on the same grid. -/
def gridUnit (v : Magnitude) (exponent : Int) : Nat :=
  Nat.pow 10 exponent.toNat * Nat.pow 2 (2 - v.exponent).toNat

/-- Whether `digits * 10 ^ exponent` rounds to the magnitude. -/
def readsBack (v : Magnitude) (d : Decimal) : Bool :=
  let place := d.digits * v.gridUnit d.exponent
  let low := v.scaled d.exponent (if v.atPower then 4 * v.mantissa - 1 else 4 * v.mantissa - 2)
  let high := v.scaled d.exponent (4 * v.mantissa + 2)
  if v.mantissa % 2 = 0 then decide (low ≤ place) && decide (place ≤ high)
  else decide (low < place) && decide (place < high)

/-- How far `digits * 10 ^ exponent` is from the magnitude, on the common grid. -/
def distance (v : Magnitude) (d : Decimal) : Nat :=
  let place := d.digits * v.gridUnit d.exponent
  let here := v.scaled d.exponent (4 * v.mantissa)
  (place - here) + (here - place)

/-- The decimal with the given exponent that reads back and is nearest, if there is one. -/
def atExponent? (v : Magnitude) (exponent : Int) : Option Decimal :=
  let below := v.scaled exponent (4 * v.mantissa) / v.gridUnit exponent
  let lower : Decimal := ⟨below, exponent⟩
  let upper : Decimal := ⟨below + 1, exponent⟩
  match v.readsBack lower, v.readsBack upper with
  | true, true => if v.distance upper < v.distance lower then some upper else some lower
  | true, false => some lower
  | false, true => some upper
  | false, false => none

/-- How many powers of ten, up to a bound, it takes to bring `n` to at least `bound`. -/
def tensTo (bound : Nat) : Nat → Nat → Nat
  | 0, _ => 0
  | fuel + 1, n => if bound ≤ n then 0 else tensTo bound fuel (n * 10) + 1

/-- The least `k` for which the magnitude is below `10 ^ k`. -/
def decimalPoint (v : Magnitude) : Int :=
  let whole := v.mantissa * Nat.pow 2 v.exponent.toNat
  let unit := Nat.pow 2 (-v.exponent).toNat
  if unit ≤ whole then (Nat.toDigits 10 (whole / unit)).length
  else 1 - Int.ofNat (tensTo unit 400 whole)

/-- The decimal with the fewest digits that reads back as the magnitude. -/
def shortest (v : Magnitude) : Decimal :=
  if v.mantissa = 0 then ⟨0, 0⟩
  else
    let point := v.decimalPoint
    match (List.range 17).findSome? fun n => v.atExponent? (point - 1 - Int.ofNat n) with
    | some d => d
    | none => ⟨v.mantissa * Nat.pow 2 v.exponent.toNat, 0⟩

end Magnitude

namespace Decimal

/-- The digits as characters. -/
def digitChars (d : Decimal) : List Char := Nat.toDigits 10 d.digits

/-- The place of the point, counted from the front of the digits. -/
def point (d : Decimal) : Int := d.digitChars.length + d.exponent

/-- The written form without an exponent; a whole number has no point. -/
def positional (d : Decimal) : List Char :=
  let ds := d.digitChars
  if d.digits = 0 then ['0']
  else if d.point ≤ 0 then '0' :: '.' :: List.replicate (-d.point).toNat '0' ++ ds
  else if 0 ≤ d.exponent then ds ++ List.replicate d.exponent.toNat '0'
  else ds.take d.point.toNat ++ '.' :: ds.drop d.point.toNat

/-- The written form with an exponent. -/
def scientific (d : Decimal) : List Char :=
  let power := 'e' :: (toString (d.point - 1)).toList
  match d.digitChars with
  | [] => []
  | [c] => c :: power
  | c :: cs => c :: '.' :: cs ++ power

end Decimal

/-- The text of a double without an exponent: a whole number has no point. -/
def plainFloatText (x : Float) : List Char :=
  match Double.ofFloat x with
  | .nan => ['N', 'a', 'N']
  | .infinite negative => (if negative then ['-'] else []) ++ ['i', 'n', 'f']
  | .finite negative v => (if negative then ['-'] else []) ++ v.shortest.positional

/-- The text of a double in a data file: a whole number keeps `.0`, and numbers of at least `10 ^ 16` or below
`10 ^ -5` have an exponent. -/
def dataFloatText (x : Float) : List Char :=
  match Double.ofFloat x with
  | .nan | .infinite _ => ['n', 'u', 'l', 'l']
  | .finite negative v =>
    let d := v.shortest
    let body :=
      if d.digits = 0 then ['0', '.', '0']
      else if 16 < d.point ∨ d.point ≤ -5 then d.scientific
      else if 0 ≤ d.exponent then d.positional ++ ['.', '0']
      else d.positional
    (if negative then ['-'] else []) ++ body

end TraceDiagram
