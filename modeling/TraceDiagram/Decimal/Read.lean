/-! # Reading numbers

* **`readInt?`** a whole number of 64 bits in some base.
* **`readFloat?`** a double, written with digits, a point and an exponent, or as a word.
-/

namespace TraceDiagram

/-- Whether a whole number fits 64 bits with a sign. -/
def fitsSigned (n : Int) : Bool := Int64.minValue.toInt ≤ n && n ≤ Int64.maxValue.toInt

/-- The value of a letter or digit as a digit; other characters are digits of no base. -/
def digitValue? (c : Char) : Option Nat :=
  if c.isDigit then some (c.toNat - 48)
  else if c.isAlpha then some (c.toLower.toNat - 87)
  else none

/-- The value of digits in a base, if all are digits of it. -/
def digitsValue? (base : Nat) (cs : List Char) : Option Nat :=
  if cs.isEmpty then none
  else cs.foldl (fun acc c => do
    let n ← acc
    let d ← digitValue? c
    if d < base then some (n * base + d) else none) (some 0)

/-- The whole number that a text writes in a base, with a sign or without. -/
def readSigned? (base : Nat) : List Char → Option Int
  | '-' :: ds => (digitsValue? base ds).map fun n => -Int.ofNat n
  | '+' :: ds => (digitsValue? base ds).map Int.ofNat
  | ds => (digitsValue? base ds).map Int.ofNat

/-- The whole number of 64 bits that a text writes in a base. -/
def readInt? (base : Nat) (cs : List Char) : Option Int :=
  (readSigned? base cs).bind fun n => if fitsSigned n then some n else none

/-- The double `m * 10 ^ e`. -/
def floatOfDecimal (m : Nat) (e : Int) : Float :=
  let digits := Int.ofNat (Nat.toDigits 10 m).length
  if m = 0 then 0.0
  else if 400 < digits + e then 1.0 / 0.0
  else if digits + e < -400 then 0.0
  else Float.ofScientific m (decide (e < 0)) e.natAbs

/-- The double that digits, a point and an exponent write. -/
def readDecimal? (cs : List Char) : Option Float :=
  let whole := cs.takeWhile Char.isDigit
  let rest := cs.drop whole.length
  let (part, rest) := match rest with
    | '.' :: more => (more.takeWhile Char.isDigit, more.dropWhile Char.isDigit)
    | _ => ([], rest)
  let power : Option Int := match rest with
    | [] => some 0
    | e :: more => if e = 'e' || e = 'E' then readSigned? 10 more else none
  if whole.isEmpty && part.isEmpty then none
  else power.map fun (p : Int) =>
    floatOfDecimal ((digitsValue? 10 (whole ++ part)).getD 0) (p - Int.ofNat part.length)

/-- The double that a text writes. -/
def readFloat? (cs : List Char) : Option Float :=
  let (negative, body) := match cs with
    | '-' :: rest => (true, rest)
    | '+' :: rest => (false, rest)
    | _ => (false, cs)
  let low := String.ofList (body.map Char.toLower)
  let x : Option Float :=
    if low = "inf" || low = "infinity" then some (1.0 / 0.0)
    else if low = "nan" then some (0.0 / 0.0)
    else readDecimal? body
  x.map fun x => if negative then -x else x

end TraceDiagram
