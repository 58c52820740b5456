import TraceDiagram.Decimal.Read
import TraceDiagram.Template.Syntax
import TraceDiagram.Template.Fault

/-! # Reckoning in templates

Whole numbers stay whole where they can: a sum, difference, product or remainder of two whole numbers is
whole and has to fit 64 bits, and a quotient that comes out even is whole.

* **`floatRemainder`** the exact remainder of a division of doubles.
* **`MathOp.apply`** the result of an operator; some operations have none.
* **`LogicOp.compare`** the answer of a comparison of two numbers.
-/

namespace TraceDiagram.Template

/-- The whole part of a double, held within 64 bits. -/
def clampedInt (x : Float) : Int := x.toInt64.toInt

/-- A double `± mantissa * 2 ^ exponent`. -/
def floatOfParts (negative : Bool) (mantissa : Nat) (exponent : Int) : Float :=
  let x := (Float.ofNat mantissa).scaleB exponent
  if negative then -x else x

/-- The remainder of the division of `x` by `y`, with the sign of `x`. -/
def floatRemainder (x y : Float) : Float :=
  match Double.ofFloat x, Double.ofFloat y with
  | .finite negative v, .finite _ w =>
    if w.mantissa = 0 then 0.0 / 0.0
    else
      let low := min v.exponent w.exponent
      let m := v.mantissa * Nat.pow 2 (v.exponent - low).toNat
      let n := w.mantissa * Nat.pow 2 (w.exponent - low).toNat
      floatOfParts negative (m % n) low
  | .finite _ _, .infinite _ => x
  | _, _ => 0.0 / 0.0

/-- A result that has to fit 64 bits. -/
def checkedResult (op : String) (m n result : Int) : Except RenderFault (Option Number) :=
  if fitsSigned m && fitsSigned n then
    if fitsSigned result then .ok (some (.int result))
    else .error (.other
      (toString m ++ " " ++ op ++ " " ++ toString n ++ " results in an out of bounds i64"))
  else if 0 ≤ result && result < Int.ofNat UInt64.size then .ok (some (.int result))
  else .error (.other
    (toString m ++ " " ++ op ++ " " ++ toString n ++ " results in an out of bounds u64"))

/-- A double as a number, if it is finite. -/
def finiteNumber (x : Float) : Option Number := if x.isFinite then some (.float x) else none

/-- A quotient: whole if it comes out even, and none if it is not finite. -/
def quotient (x y : Float) : Option Number :=
  let q := x / y
  if !q.isFinite then none
  else if q.round == q then some (.int (clampedInt q))
  else some (.float q)

/-- The result of an operator. A remainder of a division by zero is left to the caller, who can name the
operands: it is `zeroDivisor`. -/
def MathOp.apply (op : MathOp) (zeroDivisor : RenderFault) :
    Number → Number → Except RenderFault (Option Number)
  | .int m, .int n =>
    match op with
    | .add => checkedResult "+" m n (m + n)
    | .sub => checkedResult "-" m n (m - n)
    | .mul => checkedResult "x" m n (m * n)
    | .div => .ok (quotient (Float.ofInt m) (Float.ofInt n))
    | .modulo => if n = 0 then .error zeroDivisor else .ok (some (.int (m.tmod n)))
  | a, b =>
    let x := a.toFloat
    let y := b.toFloat
    match op with
    | .add => .ok (finiteNumber (x + y))
    | .sub => .ok (finiteNumber (x - y))
    | .mul => .ok (finiteNumber (x * y))
    | .div => .ok (quotient x y)
    | .modulo => .ok (finiteNumber (floatRemainder x y))

/-- The answer of a comparison by size. -/
def LogicOp.compare (op : LogicOp) (a b : Number) : Bool :=
  let x := a.toFloat
  let y := b.toFloat
  match op with
  | .atLeast => y ≤ x
  | .atMost => x ≤ y
  | .more => y < x
  | .less => x < y
  | _ => false

/-- Whether two values count as equal: numbers by their size, other values if they are the same. -/
def equalValues (a b : Json) : Bool :=
  match a, b with
  | .number m, .number n => m.toFloat == n.toFloat
  | _, _ => a.same b

/-- Whether a number and something else are compared; the answer is then always no. -/
def mixedKinds : Json → Json → Bool
  | .number _, .number _ => false
  | .number _, _ => true
  | _, .number _ => true
  | _, _ => false

end TraceDiagram.Template
