/-!
# Binary floating-point numbers

The values of a 64-bit binary floating-point number as exact data: a finite one is a sign and
`significand · 2 ^ exponent`. Nothing here is computed in floating point, so what a number denotes,
which number a decimal text denotes and what remains of it as an integer are all exact.
-/

namespace GpuTelemetry

inductive Binary64 where
  | nan
  | infinite (negative : Bool)
  | finite (negative : Bool) (significand : Nat) (exponent : Int)
  deriving Repr, DecidableEq

namespace Binary64

/-- The number of bits of a full significand. -/
def precision : Nat := 53

/-- The least exponent; below it significands are shorter. -/
def minExponent : Int := -1074

/-- The greatest exponent of a full significand. -/
def maxExponent : Int := 971

/-- `n · 2 ^ shift`, rounded toward zero. -/
def scale (n : Nat) : Int → Nat
  | .ofNat shift => n <<< shift
  | .negSucc shift => n >>> (shift + 1)

/-- The integer part of a finite number, its fraction dropped. -/
def integerPart (negative : Bool) (significand : Nat) (exponent : Int) : Int :=
  let whole : Int := scale significand exponent
  if negative then -whole else whole

/-- A number that is equal to an integer. -/
def denotes (n : Int) : Binary64 → Bool
  | .finite negative significand exponent =>
    let signed : Int := if negative then -significand else significand
    match exponent with
    | .ofNat e => signed * (1 <<< e : Nat) = n
    | .negSucc e => signed = n * (1 <<< (e + 1) : Nat)
  | _ => false

/-- The quotient of two numbers rounded to the nearest integer, a half to the even neighbour. -/
def roundQuotient (num den : Nat) : Nat :=
  let q := num / den
  let twice := 2 * (num % den)
  if twice < den then q else if den < twice then q + 1 else q + q % 2

/-- The exponent at which `num / den` has a full significand, or the least exponent. -/
def exponentOf (num den : Nat) : Int :=
  let guess : Int := (num.log2 : Int) - den.log2 - (precision - 1 : Nat)
  let exponent := if scaled guess < 1 <<< (precision - 1) then guess - 1 else guess
  max exponent minExponent
where
  scaled (exponent : Int) : Nat :=
    match exponent with
    | .ofNat e => num / (den <<< e)
    | .negSucc e => (num <<< (e + 1)) / den

/-- The number nearest to `num / den`, of two equally near the one with the even significand. -/
def ofQuotient (negative : Bool) (num den : Nat) : Binary64 :=
  if num = 0 then .finite negative 0 minExponent
  else
    let exponent := exponentOf num den
    let rounded := match exponent with
      | .ofNat e => roundQuotient num (den <<< e)
      | .negSucc e => roundQuotient (num <<< (e + 1)) den
    let (significand, exponent) :=
      if rounded = 1 <<< precision then (1 <<< (precision - 1), exponent + 1)
      else (rounded, exponent)
    if maxExponent < exponent then .infinite negative
    else .finite negative significand exponent

/-- The number nearest to `digits · 10 ^ exponent`. -/
def ofDecimal (negative : Bool) (digits : Nat) : Int → Binary64
  | .ofNat e => ofQuotient negative (digits * Nat.pow 10 e) 1
  | .negSucc e => ofQuotient negative digits (Nat.pow 10 (e + 1))

end Binary64

end GpuTelemetry
