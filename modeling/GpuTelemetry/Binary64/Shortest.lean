import GpuTelemetry.Binary64
import GpuTelemetry.Numeral

/-!
# Decimal text of floating-point numbers

A finite number is written with the fewest decimal digits that read back as the same number, and
of those the nearest to it. `Binary64.shortest` finds the digits, `Binary64.text` lays them out:
positional from `1e-4` up to below `1e16` with at least one place, otherwise as one digit, the
other places and an exponent of at least two digits. `Binary64.read` is the way back.
-/

namespace GpuTelemetry.Binary64

/-- The magnitude of a finite number as a quotient. -/
def quotient (significand : Nat) : Int → Nat × Nat
  | .ofNat e => (significand <<< e, 1)
  | .negSucc e => (significand, 1 <<< (e + 1))

/-- The integer part of `num / den` in units of `10 ^ place`, and the remainder with the divisor
that it is a remainder of. -/
def gridFloor (num den : Nat) : Int → Nat × Nat × Nat
  | .ofNat p =>
    let unit := den * Nat.pow 10 p
    (num / unit, num % unit, unit)
  | .negSucc p =>
    let scaled := num * Nat.pow 10 (p + 1)
    (scaled / den, scaled % den, den)

/-- The decimal place of the leading digit of `num / den`. -/
def leadingPlace (num den : Nat) : Int :=
  let guess : Int := ((Nat.toDigits 10 num).length : Int) - (Nat.toDigits 10 den).length
  if (gridFloor num den guess).1 = 0 then guess - 1 else guess

/-- The nearest of the two neighbours of `num / den` on the grid of `10 ^ place` that read back as
`target`, if one does; a tie goes to the even neighbour. -/
def onGrid? (target : Binary64) (num den : Nat) (place : Int) : Option Nat :=
  let (below, rest, unit) := gridFloor num den place
  let above := below + 1
  let back (n : Nat) : Bool := ofDecimal false n place == target
  match back below, back above with
  | true, true =>
    if 2 * rest < unit then some below
    else if unit < 2 * rest then some above
    else some (if below % 2 = 0 then below else above)
  | true, false => some below
  | false, true => some above
  | false, false => none

/-- The first of the grids with `count`, `count + 1`, … digits that has a neighbour of `num / den`
reading back as `target`, at most `tries` of them: the digits and the place of the last one. -/
def firstGrid (target : Binary64) (num den : Nat) (lead : Int) : Nat → Nat → Nat × Int
  | 0, _ => (0, 0)
  | tries + 1, count =>
    let place := lead - count
    match onGrid? target num den place with
    | some digits => (digits, place)
    | none => firstGrid target num den lead tries (count + 1)

/-- The fewest digits that read back as a positive finite number, with the place of the last. -/
def shortest (significand : Nat) (exponent : Int) : Nat × Int :=
  let (num, den) := quotient significand exponent
  firstGrid (.finite false significand exponent) num den (leadingPlace num den) 17 0

/-- Digits without the zeros at their end, which move into the place of the last digit. -/
def dropZeros (digits : List Char) (place : Int) : List Char × Int :=
  let kept := (digits.reverse.dropWhile (· = '0')).reverse
  (kept, place + ((digits.length - kept.length : Nat) : Int))

def layout (digits : List Char) (place : Int) : List Char :=
  let point : Int := place + digits.length
  if -4 < point ∧ point ≤ 16 then
    if point ≤ 0 then "0.".toList ++ List.replicate (-point).toNat '0' ++ digits
    else if digits.length ≤ point.toNat then
      digits ++ List.replicate (point.toNat - digits.length) '0' ++ ".0".toList
    else digits.take point.toNat ++ '.' :: digits.drop point.toNat
  else
    let exponent := point - 1
    let mantissa := match digits with
      | [] => []
      | [d] => [d]
      | d :: rest => d :: '.' :: rest
    let power := Numeral.writeNat exponent.natAbs
    mantissa ++ 'e' :: (if exponent < 0 then '-' else '+') ::
      (if power.length < 2 then '0' :: power else power)

def text : Binary64 → String
  | .nan => "nan"
  | .infinite negative => if negative then "-inf" else "inf"
  | .finite negative significand exponent =>
    let body :=
      if significand = 0 then "0.0".toList
      else
        let (digits, place) := shortest significand exponent
        let (digits, place) := dropZeros (Numeral.writeNat digits) place
        layout digits place
    String.ofList (if negative then '-' :: body else body)

/-- The magnitudes beyond which every number is infinite, and below whose opposite every number is
zero, in decimal digits. -/
def magnitudeLimit : Int := 400

/-- The number nearest to digits, the most significant first, whose last one stands at `place`. A
magnitude far out of range is settled without the power of ten. -/
def ofDigits (negative : Bool) (digits : List Nat) (place : Int) : Binary64 :=
  let significant := digits.dropWhile (· = 0)
  let magnitude := place + significant.length
  if significant.isEmpty ∨ magnitude < -magnitudeLimit then .finite negative 0 minExponent
  else if magnitudeLimit < magnitude then .infinite negative
  else ofDecimal negative (Numeral.ofDigits significant) place

/-- The digits on one side of the point, of which there may be none. -/
def sideDigits? : List Char → Option (List Nat)
  | [] => some []
  | c :: rest => Numeral.digits? (c :: rest)

/-- The exponent that follows a mantissa, however many digits it has; without one it is zero. -/
def exponent? : List Char → Option Int
  | [] => some 0
  | _ :: rest => Numeral.withSign (fun digits => (Numeral.digits? digits).map Numeral.ofDigits) rest

/-- The number that an unsigned decimal text denotes: digits with perhaps a point among them, and an
exponent, which may be missing. -/
def readMagnitude (negative : Bool) (cs : List Char) : Option Binary64 := do
  let (mantissa, power) := cs.span fun c => c ≠ 'e' && c ≠ 'E'
  let (whole, fraction) := mantissa.span (· ≠ '.')
  let digits ← sideDigits? whole
  let places ← sideDigits? (fraction.drop 1)
  let exponent ← exponent? power
  if digits.isEmpty ∧ places.isEmpty then none
  else some (ofDigits negative (digits ++ places) (exponent - places.length))

/-- The number that an unsigned text denotes, be it a word or a decimal. Letter case does not
count. -/
def readUnsigned (negative : Bool) (cs : List Char) : Option Binary64 :=
  match String.ofList (cs.map Char.toLower) with
  | "nan" => some .nan
  | "inf" | "infinity" => some (.infinite negative)
  | _ => readMagnitude negative cs

/-- The number that a text denotes, with perhaps a sign before it and blanks around it. -/
def read (s : String) : Option Binary64 :=
  match Text.strip Text.isNumeralBlank s.toList with
  | '-' :: rest => readUnsigned true rest
  | '+' :: rest => readUnsigned false rest
  | rest => readUnsigned false rest

end GpuTelemetry.Binary64
