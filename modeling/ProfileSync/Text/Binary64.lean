/-
  Floating-point numbers of 64 bits, as far as their text goes.

  * `Binary64.ofRatio` is the number nearest to a ratio, of two equally near
    ones the even one;
  * `Binary64.read?` is the number that a decimal writes;
  * `Binary64.text` is the shortest decimal that is read back as the number,
    without an exponent and with one digit at least after the point.

  All arithmetic is exact, on natural numbers.
-/
import ProfileSync.Text.Digits

namespace ProfileSync

/-- A floating-point number of 64 bits. -/
inductive Binary64 where
  /-- The number `mantissa * 2 ^ exponent`, or its negative. -/
  | finite (negative : Bool) (mantissa : Nat) (exponent : Int)
  | infinite (negative : Bool)
  | notANumber
deriving Repr, Inhabited, BEq, DecidableEq

namespace Binary64

/-! ## The nearest number -/

/-- The whole number nearest to `num / den`, the even one of two. -/
def roundHalfEven (num den : Nat) : Nat :=
  let q := num / den
  let r := num % den
  if 2 * r < den then q else if den < 2 * r then q + 1 else q + q % 2

/-- The exponent of the least numbers. -/
def leastExponent : Int := -1074

/-- The exponent of the greatest numbers. -/
def greatestExponent : Int := 971

/-- The numerator and the denominator of `num / den * base ^ e`. -/
def scale (num den base : Nat) (e : Int) : Nat × Nat :=
  if 0 ≤ e then (num * Nat.pow base e.toNat, den) else (num, den * Nat.pow base (-e).toNat)

/-- The number nearest to `num / den`, or to its negative. -/
def ofRatio (negative : Bool) (num den : Nat) : Binary64 :=
  if num = 0 then .finite negative 0 leastExponent
  else
    let estimate : Int := (num.log2 : Int) - den.log2
    let (n, d) := scale num den 2 (-estimate)
    let exponent := max leastExponent ((if d ≤ n then estimate else estimate - 1) - 52)
    let (n, d) := scale num den 2 (-exponent)
    let mantissa := roundHalfEven n d
    let (mantissa, exponent) :=
      if mantissa = wordLimit 53 then (wordLimit 52, exponent + 1) else (mantissa, exponent)
    if greatestExponent < exponent then .infinite negative
    else .finite negative mantissa exponent

/-- The number nearest to `n * 10 ^ e`, or to its negative.  Exponents far
    beyond the range are told from the count of digits alone. -/
def ofDecimal (negative : Bool) (n : Nat) (e : Int) : Binary64 :=
  let magnitude := (Nat.toDigits 10 n).length + e
  if n = 0 ∨ magnitude < -330 then .finite negative 0 leastExponent
  else if 310 < magnitude then .infinite negative
  else
    let (num, den) := scale n 1 10 e
    ofRatio negative num den

/-! ## Reading -/

/-- The exponent that a text writes after its letter. -/
def readExponent? : List Char → Option Int
  | '-' :: ds => if !ds.isEmpty && ds.all Char.isDigit then some (-numberOfDigits 10 ds) else none
  | '+' :: ds => if !ds.isEmpty && ds.all Char.isDigit then some (numberOfDigits 10 ds) else none
  | ds => if !ds.isEmpty && ds.all Char.isDigit then some (numberOfDigits 10 ds) else none

/-- The number that a decimal without a sign writes: digits, with a point
    before, between or after them, and perhaps an exponent. -/
def readUnsigned? (negative : Bool) (cs : List Char) : Option Binary64 :=
  let whole := cs.takeWhile Char.isDigit
  let rest := cs.dropWhile Char.isDigit
  let (fraction, rest) :=
    if rest.head? == some '.' then
      ((rest.drop 1).takeWhile Char.isDigit, (rest.drop 1).dropWhile Char.isDigit)
    else ([], rest)
  if whole.isEmpty && fraction.isEmpty then none
  else
    let exponent? := match rest with
      | [] => some 0
      | c :: ds => if c == 'e' || c == 'E' then readExponent? ds else none
    exponent?.map fun e =>
      ofDecimal negative (numberOfDigits 10 (whole ++ fraction)) (e - fraction.length)

/-- The number that a decimal writes. -/
def read? : List Char → Option Binary64
  | '-' :: cs => readUnsigned? true cs
  | '+' :: cs => readUnsigned? false cs
  | cs => readUnsigned? false cs

/-- Whether a number is finite. -/
def isFinite : Binary64 → Bool
  | finite _ _ _ => true
  | _ => false

/-! ## Writing -/

/-- A decimal: `digits * 10 ^ exponent`. -/
structure Decimal where
  digits : Nat
  exponent : Int

/-- Whether the decimal `c * 10 ^ e` is read as `mantissa * 2 ^ exponent`: it
    lies between the middles to the numbers on both sides, which themselves go
    to the even mantissa.  Below a power of two the numbers are half as far. -/
def isReadAs (mantissa : Nat) (exponent : Int) (c : Nat) (e : Int) : Bool :=
  let below := if mantissa = wordLimit 52 ∧ leastExponent < exponent then 1 else 2
  let (unit, den) := scale 1 1 2 exponent
  let (step, stepDen) := scale 1 1 10 e
  let value := 4 * c * step * den
  let least := (4 * mantissa - below) * unit * stepDen
  let greatest := (4 * mantissa + 2) * unit * stepDen
  if mantissa % 2 = 0 then least ≤ value && value ≤ greatest else least < value && value < greatest

/-- Of the decimals `c * 10 ^ e`, the one nearest to `mantissa * 2 ^ exponent`
    that is read as it.  Only the two neighbours of the number can be. -/
def onGrid? (mantissa : Nat) (exponent e : Int) : Option Decimal :=
  let (num, den) := scale mantissa 1 2 exponent
  let (num, den) := scale num den 10 (-e)
  let floor := num / den
  let low := isReadAs mantissa exponent floor e
  let high := isReadAs mantissa exponent (floor + 1) e
  if low && (!high || 2 * (num % den) ≤ den) then some ⟨floor, e⟩
  else if high then some ⟨floor + 1, e⟩
  else none

/-- The count of digits before the point; for a number below one, the negative
    of the count of zeros after the point. -/
def placeOf (mantissa : Nat) (exponent : Int) : Int :=
  let (num, den) := scale mantissa 1 2 exponent
  if den ≤ num then (Nat.toDigits 10 (num / den)).length
  else 1 - (Nat.toDigits 10 (den / num)).length

/-- The shortest decimal that is read as the positive number
    `mantissa * 2 ^ exponent`; one of seventeen digits always is. -/
def shortest (mantissa : Nat) (exponent : Int) : Decimal :=
  let place := placeOf mantissa exponent
  ((List.range 17).findSome? fun (n : Nat) => onGrid? mantissa exponent (place - 1 - n)).getD ⟨0, 0⟩

/-- A decimal without an exponent, with one digit at least on both sides of the
    point. -/
def Decimal.text (d : Decimal) : String :=
  let ds := Nat.toDigits 10 d.digits
  let (whole, fraction) :=
    if 0 ≤ d.exponent then (ds ++ List.replicate d.exponent.toNat '0', [])
    else
      let places := (-d.exponent).toNat
      let ds := List.replicate (places + 1 - ds.length) '0' ++ ds
      (ds.take (ds.length - places), ds.drop (ds.length - places))
  let fraction := (fraction.reverse.dropWhile (· == '0')).reverse
  String.ofList (whole ++ '.' :: (if fraction.isEmpty then ['0'] else fraction))

/-- The text of a number. -/
def text : Binary64 → String
  | finite negative mantissa exponent =>
    let digits := if mantissa = 0 then "0.0" else (shortest mantissa exponent).text
    if negative then "-" ++ digits else digits
  | infinite negative => if negative then "-inf" else "inf"
  | notANumber => "NaN"

end Binary64

end ProfileSync
