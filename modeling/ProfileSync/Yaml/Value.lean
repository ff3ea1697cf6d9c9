/-
  The values that scalars write.

  A plain scalar without a tag is nothing, a truth value, an integer or a
  floating-point number if it is written as one, and a text otherwise.  The
  standard tags demand one of these.
-/
import ProfileSync.Shape
import ProfileSync.Yaml.Node

namespace ProfileSync.Yaml

/-- Whether a text writes nothing. -/
def isNullText (s : String) : Bool := ["null", "Null", "NULL", "~"].contains s

/-- The truth value that a text writes. -/
def boolean? (s : String) : Option Bool :=
  if ["true", "True", "TRUE"].contains s then some true
  else if ["false", "False", "FALSE"].contains s then some false
  else none

/-- Whether a text is more than one digit, the first a zero; such a text writes
    no number. -/
def isZeroPadded (cs : List Char) : Bool :=
  let ds := match cs with
    | '-' :: ds | '+' :: ds => ds
    | ds => ds
  1 < ds.length && ds.head? == some '0' && ds.all Char.isDigit

/-- The number that a text of digits writes. -/
def digits? (base : Nat) (ds : List Char) : Option Nat :=
  if !ds.isEmpty && ds.all (isDigitOf base) then some (numberOfDigits base ds) else none

/-- The number that a text of digits writes after the letter of its base. -/
def based? : List Char → Option Nat
  | '0' :: 'x' :: ds => digits? 16 ds
  | '0' :: 'o' :: ds => digits? 8 ds
  | '0' :: 'b' :: ds => digits? 2 ds
  | _ => none

/-- The integer that a text writes, of a magnitude below the given bounds. -/
def integer? (cs : List Char) (positive negative : Nat) : Option Int :=
  match cs with
  | '-' :: ds =>
    let n? := (based? ds).orElse fun _ => if isZeroPadded cs then none else digits? 10 ds
    n?.bind fun n => if n ≤ negative then some (-n) else none
  | _ =>
    let ds := if cs.head? == some '+' then cs.drop 1 else cs
    let n? := (based? ds).orElse fun _ => if isZeroPadded cs then none else digits? 10 ds
    n?.bind fun n => if n < positive then some n else none

/-- The integer that a text writes, of 64 bits or else of 128. -/
def integerFound? (cs : List Char) : Option Found :=
  match integer? cs (wordLimit 64) (wordLimit 63) with
  | some n => some (.integer n)
  | none => (integer? cs (wordLimit 128) (wordLimit 127)).map fun n => .wideInteger n (n < 0)

/-- The floating-point number that a text writes.  The infinite ones have words
    of their own. -/
def real? (s : String) : Option Binary64 :=
  let cs := s.toList
  let unsigned := if cs.head? == some '+' then cs.drop 1 else cs
  if [".inf", ".Inf", ".INF"].contains (String.ofList unsigned) then some (.infinite false)
  else if ["-.inf", "-.Inf", "-.INF"].contains s then some (.infinite true)
  else if [".nan", ".NaN", ".NAN"].contains s then some .notANumber
  else
    match Binary64.read? cs with
    | some x => if x.isFinite then some x else none
    | none => none

/-- What a plain scalar without a tag writes. -/
def plainFound (s : String) : Found :=
  if s.isEmpty || isNullText s then .unit
  else
    match boolean? s with
    | some b => .boolean b
    | none =>
      match integerFound? s.toList with
      | some found => found
      | none =>
        match if isZeroPadded s.toList then none else real? s with
        | some x => .real x
        | none => .text s

/-- A standard tag. -/
def standardTag (name : String) : String := "tag:yaml.org,2002:" ++ name

/-- The fault of a scalar that stands where `expected` should.  If its tag
    demands a value that it does not write, that is the fault. -/
def scalarFault (tag : Option String) (plain : Bool) (s expected : String) : ShapeFault :=
  let demand (found? : Option Found) (what : String) : ShapeFault :=
    match found? with
    | some found => .invalidType found expected
    | none => .invalidValue s what
  match tag with
  | none => .invalidType (if plain then plainFound s else .text s) expected
  | some t =>
    if t = standardTag "bool" then demand ((boolean? s).map .boolean) "a boolean"
    else if t = standardTag "int" then demand (integerFound? s.toList) "an integer"
    else if t = standardTag "float" then demand ((real? s).map .real) "a float"
    else if t = standardTag "null" then demand (if isNullText s then some .unit else none) "null"
    else if t.toList.head? = some '!' && plain then .invalidType (plainFound s) expected
    else .invalidType (.text s) expected

end ProfileSync.Yaml
