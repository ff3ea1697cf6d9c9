/-
  The scalars of TOML: strings, numbers, truth values, dates and times.
-/
import ProfileSync.Toml.Value

namespace ProfileSync.Toml

/-! ## Strings -/

/-- Whether a character may stand in a comment or in a string as it is. -/
def isPrintable (c : Char) : Bool := c == '\t' || (' ' ≤ c && c != '\x7f')

/-- Whether a character is a blank inside a line. -/
def isSpace (c : Char) : Bool := c == ' ' || c == '\t'

/-- The length of the line end at the front of a text. -/
def lineEndLength : List Char → Nat
  | '\n' :: _ => 1
  | '\r' :: '\n' :: _ => 2
  | _ => 0

/-- What a backslash and the characters after it stand for, and how many those
    are. -/
def escape? : List Char → Option (Char × Nat)
  | 'b' :: _ => some ('\x08', 1)
  | 't' :: _ => some ('\t', 1)
  | 'n' :: _ => some ('\n', 1)
  | 'f' :: _ => some ('\x0c', 1)
  | 'r' :: _ => some ('\r', 1)
  | 'e' :: _ => some ('\x1b', 1)
  | '\x22' :: _ => some ('\x22', 1)
  | '\\' :: _ => some ('\\', 1)
  | c :: rest =>
    let n := if c == 'x' then 2 else if c == 'u' then 4 else if c == 'U' then 8 else 0
    let ds := rest.take n
    let code := numberOfDigits 16 ds
    if n != 0 && ds.length == n && ds.all (isDigitOf 16) && code.isValidChar then
      some (Char.ofNat code, n + 1)
    else none
  | [] => none

/-- A string on one line, up to its closing quote: what it stands for and its
    length. -/
def lineText? (quote : Char) : Nat → List Char → Option (List Char × Nat)
  | 0, _ => none
  | _, [] => none
  | steps + 1, c :: rest =>
    if c == quote then some ([], 1)
    else if quote == '\x22' && c == '\\' then
      match escape? rest with
      | some (ch, n) =>
        (lineText? quote steps (rest.drop n)).map fun (cs, m) => (ch :: cs, m + n + 1)
      | none => none
    else if isPrintable c then
      (lineText? quote steps rest).map fun (cs, n) => (c :: cs, n + 1)
    else none

/-- The length of the blanks and line ends at the front of a text. -/
def marginLength : List Char → Nat
  | '\r' :: '\n' :: rest => marginLength rest + 2
  | c :: rest => if isSpace c || c == '\n' then marginLength rest + 1 else 0
  | [] => 0

/-- A string over several lines, up to its closing quotes: what it stands for
    and its length.  Up to two more quotes can stand before the closing ones, and
    a backslash at the end of a line joins it with the next text. -/
def linesText? (quote : Char) : Nat → List Char → Option (List Char × Nat)
  | 0, _ => none
  | _, [] => none
  | steps + 1, c :: rest =>
    if c == quote then
      let n := (rest.takeWhile (· == quote)).length + 1
      if 3 ≤ n then some (List.replicate (min n 5 - 3) quote, min n 5)
      else
        (linesText? quote steps (rest.drop (n - 1))).map fun (cs, m) =>
          (List.replicate n quote ++ cs, m + n)
    else if quote == '\x22' && c == '\\' then
      let blanks := (rest.takeWhile isSpace).length
      if lineEndLength (rest.drop blanks) != 0 then
        let n := marginLength rest
        (linesText? quote steps (rest.drop n)).map fun (cs, m) => (cs, m + n + 1)
      else
        match escape? rest with
        | some (ch, n) =>
          (linesText? quote steps (rest.drop n)).map fun (cs, m) => (ch :: cs, m + n + 1)
        | none => none
    else if isPrintable c || lineEndLength (c :: rest) == 1 then
      (linesText? quote steps rest).map fun (cs, n) => (c :: cs, n + 1)
    else if lineEndLength (c :: rest) == 2 then
      (linesText? quote steps (rest.drop 1)).map fun (cs, n) => ('\r' :: '\n' :: cs, n + 2)
    else none

/-- The string at the front of a text: what it stands for and its length. -/
def string? (severalLines : Bool) : List Char → Option (List Char × Nat)
  | [] => none
  | q :: rest =>
    if q != '\x22' && q != '\x27' then none
    else if rest.take 2 == [q, q] then
      if severalLines then
        let body := rest.drop 2
        let n := lineEndLength body
        (linesText? q body.length (body.drop n)).map fun (cs, m) => (cs, m + n + 3)
      else none
    else (lineText? q rest.length rest).map fun (cs, n) => (cs, n + 1)

/-! ## Numbers -/

/-- Whether digits are grouped well: an underscore stands between two digits
    only, and there is a digit. -/
def isGrouped (base : Nat) : List Char → Bool
  | [] => false
  | [c] => isDigitOf base c
  | c :: '_' :: rest => isDigitOf base c && isGrouped base rest
  | c :: rest => isDigitOf base c && isGrouped base rest

/-- A text without its underscores. -/
def ungrouped (cs : List Char) : List Char := cs.filter (· != '_')

/-- Whether a text is a decimal integer without a sign: digits, the first of
    which is a zero only if it is alone. -/
def isWhole (cs : List Char) : Bool := isGrouped 10 cs && (cs.head? != some '0' || cs.length == 1)

/-- Whether a text is the exponent of a number after its letter. -/
def isExponent : List Char → Bool
  | '+' :: ds | '-' :: ds => isGrouped 10 ds
  | ds => isGrouped 10 ds

/-- Whether a text is a decimal number with a point or an exponent, without a
    sign. -/
def isReal (cs : List Char) : Bool :=
  let isDigit (c : Char) : Bool := c.isDigit || c == '_'
  let whole := cs.takeWhile isDigit
  isWhole whole &&
    match cs.dropWhile isDigit with
    | '.' :: rest =>
      isGrouped 10 (rest.takeWhile isDigit) &&
        match rest.dropWhile isDigit with
        | [] => true
        | e :: ds => (e == 'e' || e == 'E') && isExponent ds
    | e :: ds => (e == 'e' || e == 'E') && isExponent ds
    | [] => false

/-- The number that a text writes. -/
def number? (cs : List Char) : Option Value :=
  let negative := cs.head? == some '-'
  let signed := negative || cs.head? == some '+'
  let unsigned := if signed then cs.drop 1 else cs
  let whole (n : Nat) : Value := .integer (if negative then -n else n)
  let based (base : Nat) (ds : List Char) : Option Value :=
    if !signed && isGrouped base ds then some (whole (numberOfDigits base (ungrouped ds))) else none
  match unsigned with
  | '0' :: 'x' :: ds => based 16 ds
  | '0' :: 'o' :: ds => based 8 ds
  | '0' :: 'b' :: ds => based 2 ds
  | ['i', 'n', 'f'] => some (.real (.infinite negative))
  | ['n', 'a', 'n'] => some (.real .notANumber)
  | _ =>
    if isWhole unsigned then some (whole (numberOfDigits 10 (ungrouped unsigned)))
    else if isReal unsigned then (Binary64.readUnsigned? negative (ungrouped unsigned)).map .real
    else none

/-! ## Dates and times -/

/-- The number that exactly `n` digits at the front of a text write. -/
def fixedDigits? (n : Nat) (cs : List Char) : Option (Nat × List Char) :=
  let ds := cs.take n
  if ds.length == n && ds.all Char.isDigit then some (numberOfDigits 10 ds, cs.drop n) else none

/-- How many days a month has. -/
def daysIn (year month : Nat) : Nat :=
  if month == 2 then
    if year % 4 == 0 && (year % 100 != 0 || year % 400 == 0) then 29 else 28
  else if month == 4 || month == 6 || month == 9 || month == 11 then 30
  else 31

/-- What follows the date at the front of a text. -/
def afterDate? (cs : List Char) : Option (List Char) :=
  match fixedDigits? 4 cs with
  | some (year, '-' :: cs) =>
    match fixedDigits? 2 cs with
    | some (month, '-' :: cs) =>
      match fixedDigits? 2 cs with
      | some (day, rest) =>
        if 1 ≤ month && month ≤ 12 && 1 ≤ day && day ≤ daysIn year month then some rest else none
      | none => none
    | _ => none
  | _ => none

/-- What follows the hour and the minute at the front of a text. -/
def afterMinute? (cs : List Char) : Option (List Char) :=
  match fixedDigits? 2 cs with
  | some (hour, ':' :: cs) =>
    match fixedDigits? 2 cs with
    | some (minute, rest) => if hour ≤ 23 && minute ≤ 59 then some rest else none
    | none => none
  | _ => none

/-- What follows the time of day at the front of a text.  The seconds can be
    left out, and their fraction as well. -/
def afterTime? (cs : List Char) : Option (List Char) :=
  match afterMinute? cs with
  | some (':' :: cs) =>
    match fixedDigits? 2 cs with
    | some (second, rest) =>
      if 60 < second then none
      else
        match rest with
        | '.' :: fraction =>
          if fraction.head?.any Char.isDigit then some (fraction.dropWhile Char.isDigit) else none
        | rest => some rest
    | none => none
  | r => r

/-- Whether a text is the offset of a time from universal time. -/
def isOffset : List Char → Bool
  | ['Z'] | ['z'] => true
  | '+' :: cs | '-' :: cs => afterMinute? cs == some []
  | _ => false

/-- Whether a text is a date, a time of day or both, with an offset perhaps. -/
def isMoment (cs : List Char) : Bool :=
  match afterDate? cs with
  | some [] => true
  | some (t :: rest) =>
    (t == 'T' || t == 't' || t == ' ') &&
      match afterTime? rest with
      | some [] => true
      | some rest => isOffset rest
      | none => false
  | none => afterTime? cs == some []

/-! ## Scalars without quotes -/

/-- The characters of the scalar without quotes at the front of a text.  A time
    of day can follow its date after a space. -/
def unquoted (cs : List Char) : List Char :=
  let isPart (c : Char) : Bool := c.isAlphanum || "+-_.:".toList.contains c
  let first := cs.takeWhile isPart
  match cs.drop first.length with
  | ' ' :: d :: rest =>
    if d.isDigit && first.length == 10 && (afterDate? first).isSome then
      first ++ ' ' :: (d :: rest).takeWhile isPart
    else first
  | _ => first

/-- The value that a scalar without quotes writes. -/
def unquotedValue? (cs : List Char) : Option Value :=
  if cs == "true".toList then some (.boolean true)
  else if cs == "false".toList then some (.boolean false)
  else if isMoment cs then some .moment
  else number? cs

end ProfileSync.Toml
