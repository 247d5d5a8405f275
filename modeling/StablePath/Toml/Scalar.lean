import StablePath.Text.Basic
import StablePath.Toml.Value

/-!
Values without parts that are not strings: truth values, numbers and dates.
-/

namespace StablePath.Toml

/-! ### Numbers -/

/-- The digits of a number without the underscores, each of which stands between two digits. -/
def plainDigits? (isDigit : Char → Bool) : List Char → Option (List Char)
  | [] => none
  | [c] => if isDigit c then some [c] else none
  | c :: '_' :: rest => if isDigit c then (plainDigits? isDigit rest).map (c :: ·) else none
  | c :: rest => if isDigit c then (plainDigits? isDigit rest).map (c :: ·) else none

/-- Decimal digits of which the first is no zero unless it is the only one. -/
def wholeDigits? (text : List Char) : Option (List Char) := do
  let digits ← plainDigits? Char.isDigit text
  guard (digits.length = 1 ∨ digits.head? ≠ some '0')
  return digits

/-- Splits off a sign. -/
def takeSign : List Char → Bool × List Char
  | '-' :: rest => (true, rest)
  | '+' :: rest => (false, rest)
  | text => (false, text)

def isHexDigit (c : Char) : Bool := (Text.digitValue? c).isSome

/-- Reads a whole number, which must fit in 128 bits. -/
def readInteger? (text : List Char) : Option Int := do
  let n : Int ← match text with
    | '0' :: 'x' :: rest => (plainDigits? isHexDigit rest).map fun ds => Text.numeral 16 ds
    | '0' :: 'o' :: rest =>
      (plainDigits? (fun c => '0' ≤ c && c ≤ '7') rest).map fun ds => Text.numeral 8 ds
    | '0' :: 'b' :: rest =>
      (plainDigits? (fun c => c == '0' || c == '1') rest).map fun ds => Text.numeral 2 ds
    | text =>
      let (negative, rest) := takeSign text
      (wholeDigits? rest).map fun ds =>
        if negative then -(Text.numeral 10 ds : Int) else Text.numeral 10 ds
  guard (-Int.pow 2 127 ≤ n ∧ n < Int.pow 2 128)
  return n

/-- The parts of a number before and after the first character of some kind. -/
def cutAt (isCut : Char → Bool) (text : List Char) : List Char × Option (List Char) :=
  let before := text.takeWhile fun c => !isCut c
  (before, (text.drop before.length).tail?)

/-- Whether `digits` times ten to the power `exponent` is nearer to a double-precision number than
to the first power of two beyond them. -/
def isFiniteDouble (digits : List Char) (exponent : Int) : Bool :=
  let digits := digits.dropWhile (· == '0')
  let size := digits.length + exponent
  if digits.isEmpty || size < 300 then true
  else if size > 310 then false
  else
    let bound := Nat.pow 2 1024 - Nat.pow 2 970
    let n := Text.numeral 10 digits
    if 0 ≤ exponent then n * Nat.pow 10 exponent.toNat < bound
    else n < bound * Nat.pow 10 (-exponent).toNat

/-- Whether a text is a number with a fraction, an exponent or both, or one that is infinite or
none. -/
def isFloat (text : List Char) : Bool :=
  let (_, unsigned) := takeSign text
  if unsigned = ['i', 'n', 'f'] || unsigned = ['n', 'a', 'n'] then true
  else
    let (mantissa, exponent) := cutAt (fun c => c == 'e' || c == 'E') unsigned
    let (whole, fraction) := cutAt (· == '.') mantissa
    let optional (part : Option (List Char)) (read : List Char → Option (List Char)) :
        Option (List Char) :=
      match part with
      | none => some []
      | some text => read text
    if fraction.isNone && exponent.isNone then false
    else match wholeDigits? whole, optional fraction (plainDigits? Char.isDigit),
        optional exponent fun e => plainDigits? Char.isDigit (takeSign e).2 with
      | some whole, some fraction, some digits =>
        let power : Int := Text.numeral 10 digits
        let power := if (exponent.map takeSign).any Prod.fst then -power else power
        isFiniteDouble (whole ++ fraction) (power - fraction.length)
      | _, _, _ => false

/-! ### Dates and times -/

/-- The number that exactly so many decimal digits write. -/
def fixedNumber? (width : Nat) (text : List Char) : Option Nat :=
  if text.length = width ∧ text.all Char.isDigit then some (Text.numeral 10 text) else none

def daysIn (year month : Nat) : Nat :=
  if month = 2 then
    if year % 4 = 0 ∧ (year % 100 ≠ 0 ∨ year % 400 = 0) then 29 else 28
  else if month = 4 ∨ month = 6 ∨ month = 9 ∨ month = 11 then 30
  else 31

/-- Whether a text is a date such as `2024-02-29`. -/
def isDate (text : List Char) : Bool :=
  match fixedNumber? 4 (text.take 4), text.drop 4 with
  | some year, '-' :: m :: m' :: '-' :: day =>
    match fixedNumber? 2 [m, m'], fixedNumber? 2 day with
    | some month, some day => 1 ≤ month && month ≤ 12 && 1 ≤ day && day ≤ daysIn year month
    | _, _ => false
  | _, _ => false

/-- Whether a text is a time of day in hours and minutes, with seconds and a fraction or without. -/
def isTime (text : List Char) : Bool :=
  match text with
  | h :: h' :: ':' :: m :: m' :: rest =>
    let below (limit : Nat) (digits : List Char) : Bool := (fixedNumber? 2 digits).any (· < limit)
    below 24 [h, h'] && below 60 [m, m'] &&
      match rest with
      | [] => true
      | ':' :: s :: s' :: fraction =>
        below 61 [s, s'] &&
          match fraction with
          | [] => true
          | '.' :: digits => !digits.isEmpty && digits.all Char.isDigit
          | _ => false
      | _ => false
  | _ => false

/-- Whether a text is the offset of a time zone. -/
def isZone (text : List Char) : Bool :=
  match text with
  | ['Z'] | ['z'] => true
  | [sign, h, h', ':', m, m'] =>
    (sign == '+' || sign == '-') && (fixedNumber? 2 [h, h']).any (· < 24) &&
      (fixedNumber? 2 [m, m']).any (· < 60)
  | _ => false

/-- Whether a text is a time of day, with a zone or without. -/
def isZonedTime (text : List Char) : Bool :=
  let time := text.takeWhile fun c => c.isDigit || c == ':' || c == '.'
  let zone := text.drop time.length
  isTime time && (zone.isEmpty || isZone zone)

/-- Whether a text is a date, a time of day, or a date and a time. -/
def isDateTime (text : List Char) : Bool :=
  isDate text || isTime text ||
    (isDate (text.take 10) &&
      match text.drop 10 with
      | separator :: time =>
        (separator == 'T' || separator == 't' || separator == ' ') && isZonedTime time
      | [] => false)

/-- The value that a text without quotes or brackets stands for. -/
def readScalar? (text : List Char) : Option Value :=
  if text = ['t', 'r', 'u', 'e'] then some (.boolean true)
  else if text = ['f', 'a', 'l', 's', 'e'] then some (.boolean false)
  else match readInteger? text with
    | some n => some (.integer n)
    | none =>
      if isFloat text then some (.float (String.ofList text))
      else if isDateTime text then some (.dateTime (String.ofList text))
      else none

end StablePath.Toml
