import WhereClause.Decimal.Notation
import WhereClause.Text.Blank
import WhereClause.Timestamp.Basic

/-!
# Written Timestamps

The texts of a timestamp, and how one of them is read.

The full text has the date, a separator and the time, with as many digits of
the fraction as are needed out of three, six and nine, and none if the second
is whole. The separator is a space where a person reads the text and the
letter T where it is decoded again. In a statement the fraction is left out
and the hour has no leading zero.

Years from 0 to 9999 have four digits. All others carry a sign, without which
their text could not be told from a shorter year followed by something else.

Reading is more lenient than writing. Blanks may stand before every part and
at the end, numbers may leave out leading zeros, and digits of the fraction
past the ninth are dropped.

## Main definitions

* `Timestamp.text`: The full text with a given separator.
* `Timestamp.display`, `Timestamp.encoded`: The full text for people and for
  decoding.
* `Timestamp.statementText`: The text in a statement.
* `Timestamp.decode?`: The timestamp of a text.
-/

namespace WhereClause

namespace Timestamp

/-- A number with leading zeros up to a width. -/
def padded (width n : Nat) : List Char :=
  let digits := Decimal.ofNat n
  List.replicate (width - digits.length) '0' ++ digits

/-- The text of a year. -/
def yearText (year : Int) : List Char :=
  if 0 ≤ year ∧ year ≤ 9999 then padded 4 year.toNat
  else (if year < 0 then '-' else '+') :: padded 4 year.natAbs

/-- The text of a date. -/
def dateText (t : Timestamp) : List Char :=
  yearText t.year ++ '-' :: padded 2 t.month ++ '-' :: padded 2 t.day

/-- The text of a fraction of a second: the fewest of three, six and nine
    digits that are exact, and nothing if there is no fraction. -/
def fractionText (nano : Nat) : List Char :=
  if nano = 0 then []
  else if nano % 1000000 = 0 then '.' :: padded 3 (nano / 1000000)
  else if nano % 1000 = 0 then '.' :: padded 6 (nano / 1000)
  else '.' :: padded 9 nano

/-- The date and the time with a separator between them. -/
def text (separator : Char) (t : Timestamp) : List Char :=
  t.dateText ++ separator :: padded 2 t.hour ++ ':' :: padded 2 t.minute ++
    ':' :: padded 2 t.clock.1 ++ fractionText t.clock.2

/-- The text that a person is shown. -/
def display (t : Timestamp) : String :=
  String.ofList (t.text ' ')

/-- The text that is decoded again. -/
def encoded (t : Timestamp) : String :=
  String.ofList (t.text 'T')

/-- The text in a statement, to the second and with the hour as short as it
    is. -/
def statementText (t : Timestamp) : String :=
  String.ofList (t.dateText ++ ' ' :: Decimal.ofNat t.hour ++ ':' :: padded 2 t.minute ++
    ':' :: padded 2 t.clock.1)

/-- A number of at most `width` digits at the start of a text, with the rest
    of the text. -/
def digits? (width : Nat) (s : List Char) : Option (Nat × List Char) :=
  let digits := (s.take width).takeWhile Char.isDigit
  if digits.isEmpty then none
  else some (Nat.ofDigitChars 10 digits 0, s.drop digits.length)

/-- A number of one or two digits after blanks. -/
def field? (s : List Char) : Option (Nat × List Char) :=
  digits? 2 (Text.trimStart s)

/-- A year after blanks: up to four digits, or a sign with any number of
    them. -/
def year? (s : List Char) : Option (Int × List Char) :=
  match Text.trimStart s with
  | '-' :: rest => (digits? rest.length rest).map fun (n, rest) => (-(n : Int), rest)
  | '+' :: rest => (digits? rest.length rest).map fun (n, rest) => ((n : Int), rest)
  | s => (digits? 4 s).map fun (n, rest) => ((n : Int), rest)

/-- The rest of a text after blanks and a given character. -/
def skip? (expected : Char) (s : List Char) : Option (List Char) :=
  match Text.trimStart s with
  | [] => none
  | c :: rest => if c = expected then some rest else none

/-- The nanoseconds of a fraction, if one begins here. -/
def fraction? (s : List Char) : Option (Nat × List Char) :=
  match s with
  | '.' :: rest =>
      let digits := rest.takeWhile Char.isDigit
      if digits.isEmpty then none
      else
        let used := digits.take 9
        let scale := Nat.pow 10 (9 - used.length)
        some (Nat.ofDigitChars 10 used 0 * scale, rest.dropWhile Char.isDigit)
  | s => some (0, s)

/-- The timestamp of a text. Second 60 is the leap second after second 59. -/
def decode? (s : String) : Option Timestamp := do
  let (year, s) ← year? s.toList
  let (month, s) ← field? (← skip? '-' s)
  let (day, s) ← field? (← skip? '-' s)
  let (hour, s) ← field? (← skip? 'T' s)
  let (minute, s) ← field? (← skip? ':' s)
  let (sec, s) ← field? (← skip? ':' s)
  let (nano, s) ← fraction? s
  if Text.trimStart s ≠ [] then none
  else if sec = 60 then ofFields? year month day hour minute 59 (nano + second)
  else ofFields? year month day hour minute sec nano

end Timestamp

end WhereClause
