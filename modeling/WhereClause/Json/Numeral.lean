import WhereClause.Json.Basic
import WhereClause.Json.ReadError

/-!
# Numbers in JSON Texts

How the digits of a JSON number become a number.

A number is read one character at a time, and what is kept of it is small: a
significand of at most 64 bits and a power of ten. Digits are collected while
the significand can take another one. Digits of the whole part after that are
only counted, into the power of ten; digits of the fraction after that are
dropped. So a long number loses its last digits before it is ever rounded.

The value of a number with a point or an exponent is that significand times
that power of ten, computed with one double operation when the power is at
most 308. The result can be a unit in the last place away from the nearest
double, which is what `Numeral.scaled` says on purpose: reading has to give
the same double wherever the number came from.

A number without point and exponent is whole when a 64-bit word holds it, and
a double otherwise. Minus zero is a double too, since no integer is.

## Main definitions

* `Numeral`: What has been read of a number.
* `Numeral.Phase`: Where in a number reading stands.
* `Numeral.start?`: A numeral from the first character of a number.
* `Numeral.step`: One more character.
* `Numeral.scaled`: A significand times a power of ten, as a double.
* `Numeral.value`: The number that was read.
-/

namespace WhereClause

namespace Json

/-- Where in a number reading stands. -/
inductive Numeral.Phase where
  /-- After the minus sign. -/
  | sign
  /-- After a leading zero, which no digit may follow. -/
  | zero
  /-- In the whole part. -/
  | whole
  /-- In the whole part, with digits that are only counted. -/
  | longWhole
  /-- After the point. -/
  | point
  /-- In the fraction. -/
  | fraction
  /-- In the fraction, with digits that are dropped. -/
  | longFraction
  /-- After the letter of the exponent. -/
  | mark
  /-- After the sign of the exponent. -/
  | exponentSign (down : Bool)
  /-- In the exponent. -/
  | exponent (down : Bool) (size : Nat)
  /-- In an exponent so large that the number is zero whatever follows. -/
  | vanished
deriving DecidableEq, Repr

/-- What has been read of a number: its sign, the significand, the power of
    ten of the significand's last digit, and the phase. -/
structure Numeral where
  negative : Bool
  significand : Nat
  power : Int
  phase : Numeral.Phase
deriving DecidableEq, Repr

namespace Numeral

/-- What a character does to a numeral. -/
inductive Step where
  /-- It belongs to the number. -/
  | more (numeral : Numeral)
  /-- It does not, and the number is complete. -/
  | stop
  /-- It does not, and the number is not complete or too large. -/
  | fail (cause : ReadError.Cause)
deriving DecidableEq, Repr

/-- The value of a decimal digit. -/
def digitValue (c : Char) : Nat :=
  c.toNat - '0'.toNat

/-- Whether a significand can take another digit within 64 bits. -/
def fits (significand digit : Nat) : Bool :=
  10 * significand + digit < 0x10000000000000000

/-- The numeral that a first digit begins. -/
def ofDigit (negative : Bool) (c : Char) : Numeral :=
  ⟨negative, digitValue c, 0, if c = '0' then .zero else .whole⟩

/-- The numeral that begins with a character, if a number can begin with
    it. -/
def start? (c : Char) : Option Numeral :=
  if c = '-' then some ⟨true, 0, 0, .sign⟩
  else if c.isDigit then some (ofDigit false c)
  else none

/-- What may follow the digits before a point: the point, or what may follow
    the digits after it. -/
def afterWhole (n : Numeral) (c : Char) : Step :=
  if c = '.' then .more { n with phase := .point }
  else if c = 'e' || c = 'E' then .more { n with phase := .mark }
  else .stop

/-- What may follow the digits after a point. -/
def afterFraction (n : Numeral) (c : Char) : Step :=
  if c = 'e' || c = 'E' then .more { n with phase := .mark } else .stop

/-- A digit of the fraction. -/
def fractionDigit (n : Numeral) (digit : Nat) : Numeral :=
  if fits n.significand digit then
    { n with significand := 10 * n.significand + digit, power := n.power - 1, phase := .fraction }
  else { n with phase := .longFraction }

/-- A digit of the exponent. Beyond 31 bits there is nothing left to count:
    the number is zero, or it is too large. -/
def exponentDigit (n : Numeral) (down : Bool) (size digit : Nat) : Step :=
  if 10 * size + digit < 0x80000000 then
    .more { n with phase := .exponent down (10 * size + digit) }
  else if n.significand = 0 || down then .more { n with phase := .vanished }
  else .fail .numberOutOfRange

/-- One more character. -/
def step (n : Numeral) (c : Char) : Step :=
  let digit := digitValue c
  match n.phase with
  | .sign => if c.isDigit then .more (ofDigit n.negative c) else .fail .invalidNumber
  | .zero => if c.isDigit then .fail .invalidNumber else n.afterWhole c
  | .whole =>
      if c.isDigit then
        if fits n.significand digit then
          .more { n with significand := 10 * n.significand + digit }
        else .more { n with power := 1, phase := .longWhole }
      else n.afterWhole c
  | .longWhole =>
      if c.isDigit then .more { n with power := n.power + 1 } else n.afterWhole c
  | .point => if c.isDigit then .more (n.fractionDigit digit) else .fail .invalidNumber
  | .fraction => if c.isDigit then .more (n.fractionDigit digit) else n.afterFraction c
  | .longFraction => if c.isDigit then .more n else n.afterFraction c
  | .mark =>
      if c = '+' || c = '-' then .more { n with phase := .exponentSign (c = '-') }
      else if c.isDigit then .more { n with phase := .exponent false digit }
      else .fail .invalidNumber
  | .exponentSign down =>
      if c.isDigit then .more { n with phase := .exponent down digit } else .fail .invalidNumber
  | .exponent down size => if c.isDigit then n.exponentDigit down size digit else .stop
  | .vanished => if c.isDigit then .more n else .stop

/-- The double nearest to a power of ten. -/
def powerOfTen (n : Nat) : Float :=
  Float.ofScientific 1 false n

/-- A double divided by a power of ten, in steps of 308 places, the most that
    one division can take. Zero is left alone, so there are few steps. -/
def scaledDown (x : Float) (places : Nat) : Float :=
  if places ≤ 308 then x / powerOfTen places
  else if x == 0 then x
  else scaledDown (x / powerOfTen 308) (places - 308)
termination_by places

/-- A significand times a power of ten, as a double, or infinity when that is
    too large. -/
def scaled (significand : Nat) (power : Int) : Float :=
  let x := Float.ofScientific significand false 0
  if power < 0 then scaledDown x power.natAbs
  else if power ≤ 308 then x * powerOfTen power.toNat
  else if significand = 0 then x
  -- No double is that large, so this one is infinite.
  else powerOfTen 309

/-- A double with the sign of the numeral, as a number. -/
def signed (negative : Bool) (x : Float) : Except ReadError.Cause Number :=
  match Number.ofFloat? (if negative then -x else x) with
  | some n => .ok n
  | none => .error .numberOutOfRange

/-- The value of digits without point and exponent: a whole number if a
    64-bit word holds it, and the nearest double if not. -/
def wholeValue (negative : Bool) (significand : Nat) : Except ReadError.Cause Number :=
  if negative then
    if h : 0 < significand ∧ significand ≤ 0x8000000000000000 then
      .ok (.whole (-(significand : Int)) (by omega))
    else signed true (scaled significand 0)
  else
    if h : significand < 0x10000000000000000 then .ok (.whole significand (by omega))
    else signed false (scaled significand 0)

/-- The number that was read, when the text of it is over. -/
def value (n : Numeral) : Except ReadError.Cause Number :=
  match n.phase with
  | .sign | .point | .mark | .exponentSign _ => .error .endInValue
  | .zero | .whole => wholeValue n.negative n.significand
  | .longWhole | .fraction | .longFraction => signed n.negative (scaled n.significand n.power)
  | .exponent down size =>
      signed n.negative (scaled n.significand (if down then n.power - size else n.power + size))
  | .vanished => signed n.negative 0

end Numeral

end Json

end WhereClause
