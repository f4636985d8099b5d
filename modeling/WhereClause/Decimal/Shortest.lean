/-!
# Shortest Decimals

The decimal with the fewest digits that still names a given floating-point
number.

A double stands for every real number that rounds to it, an interval around
its exact value whose ends belong to it when the significand is even. Any
decimal in that interval reads back as the double, and the one to write is a
point of the coarsest decimal grid that has a point there. On that grid only
the two neighbours of the exact value matter: if the interval holds any point
of the grid it holds one of those. When it holds both, the nearer is written.

All of it is arithmetic on natural numbers. The interval is kept in quarters
of the spacing of doubles, which makes both ends whole, including the lower
end of a power of two, where the spacing below is half of the spacing above.
A comparison of a point of the binary grid with a point of the decimal grid
multiplies both by the powers of two and ten that stand in the denominators.

Both neighbours can be equally near, and then the formats that use this
module disagree, so the choice is a parameter.

## Main definitions

* `Decimal`: Digits and a power of ten.
* `Interval`: The reals that round to one double, in quarters of its spacing.
* `Interval.ofBits`: The interval of a finite positive double.
* `Interval.candidate?`: The point of one decimal grid that is to be written,
  when the interval holds one.
* `Decimal.shortest`: The shortest decimal of a double's magnitude.
-/

namespace WhereClause

/-- The number `digits * 10 ^ exponent`. -/
structure Decimal where
  digits : Nat
  exponent : Int
deriving DecidableEq, Repr

namespace Decimal

/-- Which of two equally near decimals is written. -/
inductive Tie where
  /-- The one whose last digit is even. -/
  | even
  /-- The greater one. -/
  | up
deriving DecidableEq, Repr

/-- The reals that round to a double: those from `low` to `high`, times
    `2 ^ exponent`, with the ends included when `closed`. The double itself
    is `value * 2 ^ exponent`. -/
structure Interval where
  low : Nat
  value : Nat
  high : Nat
  exponent : Int
  closed : Bool
deriving DecidableEq, Repr

namespace Interval

/-- The interval of the finite positive double with these bits. The unit is a
    quarter of the spacing: the neighbours are four units away, or two units
    below a power of two, and the interval reaches halfway. -/
def ofBits (bits : Nat) : Interval :=
  let fraction := bits % 0x10000000000000
  let scale := bits / 0x10000000000000 % 0x800
  let significand := if scale = 0 then fraction else 0x10000000000000 + fraction
  let below := if fraction = 0 && 1 < scale then 1 else 2
  { low := 4 * significand - below
    value := 4 * significand
    high := 4 * significand + 2
    exponent := (max scale 1 : Nat) - 1077
    closed := significand % 2 = 0 }

/-- The point of the grid of multiples of `10 ^ k` that is to be written, as
    a multiple of `10 ^ k`: of the two neighbours of the exact value the one
    that lies in the interval, the nearer if both do, and `none` if neither
    does. -/
def candidate? (i : Interval) (tie : Tie) (k : Int) : Option Nat :=
  -- `x * 2 ^ exponent` and `d * 10 ^ k` compare as `x * num` and `d * den`.
  let num := Nat.pow 2 i.exponent.toNat * Nat.pow 10 (-k).toNat
  let den := Nat.pow 2 (-i.exponent).toNat * Nat.pow 10 k.toNat
  let holds := fun d =>
    if i.closed then i.low * num ≤ d * den && d * den ≤ i.high * num
    else i.low * num < d * den && d * den < i.high * num
  let below := i.value * num / den
  let above := below + 1
  match holds below, holds above with
  | false, false => none
  | true, false => some below
  | false, true => some above
  | true, true =>
      let fromBelow := i.value * num - below * den
      let fromAbove := above * den - i.value * num
      if fromBelow < fromAbove then some below
      else if fromAbove < fromBelow then some above
      else match tie with
        | .up => some above
        | .even => some (if below % 2 = 0 then below else above)

/-- A power of ten above the whole interval, as its exponent. The factor is
    the logarithm of two to five places. -/
def ceiling (i : Interval) : Int :=
  (i.high.log2 + 1 + i.exponent) * 30103 / 100000 + 1

/-- The first candidate on the grids `k`, `k - 1`, …, `steps` of them. -/
def search (i : Interval) (tie : Tie) : Nat → Int → Option Decimal
  | 0, _ => none
  | steps + 1, k =>
      match i.candidate? tie k with
      | some d => some ⟨d, k⟩
      | none => i.search tie steps (k - 1)

end Interval

/-- The shortest decimal that reads back as a finite double's magnitude.
    Seventeen digits always suffice, so a search from above the interval ends
    within twenty grids; the exact value stands in as the answer of last
    resort. -/
def shortest (tie : Tie) (x : Float) : Decimal :=
  let bits := x.toBits.toNat % 0x8000000000000000
  if bits = 0 then ⟨0, 0⟩
  else
    let i := Interval.ofBits bits
    (i.search tie 20 i.ceiling).getD
      ⟨i.value * Nat.pow 2 i.exponent.toNat * Nat.pow 5 (-i.exponent).toNat, min i.exponent 0⟩

end Decimal

end WhereClause
