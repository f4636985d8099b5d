import WhereClause.Decimal.Shortest

/-!
# Decimal Notation

How numbers are written.

A floating-point number appears in two kinds of text. In a statement, and
wherever a value is shown to a person, it is written out positionally however
long that gets, because an exponent would change the type of the literal. In
JSON it is positional only near one and otherwise has a power of ten, and it
always has a point or an exponent, which is what tells it from an integer
there.

What the two have in common is here once: the shortest digits of
`Decimal.shortest` and the placing of the point. What differs is a `Layout`.

## Main definitions

* `Layout`: The decisions of a notation for floating-point numbers.
* `Layout.json`, `Layout.plain`: The notation of JSON texts, and that of
  statements and shown values.
* `positional`, `scientific`: Digits with a point among them, or with a power
  of ten after them.
* `Layout.text`: The text of a finite floating-point number.
* `plainText`: The text of any floating-point number.
* `ofNat`, `ofInt`: Integers in decimal.
-/

namespace WhereClause

namespace Decimal

/-- A natural number in decimal. -/
def ofNat (n : Nat) : List Char :=
  Nat.toDigits 10 n

/-- An integer in decimal, with a minus sign if it is negative. -/
def ofInt (n : Int) : List Char :=
  if n < 0 then '-' :: ofNat n.natAbs else ofNat n.natAbs

/-- The decisions of a notation for floating-point numbers. -/
structure Layout where
  /-- Which of two equally near shortest decimals is written. -/
  tie : Tie
  /-- Whether a number whose first digit stands at `10 ^ e` is written out
      with a point, and not with a power of ten. -/
  pointed : Int → Bool
  /-- What follows the digits of a whole number that is written out. -/
  wholeMark : List Char

/-- The notation of JSON texts: written out from `10 ^ -5` to below
    `10 ^ 16`, and whole numbers keep a fractional part. -/
def Layout.json : Layout where
  tie := .even
  pointed e := -5 ≤ e && e ≤ 15
  wholeMark := ['.', '0']

/-- The notation of statements and of shown values: always written out, whole
    numbers as if they were integers. -/
def Layout.plain : Layout where
  tie := .up
  pointed _ := true
  wholeMark := []

/-- Digits written out, with `shift` the power of ten of the last one. -/
def positional (wholeMark digits : List Char) (shift : Int) : List Char :=
  if 0 ≤ shift then
    digits ++ List.replicate shift.toNat '0' ++ wholeMark
  else
    let places := (-shift).toNat
    if places < digits.length then
      let whole := digits.length - places
      digits.take whole ++ '.' :: digits.drop whole
    else
      '0' :: '.' :: List.replicate (places - digits.length) '0' ++ digits

/-- Digits with the point after the first one and the power of ten, always
    signed, that stands for the rest. -/
def scientific (digits : List Char) (power : Int) : List Char :=
  let mantissa := match digits with
    | first :: second :: rest => first :: '.' :: second :: rest
    | single => single
  mantissa ++ 'e' :: (if power < 0 then ofInt power else '+' :: ofInt power)

/-- The text of a finite floating-point number. Zero keeps its sign. -/
def Layout.text (layout : Layout) (x : Float) : List Char :=
  let d := shortest layout.tie x
  let digits := ofNat d.digits
  let power := d.exponent + digits.length - 1
  let magnitude :=
    if layout.pointed power then positional layout.wholeMark digits d.exponent
    else scientific digits power
  if x.toBits >>> 63 = 1 then '-' :: magnitude else magnitude

/-- The text of any floating-point number in the plain notation, with words
    for those that are not finite. -/
def plainText (x : Float) : List Char :=
  if x.isFinite then Layout.plain.text x
  else if x.isNaN then ['N', 'a', 'N']
  else if x < 0 then ['-', 'i', 'n', 'f']
  else ['i', 'n', 'f']

end Decimal

end WhereClause
