/-
# LeakRecorder.Decimal.Shortest — the shortest decimal that reads back

A finite binary number is `m * 2 ^ q`. The reals that round to it are an
interval around it, ends included exactly when `m` is even. Of the decimals in
that interval the ones with the fewest digits lie on the coarsest grid
`d * 10 ^ k` that meets the interval, and if the grid meets it at all, one of the
value's two neighbours on the grid does. `Decimal.ofBinary` goes through the
grids from the coarsest on, in exact arithmetic, and takes the nearer neighbour.
-/
set_option autoImplicit false

namespace LeakRecorder

/-- The number `digits * 10 ^ exponent`. -/
structure Decimal where
  digits : Nat
  exponent : Int
  deriving DecidableEq

/-- A positive finite binary number `m * 2 ^ q`. -/
structure Binary where
  m : Nat
  q : Int
  /-- The next smaller number is only half as far away as the next larger. -/
  lowerCloser : Bool

namespace Binary

/-- Reads the bits of a positive finite double. -/
def ofBits (bits : UInt64) : Binary :=
  let fraction : Nat := bits.toNat % 0x10000000000000
  let biased : Nat := bits.toNat / 0x10000000000000 % 0x800
  if biased = 0 then { m := fraction, q := -1074, lowerCloser := false }
  else
    { m := fraction + 0x10000000000000
      q := (biased : Int) - 1075
      lowerCloser := fraction == 0 && decide (1 < biased) }

end Binary

namespace Decimal

/-- `a * 2 ^ q` in steps of a grid of step `10 ^ k`, as a fraction. -/
def inSteps (a : Nat) (q k : Int) : Nat × Nat :=
  (a * Nat.pow 2 q.toNat * Nat.pow 10 (-k).toNat, Nat.pow 2 (-q).toNat * Nat.pow 10 k.toNat)

/-- The neighbour of a value on the grid of step `10 ^ k` that rounds to the value, if one does. -/
def onGrid (value : Binary) (k : Int) : Option Nat :=
  -- in quarters, so that both ends of the interval are whole
  let inQuarters (quarters : Nat) : Nat × Nat := inSteps quarters (value.q - 2) k
  let (v, den) := inQuarters (4 * value.m)
  let low := (inQuarters (4 * value.m - if value.lowerCloser then 1 else 2)).1
  let high := (inQuarters (4 * value.m + 2)).1
  let even := value.m % 2 == 0
  let inside (d : Nat) : Bool :=
    let x := d * den
    0 < d && if even then low ≤ x && x ≤ high else low < x && x < high
  let below := v / den
  let above := below + 1
  let lowGap := v - below * den
  let highGap := above * den - v
  let nearer :=
    if lowGap < highGap then below
    else if highGap < lowGap then above
    else if below % 2 == 0 then below else above
  let farther := if nearer == below then above else below
  if inside nearer then some nearer else if inside farther then some farther else none

/-- The coarsest grid on which a double can lie. -/
def coarsest : Int := 309

/-- The shortest decimal that reads back as the value, and the nearest of those. -/
def ofBinary (value : Binary) : Decimal :=
  let grids := (List.range 640).map fun (i : Nat) => coarsest - i
  match grids.findSome? fun k => (onGrid value k).map (Decimal.mk · k) with
  | some decimal => decimal
  | none => { digits := 0, exponent := 0 }

end Decimal

/-- How numbers with a point are spelt. -/
structure PointFormat where
  /-- The exponents between these two are written out with zeros. -/
  leastPlain : Int
  greatestPlain : Int

namespace PointFormat

/-- The text of a positive decimal. A written exponent has a sign and no more digits than it
needs. -/
def text (format : PointFormat) (decimal : Decimal) : String :=
  let digits := (toString decimal.digits).toList
  let count : Int := digits.length
  let exponent := decimal.exponent + count - 1
  let zeros (n : Int) : List Char := List.replicate n.toNat '0'
  if format.leastPlain ≤ exponent ∧ exponent ≤ format.greatestPlain then
    if 0 ≤ decimal.exponent then
      String.ofList (digits ++ zeros decimal.exponent) ++ ".0"
    else if 0 ≤ exponent then
      let whole := (exponent + 1).toNat
      String.ofList (digits.take whole ++ '.' :: digits.drop whole)
    else
      "0." ++ String.ofList (zeros (-exponent - 1) ++ digits)
  else
    let mantissa := match digits with
      | first :: second :: more => first :: '.' :: second :: more
      | short => short
    let sign := if exponent < 0 then "-" else "+"
    String.ofList mantissa ++ "e" ++ sign ++ toString exponent.natAbs

/-- The text of a finite double; zero keeps its sign. -/
def ofFloat (format : PointFormat) (x : Float) : String :=
  let bits := x.toBits
  let negative := decide (0x8000000000000000 ≤ bits)
  let magnitude := if negative then bits - 0x8000000000000000 else bits
  let sign := if negative then "-" else ""
  if magnitude = 0 then sign ++ "0.0"
  else sign ++ format.text (Decimal.ofBinary (Binary.ofBits magnitude))

end PointFormat

end LeakRecorder
