/-! # Shortest decimals

Among the decimals that read back as a given double, the shortest one has the fewest digits, and
of those with the fewest it is the nearest to the double. A positive double is an integer times a
power of two. The reals that round to it form an interval around it, whose ends belong to it
exactly when the integer is even. For one digit, then two, and so on, the two neighbours of the
double on the decimal grid of that many digits are tried; seventeen digits always suffice.
-/

namespace ScenarioTree.Decimal

/-- A positive double as `significand * 2 ^ exponent`. The doubles below it are twice as close as
those above it when `atBinade` holds. -/
structure Binary where
  significand : Nat
  exponent : Int
  atBinade : Bool
deriving Repr, DecidableEq

/-- The positive finite double with the given bits, its sign left aside. -/
def Binary.ofBits (bits : UInt64) : Binary :=
  let fraction : Nat := bits.toNat % Nat.pow 2 52
  let biased : Nat := bits.toNat / Nat.pow 2 52 % Nat.pow 2 11
  if biased = 0 then ⟨fraction, -1074, false⟩
  else ⟨Nat.pow 2 52 + fraction, (biased : Int) - 1075, fraction = 0 && 1 < biased⟩

structure Scientific where
  digits : Nat
  exponent : Int
deriving Repr, DecidableEq

/-- A value with the interval that rounds to it, all as numerators over one denominator. -/
structure Bracket where
  below : Nat
  value : Nat
  above : Nat
  denominator : Nat
  closed : Bool
deriving Repr, DecidableEq

/-- The interval of the reals that round to a double. -/
def Binary.bracket (x : Binary) : Bracket :=
  let m := 4 * x.significand
  let low := if x.atBinade then m - 1 else m - 2
  let scale := Nat.pow 2 (x.exponent - 2).toNat
  { below := low * scale
    value := m * scale
    above := (m + 2) * scale
    denominator := Nat.pow 2 (2 - x.exponent).toNat
    closed := x.significand % 2 = 0 }

/-- The number of decimal digits of a natural number. -/
def digitCount (n : Nat) : Nat := (Nat.toDigits 10 n).length

/-- The exponent of the leading decimal digit of a bracketed value. -/
def Bracket.leadingExponent (b : Bracket) : Int :=
  if b.denominator ≤ b.value then (digitCount (b.value / b.denominator) : Int) - 1
  else - (digitCount ((b.denominator + b.value - 1) / b.value - 1) : Int)

/-- The numerator of `k * 10 ^ e` and the factor that brings the bracket to its denominator. -/
def Bracket.onGrid (b : Bracket) (e : Int) (k : Nat) : Nat × Nat :=
  (k * Nat.pow 10 e.toNat * b.denominator, Nat.pow 10 (-e).toNat)

def Bracket.holds (b : Bracket) (e : Int) (k : Nat) : Bool :=
  let (point, factor) := b.onGrid e k
  if b.closed then b.below * factor ≤ point && point ≤ b.above * factor
  else b.below * factor < point && point < b.above * factor

/-- The nearer of the grid points `k` and `k + 1` that round to the bracketed value, if one does;
of two equally near ones the even one. -/
def Bracket.hit? (b : Bracket) (e : Int) : Option Scientific :=
  let floor := b.value * Nat.pow 10 (-e).toNat / (b.denominator * Nat.pow 10 e.toNat)
  match b.holds e floor, b.holds e (floor + 1) with
  | false, false => none
  | true, false => some ⟨floor, e⟩
  | false, true => some ⟨floor + 1, e⟩
  | true, true =>
    let (point, factor) := b.onGrid e floor
    let (next, _) := b.onGrid e (floor + 1)
    let down := b.value * factor - point
    let up := next - b.value * factor
    if down < up || (down == up && floor % 2 == 0) then some ⟨floor, e⟩
    else some ⟨floor + 1, e⟩

/-- A grid point of the fewest digits, with ten of a unit as one of the next. No other multiple
of ten has the fewest digits. -/
def Scientific.reduced (x : Scientific) : Scientific :=
  if x.digits = 10 then ⟨1, x.exponent + 1⟩ else x

/-- The shortest decimal that reads back as a positive double. -/
def Binary.shortest (x : Binary) : Scientific :=
  let b := x.bracket
  let leading := b.leadingExponent
  let hit? := (List.range 17).findSome? fun (extra : Nat) => b.hit? (leading - extra)
  (hit?.getD ⟨0, 0⟩).reduced

end ScenarioTree.Decimal
