import ScenarioTree.Decimal.Shortest

/-! # Decimal notation of doubles

A double is written by its shortest decimal. Between `10 ^ -4` and `10 ^ 16` the notation is
positional and always shows a point; outside it is scientific, with a signed exponent of at least
two digits. Reading accepts both notations and the names of the values that are no numbers.
-/

namespace ScenarioTree.Decimal

structure Layout where
  /-- The least exponent of the leading digit that is written positionally. -/
  leastPositional : Int
  /-- The least exponent of the leading digit that is written scientifically again. -/
  leastScientific : Int
  /-- The least number of digits of an exponent. -/
  exponentWidth : Nat

/-- Doubles are positional from `10 ^ -4` up to but not including `10 ^ 16`. -/
def doubleLayout : Layout := ⟨-4, 16, 2⟩

/-- Decimal digits, padded on the left with zeros. -/
def paddedDigits (width n : Nat) : List Char :=
  let digits := Nat.toDigits 10 n
  List.replicate (width - digits.length) '0' ++ digits

/-- A positive decimal, laid out. -/
def Layout.write (layout : Layout) (x : Scientific) : List Char :=
  let digits := Nat.toDigits 10 x.digits
  let leading := x.exponent + digits.length - 1
  if layout.leastPositional ≤ leading && leading < layout.leastScientific then
    if 0 ≤ x.exponent then digits ++ List.replicate x.exponent.toNat '0' ++ ['.', '0']
    else if 0 ≤ leading then
      let whole := (leading + 1).toNat
      digits.take whole ++ '.' :: digits.drop whole
    else '0' :: '.' :: List.replicate (-leading - 1).toNat '0' ++ digits
  else
    let mantissa := match digits with
      | first :: second :: rest => first :: '.' :: second :: rest
      | short => short
    mantissa ++ 'e' :: (if leading < 0 then '-' else '+') ::
      paddedDigits layout.exponentWidth leading.natAbs

def text (x : Float) : String :=
  let bits := x.toBits
  let negative := Nat.pow 2 63 ≤ bits.toNat
  let size := bits.toNat % Nat.pow 2 63
  let infinity := 2047 * Nat.pow 2 52
  let unsigned :=
    if size = 0 then ['0', '.', '0']
    else if size = infinity then ['i', 'n', 'f']
    else doubleLayout.write (Binary.ofBits bits).shortest
  if infinity < size then "nan"
  else String.ofList (if negative then '-' :: unsigned else unsigned)

/-- The digits at the front of a text, as a number and its width, and what follows them. -/
def takeDigits (text : List Char) : Nat × Nat × List Char :=
  let digits := text.takeWhile Char.isDigit
  (digits.foldl (fun n c => n * 10 + (c.toNat - 48)) 0, digits.length, text.dropWhile Char.isDigit)

/-- The exponent that ends a text: none at all, or a mark with a signed number. -/
def readExponent? : List Char → Option Int
  | [] => some 0
  | mark :: rest =>
    if mark != 'e' && mark != 'E' then none
    else
      let (negative, digits) := match rest with
        | '-' :: digits => (true, digits)
        | '+' :: digits => (false, digits)
        | digits => (false, digits)
      match takeDigits digits with
      | (_, 0, _) => none
      | (n, _, []) => some (if negative then -(n : Int) else n)
      | _ => none

def infinity : Float := 1.0 / 0.0

/-- The double nearest to `digits * 10 ^ scale`. Beyond `10 ^ 400` there are no finite doubles, and
below `10 ^ -400` none but zero. -/
def nearest (digits : Nat) (scale : Int) : Float :=
  let leading := scale + digitCount digits
  if digits = 0 || leading < -400 then 0.0
  else if 400 < leading then infinity
  else Float.ofScientific digits (scale < 0) scale.natAbs

/-- The double nearest to an unsigned decimal text. -/
def readUnsigned? (text : List Char) : Option Float :=
  if text = ['i', 'n', 'f'] then some infinity
  else if text = ['n', 'a', 'n'] then some (0.0 / 0.0)
  else
    let (whole, wholeWidth, afterWhole) := takeDigits text
    let (fraction, width, rest) := match afterWhole with
      | '.' :: more => takeDigits more
      | other => (0, 0, other)
    if wholeWidth + width = 0 then none
    else (readExponent? rest).map fun exponent =>
      nearest (whole * Nat.pow 10 width + fraction) (exponent - width)

/-- The double nearest to a decimal text. -/
def read? (text : String) : Option Float :=
  match text.toList with
  | '-' :: rest => (readUnsigned? rest).map (- ·)
  | '+' :: rest => readUnsigned? rest
  | rest => readUnsigned? rest

end ScenarioTree.Decimal
