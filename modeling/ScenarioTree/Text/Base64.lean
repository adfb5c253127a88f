/-! # Base 64

Three bytes are written as four characters of a 64-letter alphabet; a last group of one or two
bytes is filled up with equals signs. Wrapped text breaks after every 57 bytes, which are 76
characters, and each line ends with a line feed.
-/

namespace ScenarioTree.Text

def sixBitLetter (n : Nat) : Char :=
  if n < 26 then Char.ofNat (0x41 + n)
  else if n < 52 then Char.ofNat (0x61 + (n - 26))
  else if n < 62 then Char.ofNat (0x30 + (n - 52))
  else if n == 62 then '+' else '/'

/-- The base 64 letters of a byte string, on one line. -/
def base64 : List UInt8 → List Char
  | [] => []
  | [a] =>
    let n := a.toNat * 16
    [sixBitLetter (n / 64), sixBitLetter (n % 64), '=', '=']
  | [a, b] =>
    let n := (a.toNat * 256 + b.toNat) * 4
    [sixBitLetter (n / 4096), sixBitLetter (n / 64 % 64), sixBitLetter (n % 64), '=']
  | a :: b :: c :: rest =>
    let n := (a.toNat * 256 + b.toNat) * 256 + c.toNat
    sixBitLetter (n / 262144) :: sixBitLetter (n / 4096 % 64) :: sixBitLetter (n / 64 % 64) ::
      sixBitLetter (n % 64) :: base64 rest

def base64Lines (bytes : List UInt8) : List (List Char) :=
  match bytes with
  | [] => []
  | first :: rest =>
    base64 (first :: rest.take 56) :: base64Lines (rest.drop 56)
termination_by bytes.length
decreasing_by simp only [List.length_drop, List.length_cons]; omega

end ScenarioTree.Text
