/-!
# Base64 texts

`base64` writes three bytes as four characters and fills the last group with `=`; `unbase64?` reads
such a text, and passes over characters that do not belong there.
-/

namespace QuotationPress.Text

def base64Alphabet : List Char :=
  "ABCDEFGHIJKLMNOPQRSTUVWXYZabcdefghijklmnopqrstuvwxyz0123456789+/".toList

/-- The character of six bits. -/
def base64Char (n : Nat) : Char := base64Alphabet.getD n '='

def base64Chars : List UInt8 → List Char
  | [] => []
  | [a] =>
    let n := a.toNat * 16
    [base64Char (n / 64), base64Char (n % 64), '=', '=']
  | [a, b] =>
    let n := (a.toNat * 256 + b.toNat) * 4
    [base64Char (n / 4096), base64Char (n / 64 % 64), base64Char (n % 64), '=']
  | a :: b :: c :: rest =>
    let n := (a.toNat * 256 + b.toNat) * 256 + c.toNat
    base64Char (n / 262144) :: base64Char (n / 4096 % 64) :: base64Char (n / 64 % 64)
      :: base64Char (n % 64) :: base64Chars rest

def base64 (bytes : List UInt8) : String := String.ofList (base64Chars bytes)

/-! ### Reading -/

/-- The bytes of groups of four times six bits. Of a last group that is not full, the bits of a byte
that is not full are dropped. -/
def bytesOfSixes : List Nat → List UInt8
  | a :: b :: c :: d :: rest =>
    let n := ((a * 64 + b) * 64 + c) * 64 + d
    UInt8.ofNat (n / 65536) :: UInt8.ofNat (n / 256 % 256) :: UInt8.ofNat (n % 256)
      :: bytesOfSixes rest
  | [a, b, c] =>
    let n := (a * 64 + b) * 64 + c
    [UInt8.ofNat (n / 1024), UInt8.ofNat (n / 4 % 256)]
  | [a, b] => [UInt8.ofNat ((a * 64 + b) / 16)]
  | _ => []

/-- The sixes of a text, `count` of them in front and `pads` signs that fill the last group. A group
that is full, or filled, may be the last; what follows a filled one is not read. -/
def sixes? (count pads : Nat) : List Char → Option (List Nat)
  | [] => if count % 4 = 0 then some [] else none
  | c :: rest =>
    if c = '=' then
      if count % 4 < 2 then sixes? count pads rest
      else if 4 ≤ count % 4 + pads + 1 then some []
      else sixes? count (pads + 1) rest
    else
      match base64Alphabet.findIdx? (· == c) with
      | some n => (sixes? (count + 1) 0 rest).map (n :: ·)
      | none => sixes? count pads rest

def unbase64? (cs : List Char) : Option (List UInt8) :=
  if cs.all (·.toNat < 128) then (sixes? 0 0 cs).map bytesOfSixes else none

end QuotationPress.Text
