/-!
# Texts and bytes

`utf8Bytes` gives the bytes of a text, and `utf8Chars` reads bytes as UTF-8; where they spell no
character, the longest beginning of one is read as the replacement character, and at least one byte.
`utf8Chars?` reads such bytes as nothing.
-/

namespace QuotationPress.Text

def utf8Bytes (s : String) : List UInt8 := s.toList.flatMap String.utf8EncodeChar

def replacementChar : Char := Char.ofNat 0xFFFD

/-- What the first byte of a character says: how many bytes follow, its own part of the code point,
and the bounds of the second byte. -/
structure Lead where
  count : Nat
  part : Nat
  low : Nat := 0x80
  high : Nat := 0xBF

/-- The bounds of the second byte rule out long spellings, halves of pairs, and numbers beyond the
last code point. -/
def lead? (n : Nat) : Option Lead :=
  if n < 0x80 then some ⟨0, n, 0x80, 0xBF⟩
  else if 0xC2 ≤ n && n ≤ 0xDF then some ⟨1, n - 0xC0, 0x80, 0xBF⟩
  else if 0xE0 ≤ n && n ≤ 0xEF then
    some ⟨2, n - 0xE0, if n = 0xE0 then 0xA0 else 0x80, if n = 0xED then 0x9F else 0xBF⟩
  else if 0xF0 ≤ n && n ≤ 0xF4 then
    some ⟨3, n - 0xF0, if n = 0xF0 then 0x90 else 0x80, if n = 0xF4 then 0x8F else 0xBF⟩
  else none

/-- Reads the bytes that follow a first one: the character, if they are all there, and the bytes
that are left. -/
def followers (l : Lead) : Nat → Nat → List UInt8 → Option Char × List UInt8
  | 0, code, bytes => (some (Char.ofNat code), bytes)
  | _ + 1, _, [] => (none, [])
  | count + 1, code, b :: rest =>
    if l.low ≤ b.toNat && b.toNat ≤ l.high then
      followers { l with low := 0x80, high := 0xBF } count (code * 64 + (b.toNat - 0x80)) rest
    else (none, b :: rest)

theorem followers_length (l : Lead) (count code : Nat) (bytes : List UInt8) :
    (followers l count code bytes).2.length ≤ bytes.length := by
  fun_induction followers l count code bytes with
  | case1 => simp
  | case2 => simp
  | case3 l code b rest count h ih => exact Nat.le_succ_of_le ih
  | case4 => simp

def utf8Chars : List UInt8 → List Char
  | [] => []
  | b :: rest =>
    match lead? b.toNat with
    | none => replacementChar :: utf8Chars rest
    | some l =>
      let read := followers l l.count l.part rest
      read.1.getD replacementChar :: utf8Chars read.2
termination_by bytes => bytes.length
decreasing_by
  · simp
  · exact Nat.lt_succ_of_le (followers_length l l.count l.part rest)

/-- The characters that bytes spell, if they spell characters throughout. -/
def utf8Chars? (bytes : List UInt8) : Option (List Char) :=
  let cs := utf8Chars bytes
  if (String.ofList cs).toUTF8.toList = bytes then some cs else none

end QuotationPress.Text
