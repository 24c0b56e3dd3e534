/-!
# Decoding bytes as text

UTF-8 with repair: every maximal invalid part becomes one replacement character.
-/

namespace RowMap.Text

def replacement : Char := Char.ofNat 0xfffd

/-- The range of the byte after the given lead byte and the number of bytes that follow the lead
byte; `none` for a byte that starts no character. Overlong forms, surrogates and numbers beyond the
last character are excluded by the range. -/
def followers? (lead : Nat) : Option (Nat × Nat × Nat) :=
  if 0xc2 ≤ lead ∧ lead ≤ 0xdf then some (0x80, 0xbf, 1)
  else if lead = 0xe0 then some (0xa0, 0xbf, 2)
  else if lead = 0xed then some (0x80, 0x9f, 2)
  else if 0xe1 ≤ lead ∧ lead ≤ 0xef then some (0x80, 0xbf, 2)
  else if lead = 0xf0 then some (0x90, 0xbf, 3)
  else if 0xf1 ≤ lead ∧ lead ≤ 0xf3 then some (0x80, 0xbf, 3)
  else if lead = 0xf4 then some (0x80, 0x8f, 3)
  else none

/-- A character in the making: the bits collected, the range of the next byte, and how many bytes
are still to come. -/
structure Partial where
  bits : Nat
  low : Nat
  high : Nat
  missing : Nat

/-- Starts a character: the text that is decided at once, and the character in the making. -/
def startChar (byte : Nat) : List Char × Option Partial :=
  if byte < 0x80 then ([Char.ofNat byte], none)
  else match followers? byte with
    | some (low, high, missing) => ([], some ⟨byte % Nat.pow 2 (6 - missing), low, high, missing⟩)
    | none => ([replacement], none)

/-- Decodes bytes while a character may be in the making. A byte that does not continue it ends an
invalid part and is looked at afresh. -/
def decodeFrom : Option Partial → List UInt8 → List Char
  | none, [] => []
  | some _, [] => [replacement]
  | none, byte :: rest =>
    let start := startChar byte.toNat
    start.1 ++ decodeFrom start.2 rest
  | some p, byte :: rest =>
    let n := byte.toNat
    if p.low ≤ n ∧ n ≤ p.high then
      let bits := p.bits * 64 + n % 64
      if p.missing ≤ 1 then Char.ofNat bits :: decodeFrom none rest
      else decodeFrom (some ⟨bits, 0x80, 0xbf, p.missing - 1⟩) rest
    else
      let start := startChar n
      replacement :: (start.1 ++ decodeFrom start.2 rest)

/-- Bytes as text, every maximal invalid part replaced by one character. -/
def decode (bytes : ByteArray) : String :=
  String.ofList (decodeFrom none bytes.data.toList)

end RowMap.Text
