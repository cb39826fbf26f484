/-!
# Bytes that become text

UTF-8 is decoded without refusing anything: each maximal ill-formed part becomes one
replacement character. A part is maximal when it is the longest start of a well-formed
character that the bytes still allow, or a single byte when they allow none.
-/

namespace ExhaustionGuard.Text

/-- Bytes of a text or of a C string. -/
abbrev Bytes := List UInt8

/-- The character that stands for an ill-formed part. -/
def replacement : Char := '\uFFFD'

/-- A character that has begun: how many bytes are missing, the bits read so far, and the range
the next byte has to lie in. -/
structure Pending where
  missing : Nat
  bits : Nat
  low : Nat
  high : Nat

/-- The character that a first byte begins, if it begins one of several bytes. -/
def begun? (byte : Nat) : Option Pending :=
  if 0xC2 ≤ byte ∧ byte ≤ 0xDF then some ⟨1, byte - 0xC0, 0x80, 0xBF⟩
  else if byte = 0xE0 then some ⟨2, 0, 0xA0, 0xBF⟩
  else if byte = 0xED then some ⟨2, 0xD, 0x80, 0x9F⟩
  else if 0xE1 ≤ byte ∧ byte ≤ 0xEF then some ⟨2, byte - 0xE0, 0x80, 0xBF⟩
  else if byte = 0xF0 then some ⟨3, 0, 0x90, 0xBF⟩
  else if 0xF1 ≤ byte ∧ byte ≤ 0xF3 then some ⟨3, byte - 0xF0, 0x80, 0xBF⟩
  else if byte = 0xF4 then some ⟨3, 4, 0x80, 0x8F⟩
  else none

/-- What a byte does where a character may begin: what is written, and what is left pending. -/
def beginWith (byte : Nat) : List Char × Option Pending :=
  if byte < 0x80 then ([Char.ofNat byte], none)
  else
    match begun? byte with
    | some pending => ([], some pending)
    | none => ([replacement], none)

/-- Decodes bytes after a pending character, or after none. -/
def decodeFrom : Option Pending → Bytes → List Char
  | none, [] => []
  | some _, [] => [replacement]
  | none, byte :: rest =>
      let step := beginWith byte.toNat
      step.1 ++ decodeFrom step.2 rest
  | some p, byte :: rest =>
      let n := byte.toNat
      if p.low ≤ n ∧ n ≤ p.high then
        let bits := p.bits * 64 + (n - 0x80)
        if p.missing = 1 then Char.ofNat bits :: decodeFrom none rest
        else decodeFrom (some ⟨p.missing - 1, bits, 0x80, 0xBF⟩) rest
      else
        let step := beginWith n
        replacement :: step.1 ++ decodeFrom step.2 rest

/-- The text of bytes, with a replacement character for each maximal ill-formed part. -/
def decodeLossy (bytes : Bytes) : String :=
  String.ofList (decodeFrom none bytes)

def encode (text : String) : Bytes :=
  text.toList.flatMap String.utf8EncodeChar

@[simp]
theorem encode_append (left right : String) :
    encode (left ++ right) = encode left ++ encode right := by
  simp [encode]

def isWellFormed (bytes : Bytes) : Bool :=
  encode (decodeLossy bytes) == bytes

/-- A C string ends before its first NUL. -/
def beforeNul (bytes : Bytes) : Bytes :=
  bytes.takeWhile (· != 0)

/-- The text of a C string. -/
def decodeCString (bytes : Bytes) : String :=
  decodeLossy (beforeNul bytes)

/-- Whether a text has a NUL in it, which no C string can hold. -/
def hasNul (text : String) : Bool :=
  text.toList.any (· == '\x00')

end ExhaustionGuard.Text
