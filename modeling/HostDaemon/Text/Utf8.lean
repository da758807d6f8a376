/-! # Bytes and text

Texts as UTF-8. Decoding runs a machine over the bytes, one byte at a time; what comes out is a
list of characters with a mark for each broken sequence. A sequence is broken at the first byte
that cannot continue it, and that byte begins the next one. -/

namespace HostDaemon.Text.Utf8

/-- What a sequence that has begun still needs. -/
structure Owed where
  /-- The bits gathered so far. -/
  value : Nat
  /-- The least byte that may come next. -/
  low : Nat
  /-- The greatest byte that may come next. -/
  high : Nat
  /-- How many bytes must follow the next one. -/
  more : Nat

/-- What a byte that begins a sequence gives: a character or a broken sequence at once, or a
    sequence that needs more. -/
def begin (b : UInt8) : Option (Option Char) × Option Owed :=
  let n := b.toNat
  if n < 0x80 then (some (some (Char.ofNat n)), none)
  else if 0xC2 ≤ n ∧ n ≤ 0xDF then (none, some ⟨n - 0xC0, 0x80, 0xBF, 0⟩)
  else if n = 0xE0 then (none, some ⟨0, 0xA0, 0xBF, 1⟩)
  else if n = 0xED then (none, some ⟨0xD, 0x80, 0x9F, 1⟩)
  else if 0xE1 ≤ n ∧ n ≤ 0xEF then (none, some ⟨n - 0xE0, 0x80, 0xBF, 1⟩)
  else if n = 0xF0 then (none, some ⟨0, 0x90, 0xBF, 2⟩)
  else if 0xF1 ≤ n ∧ n ≤ 0xF3 then (none, some ⟨n - 0xF0, 0x80, 0xBF, 2⟩)
  else if n = 0xF4 then (none, some ⟨4, 0x80, 0x8F, 2⟩)
  else (some none, none)

/-- The characters of the bytes, `none` for each broken sequence, after a sequence that needs
    `owed`. -/
def decodeFrom (owed : Option Owed) : List UInt8 → List (Option Char)
  | [] => if owed.isSome then [none] else []
  | b :: bytes =>
    match owed with
    | some o =>
      if o.low ≤ b.toNat ∧ b.toNat ≤ o.high then
        let value := o.value * 64 + (b.toNat - 0x80)
        match o.more with
        | 0 => some (Char.ofNat value) :: decodeFrom none bytes
        | more + 1 => decodeFrom (some ⟨value, 0x80, 0xBF, more⟩) bytes
      else
        let (now, next) := begin b
        none :: (now.toList ++ decodeFrom next bytes)
    | none =>
      let (now, next) := begin b
      now.toList ++ decodeFrom next bytes

/-- The characters of the bytes, `none` for each broken sequence. -/
def decode (bytes : List UInt8) : List (Option Char) := decodeFrom none bytes

/-- The text of the bytes, with the replacement character for each broken sequence. -/
def decodeLossy (bytes : List UInt8) : List Char := (decode bytes).map (·.getD '\uFFFD')

/-- The text of the bytes, or `none` where they are not UTF-8. -/
def decode? (bytes : List UInt8) : Option (List Char) := (decode bytes).mapM id

/-- The bytes of some characters. -/
def encode (cs : List Char) : List UInt8 := cs.flatMap String.utf8EncodeChar

/-- The bytes of a text. -/
def bytesOf (s : String) : List UInt8 := encode s.toList

/-- The number of bytes of some characters. -/
def sizeOfChars : List Char → Nat
  | [] => 0
  | c :: cs => c.utf8Size + sizeOfChars cs

end HostDaemon.Text.Utf8
