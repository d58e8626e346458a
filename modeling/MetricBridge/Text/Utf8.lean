/-
# UTF-8

Texts as bytes, and bytes as texts. Every text has bytes. Bytes that are no text are
read as well: the replacement character stands for each byte, or each beginning
of a character, that cannot be continued. A beginning is as long as it could have become a
character; the byte at which it breaks off is looked at again.
-/

namespace MetricBridge.Utf8

/-- The bytes of a text. -/
def encode (text : List Char) : List UInt8 :=
  text.flatMap String.utf8EncodeChar

/-- What stands for bytes that are no character. -/
def replacement : Char := '\ufffd'

/-- The beginning of a character. -/
structure Pending where
  /-- How many bytes are missing. -/
  owed : Nat
  /-- The bits so far. -/
  value : Nat
  /-- The bounds of the next byte. -/
  least : Nat
  greatest : Nat

/-- A byte where a character may begin: what it gives, and what it begins. -/
def lead (byte : Nat) : List Char × Option Pending :=
  if byte < 0x80 then ([Char.ofNat byte], none)
  else if byte < 0xC2 then ([replacement], none)
  else if byte < 0xE0 then ([], some ⟨1, byte - 0xC0, 0x80, 0xBF⟩)
  else if byte = 0xE0 then ([], some ⟨2, 0, 0xA0, 0xBF⟩)
  else if byte = 0xED then ([], some ⟨2, 0xD, 0x80, 0x9F⟩)
  else if byte < 0xF0 then ([], some ⟨2, byte - 0xE0, 0x80, 0xBF⟩)
  else if byte = 0xF0 then ([], some ⟨3, 0, 0x90, 0xBF⟩)
  else if byte < 0xF4 then ([], some ⟨3, byte - 0xF0, 0x80, 0xBF⟩)
  else if byte = 0xF4 then ([], some ⟨3, 4, 0x80, 0x8F⟩)
  else ([replacement], none)

/-- One byte after what may be the beginning of a character. -/
def next (state : Option Pending) (byte : Nat) : List Char × Option Pending :=
  match state with
  | none => lead byte
  | some pending =>
    if pending.least ≤ byte ∧ byte ≤ pending.greatest then
      let value := pending.value * 64 + (byte - 0x80)
      if pending.owed ≤ 1 then ([Char.ofNat value], none)
      else ([], some ⟨pending.owed - 1, value, 0x80, 0xBF⟩)
    else
      let (chars, state) := lead byte
      (replacement :: chars, state)

/-- The text of some bytes after what may be the beginning of a character. -/
def decodeFrom (state : Option Pending) : List UInt8 → List Char
  | [] => if state.isSome then [replacement] else []
  | byte :: rest =>
    let (chars, state) := next state byte.toNat
    chars ++ decodeFrom state rest

/-- The text of some bytes. -/
def decode (bytes : List UInt8) : List Char :=
  decodeFrom none bytes

end MetricBridge.Utf8
