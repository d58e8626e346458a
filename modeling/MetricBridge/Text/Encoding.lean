/-
# Texts in other encodings

Bytes that come from elsewhere may be a text in another encoding than UTF-8. They may say so
themselves by the mark they begin with, and otherwise a label can. Four encodings are known here,
under all their labels: UTF-8, UTF-16 in both orders of bytes, and the usual one of the single
bytes. A label of no encoding, or of one that is not known here, is taken for UTF-8. What cannot
be read in an encoding is replaced.
-/

import MetricBridge.Text.Utf8

namespace MetricBridge.Charset

/-- An encoding of texts. -/
inductive Encoding where
  | utf8
  /-- Units of two bytes. -/
  | utf16 (lowFirst : Bool)
  /-- Single bytes. -/
  | windows1252
  deriving DecidableEq

/-- The encoding of a label in small letters. -/
def ofLabel? (label : String) : Option Encoding :=
  if label ∈ ["unicode-1-1-utf-8", "unicode11utf8", "unicode20utf8", "utf-8", "utf8",
      "x-unicode20utf8"] then some .utf8
  else if label ∈ ["csunicode", "iso-10646-ucs-2", "ucs-2", "unicode", "unicodefeff", "utf-16",
      "utf-16le"] then some (.utf16 true)
  else if label ∈ ["unicodefffe", "utf-16be"] then some (.utf16 false)
  else if label ∈ ["ansi_x3.4-1968", "ascii", "cp1252", "cp819", "csisolatin1", "ibm819",
      "iso-8859-1", "iso-ir-100", "iso8859-1", "iso88591", "iso_8859-1", "iso_8859-1:1987", "l1",
      "latin1", "us-ascii", "windows-1252", "x-cp1252"] then some .windows1252
  else none

/-- The encoding that bytes say by their mark, and the bytes behind it. -/
def marked? : List UInt8 → Option (Encoding × List UInt8)
  | 0xEF :: 0xBB :: 0xBF :: rest => some (.utf8, rest)
  | 0xFF :: 0xFE :: rest => some (.utf16 true, rest)
  | 0xFE :: 0xFF :: rest => some (.utf16 false, rest)
  | _ => none

/-- The text of units of two bytes, behind the first half of a character that needs two. A half
without its other half is replaced, and so is a single byte at the end. -/
def utf16From (lowFirst : Bool) (half : Option Nat) : List UInt8 → List Char
  | [] => if half.isSome then [Utf8.replacement] else []
  | [_] => [Utf8.replacement]
  | first :: second :: rest =>
    let unit :=
      if lowFirst then second.toNat * 256 + first.toNat else first.toNat * 256 + second.toNat
    let lone := if half.isSome then [Utf8.replacement] else []
    if 0xD800 ≤ unit ∧ unit < 0xDC00 then lone ++ utf16From lowFirst (some unit) rest
    else if 0xDC00 ≤ unit ∧ unit < 0xE000 then
      match half with
      | some high =>
        Char.ofNat (0x10000 + (high - 0xD800) * 0x400 + (unit - 0xDC00)) ::
          utf16From lowFirst none rest
      | none => Utf8.replacement :: utf16From lowFirst none rest
    else lone ++ Char.ofNat unit :: utf16From lowFirst none rest

/-- The characters of the bytes from 128 to 159 among the single bytes. -/
def highCharacters : List Nat :=
  [0x20AC, 0x81, 0x201A, 0x0192, 0x201E, 0x2026, 0x2020, 0x2021, 0x02C6, 0x2030, 0x0160, 0x2039,
    0x0152, 0x8D, 0x017D, 0x8F, 0x90, 0x2018, 0x2019, 0x201C, 0x201D, 0x2022, 0x2013, 0x2014,
    0x02DC, 0x2122, 0x0161, 0x203A, 0x0153, 0x9D, 0x017E, 0x0178]

/-- The character of a single byte. -/
def windows1252Char (byte : UInt8) : Char :=
  if 0x80 ≤ byte then Char.ofNat (highCharacters.getD (byte.toNat - 0x80) byte.toNat)
  else Char.ofNat byte.toNat

/-- The text of bytes in an encoding. -/
def decodeAs : Encoding → List UInt8 → List Char
  | .utf8, bytes => Utf8.decode bytes
  | .utf16 lowFirst, bytes => utf16From lowFirst none bytes
  | .windows1252, bytes => bytes.map windows1252Char

/-- The text of bytes with a label. The mark of the bytes goes before the label. -/
def decode (label : Option String) (bytes : List UInt8) : List Char :=
  match marked? bytes with
  | some (encoding, rest) => decodeAs encoding rest
  | none => decodeAs ((label.bind ofLabel?).getD .utf8) bytes

end MetricBridge.Charset
