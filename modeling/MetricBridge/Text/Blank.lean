/-
# Blank characters and trimming

White space in the sense of the Unicode property White_Space: twenty-five
characters, among them U+0085 and U+3000, but neither U+200B nor U+FEFF. Texts are
trimmed as lists of characters; `trim` removes blanks at both ends and nothing in
between.
-/

namespace MetricBridge.Text

/-- The property White_Space. -/
def isBlank (c : Char) : Bool :=
  let n := c.toNat
  (0x09 ≤ n && n ≤ 0x0D) || n == 0x20 || n == 0x85 || n == 0xA0 || n == 0x1680 ||
    (0x2000 ≤ n && n ≤ 0x200A) || n == 0x2028 || n == 0x2029 || n == 0x202F ||
    n == 0x205F || n == 0x3000

/-- The text after its leading blanks. -/
def trimStart (text : List Char) : List Char :=
  text.dropWhile isBlank

/-- The text up to its last character that is not blank. -/
def trimEnd (text : List Char) : List Char :=
  (text.reverse.dropWhile isBlank).reverse

/-- The text without blanks at either end. -/
def trim (text : List Char) : List Char :=
  trimEnd (trimStart text)

/-- Trimming the front never lengthens a text. -/
theorem length_trimStart_le (text : List Char) : (trimStart text).length ≤ text.length :=
  (List.dropWhile_suffix isBlank).length_le

/-- After leading blanks are gone the first character, if any, is not blank. -/
theorem head_trimStart_not_blank {text rest : List Char} {c : Char}
    (htrimmed : trimStart text = c :: rest) : isBlank c = false := by
  induction text with
  | nil => simp [trimStart] at htrimmed
  | cons first others ih =>
    by_cases hblank : isBlank first = true
    · simp only [trimStart, List.dropWhile_cons, hblank, if_true] at htrimmed ih
      exact ih htrimmed
    · simp only [trimStart, List.dropWhile_cons, hblank] at htrimmed
      simp only [Bool.false_eq_true, if_false, List.cons.injEq] at htrimmed
      simpa [htrimmed.1] using hblank

end MetricBridge.Text
