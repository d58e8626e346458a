/-
# What is left of a text

A reader takes something from the front of a text and returns what is left. That this is
shorter than the text is part of the result, so a loop that reads something in each
round ends for that reason, and no reader has to be looked into to see it.
-/

namespace MetricBridge.Text

/-- What is left of a text after something was taken from it. -/
abbrev Shorter (text : List Char) :=
  { rest : List Char // rest.length < text.length }

/-- What is left of a text after perhaps nothing was taken from it. -/
abbrev Within (text : List Char) :=
  { rest : List Char // rest.length ≤ text.length }

namespace Shorter

/-- What is shorter than a text that is no longer than another is shorter than that one. -/
def weaken {small large : List Char} (h : small.length ≤ large.length)
    (rest : Shorter small) : Shorter large :=
  ⟨rest.1, Nat.lt_of_lt_of_le rest.2 h⟩

/-- Shortening twice. -/
def trans {text : List Char} (rest : Shorter text) (after : Shorter rest.1) : Shorter text :=
  ⟨after.1, Nat.lt_trans after.2 rest.2⟩

/-- Shortening once, and perhaps once more. -/
def followed {text : List Char} (rest : Shorter text) (after : Within rest.1) : Shorter text :=
  ⟨after.1, Nat.lt_of_le_of_lt after.2 rest.2⟩

/-- A text without its first character. -/
def tail (c : Char) (rest : List Char) : Shorter (c :: rest) :=
  ⟨rest, Nat.lt_succ_self _⟩

@[simp]
theorem val_weaken {small large : List Char} (h : small.length ≤ large.length)
    (rest : Shorter small) : (rest.weaken h).1 = rest.1 := rfl

@[simp]
theorem val_trans {text : List Char} (rest : Shorter text) (after : Shorter rest.1) :
    (rest.trans after).1 = after.1 := rfl

@[simp]
theorem val_followed {text : List Char} (rest : Shorter text) (after : Within rest.1) :
    (rest.followed after).1 = after.1 := rfl

@[simp]
theorem val_tail (c : Char) (rest : List Char) : (tail c rest).1 = rest := rfl

end Shorter

namespace Within

/-- All of a text. -/
def all (text : List Char) : Within text :=
  ⟨text, Nat.le_refl _⟩

/-- Perhaps shortening twice. -/
def trans {text : List Char} (rest : Within text) (after : Within rest.1) : Within text :=
  ⟨after.1, Nat.le_trans after.2 rest.2⟩

/-- What is left of a text is shorter than the text with one more character in front. -/
def behind {text : List Char} (c : Char) (rest : Within text) : Shorter (c :: text) :=
  ⟨rest.1, Nat.lt_succ_of_le rest.2⟩

/-- The same without the fact that it is strictly shorter. -/
def widen {text : List Char} (c : Char) (rest : Within text) : Within (c :: text) :=
  ⟨rest.1, Nat.le_succ_of_le rest.2⟩

@[simp]
theorem val_all (text : List Char) : (all text).1 = text := rfl

@[simp]
theorem val_trans {text : List Char} (rest : Within text) (after : Within rest.1) :
    (rest.trans after).1 = after.1 := rfl

@[simp]
theorem val_behind {text : List Char} (c : Char) (rest : Within text) :
    (rest.behind c).1 = rest.1 := rfl

@[simp]
theorem val_widen {text : List Char} (c : Char) (rest : Within text) :
    (rest.widen c).1 = rest.1 := rfl

end Within

end MetricBridge.Text
