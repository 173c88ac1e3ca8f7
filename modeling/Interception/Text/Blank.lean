/-
Blank text: text in which every character has the White_Space property. The
property holds of twenty-five characters. It leaves out the zero-width space, the
word joiner, the byte order mark, the Mongolian vowel separator and the four
information separators, so a name made of those is not blank.
-/

namespace Interception.Text

/-- The White_Space property, by code point. -/
def isWhiteSpace (character : Char) : Bool :=
  let code := character.toNat
  (0x09 ≤ code && code ≤ 0x0d) || code == 0x20 || code == 0x85 || code == 0xa0 ||
    code == 0x1680 || (0x2000 ≤ code && code ≤ 0x200a) || code == 0x2028 || code == 0x2029 ||
    code == 0x202f || code == 0x205f || code == 0x3000

/-- Text with no character outside White_Space; the empty text is blank. -/
def isBlank (text : String) : Bool :=
  text.toList.all isWhiteSpace

theorem isBlank_eq_false_iff (text : String) :
    isBlank text = false ↔ ∃ character ∈ text.toList, isWhiteSpace character = false := by
  simp [isBlank]

theorem isWhiteSpace_of_isWhitespace (character : Char)
    (known : character.isWhitespace = true) : isWhiteSpace character = true := by
  simp only [Char.isWhitespace, Bool.or_eq_true, decide_eq_true_eq] at known
  rcases known with ((known | known) | known) | known <;> subst known <;> rfl

end Interception.Text
