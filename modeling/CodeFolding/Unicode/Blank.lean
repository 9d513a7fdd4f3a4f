import CodeFolding.Charset

set_option autoImplicit false

namespace CodeFolding.Unicode

/-- The property `White_Space`. -/
def isBlank (c : Char) : Bool :=
  let code := c.toNat
  (0x09 ≤ code && code ≤ 0x0D) || code == 0x20 || code == 0x85 || code == 0xA0 ||
    code == 0x1680 || (0x2000 ≤ code && code ≤ 0x200A) || code == 0x2028 || code == 0x2029 ||
    code == 0x202F || code == 0x205F || code == 0x3000

/-- White space as a set of characters. -/
def blanks : Charset := .ofRanges [
  (0x09, 0x0D), (0x20, 0x20), (0x85, 0x85), (0xA0, 0xA0), (0x1680, 0x1680), (0x2000, 0x200A),
  (0x2028, 0x2029), (0x202F, 0x202F), (0x205F, 0x205F), (0x3000, 0x3000)]

theorem contains_blanks (c : Char) : blanks.contains c = isBlank c := by
  rw [Charset.contains, blanks, Charset.holds_ofRanges _ _ (by decide) (by decide), Bool.eq_iff_iff]
  simp only [List.any_cons, List.any_nil, isBlank, Bool.or_eq_true, Bool.and_eq_true,
    decide_eq_true_eq, beq_iff_eq, Bool.false_eq_true, or_false]
  omega

/-- The characters that end a line: line feed, carriage return, vertical tab, form feed, next
line, line separator and paragraph separator. -/
def isLineBreak (c : Char) : Bool :=
  let code := c.toNat
  (0x0A ≤ code && code ≤ 0x0D) || code == 0x85 || code == 0x2028 || code == 0x2029

theorem isBlank_of_isLineBreak (c : Char) (ends : isLineBreak c = true) : isBlank c = true := by
  simp only [isLineBreak, isBlank, Bool.or_eq_true, Bool.and_eq_true, decide_eq_true_eq,
    beq_iff_eq] at ends ⊢
  omega

end CodeFolding.Unicode
