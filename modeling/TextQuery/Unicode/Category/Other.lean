import TextQuery.Unicode.Range

/-!
# Separators, controls and special code points

The code points of the remaining general categories, in ascending order. Surrogates are left out,
since no character is one.
-/
set_option autoImplicit false
set_option maxRecDepth 10000

namespace TextQuery.Unicode.Category

def spaceSeparator : List CodeRange := [
  (0x0020, 0x0020), (0x00A0, 0x00A0), (0x1680, 0x1680), (0x2000, 0x200A), (0x202F, 0x202F),
  (0x205F, 0x205F), (0x3000, 0x3000)]

def lineSeparator : List CodeRange := [
  (0x2028, 0x2028)]

def paragraphSeparator : List CodeRange := [
  (0x2029, 0x2029)]

def control : List CodeRange := [
  (0x0000, 0x001F), (0x007F, 0x009F)]

/-- Invisible format controls. -/
def format : List CodeRange := [
  (0x00AD, 0x00AD), (0x0600, 0x0605), (0x061C, 0x061C), (0x06DD, 0x06DD), (0x070F, 0x070F),
  (0x0890, 0x0891), (0x08E2, 0x08E2), (0x180E, 0x180E), (0x200B, 0x200F), (0x202A, 0x202E),
  (0x2060, 0x2064), (0x2066, 0x206F), (0xFEFF, 0xFEFF), (0xFFF9, 0xFFFB), (0x110BD, 0x110BD),
  (0x110CD, 0x110CD), (0x13430, 0x1343F), (0x1BCA0, 0x1BCA3), (0x1D173, 0x1D17A),
  (0xE0001, 0xE0001), (0xE0020, 0xE007F)]

/-- Code points left to private agreement. -/
def privateUse : List CodeRange := [
  (0xE000, 0xF8FF), (0xF0000, 0xFFFFD), (0x100000, 0x10FFFD)]

end TextQuery.Unicode.Category
