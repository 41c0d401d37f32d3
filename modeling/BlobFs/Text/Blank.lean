/-!
# Blank characters

Setting values, chain items and the parts of a connection string are read without the blanks
around them.  A character is blank when Unicode gives it the `White_Space` property; the byte-order
mark and the zero-width space are not.
-/

set_option autoImplicit false

namespace BlobFs.Text

/-- The characters with the Unicode property `White_Space`. -/
def isBlank (c : Char) : Bool :=
  let n := c.toNat
  (0x09 ≤ n && n ≤ 0x0D) || n == 0x20 || n == 0x85 || n == 0xA0 || n == 0x1680 ||
    (0x2000 ≤ n && n ≤ 0x200A) || n == 0x2028 || n == 0x2029 || n == 0x202F || n == 0x205F ||
    n == 0x3000

/-- The characters without the blanks at both ends. -/
def trimBlanks (s : List Char) : List Char :=
  ((s.dropWhile isBlank).reverse.dropWhile isBlank).reverse

/-- The text without the blanks at both ends. -/
def trim (s : String) : String :=
  String.ofList (trimBlanks s.toList)

/-- Whether nothing but blanks is left. -/
def isBlankText (s : String) : Bool :=
  s.toList.all isBlank

theorem dropWhile_eq_self_of_head {p : Char → Bool} {s : List Char}
    (h : ∀ c, s.head? = some c → p c = false) : s.dropWhile p = s := by
  cases s with
  | nil => rfl
  | cons c s => simp [List.dropWhile, h c rfl]

end BlobFs.Text
