/-!
# Text that a markup tree can hold

A tree holds no control character other than tab, line feed and carriage return, and neither of the two
non-characters at the end of the basic plane.
-/

namespace Crawl.Text

/-- Whether a markup tree can hold a character. -/
def isTreeChar (c : Char) : Bool :=
  let n := c.toNat
  (32 ≤ n || n == 9 || n == 10 || n == 13) && n != 0xfffe && n != 0xffff

/-- Whether a markup tree can hold a text. -/
def isTreeText (s : String) : Bool := s.toList.all isTreeChar

end Crawl.Text
