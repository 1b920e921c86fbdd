/-
Which characters can be shown as they are inside quoted text.
-/
import Rerank.Text.Printable.Table

namespace Rerank.Text

/-- Whether a character is written as it is inside quoted text.  Characters that show
nothing of their own are not, and neither are those that extend the character before them,
because they would join the quotation mark.  The printable part of ASCII is settled
without the tables. -/
def isPrintable (c : Char) : Bool :=
  if c.toNat < 0x7F then 0x20 ≤ c.toNat
  else !Printable.unprintableTable.marks c && !Printable.extendTable.marks c

end Rerank.Text
