/-!
# Byte order marks

A text that was written by some editors begins with a byte order mark, which is not part of it.
-/

namespace Crossover.Text

/-- The text without the byte order mark that may stand in front of it. -/
def withoutMark (cs : List Char) : List Char :=
  if cs.head? = some '\ufeff' then cs.drop 1 else cs

end Crossover.Text
