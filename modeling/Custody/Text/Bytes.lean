/-!
# Places by bytes

Places in a text counted in the bytes of its UTF-8 form. A cut within a character
comes behind it.

* `byteCount`: the length of a text;
* `takeBytes`, `dropBytes`: the text before a place, and the text from it on.
-/

namespace Custody.Text

def byteCount (cs : List Char) : Nat := (cs.map Char.utf8Size).foldr (· + ·) 0

/-- The text up to the byte `n`. -/
def takeBytes : Nat → List Char → List Char
  | 0, _ => []
  | _ + 1, [] => []
  | n + 1, c :: rest => c :: takeBytes (n + 1 - c.utf8Size) rest

/-- The text from the byte `n` on. -/
def dropBytes : Nat → List Char → List Char
  | 0, cs => cs
  | _ + 1, [] => []
  | n + 1, c :: rest => dropBytes (n + 1 - c.utf8Size) rest

end Custody.Text
