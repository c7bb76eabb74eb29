/-!
# Bytes

How many bytes a text takes in UTF-8, and texts cut at a number of bytes. A character that the cut
would break goes to the second part.
-/

namespace AutoImport.Text

/-- The number of bytes of a text. -/
def byteLength : List Char → Nat
  | [] => 0
  | c :: cs => c.utf8Size + byteLength cs

/-- The characters that fit into a number of bytes, from the front. -/
def takeBytes (bytes : Nat) : List Char → List Char
  | [] => []
  | c :: cs => if c.utf8Size ≤ bytes then c :: takeBytes (bytes - c.utf8Size) cs else []

/-- The characters behind those that fit into a number of bytes. -/
def dropBytes (bytes : Nat) : List Char → List Char
  | [] => []
  | c :: cs => if c.utf8Size ≤ bytes then dropBytes (bytes - c.utf8Size) cs else c :: cs

end AutoImport.Text
