/-!
Words: the pieces of a text between white space.
-/

namespace ComponentSchema.Words

/-- The characters that Unicode counts as white space. -/
def isSpace (char : Char) : Bool :=
  let code := char.toNat
  (0x09 ≤ code && code ≤ 0x0d) || (0x2000 ≤ code && code ≤ 0x200a) ||
    [0x20, 0x85, 0xa0, 0x1680, 0x2028, 0x2029, 0x202f, 0x205f, 0x3000].contains code

/-- Takes characters that pass a test off both ends. -/
def trim (test : Char → Bool) (text : List Char) : List Char :=
  ((text.dropWhile test).reverse.dropWhile test).reverse

def split : List Char → List (List Char)
  | [] => []
  | char :: rest =>
    if isSpace char then split rest
    else
      match rest with
      | [] => [[char]]
      | next :: _ =>
        if isSpace next then [char] :: split rest
        else
          match split rest with
          | [] => [[char]]
          | word :: others => (char :: word) :: others

/-- Whether a text holds another somewhere. -/
def occurs (part : List Char) : List Char → Bool
  | [] => part.isEmpty
  | char :: rest => part.isPrefixOf (char :: rest) || occurs part rest

end ComponentSchema.Words
