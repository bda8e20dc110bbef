/-!
# Splitting text

A text between separators is a list of parts, one more than there are separators. A text can also
be split after some bytes of its UTF-8 encoding, but not inside a character.
-/

namespace Telemetry.Text

/-- Splits characters at a separator. -/
def splitAtChar (separator : Char) : List Char → List (List Char)
  | [] => [[]]
  | c :: rest =>
    let parts := splitAtChar separator rest
    if c = separator then [] :: parts
    else match parts with
      | part :: parts => (c :: part) :: parts
      | [] => [[c]]

/-- The parts of a text between separators. -/
def parts (separator : Char) (text : String) : List String :=
  (splitAtChar separator text.toList).map String.ofList

/-- Splits characters after some bytes. -/
def splitAtByte? : Nat → List Char → Option (List Char × List Char)
  | 0, cs => some ([], cs)
  | _ + 1, [] => none
  | n + 1, c :: rest =>
    if c.utf8Size ≤ n + 1 then
      (splitAtByte? (n + 1 - c.utf8Size) rest).map fun (front, back) => (c :: front, back)
    else none

end Telemetry.Text
