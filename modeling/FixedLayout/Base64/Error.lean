import FixedLayout.Text.Quoted

/-!
What can be wrong with an alphabet or with a base64 text.
-/
namespace FixedLayout.Base64

/-- Why an alphabet or a text is turned down. -/
inductive Error where
  /-- An alphabet is not made of 64 ASCII characters. -/
  | alphabetLength
  /-- A character stands where a symbol has to, so many bytes into the text. -/
  | invalidCharacter (character : Char) (position : Nat)
  /-- The text, of so many bytes, leaves one symbol over. -/
  | invalidLength (length : Nat)
  /-- The text stands for no bytes. -/
  | empty
  deriving DecidableEq, Repr

def Error.message : Error → String
  | .alphabetLength => "base64 alphabet must have exactly 64 ASCII characters"
  | .invalidCharacter character position =>
    let shown := Text.quoted character
    s!"invalid base64 character {shown} at position {position}"
  | .invalidLength length => s!"invalid base64 length {length}"
  | .empty => "empty base64 vector"

end FixedLayout.Base64
