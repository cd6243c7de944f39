import FixedLayout.Text.Properties

/-!
A character between single quotes, written so that every reader can tell which one it is.
-/
namespace FixedLayout.Text

def hex (n : Nat) : String := String.ofList (Nat.toDigits 16 n)

/-- One of the two halfwidth katakana sound marks. They extend a grapheme by their property, and yet
are letters with a place of their own. -/
def isSoundMark (c : Char) : Bool := c == '\uff9e' || c == '\uff9f'

/-- Whether a reader could miss a character between quotes, or see it as a part of the opening
quote. -/
def isObscure (c : Char) : Bool :=
  isUnprintable c || isDefaultIgnorable c || (isGraphemeExtend c && !isSoundMark c)

/-- What stands for a character between the quotes. A double quote stands for itself. -/
def escape (c : Char) : String :=
  match c with
  | '\x00' => "\\0"
  | '\t' => "\\t"
  | '\r' => "\\r"
  | '\n' => "\\n"
  | '\'' => "\\'"
  | '\\' => "\\\\"
  | c =>
    if isObscure c then
      "\\u\x7b" ++ hex c.toNat ++ "\x7d"
    else
      c.toString

def quoted (c : Char) : String := "'" ++ escape c ++ "'"

end FixedLayout.Text
