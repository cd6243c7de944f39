import FixedLayout.Base64.Error

/-!
Base64 symbols. An alphabet gives each number of six bits an ASCII character; the two modes have
alphabets that differ in the last two symbols.
-/
namespace FixedLayout.Base64

/-- A number of six bits. -/
abbrev Sextet := Fin 64

/-- The character that fills up the last group of a padded text. -/
def padSymbol : Char := '='

def isAscii (c : Char) : Bool := c.toNat < 128

/-- The symbols of the 64 sextets, in order. A symbol may occur twice. -/
structure Alphabet where
  symbols : List Char
  length_eq : symbols.length = 64
  ascii : symbols.all isAscii

namespace Alphabet

def ofString (text : String) : Except Error Alphabet :=
  if valid : text.toList.length = 64 ∧ text.toList.all isAscii then
    .ok { symbols := text.toList, length_eq := valid.1, ascii := valid.2 }
  else
    .error .alphabetLength

def text (alphabet : Alphabet) : String := String.ofList alphabet.symbols

def symbol (alphabet : Alphabet) (sextet : Sextet) : Char :=
  alphabet.symbols.get (sextet.cast alphabet.length_eq.symm)

def standard : Alphabet where
  symbols := "ABCDEFGHIJKLMNOPQRSTUVWXYZabcdefghijklmnopqrstuvwxyz0123456789+/".toList
  length_eq := by decide
  ascii := by decide

/-- The alphabet for URLs and file names. -/
def urlSafe : Alphabet where
  symbols := "ABCDEFGHIJKLMNOPQRSTUVWXYZabcdefghijklmnopqrstuvwxyz0123456789-_".toList
  length_eq := by decide
  ascii := by decide

/-- Marks the byte of a symbol in a table of sextets. -/
def enter (alphabet : Alphabet) (table : List (Option Sextet)) (sextet : Sextet) :
    List (Option Sextet) :=
  table.set (alphabet.symbol sextet).toNat (some sextet)

/-- For each byte the place of that symbol. -/
def symbolTable (alphabet : Alphabet) : List (Option Sextet) :=
  (List.finRange 64).foldl alphabet.enter (List.replicate 256 none)

/-- The sextet of each byte. The last two standard symbols may be accepted besides. -/
def decodeTable (alphabet : Alphabet) (acceptStandard : Bool) : List (Option Sextet) :=
  if acceptStandard then
    (alphabet.symbolTable.set '+'.toNat (some 62)).set '/'.toNat (some 63)
  else
    alphabet.symbolTable

end Alphabet

inductive Mode where
  | standard | urlSafe
  deriving DecidableEq, Repr

namespace Mode

def attributeName : Mode → String
  | standard => "base64"
  | urlSafe => "base64url"

def ofAttributeName? (name : String) : Option Mode :=
  if name = "base64" then some standard
  else if name = "base64url" then some urlSafe
  else none

def alphabet : Mode → Alphabet
  | standard => .standard
  | urlSafe => .urlSafe

/-- The standard symbols have sextets in the URL-safe mode too. -/
def decodeTable : Mode → List (Option Sextet)
  | standard => Alphabet.standard.decodeTable false
  | urlSafe => Alphabet.urlSafe.decodeTable true

/-- The sextet that a mode reads in a character. Only an ASCII character, which is a single byte,
can have one. -/
def sextet? (mode : Mode) (c : Char) : Option Sextet := mode.decodeTable[c.toNat]?.join

end Mode
end FixedLayout.Base64
