import FixedLayout.Base64.Decode
import FixedLayout.Base64.Encode
import FixedLayout.Word

/-!
Base64 as it goes on in memory: over the bytes of a text or an alphabet in UTF-8, block by block,
with every index, difference and slice checked. Where a check fails there is no answer, not even an
error. Positions lie below the length of the text, so they are words as it is.
-/
namespace FixedLayout.Base64

/-- The bytes of a text in UTF-8. -/
def utf8 (text : String) : Bytes := text.toUTF8.data.toList

/-- The character that starts at a position of a text, or else the one to fall back on. -/
def characterAt (fallback : Char) (text : String) (position : Nat) : Char :=
  (String.Pos.Raw.get? text ⟨position⟩).getD fallback

namespace Blocks

/-- A decoder at work: it ends with a value or an error, unless a check fails. -/
abbrev Decoder (α : Type) : Type := ExceptT Error Option α

/-- The length without a pad symbol at the end. -/
def dropPad (bytes : Bytes) (length : Nat) : Decoder Nat := do
  let last ← (Word.sub? length 1 : Option Nat)
  let byte ← (bytes[last]? : Option UInt8)
  return if byte.toNat = padSymbol.toNat then last else length

/-- The length without padding. Only whole blocks are padded. -/
def bodyLength (bytes : Bytes) : Decoder Nat :=
  if bytes.length ≠ 0 ∧ bytes.length % 4 = 0 then do
    dropPad bytes (← dropPad bytes bytes.length)
  else
    return bytes.length

/-- Blocks of four bytes. The last one may be shorter. -/
def split : Bytes → List Bytes
  | a :: b :: c :: d :: rest => [a, b, c, d] :: split rest
  | [] => []
  | short => [short]

variable (report : Nat → Error) (mode : Mode)

/-- The bits of a block from a place in it on, where the block starts at a position. -/
def readBlock (position place bits : Nat) : Bytes → Decoder Nat
  | [] => return bits
  | byte :: rest => do
    match ← (mode.decodeTable[byte.toNat]? : Option (Option Sextet)) with
    | none => throw (report (position + place))
    | some sextet =>
      let shift ← (Word.sub? 18 (6 * place) : Option Nat)
      readBlock position (place + 1) (bits ||| sextet.val <<< shift) rest

/-- The bytes in the upper bits of a block: one less than it has symbols. -/
def blockBytes (length bits : Nat) : Decoder Bytes := do
  let produced ← (Word.sub? length 1 : Option Nat)
  let second := if 1 < produced then [UInt8.ofNat (bits >>> 8)] else []
  let third := if 2 < produced then [UInt8.ofNat bits] else []
  return UInt8.ofNat (bits >>> 16) :: (second ++ third)

def readBlocks (index : Nat) : List Bytes → Decoder Bytes
  | [] => return []
  | block :: rest => do
    let bits ← readBlock report mode (4 * index) 0 0 block
    let bytes ← blockBytes block.length bits
    return bytes ++ (← readBlocks (index + 1) rest)

/-- Decodes the bytes of a text. The character of a byte that is no symbol is looked up in the text,
with another one at hand should none start there. -/
def decode (fallback : Char) (mode : Mode) (text : String) : Decoder Bytes := do
  let bytes := utf8 text
  let length ← bodyLength bytes
  if length % 4 = 1 then
    throw (.invalidLength bytes.length)
  let body ← (bytes.slice? 0 length : Option Bytes)
  let report (position : Nat) : Error :=
    .invalidCharacter (characterAt fallback text position) position
  readBlocks report mode 0 (split body)

/-- The symbol of the lowest six bits of a number, from the bytes of an alphabet. -/
def symbol (table : Bytes) (bits : Nat) : Option Char :=
  table[bits &&& 0x3f]?.map Char.ofUInt8

/-- Encodes blocks of three bytes, then what remains. -/
def encode (table : Bytes) (pad : Bool) : Bytes → Option (List Char)
  | a :: b :: c :: rest => do
    let bits := a.toNat <<< 16 ||| b.toNat <<< 8 ||| c.toNat
    let first ← symbol table (bits >>> 18)
    let second ← symbol table (bits >>> 12)
    let third ← symbol table (bits >>> 6)
    let fourth ← symbol table bits
    return first :: second :: third :: fourth :: (← encode table pad rest)
  | [a] => do
    let bits := a.toNat <<< 16
    let first ← symbol table (bits >>> 18)
    let second ← symbol table (bits >>> 12)
    return first :: second :: if pad then [padSymbol, padSymbol] else []
  | [a, b] => do
    let bits := a.toNat <<< 16 ||| b.toNat <<< 8
    let first ← symbol table (bits >>> 18)
    let second ← symbol table (bits >>> 12)
    let third ← symbol table (bits >>> 6)
    return first :: second :: third :: if pad then [padSymbol] else []
  | [] => return []

end Blocks
end FixedLayout.Base64
