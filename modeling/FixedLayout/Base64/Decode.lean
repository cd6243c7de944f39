import FixedLayout.Base64.Alphabet
import FixedLayout.Bytes

/-!
Base64 text to bytes. Padding may be left out. What the last symbol holds beyond the last whole
byte is ignored.
-/
namespace FixedLayout.Base64

/-- The length of a text in bytes of UTF-8. -/
def byteLength : List Char → Nat
  | [] => 0
  | c :: rest => c.utf8Size + byteLength rest

/-- A text without at most two pad symbols at its end. -/
def dropPad (text : List Char) : List Char :=
  match text.reverse with
  | '=' :: '=' :: rest => rest.reverse
  | '=' :: rest => rest.reverse
  | _ => text

/-- The part of a text that holds symbols. Only a text of whole groups is padded. -/
def body (text : List Char) : List Char :=
  if byteLength text ≠ 0 ∧ byteLength text % 4 = 0 then dropPad text else text

/-- The sextets of a text that goes on at a position. -/
def readSextets (mode : Mode) (position : Nat) : List Char → Except Error (List Sextet)
  | [] => .ok []
  | c :: rest =>
    match mode.sextet? c with
    | none => .error (.invalidCharacter c position)
    | some sextet => return sextet :: (← readSextets mode (position + c.utf8Size) rest)

/-- The bytes that sextets hold: three for every four, and one or two for two or three at the
end. -/
def joinSextets : List Sextet → Bytes
  | a :: b :: c :: d :: rest =>
    let group := a.val <<< 18 + b.val <<< 12 + c.val <<< 6 + d.val
    .ofNat (group >>> 16) :: .ofNat (group >>> 8) :: .ofNat group :: joinSextets rest
  | [a, b, c] =>
    let group := a.val <<< 18 + b.val <<< 12 + c.val <<< 6
    [.ofNat (group >>> 16), .ofNat (group >>> 8)]
  | [a, b] =>
    let group := a.val <<< 18 + b.val <<< 12
    [.ofNat (group >>> 16)]
  | _ => []

def decodeList (mode : Mode) (text : List Char) : Except Error Bytes := do
  if byteLength (body text) % 4 = 1 then
    throw (.invalidLength (byteLength text))
  return joinSextets (← readSextets mode 0 (body text))

def decode (mode : Mode) (text : String) : Except Error Bytes := decodeList mode text.toList

end FixedLayout.Base64
