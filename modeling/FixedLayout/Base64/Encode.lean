import FixedLayout.Base64.Alphabet
import FixedLayout.Bytes

/-!
Bytes to base64 text. Every three bytes make four symbols; one or two bytes at the end make two or
three.
-/
namespace FixedLayout.Base64

/-- The sextets of a byte string. Missing bits of the last one are zero. -/
def sextets : Bytes → List Sextet
  | a :: b :: c :: rest =>
    let group := a.toNat <<< 16 + b.toNat <<< 8 + c.toNat
    .ofNat 64 (group >>> 18) :: .ofNat 64 (group >>> 12) :: .ofNat 64 (group >>> 6) ::
      .ofNat 64 group :: sextets rest
  | [a, b] =>
    let group := a.toNat <<< 16 + b.toNat <<< 8
    [.ofNat 64 (group >>> 18), .ofNat 64 (group >>> 12), .ofNat 64 (group >>> 6)]
  | [a] =>
    let group := a.toNat <<< 16
    [.ofNat 64 (group >>> 18), .ofNat 64 (group >>> 12)]
  | [] => []

/-- The pad symbols that complete the last group of so many bytes. -/
def padCount (length : Nat) : Nat := (3 - length % 3) % 3

/-- A way to write bytes: an alphabet, and whether the last group is filled up. -/
structure Encoder where
  alphabet : Alphabet
  pad : Bool

namespace Encoder

/-- The encoder for the given symbols, or for the standard alphabet. -/
def ofSymbols (symbols : Option String) (pad : Bool) : Except Error Encoder :=
  match symbols with
  | some symbols => return { alphabet := ← Alphabet.ofString symbols, pad }
  | none => .ok { alphabet := .standard, pad }

def encodeToList (encoder : Encoder) (bytes : Bytes) : List Char :=
  (sextets bytes).map encoder.alphabet.symbol ++
    if encoder.pad then List.replicate (padCount bytes.length) padSymbol else []

def encode (encoder : Encoder) (bytes : Bytes) : String :=
  String.ofList (encoder.encodeToList bytes)

end Encoder

def Mode.encoder (mode : Mode) (pad : Bool) : Encoder := { alphabet := mode.alphabet, pad }

def encode (mode : Mode) (bytes : Bytes) (pad : Bool) : String := (mode.encoder pad).encode bytes

end FixedLayout.Base64
