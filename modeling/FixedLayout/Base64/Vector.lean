import FixedLayout.Base64.Decode
import FixedLayout.Base64.Encode
import FixedLayout.Json.Basic

/-!
Byte vectors as quoted base64 text. A vector without bytes has no such text. The mode and the
options of a text can be given in JSON.
-/
namespace FixedLayout.Base64

/-- How a vector is printed. -/
structure PrintOptions where
  /-- Leave out the padding in the URL-safe mode. -/
  cancelPadding : Bool := false
  deriving DecidableEq, Repr, Inhabited

/-- The text of a vector, with its quotes. Standard text is always padded. -/
def printVector (mode : Mode) (bytes : Bytes) (options : PrintOptions) : Option String :=
  if bytes.isEmpty then
    none
  else
    let pad := !(options.cancelPadding && mode == .urlSafe)
    some ("\"" ++ encode mode bytes pad ++ "\"")

def parseVector (mode : Mode) (text : String) : Except Error Bytes := do
  let bytes ← decode mode text
  if bytes.isEmpty then
    throw .empty
  return bytes

/-- The mode that a value names: its attribute, alone or as the only member of an object, without
a value. -/
def Mode.ofJson? : Json → Option Mode
  | .string (some name) => ofAttributeName? name
  | .object [(some name, .null)] => ofAttributeName? name
  | _ => none

/-- The options that a value describes. A field that is left out keeps its default. -/
def PrintOptions.ofJson? (json : Json) : Option PrintOptions := do
  match ← json.fields? ["cancel_padding"] with
  | [none] => return {}
  | [some (.bool cancelPadding)] => return { cancelPadding }
  | _ => none

end FixedLayout.Base64
