import FixedLayout.Json.Token

/-!
JSON values and their reading. The reader goes through the tokens once and keeps the containers
that are open, so that it needs no bound on their depth.
-/
namespace FixedLayout

/-- A JSON value. Members of an object keep their order, and a name may occur twice. -/
inductive Json where
  | null
  | bool (value : Bool)
  | number (value : Json.Numeral)
  /-- A string, which has no value where an escape names half of a surrogate pair alone. -/
  | string (value : Option String)
  | array (items : List Json)
  | object (members : List (Option String × Json))

namespace Json

/-- A container whose end is still to come, with the parts read so far, last one first. -/
inductive Frame where
  | array (items : List Json)
  | object (members : List (Option String × Json)) (name : Option String)

/-- What the text has to go on with. -/
inductive Expected where
  | value
  /-- A value or the end of an empty array. -/
  | item
  /-- A member's name. -/
  | name (members : List (Option String × Json))
  /-- A member's name or the end of an empty object. -/
  | member
  /-- The colon after a member's name. -/
  | colon (members : List (Option String × Json)) (name : Option String)
  /-- A comma or the end of what is open, after this value. -/
  | delimiter (value : Json)

/-- A text that is read in part. -/
structure Reader where
  frames : List Frame := []
  expected : Expected := .value

namespace Reader

def startValue? (frames : List Frame) : Token → Option Reader
  | .openObject => some { frames, expected := .member }
  | .openArray => some { frames := .array [] :: frames, expected := .item }
  | .null => some { frames, expected := .delimiter .null }
  | .bool value => some { frames, expected := .delimiter (.bool value) }
  | .number value => some { frames, expected := .delimiter (.number value) }
  | .string value => some { frames, expected := .delimiter (.string value) }
  | _ => none

def step? (reader : Reader) (token : Token) : Option Reader :=
  match reader.expected, token with
  | .value, token => startValue? reader.frames token
  | .item, .closeArray =>
    match reader.frames with
    | .array items :: frames => some { frames, expected := .delimiter (.array items.reverse) }
    | _ => none
  | .item, token => startValue? reader.frames token
  | .member, .closeObject => some { reader with expected := .delimiter (.object []) }
  | .member, .string name => some { reader with expected := .colon [] name }
  | .name members, .string name => some { reader with expected := .colon members name }
  | .colon members name, .colon =>
    some { frames := .object members name :: reader.frames, expected := .value }
  | .delimiter value, .comma =>
    match reader.frames with
    | .array items :: frames => some { frames := .array (value :: items) :: frames }
    | .object members name :: frames =>
      some { frames, expected := .name ((name, value) :: members) }
    | [] => none
  | .delimiter value, .closeArray =>
    match reader.frames with
    | .array items :: frames =>
      some { frames, expected := .delimiter (.array (value :: items).reverse) }
    | _ => none
  | .delimiter value, .closeObject =>
    match reader.frames with
    | .object members name :: frames =>
      some { frames, expected := .delimiter (.object ((name, value) :: members).reverse) }
    | _ => none
  | _, _ => none

def value? (reader : Reader) : Option Json :=
  match reader.frames, reader.expected with
  | [], .delimiter value => some value
  | _, _ => none

end Reader

def parse? (text : String) : Option Json := do
  let reader ← (← tokens? text.toList).foldlM Reader.step? {}
  reader.value?

/-- The values of named fields. They are the members of an object, where other members are passed
over, or the items of an array, in order. Neither a field that occurs twice nor an item without a
field is allowed. -/
def fields? (names : List String) : Json → Option (List (Option Json))
  | .object members => do
    let members ← members.mapM fun (name, value) => name.map (·, value)
    names.mapM fun name =>
      match members.filter (·.1 == name) with
      | [] => some none
      | [(_, value)] => some (some value)
      | _ => none
  | .array items =>
    if items.length ≤ names.length then
      some (items.map some ++ List.replicate (names.length - items.length) none)
    else
      none
  | _ => none

end Json
end FixedLayout
