import FixedLayout.Binary32
import FixedLayout.Builder.Write

/-!
Records of a fixed layout: two binary32 fields at known positions, with no header. A kind of
record gives the names and the positions of its fields.
-/
namespace FixedLayout

inductive RecordKind where
  /-- A point of the plane, as magnitude and argument. -/
  | polarPoint
  /-- A uniform scale followed by a rotation. -/
  | transformation
  deriving DecidableEq, Repr

/-- The fields of a record, in the order of their declaration. -/
inductive Field where
  | first | second
  deriving DecidableEq, Repr

namespace RecordKind

def name : RecordKind → String
  | polarPoint => "PolarPoint"
  | transformation => "Transformation"

def fieldName : RecordKind → Field → String
  | polarPoint, .first => "mag"
  | polarPoint, .second => "arg"
  | transformation, .first => "scale"
  | transformation, .second => "angle"

def position : RecordKind → Field → Nat
  | polarPoint, .first => 0
  | polarPoint, .second => 4
  | transformation, .first => 0
  | transformation, .second => 4

def size : RecordKind → Nat
  | polarPoint => 8
  | transformation => 8

/-- The alignment that a record in a finished buffer has, counted from the end. -/
def alignment : RecordKind → Nat
  | polarPoint => 4
  | transformation => 4

end RecordKind

/-- The values of a record's fields. The default record holds zeros. -/
structure Record where
  first : Binary32 := 0
  second : Binary32 := 0
  deriving DecidableEq, Repr, Inhabited

namespace Record

def get (record : Record) : Field → Binary32
  | .first => record.first
  | .second => record.second

/-- Equality of numbers in both fields. -/
def equal (a b : Record) : Bool := a.first.equal b.first && a.second.equal b.second

end Record

/-- Appends a record and answers its place. The buffer grows downwards, so the second field is
written first; the space for both is reserved before that. -/
def RecordKind.create (kind : RecordKind) (first second : Binary32) : Build Offset := do
  Build.prep kind.alignment kind.size
  Build.put .float32 second
  Build.put .float32 first
  Build.observe Builder.offset

def Record.pack (kind : RecordKind) (record : Record) : Build Offset :=
  kind.create record.first record.second

end FixedLayout
