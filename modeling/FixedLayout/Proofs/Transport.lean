import FixedLayout.Builder.Memory
import FixedLayout.Proofs.Handles
import FixedLayout.Proofs.Vectors

/-!
Records sent as text. Whatever a builder holds can be printed and parsed back, and each record in it
is then found at its old position.
-/
namespace FixedLayout

theorem RecordKind.size_pos (kind : RecordKind) : 0 < kind.size := by
  cases kind with
  | polarPoint => decide
  | transformation => decide

namespace Handle.Placed

variable {offset : Offset} {kind : RecordKind} {fields : Record} {data : Bytes}

theorem fromEnd_pos (placed : Placed ⟨offset, .record kind fields⟩ data) : 0 < offset.fromEnd := by
  obtain ⟨below, -, length⟩ := placed
  rw [← length, List.length_append, Content.length_bytes]
  exact Nat.add_pos_left kind.size_pos _

/-- A record that was placed lies inside the data as a whole, and a view of it shows its fields. -/
theorem tryInit (placed : Placed ⟨offset, .record kind fields⟩ data)
    (small : data.length < Word.limit) :
    ∃ view, View.tryInit kind data (data.length - offset.fromEnd) = .ok view ∧
      ∀ field, view.get field = .ok (fields.get field) := by
  obtain ⟨front, below, split, start⟩ := placed.split
  have size : (Content.record kind fields).bytes.length = kind.size := Content.length_bytes _
  have inside : front.length + kind.size ≤ data.length := by
    rw [split, List.length_append, List.length_append, size]
    exact Nat.le_add_right ..
  dsimp only at start
  refine ⟨⟨kind, data, front.length⟩, ?_, View.get_append split small⟩
  rw [← start, View.tryInit_eq, if_pos ⟨inside, Nat.lt_of_le_of_lt inside small⟩]

end Handle.Placed

variable {builder : Builder} {history : List Event}

/-- A record given out since the last reset is found in what arrives, where its offset says, and
giving up the builder sends the same bytes. -/
theorem records_survive_transport (options : BuilderOptions)
    (run : Run (.ofOptions options) history builder) {offset : Offset} {kind : RecordKind}
    {fields : Record} (given : ⟨offset, .record kind fields⟩ ∈ handles history)
    (mode : Base64.Mode) (printing : Base64.PrintOptions) :
    builder.release = builder.finishedData ∧
    ∃ text position view,
      Base64.printVector mode builder.finishedData printing = some ("\"" ++ text ++ "\"") ∧
      Base64.parseVector mode text = .ok builder.finishedData ∧
      builder.positionOf offset = .ok position ∧
      View.tryInit kind builder.finishedData position = .ok view ∧
      ∀ field, view.get field = .ok (fields.get field) := by
  have valid := run.wellFormed (.ofOptions options)
  have placed := (run.ledger (.ofOptions options)).placed _ given
  have length := Builder.length_finishedData valid
  refine ⟨valid.release_eq, ?_⟩
  have small : builder.finishedData.length < Word.limit := by
    rw [length]
    exact valid.used_lt_limit
  have filled : builder.finishedData ≠ [] :=
    List.ne_nil_of_length_pos (Nat.lt_of_lt_of_le placed.fromEnd_pos placed.offset_le)
  obtain ⟨text, printed, parsed⟩ := Base64.exists_printVector mode filled printing
  obtain ⟨view, bound, shown⟩ := placed.tryInit small
  refine ⟨text, _, view, printed, parsed, ?_, bound, shown⟩
  rw [Builder.positionOf, ← length]
  exact placed.position

/-- A record whose first field is not a number, in thirteen bytes sent without padding. -/
theorem records_survive_transport_grown :
    let fields : Record := ⟨0x7fc00001, 0x80000000⟩
    let history : List Event := [⟨.put .uint8 9, .ok .done⟩,
      ⟨.pack .transformation fields, .ok (.placed ⟨12⟩)⟩,
      ⟨.push .uint16 0xbbaa, .ok (.placed ⟨2⟩)⟩]
    let builder : Builder :=
      ⟨[187, 170, 0, 0, 128, 0, 0, 0, 127, 192, 0, 1, 9], 13, 16, 4, 18⟩
    Run (.ofOptions ⟨1, 18⟩) history builder ∧
    ⟨⟨12⟩, .record .transformation fields⟩ ∈ handles history ∧
    builder.release = builder.finishedData ∧
    ∃ text position view,
      Base64.printVector .urlSafe builder.finishedData ⟨true⟩ = some ("\"" ++ text ++ "\"") ∧
      Base64.parseVector .urlSafe text = .ok builder.finishedData ∧
      builder.positionOf ⟨12⟩ = .ok position ∧
      View.tryInit .transformation builder.finishedData position = .ok view ∧
      ∀ field, view.get field = .ok (fields.get field) := by
  intro fields history builder
  have pushed : Run (.ofOptions ⟨1, 18⟩) (history.drop 2) ⟨[187, 170], 2, 2, 2, 18⟩ :=
    .next .start (by decide +kernel)
  have packed : Run (.ofOptions ⟨1, 18⟩) (history.drop 1)
      ⟨[187, 170, 0, 0, 128, 0, 0, 0, 127, 192, 0, 1], 12, 16, 4, 18⟩ :=
    .next pushed (by decide +kernel)
  have run : Run (.ofOptions ⟨1, 18⟩) history builder := .next packed (by decide +kernel)
  have given : ⟨⟨12⟩, .record .transformation fields⟩ ∈ handles history := .head _
  exact ⟨run, given, records_survive_transport ⟨1, 18⟩ run given .urlSafe ⟨true⟩⟩

end FixedLayout
