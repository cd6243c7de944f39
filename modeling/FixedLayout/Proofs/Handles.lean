import FixedLayout.Access.Lemmas
import FixedLayout.Proofs.Run

/-!
Handles outlive growth. A buffer only ever gains bytes at its front, so that what a handle names
keeps its distance from the end, and with it its bytes.
-/
namespace FixedLayout

namespace Handle

/-- A reader finds the bits that were stored: a scalar at its position, a record through the view
that follows its offset. -/
def ReadsBack (handle : Handle) (data : Bytes) (position : Nat) : Prop :=
  match handle.content with
  | .scalar type value => type.readAt data position = .ok value
  | .record kind fields => ∃ view, View.follow kind data handle.offset = .ok view ∧
      ∀ field, view.get field = .ok (fields.get field)

/-- In data of the given length, two handles name separate ranges of bytes. -/
def Apart (length : Nat) (a b : Handle) : Prop :=
  ∀ p q, a.offset.positionIn length = .ok p → b.offset.positionIn length = .ok q →
    p + a.content.size ≤ q ∨ q + b.content.size ≤ p

/-- The bytes of a handle begin at its distance from the end. -/
def Placed (handle : Handle) (data : Bytes) : Prop :=
  ∃ below, handle.content.bytes ++ below <:+ data ∧
    (handle.content.bytes ++ below).length = handle.offset.fromEnd

variable {handle : Handle} {data longer : Bytes}

theorem Placed.grow (placed : handle.Placed data) (suffix : data <:+ longer) :
    handle.Placed longer := by
  obtain ⟨below, inside, length⟩ := placed
  exact ⟨below, inside.trans suffix, length⟩

theorem Placed.offset_le (placed : handle.Placed data) :
    handle.offset.fromEnd ≤ data.length := by
  obtain ⟨below, inside, length⟩ := placed
  rw [← length]
  exact inside.length_le

theorem Placed.position (placed : handle.Placed data) :
    handle.offset.positionIn data.length = .ok (data.length - handle.offset.fromEnd) := by
  rw [Offset.positionIn, Word.sub?_eq_some_iff.mpr ⟨placed.offset_le, rfl⟩]
  rfl

/-- The data around a handle. -/
theorem Placed.split (placed : handle.Placed data) : ∃ front below,
    data = front ++ handle.content.bytes ++ below ∧
      front.length = data.length - handle.offset.fromEnd := by
  obtain ⟨below, ⟨front, rfl⟩, length⟩ := placed
  refine ⟨front, below, (List.append_assoc ..).symm, ?_⟩
  rw [← length, List.length_append, Nat.add_sub_cancel]

theorem Placed.readsBack (placed : handle.Placed data) (small : data.length < Word.limit) :
    handle.ReadsBack data (data.length - handle.offset.fromEnd) := by
  have position := placed.position
  obtain ⟨front, below, split, start⟩ := placed.split
  cases handle with
  | mk offset content =>
    cases content with
    | scalar type value =>
      change type.readAt data _ = _
      rw [← start, split]
      exact type.readAt_append value (split ▸ small)
    | record kind fields =>
      refine ⟨⟨kind, data, front.length⟩, ?_, ?_⟩
      · rw [View.follow, position, start]
        rfl
      · exact View.get_append split small

theorem Placed.apart {a b : Handle} (placed : a.Placed data) (other : b.Placed data)
    (above : b.offset.fromEnd + a.content.size ≤ a.offset.fromEnd) : Apart data.length a b := by
  intro p q start finish
  have within := placed.offset_le
  rw [placed.position] at start
  rw [other.position] at finish
  cases start
  cases finish
  left
  omega

end Handle

/-- The handles of a run, newest first, all hold, and each lies in front of those before it. -/
structure Ledger (handles : List Handle) (data : Bytes) : Prop where
  placed : ∀ handle ∈ handles, handle.Placed data
  stacked : handles.Pairwise fun later earlier =>
    earlier.offset.fromEnd + later.content.size ≤ later.offset.fromEnd

namespace Ledger

variable {handles : List Handle} {data longer : Bytes}

theorem nil : Ledger [] data := ⟨by simp, .nil⟩

theorem grow (ledger : Ledger handles data) (suffix : data <:+ longer) : Ledger handles longer :=
  ⟨fun handle member => (ledger.placed handle member).grow suffix, ledger.stacked⟩

/-- Content that was just written gets a handle. -/
theorem cons (ledger : Ledger handles data) {content : Content} {gap : Bytes} {offset : Offset}
    (written : longer = content.bytes ++ gap ++ data) (named : offset.fromEnd = longer.length) :
    Ledger (⟨offset, content⟩ :: handles) longer := by
  have suffix : data <:+ longer := ⟨_, written.symm⟩
  constructor
  · intro handle member
    rcases List.mem_cons.mp member with rfl | member
    · refine ⟨gap ++ data, ⟨[], ?_⟩, ?_⟩
      · rw [written, List.append_assoc, List.nil_append]
      · rw [named, written, List.append_assoc]
    · exact (ledger.placed handle member).grow suffix
  · refine .cons ?_ ledger.stacked
    intro earlier member
    have within := (ledger.placed earlier member).offset_le
    have length := congrArg List.length written
    simp only [List.length_append, content.length_bytes] at length
    simp only
    omega

end Ledger

variable {start builder before after : Builder} {history : List Event} {event : Event}
  {step : Step} {answer : Except BufferError Reply}

theorem Step.Leads.ledger (valid : before.WellFormed) (leads : step.Leads before answer after)
    (ledger : Ledger (handles history) before.finishedData) :
    Ledger (handles (⟨step, answer⟩ :: history)) after.finishedData := by
  by_cases kept : step = .reset
  · rw [handles, sinceReset_reset kept]
    exact .nil
  · have suffix := leads.suffix valid kept
    rw [handles_cons kept]
    cases issued : Event.handle? ⟨step, answer⟩ with
    | none => exact ledger.grow suffix
    | some handle =>
      obtain ⟨offset, content⟩ := handle
      obtain ⟨stores, placed⟩ := Event.handle?_eq_some.mp issued
      dsimp only at stores placed
      cases leads with
      | granted asks power room =>
        have same := asks.symm.trans (Step.reservation?_of_content stores)
        cases same
        have valid_after := Reservation.wellFormed_grant valid power room
        rw [Step.reply_of_content stores] at placed
        cases placed
        exact ledger.cons (Reservation.finishedData_grant valid power)
          (Builder.length_finishedData valid_after).symm
      | refused asks power large => cases placed
      | written room => cases stores
      | reset => cases stores

theorem Run.ledger (valid : start.WellFormed) (run : Run start history builder) :
    Ledger (handles history) builder.finishedData := by
  induction run with
  | start => exact .nil
  | next earlier performed ih =>
    have valid_before := earlier.wellFormed valid
    exact (Step.leads valid_before performed).ledger valid_before ih

/-- Whatever steps follow, up to the next reset: each handle has a position, the same in the
builder and in its finished data, its content is read back there, and no two handles share
bytes. -/
theorem handles_stable (options : BuilderOptions)
    (run : Run (.ofOptions options) history builder) :
    (∀ handle ∈ handles history, ∃ position,
      builder.positionOf handle.offset = .ok position ∧
      handle.offset.positionIn builder.finishedData.length = .ok position ∧
      handle.ReadsBack builder.finishedData position) ∧
    (handles history).Pairwise (Handle.Apart builder.finishedData.length) := by
  have valid := run.wellFormed (.ofOptions options)
  have ledger := run.ledger (.ofOptions options)
  have length := Builder.length_finishedData valid
  have small : builder.finishedData.length < Word.limit := by
    have := valid.used_le_cells
    have := valid.cells_le_capacity
    have := valid.capacity_le_maxSize
    have := valid.maxSize_lt_limit
    omega
  constructor
  · intro handle member
    have placed := ledger.placed handle member
    refine ⟨_, ?_, placed.position, placed.readsBack small⟩
    rw [Builder.positionOf, ← length]
    exact placed.position
  · apply ledger.stacked.imp_of_mem
    intro later earlier later_member earlier_member above
    exact (ledger.placed later later_member).apart (ledger.placed earlier earlier_member) above

/-- A scalar and a record stay in place while the buffer grows from one byte to sixteen. -/
theorem handles_stable_grown :
    let history : List Event := [⟨.put .uint8 9, .ok .done⟩,
      ⟨.pack .transformation ⟨1, 2⟩, .error (.tooLarge 20 18)⟩,
      ⟨.create .polarPoint 0x3f800000 0x40000000, .ok (.placed ⟨12⟩)⟩,
      ⟨.push .uint16 0xbbaa, .ok (.placed ⟨2⟩)⟩]
    let builder : Builder :=
      ⟨[187, 170, 0, 0, 64, 0, 0, 0, 63, 128, 0, 0, 9], 13, 16, 4, 18⟩
    Run (.ofOptions ⟨1, 18⟩) history builder ∧
    handles history = [⟨⟨12⟩, .record .polarPoint ⟨0x3f800000, 0x40000000⟩⟩,
      ⟨⟨2⟩, .scalar .uint16 0xbbaa⟩] ∧
    (∀ handle ∈ handles history, ∃ position,
      builder.positionOf handle.offset = .ok position ∧
      handle.offset.positionIn builder.finishedData.length = .ok position ∧
      handle.ReadsBack builder.finishedData position) ∧
    (handles history).Pairwise (Handle.Apart builder.finishedData.length) := by
  intro history builder
  have pushed : Run (.ofOptions ⟨1, 18⟩) (history.drop 3) ⟨[187, 170], 2, 2, 2, 18⟩ :=
    .next .start (by decide +kernel)
  have created : Run (.ofOptions ⟨1, 18⟩) (history.drop 2)
      ⟨[187, 170, 0, 0, 64, 0, 0, 0, 63, 128, 0, 0], 12, 16, 4, 18⟩ :=
    .next pushed (by decide +kernel)
  have refused : Run (.ofOptions ⟨1, 18⟩) (history.drop 1)
      ⟨[187, 170, 0, 0, 64, 0, 0, 0, 63, 128, 0, 0], 12, 16, 4, 18⟩ :=
    .next created (by decide +kernel)
  have run : Run (.ofOptions ⟨1, 18⟩) history builder := .next refused (by decide +kernel)
  exact ⟨run, rfl, handles_stable ⟨1, 18⟩ run⟩

end FixedLayout
