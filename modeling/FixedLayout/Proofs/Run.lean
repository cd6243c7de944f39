import FixedLayout.Proofs.Outcome

/-!
Runs of a builder. A history lists the steps of a run with their answers, the newest first; what a
caller can hold on to (places, alignments) is read off the part of it that follows the last reset.
-/
namespace FixedLayout

/-- A step that was taken, with its answer. -/
structure Event where
  step : Step
  answer : Except BufferError Reply

/-- A run without a fault, over any steps, refused ones included. -/
inductive Run (start : Builder) : List Event → Builder → Prop where
  | start : Run start [] start
  | next {history : List Event} {event : Event} {before after : Builder} :
      Run start history before → event.step.perform before = .answered event.answer after →
      Run start (event :: history) after

def Reachable (builder : Builder) : Prop :=
  ∃ options history, Run (.ofOptions options) history builder

/-- A place together with what was stored there. -/
structure Handle where
  offset : Offset
  content : Content

/-- The handle that a successful push, create or pack gives out. -/
def Event.handle? (event : Event) : Option Handle :=
  match event.step.content?, event.answer with
  | some content, .ok (.placed offset) => some ⟨offset, content⟩
  | _, _ => none

/-- The alignment that a step asks for by itself; finishing repeats the largest one so far. -/
def Step.alignment? : Step → Option Nat
  | .prep alignment _ => some alignment
  | .push type _ => some type.size
  | .create kind .. | .pack kind _ => some kind.alignment
  | .put .. | .finish | .reset => none

/-- The events after the last reset, newest first. -/
def sinceReset (history : List Event) : List Event := history.takeWhile (·.step ≠ .reset)

/-- The handles given out since the last reset, newest first. -/
def handles (history : List Event) : List Handle := (sinceReset history).filterMap Event.handle?

/-- The alignments asked for since the last reset, those of refused steps included. -/
def alignments (history : List Event) : List Nat :=
  (sinceReset history).filterMap (·.step.alignment?)

variable {start builder after : Builder} {history : List Event} {event : Event} {step : Step}
  {answer : Except BufferError Reply}

theorem sinceReset_reset (cleared : event.step = .reset) : sinceReset (event :: history) = [] := by
  simp [sinceReset, cleared]

theorem sinceReset_cons (kept : event.step ≠ .reset) :
    sinceReset (event :: history) = event :: sinceReset history := by
  simp [sinceReset, kept]

theorem Event.handle?_eq_some {handle : Handle} : event.handle? = some handle ↔
    event.step.content? = some handle.content ∧ event.answer = .ok (.placed handle.offset) := by
  obtain ⟨step, answer⟩ := event
  obtain ⟨offset, content⟩ := handle
  unfold handle?
  constructor
  · intro issued
    split at issued
    · rename_i stores placed
      cases issued
      exact ⟨stores, placed⟩
    · cases issued
  · rintro ⟨stores, placed⟩
    rw [stores, placed]

theorem handles_cons (kept : event.step ≠ .reset) :
    handles (event :: history) = event.handle?.toList ++ handles history := by
  rw [handles, sinceReset_cons kept, List.filterMap_cons]
  cases event.handle? with
  | none => rfl
  | some handle => rfl

theorem Step.Leads.wellFormed (valid : builder.WellFormed)
    (leads : step.Leads builder answer after) : after.WellFormed := by
  cases leads with
  | granted asks power room => exact Reservation.wellFormed_grant valid power room
  | refused asks power large => exact valid.raiseAlign power
  | written room =>
    apply valid.extend
    rwa [ScalarType.length_encode]
  | reset => exact valid.reset

theorem Run.wellFormed (valid : start.WellFormed) (run : Run start history builder) :
    builder.WellFormed := by
  induction run with
  | start => exact valid
  | next _ performed ih => exact (Step.leads ih performed).wellFormed ih

/-- Any event of a run was a step of it. -/
theorem Run.split {later earlier : List Event}
    (run : Run start (later ++ event :: earlier) builder) :
    ∃ before after, Run start earlier before ∧
      event.step.perform before = .answered event.answer after := by
  induction later generalizing builder with
  | nil =>
    cases run with
    | next earlier performed => exact ⟨_, _, earlier, performed⟩
  | cons last later ih =>
    cases run with
    | next run _ => exact ih run

theorem Reachable.wellFormed (reached : Reachable builder) : builder.WellFormed := by
  obtain ⟨options, history, run⟩ := reached
  exact run.wellFormed (.ofOptions options)

/-- Nothing that was written is changed or lost before a reset. -/
theorem Step.Leads.suffix (valid : builder.WellFormed) (leads : step.Leads builder answer after)
    (kept : step ≠ .reset) : builder.finishedData <:+ after.finishedData := by
  cases leads with
  | granted asks power room =>
    rw [Reservation.finishedData_grant valid power]
    exact List.suffix_append ..
  | refused asks power large => exact List.suffix_refl _
  | written room =>
    rw [Builder.finishedData_extend valid]
    exact List.suffix_append ..
  | reset => exact absurd rfl kept

end FixedLayout
