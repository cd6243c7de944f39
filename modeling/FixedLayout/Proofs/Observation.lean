import FixedLayout.Proofs.Run

/-!
What a caller sees of a run, and when two builders look the same. `watch` goes on until a fault; a
relation that every step keeps and that determines the view makes two runs indistinguishable.
-/
namespace FixedLayout

def Outcome.after? : Outcome α → Option Builder
  | .ok _ after | .refused _ after => some after
  | .fault _ => none

/-- The fault of a computation, or its answer with the view of the builder after it. -/
def Outcome.seen (view : Builder → σ) : Outcome α → Except Fault (Except BufferError α × σ)
  | .ok value after => .ok (.ok value, view after)
  | .refused error after => .ok (.error error, view after)
  | .fault cause => .error cause

/-- What is seen of steps taken one after the other, up to a fault. -/
def watch (view : Builder → σ) :
    List Step → Builder → List (Except Fault (Except BufferError Reply × σ))
  | [], _ => []
  | step :: rest, builder =>
    (step.perform builder).seen view :: match (step.perform builder).after? with
      | some after => watch view rest after
      | none => []

/-- Two computations end the same way, up to builders that are related. -/
inductive Outcome.Matches (R : Builder → Builder → Prop) : Outcome α → Outcome α → Prop where
  | ok {value : α} {a b : Builder} : R a b → Matches R (.ok value a) (.ok value b)
  | refused {error : BufferError} {a b : Builder} :
      R a b → Matches R (.refused error a) (.refused error b)
  | fault {cause : Fault} : Matches R (.fault cause) (.fault cause)

variable {R : Builder → Builder → Prop} {view : Builder → σ} {a b : Builder}

theorem Outcome.Matches.seen_eq {x y : Outcome α} (same : Matches R x y)
    (shows : ∀ {a b}, R a b → view a = view b) : x.seen view = y.seen view := by
  cases same with
  | ok related => rw [seen, seen, shows related]
  | refused related => rw [seen, seen, shows related]
  | fault => rfl

theorem Outcome.Matches.answered {answer : Except BufferError α}
    (same : Matches R (answered answer a) (answered answer b)) : R a b := by
  cases answer with
  | ok value =>
    cases same with
    | ok related => exact related
  | error error =>
    cases same with
    | refused related => exact related

/-- Two watched runs agree if their first steps match and the rest agrees from there. -/
theorem watch_cons_eq {step : Step} {rest : List Step}
    (same : (step.perform a).Matches R (step.perform b))
    (shows : ∀ {a b}, R a b → view a = view b)
    (agree : ∀ {a' b'}, (step.perform a).after? = some a' → (step.perform b).after? = some b' →
      R a' b' → watch view rest a' = watch view rest b') :
    watch view (step :: rest) a = watch view (step :: rest) b := by
  have head := same.seen_eq shows
  rw [watch, watch, head]
  congr 1
  generalize step.perform a = x, step.perform b = y at same agree
  cases same with
  | ok related => exact agree rfl rfl related
  | refused related => exact agree rfl rfl related
  | fault => rfl

/-- How a reservation ends depends on no more than the size written and the limit. -/
theorem Step.perform_matches {step : Step} {reservation : Reservation} (valid : a.WellFormed)
    (other_valid : b.WellFormed) (asks : step.reservation? a = some reservation)
    (other_asks : step.reservation? b = some reservation) (used : a.used = b.used)
    (limit : a.maxSize = b.maxSize)
    (raised : Word.IsAlignment reservation.alignment →
      R (a.raiseAlign reservation.alignment) (b.raiseAlign reservation.alignment))
    (granted : Word.IsAlignment reservation.alignment →
      reservation.requested a ≤ a.maxSize → R (reservation.grant a) (reservation.grant b))
    (tells : ∀ {a b}, R a b → step.reply a = step.reply b) :
    (step.perform a).Matches R (step.perform b) := by
  have requested : reservation.requested b = reservation.requested a :=
    Reservation.requested_eq used.symm
  rw [perform_reservation valid asks, perform_reservation other_valid other_asks]
  simp only [Reservation.outcome, requested, ← limit]
  by_cases power : Word.IsAlignment reservation.alignment
  · rw [if_pos power, if_pos power]
    by_cases overflows : Word.limit ≤ reservation.requested a
    · rw [if_pos overflows, if_pos overflows]
      exact .fault
    · rw [if_neg overflows, if_neg overflows]
      by_cases large : a.maxSize < reservation.requested a
      · rw [if_pos large, if_pos large]
        exact .refused (raised power)
      · have related := granted power (Nat.not_lt.mp large)
        rw [if_neg large, if_neg large, tells related]
        exact .ok related
  · rw [if_neg power, if_neg power]
    exact .fault

theorem Step.put_matches {type : ScalarType} (value : type.Value)
    (rooms : type.size ≤ a.free ↔ type.size ≤ b.free)
    (written : (type.encode value).length ≤ a.free → (type.encode value).length ≤ b.free →
      R (a.extend (type.encode value)) (b.extend (type.encode value))) :
    ((Step.put type value).perform a).Matches R ((Step.put type value).perform b) := by
  rw [type.length_encode] at written
  rw [perform_put, perform_put]
  by_cases room : type.size ≤ a.free
  · have other_room := rooms.mp room
    rw [if_pos room, if_pos other_room]
    exact .ok (written room other_room)
  · rw [if_neg room, if_neg (fun other_room => room (rooms.mpr other_room))]
    exact .fault

end FixedLayout
