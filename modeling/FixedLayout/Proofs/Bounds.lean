import FixedLayout.Proofs.FinalAlignment

/-!
What holds of every builder that a run leads to. Its size stays within the limit, its alignment is
the largest one asked for, and along any run that goes on from it the buffer only grows and loses
nothing but by a reset.
-/
namespace FixedLayout

variable {start builder before after : Builder} {history : List Event} {event : Event}
  {step : Step} {answer : Except BufferError Reply}

theorem alignments_cons (kept : event.step ≠ .reset) :
    alignments (event :: history) = event.step.alignment?.toList ++ alignments history := by
  rw [alignments, sinceReset_cons kept, List.filterMap_cons]
  cases event.step.alignment? with
  | none => rfl
  | some alignment => rfl

/-- What every step keeps holds between the two ends of a run. -/
theorem Run.relates {R : Builder → Builder → Prop} (refl : ∀ a, R a a)
    (trans : ∀ {a b c}, R a b → R b c → R a c) (valid : start.WellFormed)
    (run : Run start history builder)
    (kept : ∀ event ∈ history, ∀ {before after}, before.WellFormed →
      event.step.Leads before event.answer after → R before after) : R start builder := by
  induction run with
  | start => exact refl start
  | next earlier performed ih =>
    obtain ⟨last, others⟩ := List.forall_mem_cons.mp kept
    have valid_before := earlier.wellFormed valid
    exact trans (ih others) (last valid_before (Step.leads valid_before performed))

theorem Reservation.capacity_le_grant (reservation : Reservation) (builder : Builder) :
    builder.capacity ≤ (reservation.grant builder).capacity := by
  change (builder.raiseAlign reservation.alignment).capacity ≤
    ((builder.raiseAlign reservation.alignment).growUntil (reservation.needed builder)).capacity
  exact Builder.capacity_le_growUntil

theorem Step.Leads.capacity_le (leads : step.Leads before answer after) :
    before.capacity ≤ after.capacity := by
  cases leads with
  | granted => exact Reservation.capacity_le_grant ..
  | refused | written | reset => exact Nat.le_refl _

theorem Step.Leads.maxSize_eq (leads : step.Leads before answer after) :
    before.maxSize = after.maxSize := by
  cases leads with
  | granted => rw [Reservation.maxSize_grant]
  | refused | written | reset => rfl

/-- A step notes the alignment it asks for, if any. What finishing asks for is noted already. -/
theorem Step.max_minAlign_eq {reservation : Reservation}
    (asks : step.reservation? before = some reservation) :
    max before.minAlign reservation.alignment =
      step.alignment?.toList.foldr max before.minAlign := by
  cases step with
  | prep | push | create | pack =>
    cases asks
    exact Nat.max_comm ..
  | finish =>
    cases asks
    exact Nat.max_self _
  | put | reset => cases asks

theorem Step.Leads.minAlign_eq (leads : step.Leads before answer after) (kept : step ≠ .reset) :
    after.minAlign = step.alignment?.toList.foldr max before.minAlign := by
  cases leads with
  | granted asks => rw [Reservation.minAlign_grant, Step.max_minAlign_eq asks]
  | refused asks => exact Step.max_minAlign_eq asks
  | written => rfl
  | reset => exact absurd rfl kept

theorem Step.Leads.minAlign_reset (leads : Step.reset.Leads before answer after) :
    after.minAlign = 1 := by
  cases leads with
  | granted asks => cases asks
  | refused asks => cases asks
  | reset => rfl

theorem Run.minAlign_eq (options : BuilderOptions) (run : Run (.ofOptions options) history builder) :
    builder.minAlign = (alignments history).foldr max 1 := by
  induction run with
  | start => rfl
  | @next history event before after earlier performed ih =>
    have leads := Step.leads (earlier.wellFormed (.ofOptions options)) performed
    -- A reset forgets the alignments and the history up to it alike.
    by_cases kept : event.step = .reset
    · rw [alignments, sinceReset_reset kept]
      rw [kept] at leads
      exact leads.minAlign_reset
    · rw [leads.minAlign_eq kept, alignments_cons kept, List.foldr_append, ih]

/-- In a builder within its limits the alignment is the largest one that was asked for since the
last reset, granted or not. Whatever steps follow, the buffer does not shrink, and up to a reset it
keeps all that was written. -/
theorem reachable_bounds (options : BuilderOptions)
    (run : Run (.ofOptions options) history builder) :
    builder.offset.fromEnd ≤ builder.capacity ∧ builder.capacity ≤ options.maxSize.toNat ∧
    builder.minAlign = (alignments history).foldr max 1 ∧ Word.IsAlignment builder.minAlign ∧
    ∀ later after, Run builder later after →
      builder.capacity ≤ after.capacity ∧
      ((∀ event ∈ later, event.step ≠ .reset) →
        builder.finishedData <:+ after.finishedData) := by
  have valid := run.wellFormed (.ofOptions options)
  have limit : options.maxSize.toNat = builder.maxSize :=
    run.relates (R := fun a b => a.maxSize = b.maxSize) (fun _ => rfl) Eq.trans
      (.ofOptions options) fun _ _ _ _ _ leads => leads.maxSize_eq
  refine ⟨valid.used_le_capacity, limit ▸ valid.capacity_le_maxSize, run.minAlign_eq options,
    valid.minAlign_valid, ?_⟩
  intro later after further
  constructor
  · exact further.relates (R := fun a b => a.capacity ≤ b.capacity) (fun _ => Nat.le_refl _)
      Nat.le_trans valid fun _ _ _ _ _ leads => leads.capacity_le
  · intro kept
    exact further.relates (R := fun a b => a.finishedData <:+ b.finishedData)
      (fun _ => List.suffix_refl _) List.IsSuffix.trans valid
      fun event member _ _ valid leads => leads.suffix valid (kept event member)

/-- The alignment of a refused reservation counts, and a record that follows makes the buffer
grow. -/
theorem reachable_bounds_refused :
    let history : List Event := [⟨.prep 16 20, .error (.tooLarge 32 18)⟩,
      ⟨.push .uint16 0xbbaa, .ok (.placed ⟨2⟩)⟩]
    let builder : Builder := ⟨[187, 170], 2, 2, 16, 18⟩
    let later : List Event := [⟨.create .polarPoint 0x3f800000 0x40000000, .ok (.placed ⟨12⟩)⟩]
    let after : Builder := ⟨[187, 170, 0, 0, 64, 0, 0, 0, 63, 128, 0, 0], 12, 16, 16, 18⟩
    Run (.ofOptions ⟨1, 18⟩) history builder ∧ alignments history = [16, 2] ∧
    Run builder later after ∧
    builder.offset.fromEnd ≤ builder.capacity ∧ builder.capacity ≤ 18 ∧
    builder.minAlign = (alignments history).foldr max 1 ∧ Word.IsAlignment builder.minAlign ∧
    builder.capacity ≤ after.capacity ∧ builder.finishedData <:+ after.finishedData := by
  intro history builder later after
  have pushed : Run (.ofOptions ⟨1, 18⟩) (history.drop 1) ⟨[187, 170], 2, 2, 2, 18⟩ :=
    .next .start (by decide +kernel)
  have run : Run (.ofOptions ⟨1, 18⟩) history builder := .next pushed (by decide +kernel)
  have further : Run builder later after := .next .start (by decide +kernel)
  obtain ⟨used, size, alignment, valid, onwards⟩ := reachable_bounds ⟨1, 18⟩ run
  obtain ⟨capacity, kept⟩ := onwards later after further
  exact ⟨run, rfl, further, used, size, alignment, valid, capacity, kept (by simp [later])⟩

end FixedLayout
