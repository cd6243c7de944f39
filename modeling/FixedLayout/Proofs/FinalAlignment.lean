import FixedLayout.Proofs.Handles

/-!
Alignment from the front. While a buffer is filled, alignment is known from its end only; finishing
pads to the largest alignment asked for, which all others divide, and so aligns everything at once.
-/
namespace FixedLayout

variable {start builder before after : Builder} {history : List Event} {event : Event}
  {step : Step} {answer : Except BufferError Reply} {reservation : Reservation}

theorem Reservation.dvd_requested (builder : Builder)
    (power : Word.IsAlignment reservation.alignment) :
    reservation.alignment ∣ reservation.requested builder := by
  have divides : reservation.alignment ∣
      builder.used + reservation.length + reservation.padding builder :=
    Word.dvd_size_add_padding power
  have total : reservation.requested builder =
      builder.used + reservation.length + reservation.padding builder := by
    rw [requested, needed]
    omega
  rwa [total]

theorem Content.used_grant (content : Content) (builder : Builder) :
    (content.reservation.grant builder).used = content.reservation.requested builder := by
  rw [Reservation.used_grant, Reservation.requested, Reservation.needed]
  change _ + (content.bytes.length + _) = _ + (_ + content.size)
  rw [content.length_bytes]
  omega

/-- Content ends up at a multiple of its alignment, counted from the end. -/
theorem Content.dvd_used_grant (content : Content) (builder : Builder)
    (power : Word.IsAlignment content.alignment) :
    content.alignment ∣ (content.reservation.grant builder).used := by
  rw [content.used_grant]
  exact content.reservation.dvd_requested builder power

theorem Step.alignment?_of_content {content : Content} (stores : step.content? = some content) :
    step.alignment? = some content.alignment := by
  cases step with
  | push | create | pack =>
    cases stores
    rfl
  | prep | put | finish | reset => cases stores

theorem Step.alignment_of_reservation {alignment : Nat}
    (asks : step.reservation? builder = some reservation)
    (wants : step.alignment? = some alignment) : reservation.alignment = alignment := by
  cases step with
  | prep | push | create | pack =>
    cases asks
    cases wants
    rfl
  | put | finish | reset => cases wants

theorem handle_alignment_mem {handle : Handle} (member : handle ∈ handles history) :
    handle.content.alignment ∈ alignments history := by
  obtain ⟨event, taken, issued⟩ := List.mem_filterMap.mp member
  have stores := (Event.handle?_eq_some.mp issued).1
  exact List.mem_filterMap.mpr ⟨event, taken, Step.alignment?_of_content stores⟩

/-- A handle is aligned from the end as soon as it is given out. -/
theorem Step.Leads.handle_aligned {handle : Handle} (leads : step.Leads before answer after)
    (issued : Event.handle? ⟨step, answer⟩ = some handle) :
    handle.content.alignment ∣ handle.offset.fromEnd := by
  obtain ⟨offset, content⟩ := handle
  obtain ⟨stores, placed⟩ := Event.handle?_eq_some.mp issued
  dsimp only at stores placed
  cases leads with
  | granted asks power room =>
    have same := asks.symm.trans (Step.reservation?_of_content stores)
    cases same
    rw [Step.reply_of_content stores] at placed
    cases placed
    exact content.dvd_used_grant before power
  | refused asks power large => cases placed
  | written room => cases stores
  | reset => cases stores

theorem Run.handle_aligned (valid : start.WellFormed) (run : Run start history builder) :
    ∀ event ∈ history, ∀ handle, event.handle? = some handle →
      handle.content.alignment ∣ handle.offset.fromEnd := by
  induction run with
  | start =>
    intro event member
    cases member
  | next earlier performed ih =>
    intro event member handle issued
    rcases List.mem_cons.mp member with rfl | member
    · exact (Step.leads (earlier.wellFormed valid) performed).handle_aligned issued
    · exact ih event member handle issued

/-- The largest alignment so far is a multiple of each, old or new, whatever the answer. -/
theorem Step.Leads.dvd_minAlign {alignment : Nat} (valid : before.WellFormed)
    (leads : step.Leads before answer after) (kept : step ≠ .reset)
    (noted : step.alignment? = some alignment ∨ alignment ∣ before.minAlign) :
    alignment ∣ after.minAlign := by
  have raised {reservation : Reservation} (asks : step.reservation? before = some reservation)
      (power : Word.IsAlignment reservation.alignment) :
      alignment ∣ max before.minAlign reservation.alignment := by
    rcases noted with wants | divides
    · rw [← Step.alignment_of_reservation asks wants]
      exact valid.minAlign_valid.dvd_max_right power
    · exact divides.trans (valid.minAlign_valid.dvd_max_left power)
  cases leads with
  | granted asks power room =>
    rw [Reservation.minAlign_grant]
    exact raised asks power
  | refused asks power large => exact raised asks power
  | written room =>
    rcases noted with wants | divides
    · cases wants
    · exact divides
  | reset => exact absurd rfl kept

theorem Run.dvd_minAlign (valid : start.WellFormed) (run : Run start history builder) :
    ∀ alignment ∈ alignments history, alignment ∣ builder.minAlign := by
  induction run with
  | start =>
    intro alignment member
    cases member
  | @next history event before after earlier performed ih =>
    have valid_before := earlier.wellFormed valid
    have leads := Step.leads valid_before performed
    intro alignment member
    obtain ⟨other, taken, wants⟩ := List.mem_filterMap.mp member
    by_cases kept : event.step = .reset
    · rw [sinceReset_reset kept] at taken
      cases taken
    · rw [sinceReset_cons kept] at taken
      apply leads.dvd_minAlign valid_before kept
      rcases List.mem_cons.mp taken with rfl | taken
      · exact .inl wants
      · exact .inr (ih alignment (List.mem_filterMap.mpr ⟨other, taken, wants⟩))

/-- Finished data is a multiple of the largest alignment, with all earlier data at its end. -/
theorem Step.finish_answered {data : Bytes} (valid : before.WellFormed)
    (performed : Step.finish.perform before = .answered (.ok (.finished data)) after) :
    before.minAlign ∣ data.length ∧ before.finishedData <:+ data := by
  have leads := Step.leads valid performed
  have suffix := leads.suffix valid (by decide)
  have valid_after := leads.wellFormed valid
  cases leads with
  | granted asks power room =>
    cases asks
    have length : (before.closing.grant before).finishedData.length =
        before.closing.requested before := by
      rw [Builder.length_finishedData valid_after, Reservation.used_grant, Reservation.requested,
        Reservation.needed]
      change _ + (0 + _) = _ + (_ + 0)
      omega
    exact ⟨length ▸ Reservation.dvd_requested before power, suffix⟩

/-- What was given out is aligned from the end, and whatever finishing answers is aligned as a
whole, so that every handle since the last reset is aligned from the front. -/
theorem final_alignment (options : BuilderOptions)
    (run : Run (.ofOptions options) history builder) :
    (∀ event ∈ history, ∀ handle, event.handle? = some handle →
      handle.content.alignment ∣ handle.offset.fromEnd) ∧
    ∀ later data earlier, history = later ++ ⟨.finish, .ok (.finished data)⟩ :: earlier →
      (∀ alignment ∈ alignments earlier, alignment ∣ data.length) ∧
      ∀ handle ∈ handles earlier, ∃ position,
        handle.offset.positionIn data.length = .ok position ∧
        handle.content.alignment ∣ position := by
  have valid := Builder.WellFormed.ofOptions options
  refine ⟨run.handle_aligned valid, ?_⟩
  rintro later data earlier rfl
  obtain ⟨before, after, earlier_run, performed⟩ := run.split
  obtain ⟨whole, suffix⟩ := Step.finish_answered (earlier_run.wellFormed valid) performed
  have noted := earlier_run.dvd_minAlign valid
  constructor
  · intro alignment member
    exact (noted alignment member).trans whole
  · intro handle member
    have placed := ((earlier_run.ledger valid).placed handle member).grow suffix
    have front := (noted _ (handle_alignment_mem member)).trans whole
    obtain ⟨event, taken, issued⟩ := List.mem_filterMap.mp member
    have back := earlier_run.handle_aligned valid event ((List.takeWhile_sublist _).mem taken)
      handle issued
    exact ⟨_, placed.position, Nat.dvd_sub front back⟩

/-- The refused request for eight bytes counts as well. -/
theorem final_alignment_refused :
    let earlier : List Event := [⟨.prep 8 32, .error (.tooLarge 48 32)⟩, ⟨.put .uint8 9, .ok .done⟩,
      ⟨.create .polarPoint 0x3f800000 0x40000000, .ok (.placed ⟨12⟩)⟩,
      ⟨.push .uint8 7, .ok (.placed ⟨1⟩)⟩]
    let data : Bytes := [0, 0, 0, 9, 0, 0, 128, 63, 0, 0, 0, 64, 0, 0, 0, 7]
    Run (.ofOptions ⟨1, 32⟩) (⟨.finish, .ok (.finished data)⟩ :: earlier)
      ⟨data.reverse, 16, 16, 8, 32⟩ ∧
    alignments earlier = [8, 4, 1] ∧
    (∀ alignment ∈ alignments earlier, alignment ∣ data.length) ∧
    ∀ handle ∈ handles earlier, ∃ position,
      handle.offset.positionIn data.length = .ok position ∧
      handle.content.alignment ∣ position := by
  intro earlier data
  have pushed : Run (.ofOptions ⟨1, 32⟩) (earlier.drop 3) ⟨[7], 1, 1, 1, 32⟩ :=
    .next .start (by decide +kernel)
  have created : Run (.ofOptions ⟨1, 32⟩) (earlier.drop 2)
      ⟨[7, 0, 0, 0, 64, 0, 0, 0, 63, 128, 0, 0], 12, 16, 4, 32⟩ :=
    .next pushed (by decide +kernel)
  have written : Run (.ofOptions ⟨1, 32⟩) (earlier.drop 1)
      ⟨[7, 0, 0, 0, 64, 0, 0, 0, 63, 128, 0, 0, 9], 13, 16, 4, 32⟩ :=
    .next created (by decide +kernel)
  have refused : Run (.ofOptions ⟨1, 32⟩) earlier
      ⟨[7, 0, 0, 0, 64, 0, 0, 0, 63, 128, 0, 0, 9], 13, 16, 8, 32⟩ :=
    .next written (by decide +kernel)
  have run : Run (.ofOptions ⟨1, 32⟩) (⟨.finish, .ok (.finished data)⟩ :: earlier)
      ⟨data.reverse, 16, 16, 8, 32⟩ := .next refused (by decide +kernel)
  exact ⟨run, rfl, (final_alignment ⟨1, 32⟩ run).2 [] data earlier rfl⟩

end FixedLayout
