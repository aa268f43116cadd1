import Velum.Proxy.Relay

/-!
# Half-closed streams

Each loop conserves its bytes and closes its sink at the end of its source, or
when it is dropped.  A run loses nothing exactly when every loop that is
dropped is idle then, and its source sends nothing more.
-/

namespace Velum.Proxy

open Foundation

namespace Copy

structure Sound (finishes : Bool) (copy : Copy) : Prop where
  conserved : copy.sent = copy.written ++ copy.held ++ copy.waiting
  nonempty : copy.stage ≠ .writing []
  atEnd : copy.stage = .closing ∨ copy.stage = .done →
    copy.waiting = [] ∧ copy.ended = true
  closed : copy.closed = true ↔
    copy.stage = .done ∨ copy.isDropped = true ∧ finishes = true

variable {finishes : Bool} {copy after : Copy}

theorem sound_created : Sound finishes {} := by
  constructor
  · rfl
  · intro impossible
    cases impossible
  · rintro (impossible | impossible) <;> cases impossible
  · simp [isDropped]

theorem held_of_reading (reading : copy.stage = .reading) :
    copy.held = [] := by
  unfold held
  rw [reading]

theorem held_of_done (done : copy.stage = .done) : copy.held = [] := by
  unfold held
  rw [done]

theorem isDropped_of_done (done : copy.stage = .done) :
    copy.isDropped = false := by
  unfold isDropped
  rw [done]

theorem stage_ne_of_isDropped (gone : copy.isDropped = true) :
    copy.stage ≠ .done := by
  intro done
  rw [isDropped_of_done done] at gone
  cases gone

theorem Sound.send (sound : Sound finishes copy) {bytes : List UInt8}
    (made : copy.send bytes = some after) : Sound finishes after := by
  obtain ⟨unclosed, made⟩ := Option.ite_none_left_eq_some.mp made
  cases made
  constructor
  · change copy.sent ++ bytes = copy.written ++ copy.held ++
      (copy.waiting ++ bytes)
    rw [sound.conserved]
    simp
  · exact sound.nonempty
  · intro ending
    exact absurd (sound.atEnd ending).2 unclosed
  · exact sound.closed

theorem Sound.finishSource (sound : Sound finishes copy)
    (made : copy.finishSource = some after) : Sound finishes after := by
  obtain ⟨unclosed, made⟩ := Option.ite_none_left_eq_some.mp made
  cases made
  refine ⟨sound.conserved, sound.nonempty, ?_, sound.closed⟩
  intro ending
  exact ⟨(sound.atEnd ending).1, rfl⟩

/-- A sink is open while its loop goes on. -/
theorem Sound.not_closed (sound : Sound finishes copy)
    (open_ : copy.stage ≠ .done) (live : copy.isDropped = false) :
    ¬copy.closed = true := by
  intro closed
  rcases sound.closed.mp closed with done | gone
  · exact open_ done
  · rw [live] at gone
    cases gone.1

theorem Sound.read (sound : Sound finishes copy) {buffer count : Nat}
    (made : copy.read buffer count = some after) : Sound finishes after := by
  obtain ⟨⟨reading, positive, _, within⟩, made⟩ :=
    Option.ite_none_right_eq_some.mp made
  have unclosed := sound.not_closed (by simp [reading])
    (by simp [isDropped, reading])
  cases made
  constructor
  · change copy.sent = copy.written ++ copy.waiting.take count ++
      copy.waiting.drop count
    rw [List.append_assoc, List.take_append_drop, sound.conserved,
      held_of_reading reading, List.append_nil]
  · intro impossible
    injection impossible with none
    have short := congrArg List.length none
    rw [List.length_take, List.length_nil] at short
    omega
  · rintro (impossible | impossible) <;> cases impossible
  · simpa [isDropped] using unclosed

theorem Sound.write (sound : Sound finishes copy) {count : Nat}
    (made : copy.write count = some after) : Sound finishes after := by
  unfold Copy.write at made
  split at made
  · rename_i rest writing
    obtain ⟨⟨positive, within⟩, made⟩ := Option.ite_none_right_eq_some.mp made
    have unclosed := sound.not_closed (by simp [writing])
      (by simp [isDropped, writing])
    cases made
    have before : copy.held = rest := by
      unfold held
      rw [writing]
    have conserved := sound.conserved
    rw [before] at conserved
    by_cases last : count = rest.length
    · constructor
      · rw [if_pos last, last, List.take_length]
        rw [conserved]
        simp [held]
      · rw [if_pos last]
        simp
      · rw [if_pos last]
        simp
      · rw [if_pos last]
        simpa [isDropped] using unclosed
    · constructor
      · rw [if_neg last, conserved]
        simp only [held]
        rw [List.append_assoc copy.written (rest.take count),
          List.take_append_drop]
      · rw [if_neg last]
        intro impossible
        injection impossible with none
        have short := congrArg List.length none
        rw [List.length_drop, List.length_nil] at short
        omega
      · rw [if_neg last]
        simp
      · rw [if_neg last]
        simpa [isDropped] using unclosed
  · cases made

theorem Sound.readEnd (sound : Sound finishes copy) {awaits : Bool}
    (made : copy.readEnd awaits = some after) : Sound finishes after := by
  obtain ⟨⟨reading, empty, ended⟩, made⟩ :=
    Option.ite_none_right_eq_some.mp made
  have conserved := sound.conserved
  rw [held_of_reading reading] at conserved
  have unclosed := sound.not_closed (by simp [reading])
    (by simp [isDropped, reading])
  cases awaits with
  | true =>
      cases made
      refine ⟨conserved, by simp, fun _ => ⟨empty, ended⟩, ?_⟩
      simpa [isDropped] using unclosed
  | false =>
      cases made
      exact ⟨conserved, by simp, fun _ => ⟨empty, ended⟩, by simp⟩

theorem Sound.close (sound : Sound finishes copy)
    (made : copy.close = some after) : Sound finishes after := by
  obtain ⟨closing, made⟩ := Option.ite_none_right_eq_some.mp made
  cases made
  have conserved := sound.conserved
  unfold held at conserved
  rw [closing] at conserved
  exact ⟨conserved, by simp, fun _ => sound.atEnd (.inl closing), by simp⟩

theorem drop_of_done (done : copy.stage = .done) :
    copy.drop finishes = copy :=
  if_pos done

theorem drop_of_ne (running : copy.stage ≠ .done) :
    copy.drop finishes =
      { copy with stage := .dropped copy.held, closed := finishes } :=
  if_neg running

theorem Sound.drop (sound : Sound finishes copy) :
    Sound finishes (copy.drop finishes) := by
  by_cases done : copy.stage = .done
  · rw [drop_of_done done]
    exact sound
  · rw [drop_of_ne done]
    refine ⟨sound.conserved, by simp, by simp, ?_⟩
    simp [isDropped]

/-- A loop that has ended has written what its source has sent. -/
theorem Sound.written_of_done (sound : Sound finishes copy)
    (done : copy.stage = .done) : copy.written = copy.sent := by
  rw [sound.conserved, held_of_done done, (sound.atEnd (.inr done)).1,
    List.append_nil, List.append_nil]

theorem Sound.written_prefix (sound : Sound finishes copy) :
    copy.written <+: copy.sent := by
  rw [sound.conserved, List.append_assoc]
  exact List.prefix_append _ _

theorem Sound.written_eq_iff (sound : Sound finishes copy) :
    copy.written = copy.sent ↔ copy.held = [] ∧ copy.waiting = [] := by
  rw [sound.conserved, List.append_assoc, List.self_eq_append_right,
    List.append_eq_nil_iff]

/-! ## Idle loops -/

theorem idle_drop_iff :
    (copy.drop finishes).Idle finishes ↔ copy.Idle finishes := by
  by_cases done : copy.stage = .done
  · rw [drop_of_done done]
  · rw [drop_of_ne done]
    simp [Idle, held, done]

theorem isDropped_drop (running : copy.stage ≠ .done) :
    (copy.drop finishes).isDropped = true := by
  rw [drop_of_ne running]
  rfl

/-- What is sent to a loop that is gone is lost. -/
theorem idle_send_iff (idle : copy.isDropped = true → copy.Idle finishes)
    {bytes : List UInt8} (made : copy.send bytes = some after) :
    (after.isDropped = true → after.Idle finishes) ↔
      (copy.isDropped = true → bytes = []) := by
  obtain ⟨_, made⟩ := Option.ite_none_left_eq_some.mp made
  cases made
  apply forall_congr'
  intro gone
  have running := stage_ne_of_isDropped gone
  obtain ended | ⟨held, waiting, passed⟩ := idle gone
  · exact absurd ended running
  · constructor
    · rintro (ended | ⟨_, empty, _⟩)
      · exact absurd ended running
      · exact (List.append_eq_nil_iff.mp empty).2
    · rintro rfl
      exact .inr ⟨held, (List.append_nil _).trans waiting, passed⟩

theorem idle_finishSource_iff
    (idle : copy.isDropped = true → copy.Idle finishes)
    (made : copy.finishSource = some after) :
    (after.isDropped = true → after.Idle finishes) ↔
      (copy.isDropped = true → finishes = true) := by
  obtain ⟨_, made⟩ := Option.ite_none_left_eq_some.mp made
  cases made
  apply forall_congr'
  intro gone
  have running := stage_ne_of_isDropped gone
  obtain ended | ⟨held, waiting, _⟩ := idle gone
  · exact absurd ended running
  · constructor
    · rintro (ended | ⟨_, _, passed⟩)
      · exact absurd ended running
      · exact passed rfl
    · intro passed
      exact .inr ⟨held, waiting, fun _ => passed⟩

/-! ## Progress of a loop -/

/-- The steps that a loop still has to make for what it has got. -/
def work (copy : Copy) : Nat :=
  2 * copy.waiting.length +
    match copy.stage with
    | .reading => 3
    | .writing rest => rest.length + 3
    | .closing => 1
    | .done => 0
    | .dropped _ => 0

theorem work_read {buffer count : Nat}
    (made : copy.read buffer count = some after) :
    after.work < copy.work := by
  obtain ⟨⟨reading, positive, _, within⟩, made⟩ :=
    Option.ite_none_right_eq_some.mp made
  cases made
  simp only [work, reading, List.length_drop, List.length_take]
  omega

theorem work_write {count : Nat} (made : copy.write count = some after) :
    after.work < copy.work := by
  unfold Copy.write at made
  split at made
  · rename_i rest writing
    obtain ⟨⟨positive, within⟩, made⟩ := Option.ite_none_right_eq_some.mp made
    cases made
    by_cases last : count = rest.length
    · simp only [work, writing, if_pos last]
      omega
    · simp only [work, writing, if_neg last, List.length_drop]
      omega
  · cases made

theorem work_readEnd {awaits : Bool}
    (made : copy.readEnd awaits = some after) : after.work < copy.work := by
  obtain ⟨⟨reading, _, _⟩, made⟩ := Option.ite_none_right_eq_some.mp made
  cases awaits with
  | true =>
      cases made
      simp [work, reading]
  | false =>
      cases made
      simp [work, reading]

theorem work_close (made : copy.close = some after) :
    after.work < copy.work := by
  obtain ⟨closing, made⟩ := Option.ite_none_right_eq_some.mp made
  cases made
  simp [work, closing]

theorem work_drop : (copy.drop finishes).work ≤ copy.work := by
  unfold drop
  split
  · exact Nat.le_refl _
  · simp [work]

theorem work_drop_of_live (running : copy.stage ≠ .done)
    (live : copy.isDropped = false) :
    (copy.drop finishes).work < copy.work := by
  rw [drop_of_ne running]
  unfold work
  cases stage : copy.stage with
  | reading => simp
  | writing rest => simp
  | closing => simp
  | done => exact absurd stage running
  | dropped rest =>
      unfold isDropped at live
      rw [stage] at live
      cases live

end Copy

theorem Direction.other_ne (direction : Direction) :
    direction.other ≠ direction := by
  cases direction <;> simp [Direction.other]

theorem Direction.eq_other {direction other : Direction}
    (different : other ≠ direction) : other = direction.other := by
  cases direction <;> cases other
  · exact absurd rfl different
  · rfl
  · rfl
  · exact absurd rfl different

theorem Direction.other_other (direction : Direction) :
    direction.other.other = direction := by
  cases direction <;> rfl

namespace Relay

variable {shape : RelayShape} {relay after : Relay} {direction : Direction}
  {copy : Copy} {action : Copy → Option Copy}

theorem copy_setCopy_self : (relay.setCopy direction copy).copy direction =
    copy :=
  if_pos rfl

theorem copy_setCopy_of_ne {other : Direction} (different : other ≠ direction) :
    (relay.setCopy direction copy).copy other = relay.copy other :=
  if_neg different

theorem copy_setCopy_other :
    (relay.setCopy direction copy).copy direction.other =
      relay.copy direction.other :=
  copy_setCopy_of_ne (Direction.other_ne direction)

/-- What a step of a loop does. -/
theorem advance_eq_some
    (made : relay.advance shape direction action = some after) :
    ∃ copy, action (relay.copy direction) = some copy ∧
      after = (relay.setCopy direction copy).settle shape direction := by
  obtain ⟨copy, acted, rfl⟩ := Option.map_eq_some_iff.mp made
  exact ⟨copy, acted, rfl⟩

theorem yield_eq_some (made : relay.yield shape direction = some after) :
    (relay.aborted direction = true ∧ (relay.copy direction).stage ≠ .done ∧
      (relay.copy direction).isDropped = false) ∧
      after = relay.drop shape direction := by
  obtain ⟨able, made⟩ := Option.ite_none_right_eq_some.mp made
  cases made
  exact ⟨able, rfl⟩

theorem settle_of_ne (running : (relay.copy direction).stage ≠ .done) :
    relay.settle shape direction = relay :=
  if_neg running

/-! ## Steps of a loop -/

/-- What the steps of a loop have in common: it goes on from a stage in which
it is neither done nor gone, and is not gone afterwards. -/
structure Moves (action : Copy → Option Copy) : Prop where
  sound : ∀ {finishes copy after}, Copy.Sound finishes copy →
    action copy = some after → after.Sound finishes
  running : ∀ {copy after}, action copy = some after → copy.stage ≠ .done
  live : ∀ {copy after}, action copy = some after → copy.isDropped = false
  remains : ∀ {copy after}, action copy = some after → after.isDropped = false

theorem moves_read {buffer count : Nat} : Moves (Copy.read buffer count) where
  sound := fun sound made => sound.read made
  running := by
    intro copy after made
    obtain ⟨⟨reading, _⟩, _⟩ := Option.ite_none_right_eq_some.mp made
    simp [reading]
  live := by
    intro copy after made
    obtain ⟨⟨reading, _⟩, _⟩ := Option.ite_none_right_eq_some.mp made
    simp [Copy.isDropped, reading]
  remains := by
    intro copy after made
    obtain ⟨_, made⟩ := Option.ite_none_right_eq_some.mp made
    cases made
    rfl

theorem stages_of_write {count : Nat} {after : Copy}
    (made : copy.write count = some after) :
    (∃ rest, copy.stage = .writing rest) ∧
      (after.stage = .reading ∨ ∃ rest, after.stage = .writing rest) := by
  unfold Copy.write at made
  split at made
  · rename_i rest writing
    obtain ⟨_, made⟩ := Option.ite_none_right_eq_some.mp made
    cases made
    refine ⟨⟨rest, writing⟩, ?_⟩
    dsimp only
    split
    · exact .inl rfl
    · exact .inr ⟨_, rfl⟩
  · cases made

theorem moves_write {count : Nat} : Moves (Copy.write count) where
  sound := fun sound made => sound.write made
  running := by
    intro copy after made
    obtain ⟨⟨rest, writing⟩, _⟩ := stages_of_write made
    simp [writing]
  live := by
    intro copy after made
    obtain ⟨⟨rest, writing⟩, _⟩ := stages_of_write made
    simp [Copy.isDropped, writing]
  remains := by
    intro copy after made
    obtain ⟨_, reading | ⟨rest, writing⟩⟩ := stages_of_write made
    · simp [Copy.isDropped, reading]
    · simp [Copy.isDropped, writing]

theorem moves_readEnd {awaits : Bool} : Moves (Copy.readEnd awaits) where
  sound := fun sound made => sound.readEnd made
  running := by
    intro copy after made
    obtain ⟨⟨reading, _⟩, _⟩ := Option.ite_none_right_eq_some.mp made
    simp [reading]
  live := by
    intro copy after made
    obtain ⟨⟨reading, _⟩, _⟩ := Option.ite_none_right_eq_some.mp made
    simp [Copy.isDropped, reading]
  remains := by
    intro copy after made
    obtain ⟨_, made⟩ := Option.ite_none_right_eq_some.mp made
    cases made
    cases awaits
    · rfl
    · rfl

theorem moves_close : Moves Copy.close where
  sound := Copy.Sound.close
  running := by
    intro copy after made
    obtain ⟨closing, _⟩ := Option.ite_none_right_eq_some.mp made
    simp [closing]
  live := by
    intro copy after made
    obtain ⟨closing, _⟩ := Option.ite_none_right_eq_some.mp made
    simp [Copy.isDropped, closing]
  remains := by
    intro copy after made
    obtain ⟨_, made⟩ := Option.ite_none_right_eq_some.mp made
    cases made
    rfl

/-! ## Every run -/

/-- What holds in every run: a loop is aborted or gone only when the other one
has ended. -/
structure Sound (shape : RelayShape) (relay : Relay) : Prop where
  copies : ∀ direction,
    (relay.copy direction).Sound (shape.finishes direction)
  cause : ∀ direction,
    relay.aborted direction = true ∨
        (relay.copy direction).isDropped = true →
      (relay.copy direction.other).stage = .done

theorem sound_created : Sound shape {} := by
  constructor
  · intro direction
    exact Copy.sound_created
  · rintro direction (impossible | impossible) <;> cases impossible

theorem Sound.setCopy (sound : Sound shape relay)
    (copied : copy.Sound (shape.finishes direction))
    (gone : copy.isDropped = true →
      (relay.copy direction.other).stage = .done)
    (finished : (relay.copy direction).stage = .done → copy.stage = .done) :
    Sound shape (relay.setCopy direction copy) := by
  constructor
  · intro other
    by_cases same : other = direction
    · rw [same, copy_setCopy_self]
      exact copied
    · rw [copy_setCopy_of_ne same]
      exact sound.copies other
  · intro other cause
    by_cases same : other = direction
    · subst same
      rw [copy_setCopy_self] at cause
      rw [copy_setCopy_other]
      rcases cause with aborted | dropped
      · exact sound.cause other (.inl aborted)
      · exact gone dropped
    · rw [copy_setCopy_of_ne same] at cause
      have ended := sound.cause other cause
      have back : other.other = direction := by
        rw [Direction.eq_other same, Direction.other_other]
      rw [back] at ended ⊢
      rw [copy_setCopy_self]
      exact finished ended

theorem Sound.drop (sound : Sound shape relay)
    (ended : (relay.copy direction.other).stage = .done) :
    Sound shape (relay.drop shape direction) := by
  apply sound.setCopy (sound.copies direction).drop
  · intro _
    exact ended
  · intro done
    rw [Copy.drop_of_done done]
    exact done

theorem Sound.abort (sound : Sound shape relay)
    (ended : (relay.copy direction.other).stage = .done) :
    Sound shape (relay.abort direction) := by
  refine ⟨sound.copies, ?_⟩
  intro other cause
  by_cases same : other = direction
  · rw [same]
    exact ended
  · apply sound.cause other
    exact cause.imp_left fun aborted => (if_neg same).symm.trans aborted

theorem Sound.settle (sound : Sound shape relay) :
    Sound shape (relay.settle shape direction) := by
  unfold Relay.settle
  split
  · rename_i ended
    have back : (relay.copy direction.other.other).stage = .done := by
      rw [Direction.other_other]
      exact ended
    split
    · exact sound
    · exact sound.drop back
    · exact sound.abort back
  · exact sound

theorem Sound.advance (sound : Sound shape relay) (moves : Moves action)
    (made : relay.advance shape direction action = some after) :
    Sound shape after := by
  obtain ⟨copy, acted, rfl⟩ := advance_eq_some made
  apply Sound.settle
  apply sound.setCopy (moves.sound (sound.copies direction) acted)
  · intro gone
    rw [moves.remains acted] at gone
    cases gone
  · intro done
    exact absurd done (moves.running acted)

theorem sound_of_step {label : RelayLabel} (sound : Sound shape relay)
    (made : Step shape relay label after) : Sound shape after := by
  cases label with
  | sends direction bytes =>
      obtain ⟨copy, acted, rfl⟩ := Option.map_eq_some_iff.mp made
      have copied := (sound.copies direction).send acted
      obtain ⟨_, acted⟩ := Option.ite_none_left_eq_some.mp acted
      cases acted
      apply sound.setCopy copied
      · intro gone
        exact sound.cause direction (.inr gone)
      · exact id
  | ends direction =>
      obtain ⟨copy, acted, rfl⟩ := Option.map_eq_some_iff.mp made
      have copied := (sound.copies direction).finishSource acted
      obtain ⟨_, acted⟩ := Option.ite_none_left_eq_some.mp acted
      cases acted
      apply sound.setCopy copied
      · intro gone
        exact sound.cause direction (.inr gone)
      · exact id
  | reads direction count => exact sound.advance moves_read made
  | writes direction count => exact sound.advance moves_write made
  | readsEnd direction => exact sound.advance moves_readEnd made
  | closes direction => exact sound.advance moves_close made
  | yields direction =>
      obtain ⟨⟨aborted, _⟩, rfl⟩ := yield_eq_some made
      exact sound.drop (sound.cause direction (.inl aborted))

theorem sound_of_run {trace : List RelayLabel}
    (run : Run (Step shape) {} trace relay) : Sound shape relay := by
  apply run.invariant sound_created
  intro state label next sound step
  exact sound_of_step sound step

/-! ## Loops that are gone -/

/-- Whatever is gone was idle when it went, and nothing has come since. -/
def Intact (shape : RelayShape) (relay : Relay) : Prop :=
  ∀ direction, (relay.copy direction).isDropped = true →
    (relay.copy direction).Idle (shape.finishes direction)

theorem intact_created : Intact shape {} := by
  intro direction gone
  cases gone

theorem intact_setCopy_iff (intact : Intact shape relay) :
    Intact shape (relay.setCopy direction copy) ↔
      (copy.isDropped = true → copy.Idle (shape.finishes direction)) := by
  constructor
  · intro kept gone
    have idle := kept direction
    rw [copy_setCopy_self] at idle
    exact idle gone
  · intro idle other
    by_cases same : other = direction
    · subst same
      rw [copy_setCopy_self]
      exact idle
    · rw [copy_setCopy_of_ne same]
      exact intact other

theorem intact_drop_iff (intact : Intact shape relay) :
    Intact shape (relay.drop shape direction) ↔
      (relay.copy direction).Idle (shape.finishes direction) := by
  unfold Relay.drop
  rw [intact_setCopy_iff intact, Copy.idle_drop_iff]
  constructor
  · intro idle
    by_cases done : (relay.copy direction).stage = .done
    · exact .inl done
    · exact idle (Copy.isDropped_drop done)
  · intro idle _
    exact idle

theorem intact_settle_iff (intact : Intact shape relay) :
    Intact shape (relay.settle shape direction) ↔
      ((relay.copy direction).stage = .done →
        relay.MayEnd shape direction) := by
  unfold Relay.settle MayEnd
  split
  · rename_i ended
    split
    · rename_i spares
      simp [spares, intact]
    · rename_i drops
      rw [intact_drop_iff intact]
      simp [drops, ended]
    · rename_i aborts
      have same : Intact shape (relay.abort direction.other) := intact
      simp [aborts, same]
  · rename_i running
    simp [running, intact]

theorem intact_advance_iff (intact : Intact shape relay) (moves : Moves action)
    (acted : action (relay.copy direction) = some copy)
    (made : relay.advance shape direction action = some after) :
    Intact shape after ↔
      (copy.stage = .done → relay.MayEnd shape direction) := by
  obtain ⟨found, same, rfl⟩ := advance_eq_some made
  rw [acted] at same
  cases same
  have placed : Intact shape (relay.setCopy direction copy) := by
    rw [intact_setCopy_iff intact]
    intro gone
    rw [moves.remains acted] at gone
    cases gone
  rw [intact_settle_iff placed, copy_setCopy_self]
  unfold MayEnd
  rw [copy_setCopy_other]

/-- A step loses nothing exactly when it meets the condition. -/
theorem tame_iff_intact {label : RelayLabel} (intact : Intact shape relay)
    (made : Step shape relay label after) :
    relay.Tame shape label ↔ Intact shape after := by
  cases label with
  | sends direction bytes =>
      obtain ⟨copy, acted, rfl⟩ := Option.map_eq_some_iff.mp made
      rw [intact_setCopy_iff intact]
      exact (Copy.idle_send_iff (intact direction) acted).symm
  | ends direction =>
      obtain ⟨copy, acted, rfl⟩ := Option.map_eq_some_iff.mp made
      rw [intact_setCopy_iff intact]
      exact (Copy.idle_finishSource_iff (intact direction) acted).symm
  | reads direction count =>
      obtain ⟨copy, acted, _⟩ := advance_eq_some made
      rw [intact_advance_iff intact moves_read acted made]
      obtain ⟨_, acted⟩ := Option.ite_none_right_eq_some.mp acted
      cases acted
      simp [Tame]
  | writes direction count =>
      obtain ⟨copy, acted, _⟩ := advance_eq_some made
      rw [intact_advance_iff intact moves_write acted made]
      obtain ⟨_, reading | ⟨rest, writing⟩⟩ := stages_of_write acted
      · simp [Tame, reading]
      · simp [Tame, writing]
  | readsEnd direction =>
      obtain ⟨copy, acted, _⟩ := advance_eq_some made
      rw [intact_advance_iff intact moves_readEnd acted made]
      obtain ⟨_, acted⟩ := Option.ite_none_right_eq_some.mp acted
      cases acted
      cases awaited : shape.awaits direction with
      | true => simp [Tame, awaited]
      | false => simp [Tame, awaited]
  | closes direction =>
      obtain ⟨copy, acted, _⟩ := advance_eq_some made
      rw [intact_advance_iff intact moves_close acted made]
      obtain ⟨_, acted⟩ := Option.ite_none_right_eq_some.mp acted
      cases acted
      simp [Tame]
  | yields direction =>
      obtain ⟨_, rfl⟩ := yield_eq_some made
      exact (intact_drop_iff intact).symm

/-! ## Quiet relays -/

theorem action_eq_none
    (none : relay.advance shape direction action = none) :
    action (relay.copy direction) = Option.none :=
  Option.map_eq_none_iff.mp none

/-- A loop that cannot go on has written everything it has got. -/
theorem complete_of_quiet (sound : Sound shape relay)
    (intact : Intact shape relay) (buffered : 0 < shape.buffer)
    (quiet : relay.Quiet shape) (direction : Direction) :
    ((relay.copy direction).held = [] ∧
      (relay.copy direction).waiting = []) ∧
      ((relay.copy direction).ended = true →
        (relay.copy direction).closed = true) := by
  have copied := sound.copies direction
  have reading := action_eq_none (quiet (.reads direction 1) rfl)
  have writing := action_eq_none (quiet (.writes direction 1) rfl)
  have ended := action_eq_none (quiet (.readsEnd direction) rfl)
  have closing := action_eq_none (quiet (.closes direction) rfl)
  cases stage : (relay.copy direction).stage with
  | reading =>
      have empty : (relay.copy direction).waiting = [] := by
        cases left : (relay.copy direction).waiting with
        | nil => rfl
        | cons byte rest =>
            unfold Copy.read at reading
            rw [if_pos ⟨stage, by omega, by omega, by simp [left]⟩] at reading
            cases reading
      refine ⟨⟨Copy.held_of_reading stage, empty⟩, ?_⟩
      intro exhausted
      unfold Copy.readEnd at ended
      rw [if_pos ⟨stage, empty, exhausted⟩] at ended
      cases ended
  | writing rest =>
      have some : 1 ≤ rest.length := by
        cases rest with
        | nil => exact absurd stage copied.nonempty
        | cons byte rest => simp
      unfold Copy.write at writing
      rw [stage] at writing
      dsimp only at writing
      rw [if_pos ⟨by omega, some⟩] at writing
      cases writing
  | closing =>
      unfold Copy.close at closing
      rw [if_pos stage] at closing
      cases closing
  | done =>
      refine ⟨⟨Copy.held_of_done stage, (copied.atEnd (.inr stage)).1⟩, ?_⟩
      intro _
      exact copied.closed.mpr (.inl stage)
  | dropped rest =>
      have gone : (relay.copy direction).isDropped = true := by
        unfold Copy.isDropped
        rw [stage]
      obtain done | ⟨held, waiting, passed⟩ := intact direction gone
      · exact absurd done (Copy.stage_ne_of_isDropped gone)
      · refine ⟨⟨held, waiting⟩, ?_⟩
        intro exhausted
        exact copied.closed.mpr (.inr ⟨gone, passed exhausted⟩)

theorem advance_of_over (moves : Moves action)
    (finished : (relay.copy direction).stage = .done ∨
      (relay.copy direction).isDropped = true) :
    relay.advance shape direction action = none := by
  unfold advance
  rw [Option.map_eq_none_iff]
  cases acted : action (relay.copy direction) with
  | none => rfl
  | some copy =>
      rcases finished with done | gone
      · exact absurd done (moves.running acted)
      · rw [moves.live acted] at gone
        cases gone

/-- A relay whose loops have all ended or gone is quiet. -/
theorem quiet_of_over
    (finished : ∀ direction, (relay.copy direction).stage = .done ∨
      (relay.copy direction).isDropped = true) : relay.Quiet shape := by
  intro label own
  cases label with
  | sends _ _ => cases own
  | ends _ => cases own
  | reads direction count =>
      exact advance_of_over moves_read (finished direction)
  | writes direction count =>
      exact advance_of_over moves_write (finished direction)
  | readsEnd direction =>
      exact advance_of_over moves_readEnd (finished direction)
  | closes direction => exact advance_of_over moves_close (finished direction)
  | yields direction =>
      apply if_neg
      rintro ⟨_, running, live⟩
      rcases finished direction with done | gone
      · exact running done
      · rw [live] at gone
        cases gone

theorem quiet_of_dropped (sound : Sound shape relay)
    (gone : (relay.copy direction).isDropped = true) : relay.Quiet shape := by
  have ended := sound.cause direction (.inr gone)
  apply quiet_of_over
  intro other
  by_cases same : other = direction
  · rw [same]
    exact .inr gone
  · rw [Direction.eq_other same]
    exact .inl ended

/-- A relay is transparent exactly when no loop that is gone has lost
anything. -/
theorem transparent_iff_intact (sound : Sound shape relay)
    (buffered : 0 < shape.buffer) :
    relay.Transparent shape ↔ Intact shape relay := by
  constructor
  · intro transparent direction gone
    obtain ⟨_, complete⟩ := transparent direction
    obtain ⟨written, passed⟩ := complete (quiet_of_dropped sound gone)
    obtain ⟨held, waiting⟩ :=
      (sound.copies direction).written_eq_iff.mp written
    refine .inr ⟨held, waiting, ?_⟩
    intro ended
    rcases (sound.copies direction).closed.mp (passed ended) with done | closed
    · exact absurd done (Copy.stage_ne_of_isDropped gone)
    · exact closed.2
  · intro intact direction
    have copied := sound.copies direction
    refine ⟨⟨copied.written_prefix, ?_⟩, ?_⟩
    · intro closed
      rcases copied.closed.mp closed with done | ⟨gone, _⟩
      · exact ⟨copied.written_of_done done,
          .inl (copied.atEnd (.inr done)).2⟩
      · obtain done | ⟨held, waiting, _⟩ := intact direction gone
        · exact absurd done (Copy.stage_ne_of_isDropped gone)
        · exact ⟨copied.written_eq_iff.mpr ⟨held, waiting⟩, .inr gone⟩
    · intro quiet
      obtain ⟨complete, closed⟩ :=
        complete_of_quiet sound intact buffered quiet direction
      exact ⟨copied.written_eq_iff.mpr complete, closed⟩

/-! ## Runs -/

/-- A run is tame exactly when all its states are transparent. -/
theorem transparentRun_iff {trace : List RelayLabel}
    (buffered : 0 < shape.buffer) :
    Run (TransparentStep shape) {} trace relay ↔
      Run (TameStep shape) {} trace relay := by
  constructor
  · intro run
    have kept : Run (TameStep shape) {} trace relay ∧ Sound shape relay ∧
        Intact shape relay := by
      induction run with
      | nil => exact ⟨.nil, sound_created, intact_created⟩
      | snoc _ move induction =>
          obtain ⟨front, sound, intact⟩ := induction
          have later := sound_of_step sound move.1
          have lossless := (transparent_iff_intact later buffered).mp move.2
          have tame := (tame_iff_intact intact move.1).mpr lossless
          exact ⟨front.snoc ⟨move.1, tame⟩, later, lossless⟩
    exact kept.1
  · intro run
    have kept : Run (TransparentStep shape) {} trace relay ∧
        Sound shape relay ∧ Intact shape relay := by
      induction run with
      | nil => exact ⟨.nil, sound_created, intact_created⟩
      | snoc _ move induction =>
          obtain ⟨front, sound, intact⟩ := induction
          have later := sound_of_step sound move.1
          have lossless := (tame_iff_intact intact move.1).mp move.2
          have transparent :=
            (transparent_iff_intact later buffered).mpr lossless
          exact ⟨front.snoc ⟨move.1, transparent⟩, later, lossless⟩
    exact kept.1

/-! ## Relays that spare their loops -/

/-- No loop is aborted or gone. -/
def Whole (relay : Relay) : Prop :=
  ∀ direction, relay.aborted direction = false ∧
    (relay.copy direction).isDropped = false

theorem Whole.intact (whole : Whole relay) : Intact shape relay := by
  intro direction gone
  rw [(whole direction).2] at gone
  cases gone

theorem Whole.setCopy (whole : Whole relay) (live : copy.isDropped = false) :
    Whole (relay.setCopy direction copy) := by
  intro other
  refine ⟨(whole other).1, ?_⟩
  by_cases same : other = direction
  · rw [same, copy_setCopy_self]
    exact live
  · rw [copy_setCopy_of_ne same]
    exact (whole other).2

theorem Whole.advance (whole : Whole relay) (moves : Moves action)
    (spares : shape.cut direction = .spares)
    (made : relay.advance shape direction action = some after) :
    Whole after := by
  obtain ⟨copy, acted, rfl⟩ := advance_eq_some made
  have placed : Whole (relay.setCopy direction copy) :=
    whole.setCopy (moves.remains acted)
  unfold settle
  rw [spares]
  split
  · exact placed
  · exact placed

theorem whole_of_step {label : RelayLabel} (whole : Whole relay)
    (spares : ∀ direction, shape.cut direction = .spares)
    (made : Step shape relay label after) : Whole after := by
  cases label with
  | sends direction bytes =>
      obtain ⟨copy, acted, rfl⟩ := Option.map_eq_some_iff.mp made
      apply whole.setCopy
      obtain ⟨_, acted⟩ := Option.ite_none_left_eq_some.mp acted
      cases acted
      exact (whole direction).2
  | ends direction =>
      obtain ⟨copy, acted, rfl⟩ := Option.map_eq_some_iff.mp made
      apply whole.setCopy
      obtain ⟨_, acted⟩ := Option.ite_none_left_eq_some.mp acted
      cases acted
      exact (whole direction).2
  | reads direction count =>
      exact whole.advance moves_read (spares direction) made
  | writes direction count =>
      exact whole.advance moves_write (spares direction) made
  | readsEnd direction =>
      exact whole.advance moves_readEnd (spares direction) made
  | closes direction =>
      exact whole.advance moves_close (spares direction) made
  | yields direction =>
      obtain ⟨⟨aborted, _⟩, _⟩ := yield_eq_some made
      rw [(whole direction).1] at aborted
      cases aborted

/-- Every run of a relay that spares its loops is transparent. -/
theorem transparentRun_of_spares {trace : List RelayLabel}
    (buffered : 0 < shape.buffer)
    (spares : ∀ direction, shape.cut direction = .spares)
    (run : Run (Step shape) {} trace relay) :
    Run (TransparentStep shape) {} trace relay := by
  have kept : Run (TransparentStep shape) {} trace relay ∧
      Sound shape relay ∧ Whole relay := by
    induction run with
    | nil => exact ⟨.nil, sound_created, fun _ => ⟨rfl, rfl⟩⟩
    | snoc _ move induction =>
        obtain ⟨front, sound, whole⟩ := induction
        have later := sound_of_step sound move
        have still := whole_of_step whole spares move
        have transparent :=
          (transparent_iff_intact later buffered).mpr still.intact
        exact ⟨front.snoc ⟨move, transparent⟩, later, still⟩
  exact kept.1

/-! ## Copying -/

theorem setCopy_setCopy (first second : Copy) :
    (relay.setCopy direction first).setCopy direction second =
      relay.setCopy direction second := by
  unfold setCopy
  congr 1
  funext other
  dsimp only
  split
  · rfl
  · rfl

theorem advance_of_ne (acted : action (relay.copy direction) = some copy)
    (running : copy.stage ≠ .done) :
    relay.advance shape direction action =
      some (relay.setCopy direction copy) := by
  unfold advance
  rw [acted, Option.map_some, settle_of_ne]
  rw [copy_setCopy_self]
  exact running

/-- What is sent to a loop that waits can be copied byte by byte. -/
theorem exists_copied (buffered : 0 < shape.buffer) (direction : Direction)
    (bytes : List UInt8) :
    ∀ {relay : Relay} {sent written : List UInt8},
      relay.copy direction = { sent := sent, written := written } →
      ∃ trace, Run (Step shape) relay trace (relay.setCopy direction
        { sent := sent ++ bytes, written := written ++ bytes }) := by
  induction bytes with
  | nil =>
      intro relay sent written waits
      refine ⟨[], ?_⟩
      rw [List.append_nil, List.append_nil, ← waits]
      have same : relay.setCopy direction (relay.copy direction) = relay := by
        unfold setCopy
        congr 1
        funext other
        split
        · rename_i equal
          rw [equal]
        · rfl
      rw [same]
      exact .nil
  | cons byte rest induction =>
      intro relay sent written waits
      -- One byte is sent, read and written.
      let sending : Copy :=
        { sent := sent ++ [byte], waiting := [byte], written := written }
      let reading : Copy :=
        { sent := sent ++ [byte], stage := .writing [byte],
          written := written }
      let copied : Copy :=
        { sent := sent ++ [byte], written := written ++ [byte] }
      have sends : Step shape relay (.sends direction [byte])
          (relay.setCopy direction sending) := by
        change ((relay.copy direction).send [byte]).map _ = _
        rw [waits]
        rfl
      have reads : Step shape (relay.setCopy direction sending)
          (.reads direction 1) (relay.setCopy direction reading) := by
        rw [← setCopy_setCopy sending reading]
        apply advance_of_ne
        · rw [copy_setCopy_self]
          exact if_pos ⟨rfl, by decide, buffered, by simp [sending]⟩
        · simp [reading]
      have writes : Step shape (relay.setCopy direction reading)
          (.writes direction 1) (relay.setCopy direction copied) := by
        rw [← setCopy_setCopy reading copied]
        apply advance_of_ne
        · rw [copy_setCopy_self]
          rfl
        · simp [copied]
      obtain ⟨trace, later⟩ := induction
        (@copy_setCopy_self (relay.setCopy direction reading) direction copied)
      rw [setCopy_setCopy, setCopy_setCopy] at later
      rw [List.append_assoc, List.append_assoc] at later
      exact ⟨_, .cons sends (.cons reads (.cons writes later))⟩

/-! ## Progress -/

/-- What both loops still have to do. -/
def work (relay : Relay) : Nat :=
  (relay.copy .upstream).work + (relay.copy .downstream).work

theorem work_setCopy : (relay.setCopy direction copy).work +
    (relay.copy direction).work = relay.work + copy.work := by
  unfold work
  cases direction with
  | upstream =>
      rw [copy_setCopy_self, copy_setCopy_of_ne (by simp)]
      omega
  | downstream =>
      rw [copy_setCopy_self, copy_setCopy_of_ne (by simp)]
      omega

theorem work_relay_drop : (relay.drop shape direction).work ≤ relay.work := by
  have replaced := @work_setCopy relay direction
    ((relay.copy direction).drop (shape.finishes direction))
  have less := @Copy.work_drop (shape.finishes direction)
    (relay.copy direction)
  unfold Relay.drop
  omega

theorem work_settle : (relay.settle shape direction).work ≤ relay.work := by
  unfold settle
  split
  · split
    · exact Nat.le_refl _
    · exact work_relay_drop
    · exact Nat.le_refl _
  · exact Nat.le_refl _

theorem work_advance
    (less : ∀ copy, action (relay.copy direction) = some copy →
      copy.work < (relay.copy direction).work)
    (made : relay.advance shape direction action = some after) :
    after.work < relay.work := by
  obtain ⟨copy, acted, rfl⟩ := advance_eq_some made
  have smaller := less copy acted
  have replaced := @work_setCopy relay direction copy
  have settled := @work_settle shape (relay.setCopy direction copy) direction
  omega

/-- The relay becomes quiet after finitely many steps of its own. -/
theorem work_of_step {label : RelayLabel} (own : label.isOwn = true)
    (made : Step shape relay label after) : after.work < relay.work := by
  cases label with
  | sends _ _ => cases own
  | ends _ => cases own
  | reads direction count =>
      exact work_advance (fun _ acted => Copy.work_read acted) made
  | writes direction count =>
      exact work_advance (fun _ acted => Copy.work_write acted) made
  | readsEnd direction =>
      exact work_advance (fun _ acted => Copy.work_readEnd acted) made
  | closes direction =>
      exact work_advance (fun _ acted => Copy.work_close acted) made
  | yields direction =>
      obtain ⟨⟨_, running, live⟩, rfl⟩ := yield_eq_some made
      have replaced := @work_setCopy relay direction
        ((relay.copy direction).drop (shape.finishes direction))
      have less := @Copy.work_drop_of_live (shape.finishes direction)
        (relay.copy direction) running live
      unfold Relay.drop
      omega

/-- A run of a relay of the client is transparent throughout exactly when its
steps are tame; that of the node is transparent in every run.  No relay makes
more than finitely many steps of its own. -/
theorem relays_transparent (trace : List RelayLabel) (relay : Relay) :
    (Run (TransparentStep relayHalves) {} trace relay ↔
      Run (TameStep relayHalves) {} trace relay) ∧
    (∀ shut, Run (TransparentStep (relayTcp shut)) {} trace relay ↔
      Run (TameStep (relayTcp shut)) {} trace relay) ∧
    (Run (Step relayParts) {} trace relay →
      Run (TransparentStep relayParts) {} trace relay) ∧
    ∀ shape label after, label.isOwn = true →
      Step shape relay label after → after.work < relay.work := by
  refine ⟨?_, ?_, ?_, ?_⟩
  · exact transparentRun_iff (by decide)
  · intro shut
    have buffered : 0 < (relayTcp shut).buffer := by simp [relayTcp]
    exact transparentRun_iff buffered
  · intro run
    exact transparentRun_of_spares (by decide) (fun _ => rfl) run
  · intro shape label after own step
    exact work_of_step own step

/-- A response that ends before the request, which has nothing left to say. -/
def responseFirst : List RelayLabel :=
  [.sends .upstream [1], .reads .upstream 1, .writes .upstream 1,
    .sends .downstream [3], .reads .downstream 1, .writes .downstream 1,
    .ends .downstream, .readsEnd .downstream, .closes .downstream,
    .yields .upstream, .ends .upstream]

theorem relays_transparent_response : ∃ relay,
    Run (TameStep relayHalves) {} responseFirst relay ∧
      ((relay.copy .upstream).written = [1] ∧
        (relay.copy .upstream).closed = true) ∧
      Run (TransparentStep relayHalves) {} responseFirst relay := by
  obtain ⟨relay, run, shown⟩ : ∃ relay,
      Run (TameStep relayHalves) {} responseFirst relay ∧
        (relay.copy .upstream).written = [1] ∧
        (relay.copy .upstream).closed = true := by
    refine Run.exists_cons ⟨rfl, fun impossible => by cases impossible⟩ ?_
    refine Run.exists_cons ⟨rfl, trivial⟩ ?_
    refine Run.exists_cons ⟨rfl, trivial⟩ ?_
    refine Run.exists_cons ⟨rfl, fun impossible => by cases impossible⟩ ?_
    refine Run.exists_cons ⟨rfl, trivial⟩ ?_
    refine Run.exists_cons ⟨rfl, trivial⟩ ?_
    refine Run.exists_cons ⟨rfl, fun _ => rfl⟩ ?_
    refine Run.exists_cons ⟨rfl, fun impossible => by cases impossible⟩ ?_
    refine Run.exists_cons ⟨rfl, fun impossible => by cases impossible⟩ ?_
    -- The upstream loop waits in its read, and its drop finishes the stream.
    refine Run.exists_cons ⟨rfl, .inr ⟨rfl, rfl, fun _ => rfl⟩⟩ ?_
    refine Run.exists_cons ⟨rfl, fun _ => rfl⟩ ?_
    exact ⟨_, .nil, rfl, rfl⟩
  exact ⟨relay, run, shown, (relays_transparent _ relay).1.mpr run⟩

/-- The proxy loses what is sent after the relay has ended its stream, and the
Android relay loses what comes back after the local side has ended its own. -/
theorem relays_lose_bytes :
    (∃ relay, Run (Step relayHalves) {}
        [.ends .downstream, .readsEnd .downstream, .closes .downstream,
          .yields .upstream, .sends .upstream [1], .ends .upstream] relay ∧
      (relay.copy .upstream).sent = [1] ∧
      (relay.copy .upstream).written = [] ∧
      ¬ relay.Transparent relayHalves) ∧
    ∀ shut, ∃ relay, Run (Step (relayTcp shut)) {}
        [.ends .upstream, .readsEnd .upstream, .sends .downstream [1],
          .ends .downstream] relay ∧
      (relay.copy .downstream).sent = [1] ∧
      (relay.copy .downstream).written = [] ∧
      ¬ relay.Transparent (relayTcp shut) := by
  constructor
  · refine ⟨_, Run.of_foldlM rfl, rfl, rfl, ?_⟩
    intro transparent
    have written := ((transparent .upstream).2 (quiet_of_over (by
      intro direction
      cases direction
      · exact .inr rfl
      · exact .inl rfl))).1
    cases written
  · intro shut
    refine ⟨_, Run.of_foldlM rfl, rfl, rfl, ?_⟩
    intro transparent
    have written := ((transparent .downstream).2 (quiet_of_over (by
      intro direction
      cases direction
      · exact .inl rfl
      · exact .inr rfl))).1
    cases written

end Relay

end Velum.Proxy
