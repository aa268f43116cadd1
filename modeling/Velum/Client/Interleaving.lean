import Velum.Client.Commit
import Velum.Client.Updates
import Velum.Foundation.TransitionSystem

/-!
# Two updates of the index at once

Nothing keeps a second update from loading the index while a first one is
about to commit.  Both effects are in the final index when one of the two takes
its snapshot only after the other one has moved its index in.  From then on the
earlier update touches no file but the previous one.
-/

namespace Velum.Client

open Foundation
open Foundation.Script
open Foundation.FileScript
open EnrollmentRepository

variable {Text : Type}

/-! ## Both updates -/

/-- The two updates over the files, with the progress of each observed. -/
abbrev Updates (Text : Type) := Shared (FileCall Slot Text)
  (FileCall.Reply ClientException) (Except ClientException Unit)
  ((Slot → Option Text) × (Side → Progress))

abbrev UpdateTurn (Text : Type) := Turn (FileCall Slot Text)
  (FileCall.Reply ClientException)

def answersFor (side : Side)
    (world : (Slot → Option Text) × (Side → Progress))
    (call : FileCall Slot Text) (reply : call.Reply ClientException)
    (after : (Slot → Option Text) × (Side → Progress)) : Prop :=
  FileCall.Answers world.1 call reply after.1 ∧
    after.2 = Function.update world.2 side
      (observeProgress call reply (world.2 side))

def startUpdates (codec : JsonCodec Text) (files : Slot → Option Text)
    (updates : Side → IndexUpdate) : Updates Text where
  world := (files, fun _ => .underway)
  script := fun side => (updates side).script codec

/-- The call with which an update learns what is in the index: the reading of
the live file, or finding none. -/
def TakesSnapshot : (call : FileCall Slot Text) →
    call.Reply ClientException → Prop
  | .read .live, _ => True
  | .look .live, .ok false => True
  | _, _ => False

/-- The update that is not the earlier one takes its snapshot only after the
earlier one has moved its index in or has ended, unless it has nothing to
remove. -/
def InOrder (base : List InstalledEnrollmentNode)
    (updates : Side → IndexUpdate) (earlier : Side) (state : Updates Text)
    (turn : UpdateTurn Text) : Prop :=
  turn.side = earlier.other → TakesSnapshot turn.call turn.reply →
    state.world.2 earlier ≠ .underway ∨
      (∃ result, state.script earlier = .done result) ∨
      ∃ nodeId, updates earlier.other = .remove nodeId ∧
        ∀ node ∈ base, node.nodeId ≠ nodeId

/-- What one turn does to both sides. -/
structure Taken (state : Updates Text) (turn : UpdateTurn Text)
    (next : Updates Text) : Prop where
  asked : ∃ rest, state.script turn.side = .ask turn.call rest ∧
    next.script turn.side = rest turn.reply
  answered : FileCall.Answers state.world.1 turn.call turn.reply next.world.1
  progressed : next.world.2 turn.side =
    observeProgress turn.call turn.reply (state.world.2 turn.side)
  otherScript : ∀ side, turn.side ≠ side →
    next.script side = state.script side
  otherProgress : ∀ side, turn.side ≠ side →
    next.world.2 side = state.world.2 side

theorem taken_of_takes {state next : Updates Text} {turn : UpdateTurn Text}
    (takes : Takes answersFor state turn next) : Taken state turn next := by
  cases takes with
  | turn asks answered =>
      refine ⟨⟨_, asks, ?_⟩, answered.1, ?_, ?_, ?_⟩
      · simp
      · simp [answered.2]
      · intro side apart
        exact Function.update_of_ne apart.symm _ _
      · intro side apart
        rw [answered.2]
        exact Function.update_of_ne apart.symm _ _

theorem takes_answered {state : Updates Text} {side : Side}
    {call : FileCall Slot Text} {reply : call.Reply ClientException}
    {next : call.Reply ClientException → RepositoryScript Text Unit}
    {after : Slot → Option Text}
    (asks : state.script side = .ask call next)
    (answered : FileCall.Answers state.world.1 call reply after) :
    Takes answersFor state ⟨side, call, reply⟩
      ⟨(after, Function.update state.world.2 side
          (observeProgress call reply (state.world.2 side))),
        Function.update state.script side (next reply)⟩ :=
  .turn asks ⟨answered, rfl⟩

section Invariant

variable {codec : JsonCodec Text} {nodes : List InstalledEnrollmentNode}
  {update : IndexUpdate} {side : Side} {state next : Updates Text}
  {turn : UpdateTurn Text}

variable (codec nodes update side state) in
/-- One side keeps to what an update of `nodes` does. -/
def Proceeds : Prop :=
  Guarantees Interfered (Careful codec nodes update)
    (Finished codec nodes update) (state.script side)
    (state.world.1, state.world.2 side)

theorem Proceeds.own (held : Proceeds codec nodes update side state)
    (taken : Taken state turn next) (whose : turn.side = side) :
    Proceeds codec nodes update side next := by
  subst whose
  obtain ⟨rest, asks, continued⟩ := taken.asked
  unfold Proceeds at held ⊢
  rw [asks] at held
  rw [continued]
  exact held.advance (rely_refl _) ⟨taken.answered, taken.progressed⟩

theorem Proceeds.beside (held : Proceeds codec nodes update side state)
    (taken : Taken state turn next) (apart : turn.side ≠ side)
    (kept : state.world.2 side = .underway →
      next.world.1 .live = state.world.1 .live ∧
        next.world.1 .temporary = state.world.1 .temporary) :
    Proceeds codec nodes update side next := by
  unfold Proceeds at held ⊢
  rw [taken.otherScript side apart]
  exact held.stable rely_trans Careful.stable Finished.stable
    ⟨taken.otherProgress side apart, kept⟩

/-- The call that one side makes next is one that it may make. -/
theorem Proceeds.careful (held : Proceeds codec nodes update side state)
    (taken : Taken state turn next) (whose : turn.side = side) :
    Careful codec nodes update
      (state.world.1, state.world.2 side) turn.call := by
  subst whose
  obtain ⟨rest, asks, _⟩ := taken.asked
  unfold Proceeds at held
  rw [asks] at held
  exact held.1

theorem Proceeds.finished {result : Except ClientException Unit}
    (held : Proceeds codec nodes update side state)
    (ended : state.script side = .done result) :
    Finished codec nodes update result
      (state.world.1, state.world.2 side) := by
  unfold Proceeds at held
  rw [ended] at held
  exact held

theorem answers_previous {files after : Slot → Option Text}
    {call : FileCall Slot Text} {reply : call.Reply ClientException}
    (previous : call = .look .previous ∨ call = .delete .previous)
    (answered : FileCall.Answers files call reply after) :
    after .live = files .live ∧ after .temporary = files .temporary := by
  rcases previous with rfl | rfl
  · rw [answered.1]
    exact ⟨rfl, rfl⟩
  · rcases answered with ⟨_, _, rfl⟩ | ⟨_, _, rfl⟩
    · exact ⟨rfl, rfl⟩
    · simp

theorem progress_of_previous {call : FileCall Slot Text}
    {reply : call.Reply ClientException}
    (previous : call = .look .previous ∨ call = .delete .previous) :
    observeProgress call reply .movedIn = .movedIn ∨
      observeProgress call reply .movedIn = .failed := by
  rcases previous with rfl | rfl
  · cases reply with
    | ok present => exact .inl rfl
    | error failure => exact .inr rfl
  · cases reply with
    | ok _ => exact .inl rfl
    | error failure => exact .inr rfl

/-- Only moving the text in makes an update be through. -/
theorem live_of_movedIn {files after : Slot → Option Text}
    {call : FileCall Slot Text} {reply : call.Reply ClientException}
    (moved : observeProgress call reply .underway = .movedIn)
    (answered : FileCall.Answers files call reply after) :
    call = .rename .temporary .live ∧
      after .live = files .temporary := by
  unfold observeProgress at moved
  split at moved
  all_goals cases moved
  · rcases answered with ⟨_, impossible, _⟩ | ⟨text, stored, _, rfl⟩
    · cases impossible
    · refine ⟨rfl, ?_⟩
      rw [stored]
      simp

/-! ## Up to the snapshot -/

/-- The first turn of an update changes no file. -/
theorem script_turn (starting : state.script turn.side = update.script codec)
    (taken : Taken state turn next) :
    next.world.1 = state.world.1 ∧
      ((∃ failure, next.script turn.side = .done (.error failure)) ∨
        (next.script turn.side = update.reading codec ∧
          next.world.2 turn.side = state.world.2 turn.side) ∨
        TakesSnapshot turn.call turn.reply ∧
          state.world.1 .live = none ∧
          next.script turn.side = update.finish codec []) := by
  obtain ⟨side, call, reply⟩ := turn
  obtain ⟨⟨rest, asks, continued⟩, answered, progressed, _, _⟩ := taken
  have same := starting.symm.trans asks
  rw [IndexUpdate.script_eq] at same
  cases same
  obtain ⟨unchanged, ⟨failure, rfl⟩ | rfl⟩ := answered
  · exact ⟨unchanged, .inl ⟨failure, continued⟩⟩
  · refine ⟨unchanged, .inr ?_⟩
    dsimp only at continued progressed ⊢
    cases found : state.world.1 .live with
    | none =>
        rw [found] at continued
        exact .inr ⟨trivial, rfl, continued⟩
    | some text =>
        rw [found] at continued
        exact .inl ⟨continued, progressed⟩

/-- The second one reads the index. -/
theorem reading_turn
    (starting : state.script turn.side = update.reading codec)
    (taken : Taken state turn next) :
    next.world.1 = state.world.1 ∧ TakesSnapshot turn.call turn.reply ∧
      ((∃ failure, next.script turn.side = .done (.error failure)) ∨
        ∃ text loaded, state.world.1 .live = some text ∧
          parse codec text = .ok loaded ∧
          next.script turn.side = update.finish codec loaded) := by
  obtain ⟨side, call, reply⟩ := turn
  obtain ⟨⟨rest, asks, continued⟩, answered, progressed, _, _⟩ := taken
  have same := starting.symm.trans asks
  cases same
  obtain ⟨unchanged, ⟨failure, rfl⟩ | ⟨text, stored, rfl⟩⟩ := answered
  · exact ⟨unchanged, trivial, .inl ⟨failure, continued⟩⟩
  · refine ⟨unchanged, trivial, ?_⟩
    change next.script side = ExceptT.bindCont (update.finish codec)
      (parse codec text) at continued
    cases accepted : parse codec text with
    | error failure =>
        rw [accepted] at continued
        exact .inl ⟨failure, continued⟩
    | ok loaded =>
        rw [accepted] at continued
        exact .inr ⟨text, loaded, stored, accepted, continued⟩

/-! ## Along a run -/

variable (codec side state) in
/-- One side can only end with a failure. -/
def Doomed : Prop :=
  (∃ nodes update, Proceeds codec nodes update side state ∧
    state.world.2 side = .failed) ∨
  ∃ failure, state.script side = .done (.error failure)

theorem Doomed.ne_ok (doomed : Doomed codec side state) :
    state.script side ≠ .done (.ok ()) := by
  intro ended
  rcases doomed with ⟨nodes, update, held, failed⟩ | ⟨failure, raised⟩
  · have finished := held.finished ended
    rw [failed] at finished
    exact finished rfl
  · rw [raised] at ended
    cases ended

theorem Doomed.kept (doomed : Doomed codec side state)
    (taken : Taken state turn next) : Doomed codec side next := by
  by_cases whose : turn.side = side
  · rcases doomed with ⟨nodes, update, held, failed⟩ | ⟨failure, raised⟩
    · left
      refine ⟨nodes, update, held.own taken whose, ?_⟩
      subst whose
      rw [taken.progressed, failed, observeProgress_failed]
    · obtain ⟨rest, asks, _⟩ := taken.asked
      rw [whose, raised] at asks
      cases asks
  · rcases doomed with ⟨nodes, update, held, failed⟩ | ⟨failure, raised⟩
    · left
      refine ⟨nodes, update, held.beside taken whose ?_, ?_⟩
      · intro underway
        rw [failed] at underway
        cases underway
      · rw [taken.otherProgress side whose, failed]
    · right
      rw [taken.otherScript side whose]
      exact ⟨failure, raised⟩

end Invariant

section Order

variable {codec : JsonCodec Text} {base : List InstalledEnrollmentNode}
  {updates : Side → IndexUpdate} {earlier : Side}
  {state next : Updates Text} {turn : UpdateTurn Text}

variable (codec base updates earlier state) in
/-- The earlier update is still under way, and the other one has not taken its
snapshot. -/
structure Behind : Prop where
  underway : state.world.2 earlier = .underway
  proceeds : Proceeds codec base (updates earlier) earlier state
  otherUnderway : state.world.2 earlier.other = .underway
  opening :
    state.script earlier.other = (updates earlier.other).script codec ∨
      state.script earlier.other = (updates earlier.other).reading codec

variable (codec base updates earlier state) in
/-- The earlier update is through, and the other one updates what it left. -/
structure Through : Prop where
  earlierThrough : state.script earlier = .done (.ok ()) ∨
    state.world.2 earlier = .movedIn ∧
      Proceeds codec base (updates earlier) earlier state
  proceeds : Proceeds codec ((updates earlier).result base)
    (updates earlier.other) earlier.other state
  live : state.world.2 earlier.other = .movedIn →
    state.world.1 .live = some (indexText codec
      ((updates earlier.other).result ((updates earlier).result base)))

/-- An update that has not taken its snapshot updates whatever the index
holds. -/
theorem proceeds_opening {nodes : List InstalledEnrollmentNode} {side : Side}
    {update : IndexUpdate}
    (opening : state.script side = update.script codec ∨
      state.script side = update.reading codec)
    (underway : state.world.2 side = .underway)
    (holds : Holds codec state.world.1 nodes) :
    Proceeds codec nodes update side state := by
  unfold Proceeds
  rw [underway]
  rcases opening with starting | starting
  · rw [starting]
    exact IndexUpdate.script_proceeds holds
  · rw [starting]
    exact IndexUpdate.reading_proceeds holds

theorem Proceeds.live_of_movedIn {nodes : List InstalledEnrollmentNode}
    {side : Side} {update : IndexUpdate}
    (held : Proceeds codec nodes update side state)
    (underway : state.world.2 side = .underway)
    (taken : Taken state turn next) (whose : turn.side = side)
    (moved : next.world.2 side = .movedIn) :
    next.world.1 .live = some (indexText codec (update.result nodes)) := by
  have careful := held.careful taken whose
  subst whose
  rw [underway] at careful
  have progressed := taken.progressed
  rw [underway, moved] at progressed
  obtain ⟨moving, live⟩ := Client.live_of_movedIn progressed.symm taken.answered
  exact live.trans (careful.2 moving)

theorem Proceeds.keeps_of_movedIn {nodes : List InstalledEnrollmentNode}
    {side : Side} {update : IndexUpdate}
    (held : Proceeds codec nodes update side state)
    (moved : state.world.2 side = .movedIn)
    (taken : Taken state turn next) (whose : turn.side = side) :
    (next.world.2 side = .movedIn ∨ next.world.2 side = .failed) ∧
      next.world.1 .live = state.world.1 .live ∧
      next.world.1 .temporary = state.world.1 .temporary := by
  have careful := held.careful taken whose
  subst whose
  rw [moved] at careful
  refine ⟨?_, answers_previous careful taken.answered⟩
  rw [taken.progressed, moved]
  exact progress_of_previous careful

theorem Behind.earlier_turn
    (behind : Behind codec base updates earlier state)
    (taken : Taken state turn next) (whose : turn.side = earlier) :
    Doomed codec earlier next ∨ Behind codec base updates earlier next ∨
      Through codec base updates earlier next := by
  have held := behind.proceeds.own taken whose
  have apart : turn.side ≠ earlier.other := by
    rw [whose]
    exact earlier.ne_other
  have otherUnderway : next.world.2 earlier.other = .underway :=
    (taken.otherProgress _ apart).trans behind.otherUnderway
  have opening := behind.opening
  rw [← taken.otherScript _ apart] at opening
  cases progressed : next.world.2 earlier with
  | underway => exact .inr (.inl ⟨progressed, held, otherUnderway, opening⟩)
  | movedIn =>
      have live := behind.proceeds.live_of_movedIn behind.underway taken
        whose progressed
      refine .inr (.inr ⟨.inr ⟨progressed, held⟩, ?_, ?_⟩)
      · exact proceeds_opening opening otherUnderway (holds_of_indexText live)
      · intro moved
        rw [otherUnderway] at moved
        cases moved
  | failed => exact .inl (.inl ⟨_, _, held, progressed⟩)

theorem Through.earlier_turn
    (through : Through codec base updates earlier state)
    (taken : Taken state turn next) (whose : turn.side = earlier) :
    Doomed codec earlier next ∨
      Through codec base updates earlier next := by
  have apart : turn.side ≠ earlier.other := by
    rw [whose]
    exact earlier.ne_other
  rcases through.earlierThrough with ended | ⟨moved, proceeds⟩
  · obtain ⟨rest, asks, _⟩ := taken.asked
    rw [whose, ended] at asks
    cases asks
  · have held := proceeds.own taken whose
    obtain ⟨progress, kept⟩ := proceeds.keeps_of_movedIn moved taken whose
    rcases progress with still | failed
    · refine .inr ⟨.inr ⟨still, held⟩, ?_, ?_⟩
      · exact through.proceeds.beside taken apart fun _ => kept
      · intro otherMoved
        rw [taken.otherProgress _ apart] at otherMoved
        exact kept.1.trans (through.live otherMoved)
    · exact .inl (.inl ⟨_, _, held, failed⟩)

theorem Through.other_turn
    (through : Through codec base updates earlier state)
    (taken : Taken state turn next) (whose : turn.side = earlier.other) :
    Through codec base updates earlier next := by
  have apart : turn.side ≠ earlier := by
    rw [whose]
    exact earlier.other_ne
  refine ⟨?_, through.proceeds.own taken whose, ?_⟩
  · rcases through.earlierThrough with ended | ⟨moved, proceeds⟩
    · exact .inl ((taken.otherScript _ apart).trans ended)
    · refine .inr ⟨(taken.otherProgress _ apart).trans moved, ?_⟩
      apply proceeds.beside taken apart
      intro underway
      rw [moved] at underway
      cases underway
  · intro moved
    cases progress : state.world.2 earlier.other with
    | underway =>
        exact through.proceeds.live_of_movedIn progress taken whose moved
    | movedIn =>
        obtain ⟨_, live, _⟩ :=
          through.proceeds.keeps_of_movedIn progress taken whose
        exact live.trans (through.live progress)
    | failed =>
        rw [← whose, taken.progressed, whose, progress,
          observeProgress_failed] at moved
        cases moved

/-- The other update takes its snapshot only when the earlier one has ended or
is through. -/
theorem Behind.other_turn
    (behind : Behind codec base updates earlier state)
    (taken : Taken state turn next) (whose : turn.side = earlier.other)
    (waits : TakesSnapshot turn.call turn.reply →
      ∃ result, state.script earlier = .done result) :
    Doomed codec earlier next ∨ Doomed codec earlier.other next ∨
      Behind codec base updates earlier next ∨
      Through codec base updates earlier next := by
  have apart : turn.side ≠ earlier := by
    rw [whose]
    exact earlier.other_ne
  have snapshot (taking : TakesSnapshot turn.call turn.reply) :
      Doomed codec earlier next ∨
        Through codec base updates earlier next := by
    obtain ⟨result, ended⟩ := waits taking
    cases result with
    | error failure =>
        have doomed : Doomed codec earlier state := .inr ⟨failure, ended⟩
        exact .inl (doomed.kept taken)
    | ok _ =>
        have finished := behind.proceeds.finished ended
        rw [behind.underway] at finished
        have through : Through codec base updates earlier state := by
          refine ⟨.inl ended, ?_, ?_⟩
          · exact proceeds_opening behind.opening behind.otherUnderway
              (finished rfl)
          · intro moved
            rw [behind.otherUnderway] at moved
            cases moved
        exact .inr (through.other_turn taken whose)
  rcases behind.opening with starting | starting
  · rw [← whose] at starting
    obtain ⟨unchanged, failing | ⟨reads, progress⟩ | ⟨taking, _⟩⟩ :=
      script_turn starting taken
    · right; left; right
      rw [← whose]
      exact failing
    · right; right; left
      rw [whose] at reads progress
      refine ⟨?_, ?_, progress.trans behind.otherUnderway, .inr reads⟩
      · exact (taken.otherProgress _ apart).trans behind.underway
      · apply behind.proceeds.beside taken apart
        intro _
        rw [unchanged]
        exact ⟨rfl, rfl⟩
    · rcases snapshot taking with doomed | through
      · exact .inl doomed
      · exact .inr (.inr (.inr through))
  · rw [← whose] at starting
    obtain ⟨_, taking, _⟩ := reading_turn starting taken
    rcases snapshot taking with doomed | through
    · exact .inl doomed
    · exact .inr (.inr (.inr through))

variable (codec base updates earlier state) in
/-- The invariant of a run whose snapshots are in order. -/
def InPhase : Prop :=
  Doomed codec earlier state ∨ Doomed codec earlier.other state ∨
    Behind codec base updates earlier state ∨
    Through codec base updates earlier state

theorem InPhase.after (held : InPhase codec base updates earlier state)
    (taken : Taken state turn next)
    (ordered : InOrder base updates earlier state turn)
    (present : ¬∃ nodeId, updates earlier.other = .remove nodeId ∧
      ∀ node ∈ base, node.nodeId ≠ nodeId) :
    InPhase codec base updates earlier next := by
  rcases held with doomed | doomed | behind | through
  · exact .inl (doomed.kept taken)
  · exact .inr (.inl (doomed.kept taken))
  · rcases turn.side.eq_or_eq_other earlier with whose | whose
    · rcases behind.earlier_turn taken whose with doomed | reached
      · exact .inl doomed
      · exact .inr (.inr reached)
    · apply behind.other_turn taken whose
      intro snapshot
      rcases ordered whose snapshot with past | done | absent
      · exact absurd behind.underway past
      · exact done
      · exact absurd absent present
  · rcases turn.side.eq_or_eq_other earlier with whose | whose
    · rcases through.earlier_turn taken whose with doomed | through
      · exact .inl doomed
      · exact .inr (.inr (.inr through))
    · exact .inr (.inr (.inr (through.other_turn taken whose)))

/-! ## Nothing to remove -/

variable (codec base updates earlier state) in
/-- The earlier update does its work, and the other one only looks. -/
structure Idle : Prop where
  proceeds : Proceeds codec base (updates earlier) earlier state
  whole : state.world.2 earlier ≠ .failed
  live : state.world.2 earlier = .movedIn → state.world.1 .live =
    some (indexText codec ((updates earlier).result base))
  looking :
    state.script earlier.other = (updates earlier.other).script codec ∨
      state.script earlier.other = (updates earlier.other).reading codec ∨
      state.script earlier.other = .done (.ok ())

/-- What a snapshot finds: no file, or the index before or after the earlier
update. -/
theorem Idle.seen (idle : Idle codec base updates earlier state) :
    Doomed codec earlier state ∨ state.world.1 .live = none ∨
      Holds codec state.world.1 base ∨
      Holds codec state.world.1 ((updates earlier).result base) := by
  cases progress : state.world.2 earlier with
  | underway =>
      cases script : state.script earlier with
      | done result =>
          cases result with
          | error failure => exact .inl (.inr ⟨failure, script⟩)
          | ok _ =>
              have finished := idle.proceeds.finished script
              rw [progress] at finished
              exact .inr (.inr (.inr (finished rfl)))
      | ask call rest =>
          have careful := idle.proceeds
          unfold Proceeds at careful
          rw [script, progress] at careful
          rcases careful.1.1 with missing | holds
          · exact .inr (.inl missing)
          · exact .inr (.inr (.inl holds))
  | movedIn =>
      exact .inr (.inr (.inr (holds_of_indexText (idle.live progress))))
  | failed => exact absurd progress idle.whole

theorem Idle.earlier_turn (idle : Idle codec base updates earlier state)
    (taken : Taken state turn next) (whose : turn.side = earlier) :
    Doomed codec earlier next ∨ Idle codec base updates earlier next := by
  have held := idle.proceeds.own taken whose
  have apart : turn.side ≠ earlier.other := by
    rw [whose]
    exact earlier.ne_other
  by_cases failed : next.world.2 earlier = .failed
  · exact .inl (.inl ⟨_, _, held, failed⟩)
  · refine .inr ⟨held, failed, ?_, ?_⟩
    · intro moved
      cases progress : state.world.2 earlier with
      | underway =>
          exact idle.proceeds.live_of_movedIn progress taken whose moved
      | movedIn =>
          obtain ⟨_, live, _⟩ :=
            idle.proceeds.keeps_of_movedIn progress taken whose
          exact live.trans (idle.live progress)
      | failed => exact absurd progress idle.whole
    · rw [taken.otherScript _ apart]
      exact idle.looking

theorem Idle.other_turn {nodeId : String}
    (idle : Idle codec base updates earlier state)
    (taken : Taken state turn next) (whose : turn.side = earlier.other)
    (removing : updates earlier.other = .remove nodeId)
    (absent : ∀ node ∈ base, node.nodeId ≠ nodeId)
    (stillAbsent : ∀ node ∈ (updates earlier).result base,
      node.nodeId ≠ nodeId) :
    Doomed codec earlier next ∨ Doomed codec earlier.other next ∨
      Idle codec base updates earlier next := by
  have apart : turn.side ≠ earlier := by
    rw [whose]
    exact earlier.other_ne
  have looked (unchanged : next.world.1 = state.world.1)
      (looking :
        next.script earlier.other = (updates earlier.other).script codec ∨
          next.script earlier.other =
            (updates earlier.other).reading codec ∨
          next.script earlier.other = .done (.ok ())) :
      Idle codec base updates earlier next := by
    refine ⟨?_, ?_, ?_, looking⟩
    · apply idle.proceeds.beside taken apart
      intro _
      rw [unchanged]
      exact ⟨rfl, rfl⟩
    · rw [taken.otherProgress _ apart]
      exact idle.whole
    · rw [taken.otherProgress _ apart, unchanged]
      exact idle.live
  rcases idle.looking with starting | starting | ended
  · rw [← whose] at starting
    obtain ⟨unchanged, failing | ⟨reads, _⟩ | ⟨_, _, finishes⟩⟩ :=
      script_turn starting taken
    · rw [whose] at failing
      exact .inr (.inl (.inr failing))
    · rw [whose] at reads
      exact .inr (.inr (looked unchanged (.inr (.inl reads))))
    · rw [whose, removing, IndexUpdate.finish_remove (by simp)] at finishes
      exact .inr (.inr (looked unchanged (.inr (.inr finishes))))
  · rw [← whose] at starting
    obtain ⟨unchanged, _, failing | ⟨text, loaded, stored, accepted,
      finishes⟩⟩ := reading_turn starting taken
    · rw [whose] at failing
      exact .inr (.inl (.inr failing))
    · have returns (missing : ∀ node ∈ loaded, node.nodeId ≠ nodeId) :
          Idle codec base updates earlier next := by
        rw [whose, removing, IndexUpdate.finish_remove missing] at finishes
        exact looked unchanged (.inr (.inr finishes))
      rcases idle.seen with doomed | missing | old | new
      · exact .inl (doomed.kept taken)
      · rw [missing] at stored
        cases stored
      · rw [old.eq_of_parse stored accepted] at returns
        exact .inr (.inr (returns absent))
      · rw [new.eq_of_parse stored accepted] at returns
        exact .inr (.inr (returns stillAbsent))
  · obtain ⟨rest, asks, _⟩ := taken.asked
    rw [whose, ended] at asks
    cases asks

variable (codec base updates earlier state) in
/-- The invariant of a run with nothing to remove. -/
def Undisturbed : Prop :=
  Doomed codec earlier state ∨ Doomed codec earlier.other state ∨
    Idle codec base updates earlier state

theorem Undisturbed.after {nodeId : String}
    (held : Undisturbed codec base updates earlier state)
    (taken : Taken state turn next)
    (removing : updates earlier.other = .remove nodeId)
    (absent : ∀ node ∈ base, node.nodeId ≠ nodeId)
    (stillAbsent : ∀ node ∈ (updates earlier).result base,
      node.nodeId ≠ nodeId) :
    Undisturbed codec base updates earlier next := by
  rcases held with doomed | doomed | idle
  · exact .inl (doomed.kept taken)
  · exact .inr (.inl (doomed.kept taken))
  · rcases turn.side.eq_or_eq_other earlier with whose | whose
    · rcases idle.earlier_turn taken whose with doomed | idle
      · exact .inl doomed
      · exact .inr (.inr idle)
    · exact idle.other_turn taken whose removing absent stillAbsent

/-! ## At the end of a run -/

theorem startUpdates_behind {files : Slot → Option Text}
    (holds : Holds codec files base) :
    Behind codec base updates earlier (startUpdates codec files updates) :=
  ⟨rfl, IndexUpdate.script_proceeds holds, rfl, .inl rfl⟩

theorem startUpdates_idle {files : Slot → Option Text}
    (holds : Holds codec files base) :
    Idle codec base updates earlier (startUpdates codec files updates) := by
  refine ⟨IndexUpdate.script_proceeds holds, ?_, ?_, .inl rfl⟩
  · intro failed
    cases failed
  · intro moved
    cases moved

/-- The nodes that neither update is about. -/
def aside (updates : Side → IndexUpdate) (node : InstalledEnrollmentNode) :
    Bool :=
  node.nodeId ≠ (updates .left).nodeId ∧ node.nodeId ≠ (updates .right).nodeId

theorem aside_ne {node : InstalledEnrollmentNode}
    (held : aside updates node = true) (side : Side) :
    node.nodeId ≠ (updates side).nodeId := by
  unfold aside at held
  rw [decide_eq_true_iff] at held
  cases side with
  | left => exact held.1
  | right => exact held.2

theorem filter_aside_result (side : Side)
    (nodes : List InstalledEnrollmentNode) :
    ((updates side).result nodes).filter (aside updates) =
      nodes.filter (aside updates) := by
  apply IndexUpdate.filter_result
  intro node held
  exact aside_ne held side

variable (base updates earlier) in
/-- A turn that keeps the order of the snapshots. -/
def TakesInOrder (state : Updates Text) (turn : UpdateTurn Text)
    (next : Updates Text) : Prop :=
  Takes answersFor state turn next ∧ InOrder base updates earlier state turn

/-- With nothing to remove, the index in the end is that of the earlier
update. -/
theorem holds_of_absent {files : Slot → Option Text}
    {trace : List (UpdateTurn Text)} {final : Updates Text} {nodeId : String}
    (holds : Holds codec files base)
    (distinct : (updates earlier.other).nodeId ≠ (updates earlier).nodeId)
    (removing : updates earlier.other = .remove nodeId)
    (absent : ∀ node ∈ base, node.nodeId ≠ nodeId)
    (run : Run (TakesInOrder base updates earlier)
      (startUpdates codec files updates) trace final)
    (ended : ∀ side, final.script side = .done (.ok ())) :
    Holds codec final.world.1 ((updates earlier).result base) := by
  have stillAbsent : ∀ node ∈ (updates earlier).result base,
      node.nodeId ≠ nodeId := by
    intro node member
    rcases List.mem_append.mp member with old | shown
    · exact absent node (List.mem_filter.mp old).1
    · rw [IndexUpdate.nodeId_of_shown shown]
      rw [removing] at distinct
      exact distinct.symm
  have reached : Undisturbed codec base updates earlier final := by
    refine run.invariant ?_ ?_
    · exact .inr (.inr (startUpdates_idle holds))
    · intro state turn next held takes
      exact held.after (taken_of_takes takes.1) removing absent stillAbsent
  rcases reached with doomed | doomed | idle
  · exact absurd (ended earlier) doomed.ne_ok
  · exact absurd (ended earlier.other) doomed.ne_ok
  · have finished := idle.proceeds.finished (ended earlier)
    cases progress : final.world.2 earlier with
    | underway =>
        rw [progress] at finished
        exact finished rfl
    | movedIn => exact holds_of_indexText (idle.live progress)
    | failed => exact absurd progress idle.whole

/-- In order, the index in the end is that of both updates one after the
other. -/
theorem holds_of_order {files : Slot → Option Text}
    {trace : List (UpdateTurn Text)} {final : Updates Text}
    (holds : Holds codec files base)
    (present : ¬∃ nodeId, updates earlier.other = .remove nodeId ∧
      ∀ node ∈ base, node.nodeId ≠ nodeId)
    (run : Run (TakesInOrder base updates earlier)
      (startUpdates codec files updates) trace final)
    (ended : ∀ side, final.script side = .done (.ok ())) :
    Holds codec final.world.1
      ((updates earlier.other).result ((updates earlier).result base)) := by
  have reached : InPhase codec base updates earlier final := by
    refine run.invariant ?_ ?_
    · exact .inr (.inr (.inl (startUpdates_behind holds)))
    · intro state turn next held takes
      exact held.after (taken_of_takes takes.1) takes.2 present
  rcases reached with doomed | doomed | behind | through
  · exact absurd (ended earlier) doomed.ne_ok
  · exact absurd (ended earlier.other) doomed.ne_ok
  · -- An update that has not taken its snapshot has not ended.
    rcases behind.opening with starting | starting
    · rw [ended, IndexUpdate.script_eq] at starting
      cases starting
    · rw [ended] at starting
      cases starting
  · have finished := through.proceeds.finished (ended earlier.other)
    cases progress : final.world.2 earlier.other with
    | underway =>
        rw [progress] at finished
        exact finished rfl
    | movedIn => exact holds_of_indexText (through.live progress)
    | failed =>
        rw [progress] at finished
        exact absurd rfl finished

end Order

/-- In every interleaving of two updates under different ids that both
complete, the final index shows both effects and every other node as it was,
when one of the two (either one) takes its snapshot only after the other has
moved its index in or has ended, or finds nothing to remove. -/
theorem both_updates_kept {codec : JsonCodec Text}
    {base : List InstalledEnrollmentNode} {updates : Side → IndexUpdate}
    {earlier : Side} {files : Slot → Option Text}
    {trace : List (UpdateTurn Text)} {final : Updates Text}
    (distinct : (updates .left).nodeId ≠ (updates .right).nodeId)
    (holds : Holds codec files base)
    (run : Run (TakesInOrder base updates earlier)
      (startUpdates codec files updates) trace final)
    (ended : ∀ side, final.script side = .done (.ok ())) :
    ∃ nodes, Holds codec final.world.1 nodes ∧
      (∀ side, (updates side).Effective nodes) ∧
      nodes.filter (aside updates) = base.filter (aside updates) := by
  have apart : (updates earlier).nodeId ≠ (updates earlier.other).nodeId := by
    cases earlier with
    | left => exact distinct
    | right => exact distinct.symm
  have both {nodes : List InstalledEnrollmentNode}
      (first : (updates earlier).Effective nodes)
      (second : (updates earlier.other).Effective nodes) (side : Side) :
      (updates side).Effective nodes := by
    rcases side.eq_or_eq_other earlier with rfl | rfl
    · exact first
    · exact second
  by_cases nothing : ∃ nodeId, updates earlier.other = .remove nodeId ∧
      ∀ node ∈ base, node.nodeId ≠ nodeId
  · obtain ⟨nodeId, removing, absent⟩ := nothing
    refine ⟨(updates earlier).result base, ?_, ?_, ?_⟩
    · exact holds_of_absent holds apart.symm removing absent run ended
    · apply both
      · exact (updates earlier).effective_result base
      · apply IndexUpdate.Effective.of_result apart.symm
        rw [removing]
        apply List.filter_eq_nil_iff.mpr
        intro node member same
        exact absent node member (of_decide_eq_true same)
    · exact filter_aside_result earlier base
  · refine ⟨(updates earlier.other).result ((updates earlier).result base),
      ?_, ?_, ?_⟩
    · exact holds_of_order holds nothing run ended
    · apply both
      · exact ((updates earlier).effective_result base).of_result apart
      · exact (updates earlier.other).effective_result _
    · rw [filter_aside_result, filter_aside_result]

/-- Two nodes that are installed at the same time. -/
def sampleUpdates : Side → IndexUpdate
  | .left => .upsert (sampleNode "a")
  | .right => .upsert (sampleNode "b")

def textOf (nodeIds : List String) : Foundation.Text :=
  indexText Json.texts (nodeIds.map sampleNode)

/-- The calls of a commit when there is no index yet. -/
def firstCommit (side : Side) (text : Foundation.Text) :
    List (UpdateTurn Foundation.Text) := [
  ⟨side, .createParent, .ok ()⟩,
  ⟨side, .write .temporary text, .ok ()⟩,
  ⟨side, .look .previous, .ok false⟩,
  ⟨side, .look .live, .ok false⟩,
  ⟨side, .rename .temporary .live, .ok ()⟩,
  ⟨side, .look .previous, .ok false⟩]

/-- The calls of a commit when there is one. -/
def laterCommit (side : Side) (text : Foundation.Text) :
    List (UpdateTurn Foundation.Text) := [
  ⟨side, .createParent, .ok ()⟩,
  ⟨side, .write .temporary text, .ok ()⟩,
  ⟨side, .look .previous, .ok false⟩,
  ⟨side, .look .live, .ok true⟩,
  ⟨side, .rename .live .previous, .ok ()⟩,
  ⟨side, .rename .temporary .live, .ok ()⟩,
  ⟨side, .look .previous, .ok true⟩,
  ⟨side, .delete .previous, .ok ()⟩]

theorem inOrder_left {base : List InstalledEnrollmentNode}
    {updates : Side → IndexUpdate} {state next : Updates Text}
    {call : FileCall Slot Text} {reply : call.Reply ClientException}
    (takes : Takes answersFor state ⟨.left, call, reply⟩ next) :
    TakesInOrder base updates .left state ⟨.left, call, reply⟩ next := by
  refine ⟨takes, ?_⟩
  intro whose
  cases whose

theorem inOrder_right {base : List InstalledEnrollmentNode}
    {updates : Side → IndexUpdate} {state next : Updates Text}
    {call : FileCall Slot Text} {reply : call.Reply ClientException}
    (takes : Takes answersFor state ⟨.right, call, reply⟩ next)
    (ended : state.script .left = .done (.ok ())) :
    TakesInOrder base updates .left state ⟨.right, call, reply⟩ next := by
  refine ⟨takes, ?_⟩
  intro _ _
  exact .inr (.inl ⟨_, ended⟩)

/-- An update reads an index that parses, and goes on with its nodes. -/
theorem takes_reading {codec : JsonCodec Text} (update : IndexUpdate)
    {nodes : List InstalledEnrollmentNode} {state : Updates Text}
    {side : Side} {text : Text}
    (starting : state.script side = update.reading codec)
    (stored : state.world.1 .live = some text)
    (accepted : parse codec text = .ok nodes) :
    Takes answersFor state ⟨side, .read .live, .ok text⟩
      ⟨(state.world.1, Function.update state.world.2 side
          (observeProgress (.read .live) (.ok text) (state.world.2 side))),
        Function.update state.script side (update.finish codec nodes)⟩ := by
  have takes := takes_answered starting
    (⟨rfl, .inr ⟨text, stored, rfl⟩⟩ :
      FileCall.Answers state.world.1 (.read .live) (.ok text) state.world.1)
  change Takes answersFor state ⟨side, .read .live, .ok text⟩
    ⟨_, Function.update state.script side
      (ExceptT.bindCont (update.finish codec) (parse codec text))⟩ at takes
  rw [accepted] at takes
  exact takes

/-- The second node is installed after the first. -/
theorem updates_in_turn : ∃ final,
    Run (TakesInOrder [] sampleUpdates .left)
      (startUpdates Json.texts (fun _ => none) sampleUpdates)
      (⟨.left, .look .live, .ok false⟩ ::
        (firstCommit .left (textOf ["a"]) ++
          ⟨.right, .look .live, .ok true⟩ ::
          ⟨.right, .read .live, .ok (textOf ["a"])⟩ ::
          laterCommit .right (textOf ["a", "b"]))) final ∧
      (∀ side, final.script side = .done (.ok ())) := by
  have loaded : parse Json.texts (textOf ["a"]) = .ok [sampleNode "a"] := by
    decide +kernel
  refine Run.exists_cons (inOrder_left (takes_answered rfl ⟨rfl, .inr rfl⟩)) ?_
  refine Run.exists_cons (inOrder_left (takes_answered rfl rfl)) ?_
  refine Run.exists_cons
    (inOrder_left (takes_answered rfl (.inr ⟨rfl, rfl⟩))) ?_
  refine Run.exists_cons (inOrder_left (takes_answered rfl ⟨rfl, .inr rfl⟩)) ?_
  refine Run.exists_cons (inOrder_left (takes_answered rfl ⟨rfl, .inr rfl⟩)) ?_
  refine Run.exists_cons
    (inOrder_left (takes_answered rfl (.inr ⟨_, rfl, rfl, rfl⟩))) ?_
  refine Run.exists_cons (inOrder_left (takes_answered rfl ⟨rfl, .inr rfl⟩)) ?_
  refine Run.exists_cons
    (inOrder_right (takes_answered rfl ⟨rfl, .inr rfl⟩) rfl) ?_
  refine Run.exists_cons
    (inOrder_right (takes_reading (sampleUpdates .right) rfl rfl loaded) rfl) ?_
  refine Run.exists_cons (inOrder_right (takes_answered rfl rfl) rfl) ?_
  refine Run.exists_cons
    (inOrder_right (takes_answered rfl (.inr ⟨rfl, rfl⟩)) rfl) ?_
  refine Run.exists_cons
    (inOrder_right (takes_answered rfl ⟨rfl, .inr rfl⟩) rfl) ?_
  refine Run.exists_cons
    (inOrder_right (takes_answered rfl ⟨rfl, .inr rfl⟩) rfl) ?_
  refine Run.exists_cons
    (inOrder_right (takes_answered rfl (.inr ⟨_, rfl, rfl, rfl⟩)) rfl) ?_
  refine Run.exists_cons
    (inOrder_right (takes_answered rfl (.inr ⟨_, rfl, rfl, rfl⟩)) rfl) ?_
  refine Run.exists_cons
    (inOrder_right (takes_answered rfl ⟨rfl, .inr rfl⟩) rfl) ?_
  refine Run.exists_cons
    (inOrder_right (takes_answered rfl (.inr ⟨rfl, rfl, rfl⟩)) rfl) ?_
  refine ⟨_, .nil, ?_⟩
  intro side
  cases side with
  | left => rfl
  | right => rfl

theorem both_updates_kept_in_turn : ∃ final : Updates Foundation.Text,
    (∀ side, final.script side = .done (.ok ())) ∧
      ∃ nodes, Holds Json.texts final.world.1 nodes ∧
        (∀ side, (sampleUpdates side).Effective nodes) ∧
        nodes.filter (aside sampleUpdates) = [] := by
  obtain ⟨final, run, ended⟩ := updates_in_turn
  have distinct : (sampleUpdates .left).nodeId ≠
      (sampleUpdates .right).nodeId := by decide
  have empty : Holds Json.texts (fun _ => none) [] := rfl
  exact ⟨final, ended, both_updates_kept distinct empty run ended⟩

/-- Both updates find no index, and the one that commits last keeps only its
own node. -/
theorem updates_overlap : ∃ final,
    Run (Takes answersFor)
      (startUpdates Json.texts (fun _ => none) sampleUpdates)
      (⟨.left, .look .live, .ok false⟩ ::
        ⟨.right, .look .live, .ok false⟩ ::
        (firstCommit .left (textOf ["a"]) ++
          laterCommit .right (textOf ["b"]))) final ∧
      (∀ side, final.script side = .done (.ok ())) ∧
      final.world.1 .live = some (textOf ["b"]) := by
  refine Run.exists_cons (takes_answered rfl ⟨rfl, .inr rfl⟩) ?_
  refine Run.exists_cons (takes_answered rfl ⟨rfl, .inr rfl⟩) ?_
  refine Run.exists_cons (takes_answered rfl rfl) ?_
  refine Run.exists_cons (takes_answered rfl (.inr ⟨rfl, rfl⟩)) ?_
  refine Run.exists_cons (takes_answered rfl ⟨rfl, .inr rfl⟩) ?_
  refine Run.exists_cons (takes_answered rfl ⟨rfl, .inr rfl⟩) ?_
  refine Run.exists_cons (takes_answered rfl (.inr ⟨_, rfl, rfl, rfl⟩)) ?_
  refine Run.exists_cons (takes_answered rfl ⟨rfl, .inr rfl⟩) ?_
  refine Run.exists_cons (takes_answered rfl rfl) ?_
  refine Run.exists_cons (takes_answered rfl (.inr ⟨rfl, rfl⟩)) ?_
  refine Run.exists_cons (takes_answered rfl ⟨rfl, .inr rfl⟩) ?_
  refine Run.exists_cons (takes_answered rfl ⟨rfl, .inr rfl⟩) ?_
  refine Run.exists_cons (takes_answered rfl (.inr ⟨_, rfl, rfl, rfl⟩)) ?_
  refine Run.exists_cons (takes_answered rfl (.inr ⟨_, rfl, rfl, rfl⟩)) ?_
  refine Run.exists_cons (takes_answered rfl ⟨rfl, .inr rfl⟩) ?_
  refine Run.exists_cons (takes_answered rfl (.inr ⟨rfl, rfl, rfl⟩)) ?_
  refine ⟨_, .nil, ?_, ?_⟩
  · intro side
    cases side with
    | left => rfl
    | right => rfl
  · rfl

theorem overlapping_update_lost :
    ¬∀ (updates : Side → IndexUpdate) (files : Slot → Option Foundation.Text)
      (base : List InstalledEnrollmentNode)
      (trace : List (UpdateTurn Foundation.Text))
      (final : Updates Foundation.Text),
      (updates .left).nodeId ≠ (updates .right).nodeId →
      Holds Json.texts files base →
      Run (Takes answersFor) (startUpdates Json.texts files updates) trace
        final →
      (∀ side, final.script side = .done (.ok ())) →
      ∃ nodes, Holds Json.texts final.world.1 nodes ∧
        (∀ side, (updates side).Effective nodes) ∧
        nodes.filter (aside updates) = base.filter (aside updates) := by
  intro kept
  obtain ⟨final, run, ended, live⟩ := updates_overlap
  have distinct : (sampleUpdates .left).nodeId ≠
      (sampleUpdates .right).nodeId := by decide
  have empty : Holds Json.texts (fun _ => none) [] := rfl
  obtain ⟨nodes, holds, effective, _⟩ :=
    kept _ _ _ _ _ distinct empty run ended
  have loaded : parse Json.texts (textOf ["b"]) = .ok [sampleNode "b"] := by
    decide +kernel
  have only := holds.eq_of_parse live loaded
  have shown := effective .left
  rw [← only] at shown
  cases shown

end Velum.Client
