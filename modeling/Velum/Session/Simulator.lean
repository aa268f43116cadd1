import Mathlib.Data.List.Perm.Basic
import Velum.Foundation.TransitionSystem
import Velum.Session.Tracer

/-!
# The simulated carrier

A carrier in memory schedules attempts and hands them out when their delay has
ended.  It drops what it is told to drop and what arrives while it is
unavailable; everything else comes out as often as it went in.
-/

namespace Velum.Session

open Foundation

/-- What the carrier does with one attempt. -/
inductive CarrierDisposition where
  | deliver
  | drop
  | duplicate
  | delay (ticks : UInt64)
  deriving DecidableEq, Repr

structure ScheduledSegment where
  readyAt : UInt64
  segment : Segment
  deriving DecidableEq, Repr

structure InMemoryCarrier where
  tick : UInt64
  available : Bool
  scheduled : List ScheduledSegment
  deriving DecidableEq, Repr

namespace InMemoryCarrier

def new : InMemoryCarrier where
  tick := 0
  available := true
  scheduled := []

def setAvailable (carrier : InMemoryCarrier) (available : Bool) :
    InMemoryCarrier :=
  { carrier with available }

/-- Here and below `none` is the panic of an exhausted tick. -/
def schedule (carrier : InMemoryCarrier) (segment : Segment)
    (delay : UInt64) : Option InMemoryCarrier :=
  (checkedAdd carrier.tick delay).map fun readyAt =>
    { carrier with
      scheduled := carrier.scheduled ++ [{ readyAt, segment }] }

def transmit (carrier : InMemoryCarrier) (segment : Segment)
    (disposition : CarrierDisposition) : Option InMemoryCarrier :=
  if !carrier.available || disposition = .drop then some carrier
  else do
    let delay := match disposition with
      | .delay ticks => ticks
      | _ => 0
    let scheduled ← carrier.schedule segment delay
    if disposition = .duplicate then scheduled.schedule segment delay
    else some scheduled

/-- Lets time pass and returns the segments whose delay has ended, in the
order in which they were scheduled. -/
def advance (carrier : InMemoryCarrier) (ticks : UInt64) :
    Option (List Segment × InMemoryCarrier) :=
  (checkedAdd carrier.tick ticks).map fun tick =>
    (((carrier.scheduled.filter fun scheduled =>
        scheduled.readyAt ≤ tick).map ScheduledSegment.segment),
      { carrier with
        tick
        scheduled := carrier.scheduled.filter fun scheduled =>
          ¬scheduled.readyAt ≤ tick })

def pending (carrier : InMemoryCarrier) : Nat :=
  carrier.scheduled.length

end InMemoryCarrier

/-! ## Runs of the carrier -/

inductive CarrierMove where
  | switched (available : Bool)
  | transmitted (segment : Segment) (disposition : CarrierDisposition)
  | advanced (ticks : UInt64) (ready : List Segment)

namespace InMemoryCarrier

inductive Step : InMemoryCarrier → CarrierMove → InMemoryCarrier → Prop where
  | setAvailable {carrier : InMemoryCarrier} (available : Bool) :
      Step carrier (.switched available) (carrier.setAvailable available)
  | transmit {carrier next : InMemoryCarrier} {segment : Segment}
      {disposition : CarrierDisposition}
      (called : carrier.transmit segment disposition = some next) :
      Step carrier (.transmitted segment disposition) next
  | advance {carrier next : InMemoryCarrier} {ticks : UInt64}
      {ready : List Segment}
      (called : carrier.advance ticks = some (ready, next)) :
      Step carrier (.advanced ticks ready) next

end InMemoryCarrier

/-- Everything that the carrier has returned. -/
def returnedSegments (trace : List CarrierMove) : List Segment :=
  trace.flatMap fun
    | .advanced _ ready => ready
    | _ => []

/-- How many copies of an attempt an available carrier takes, and how long
each of them is on its way. -/
def CarrierDisposition.copies : CarrierDisposition → List Nat
  | .deliver => [0]
  | .drop => []
  | .duplicate => [0, 0]
  | .delay ticks => [ticks.toNat]

/-- What the moves so far ask of the carrier: its clock, whether it takes
attempts, and the copies taken, each with the tick at which it is due. -/
structure CarrierLedger where
  tick : Nat
  available : Bool
  taken : List (Nat × Segment)

namespace CarrierLedger

def empty : CarrierLedger where
  tick := 0
  available := true
  taken := []

def note (ledger : CarrierLedger) : CarrierMove → CarrierLedger
  | .switched available => { ledger with available }
  | .transmitted segment disposition =>
      if ledger.available then
        { ledger with
          taken := ledger.taken ++ disposition.copies.map fun delay =>
            (ledger.tick + delay, segment) }
      else ledger
  | .advanced ticks _ => { ledger with tick := ledger.tick + ticks.toNat }

def ofTrace (trace : List CarrierMove) : CarrierLedger :=
  trace.foldl note empty

/-- The copies that are due at the present tick. -/
def due (ledger : CarrierLedger) : List (Nat × Segment) :=
  ledger.taken.filter fun copy => copy.1 ≤ ledger.tick

@[simp] theorem ofTrace_snoc (trace : List CarrierMove) (move : CarrierMove) :
    ofTrace (trace ++ [move]) = (ofTrace trace).note move := by
  rw [ofTrace, List.foldl_append]
  rfl

end CarrierLedger

@[simp] theorem returnedSegments_snoc (trace : List CarrierMove)
    (move : CarrierMove) :
    returnedSegments (trace ++ [move]) =
      returnedSegments trace ++ returnedSegments [move] := by
  simp [returnedSegments]

namespace InMemoryCarrier

/-- A scheduled segment with the tick at which it is due. -/
def copyOf (scheduled : ScheduledSegment) : Nat × Segment :=
  (scheduled.readyAt.toNat, scheduled.segment)

theorem schedule_eq_some {carrier next : InMemoryCarrier} {segment : Segment}
    {delay : UInt64} (called : carrier.schedule segment delay = some next) :
    next.tick = carrier.tick ∧ next.available = carrier.available ∧
      next.scheduled.map copyOf = carrier.scheduled.map copyOf ++
        [(carrier.tick.toNat + delay.toNat, segment)] := by
  obtain ⟨readyAt, added, rfl⟩ := Option.map_eq_some_iff.mp called
  have due := checkedAdd_eq_some_iff.mp added
  exact ⟨rfl, rfl, by simp [copyOf, due]⟩

/-- An attempt schedules the copies of its disposition, if any are taken. -/
theorem transmit_eq_some {carrier next : InMemoryCarrier}
    {segment : Segment} {disposition : CarrierDisposition}
    (called : carrier.transmit segment disposition = some next) :
    next.tick = carrier.tick ∧ next.available = carrier.available ∧
      next.scheduled.map copyOf = carrier.scheduled.map copyOf ++
        if carrier.available then
          disposition.copies.map fun delay =>
            (carrier.tick.toNat + delay, segment)
        else [] := by
  unfold transmit at called
  cases up : carrier.available with
  | false =>
      rw [up] at called
      cases called
      exact ⟨rfl, up, by simp⟩
  | true =>
      rw [up] at called
      cases disposition with
      | drop =>
          cases called
          exact ⟨rfl, up, by simp [CarrierDisposition.copies]⟩
      | deliver =>
          have made := schedule_eq_some
            (show carrier.schedule segment 0 = some next by simpa using called)
          simpa [up, CarrierDisposition.copies] using made
      | delay ticks =>
          have made := schedule_eq_some
            (show carrier.schedule segment ticks = some next by
              simpa using called)
          simpa [up, CarrierDisposition.copies] using made
      | duplicate =>
          obtain ⟨once, first, second⟩ : ∃ once,
              carrier.schedule segment 0 = some once ∧
                once.schedule segment 0 = some next := by
            simpa [Option.bind_eq_some_iff] using called
          obtain ⟨sameTick, sameState, one⟩ := schedule_eq_some first
          obtain ⟨tick, state, two⟩ := schedule_eq_some second
          refine ⟨tick.trans sameTick, state.trans (sameState.trans up), ?_⟩
          simp [two, one, sameTick, CarrierDisposition.copies]

/-- Attempts succeed as long as their delays end before the last tick. -/
theorem exists_transmit {carrier : InMemoryCarrier} (segment : Segment)
    (disposition : CarrierDisposition)
    (room : ∀ delay ∈ disposition.copies,
      carrier.tick.toNat + delay < 2 ^ 64) :
    ∃ next, carrier.transmit segment disposition = some next := by
  have scheduled : ∀ (before : InMemoryCarrier) (delay : UInt64),
      before.tick.toNat + delay.toNat < 2 ^ 64 →
      ∃ next, before.schedule segment delay = some next := by
    intro before delay fits
    cases added : checkedAdd before.tick delay with
    | none =>
        have large := checkedAdd_eq_none_iff.mp added
        omega
    | some readyAt => exact ⟨_, by rw [schedule, added, Option.map_some]⟩
  unfold transmit
  cases carrier.available with
  | false => exact ⟨carrier, rfl⟩
  | true =>
      cases disposition with
      | drop => exact ⟨carrier, rfl⟩
      | deliver =>
          obtain ⟨next, made⟩ := scheduled carrier 0
            (room 0 List.mem_cons_self)
          exact ⟨next, by simpa using made⟩
      | delay ticks =>
          obtain ⟨next, made⟩ := scheduled carrier ticks
            (room ticks.toNat List.mem_cons_self)
          exact ⟨next, by simpa using made⟩
      | duplicate =>
          have fits := room 0 List.mem_cons_self
          obtain ⟨once, first⟩ := scheduled carrier 0 fits
          obtain ⟨sameTick, _, _⟩ := schedule_eq_some first
          obtain ⟨next, second⟩ := scheduled once 0 (by
            rw [sameTick]
            exact fits)
          exact ⟨next, by simpa [first] using second⟩

/-- Time splits the schedule into what is due and what is not. -/
theorem advance_eq_some {carrier next : InMemoryCarrier} {ticks : UInt64}
    {ready : List Segment}
    (called : carrier.advance ticks = some (ready, next)) :
    next.tick.toNat = carrier.tick.toNat + ticks.toNat ∧
      next.available = carrier.available ∧
      ready = ((carrier.scheduled.map copyOf).filter fun copy =>
        copy.1 ≤ next.tick.toNat).map Prod.snd ∧
      next.scheduled.map copyOf =
        (carrier.scheduled.map copyOf).filter fun copy =>
          ¬copy.1 ≤ next.tick.toNat := by
  obtain ⟨tick, added, same⟩ := Option.map_eq_some_iff.mp called
  cases same
  refine ⟨checkedAdd_eq_some_iff.mp added, rfl, ?_, ?_⟩
  · rw [List.filter_map, List.map_map]
    rfl
  · rw [List.filter_map]
    rfl

/-! ## Conservation -/

/-- The carrier against its ledger.  The copies handed out so far are due, and
together with the scheduled ones they are the copies taken. -/
structure Keeps (ledger : CarrierLedger) (returned : List Segment)
    (carrier : InMemoryCarrier) : Prop where
  tick : carrier.tick.toNat = ledger.tick
  available : carrier.available = ledger.available
  inOrder : (carrier.scheduled.map copyOf).Sublist ledger.taken
  handed : ∃ handed : List (Nat × Segment),
    handed.map Prod.snd = returned ∧
      (∀ copy ∈ handed, copy.1 ≤ ledger.tick) ∧
      (handed ++ carrier.scheduled.map copyOf).Perm ledger.taken

theorem keeps_new : new.Keeps .empty [] where
  tick := rfl
  available := rfl
  inOrder := .slnil
  handed := ⟨[], rfl, by simp, .refl _⟩

namespace Keeps

variable {ledger : CarrierLedger} {returned ready : List Segment}
  {carrier next : InMemoryCarrier}

theorem transmit (keeps : carrier.Keeps ledger returned) {segment : Segment}
    {disposition : CarrierDisposition}
    (called : carrier.transmit segment disposition = some next) :
    next.Keeps (ledger.note (.transmitted segment disposition)) returned := by
  obtain ⟨tick, state, scheduled⟩ := transmit_eq_some called
  obtain ⟨handed, same, passed, whole⟩ := keeps.handed
  rw [keeps.available, keeps.tick] at scheduled
  unfold CarrierLedger.note
  cases up : ledger.available with
  | false =>
      rw [up] at scheduled
      simp only [Bool.false_eq_true, if_false, List.append_nil] at scheduled ⊢
      refine ⟨by rw [tick, keeps.tick], by rw [state, keeps.available], ?_,
        handed, same, passed, ?_⟩
      · rw [scheduled]
        exact keeps.inOrder
      · rw [scheduled]
        exact whole
  | true =>
      rw [up] at scheduled
      simp only [if_true] at scheduled ⊢
      refine ⟨by rw [tick, keeps.tick],
        by rw [state, keeps.available, up], ?_, handed, same, passed, ?_⟩
      · rw [scheduled]
        exact keeps.inOrder.append (.refl _)
      · rw [scheduled, ← List.append_assoc]
        exact whole.append_right _

theorem advance (keeps : carrier.Keeps ledger returned) {ticks : UInt64}
    (called : carrier.advance ticks = some (ready, next)) :
    next.Keeps (ledger.note (.advanced ticks ready)) (returned ++ ready) ∧
      (∀ copy ∈ next.scheduled.map copyOf,
        ¬copy.1 ≤ (ledger.note (.advanced ticks ready)).tick) ∧
      ready.Sublist (ledger.taken.map Prod.snd) := by
  obtain ⟨tick, state, isReady, left⟩ := advance_eq_some called
  have clock : next.tick.toNat = ledger.tick + ticks.toNat := by
    rw [tick, keeps.tick]
  obtain ⟨handed, same, passed, whole⟩ := keeps.handed
  rw [clock] at isReady left
  refine ⟨⟨clock, state.trans keeps.available, ?_, ?_⟩, ?_, ?_⟩
  · rw [left]
    exact List.filter_sublist.trans keeps.inOrder
  · refine ⟨handed ++ (carrier.scheduled.map copyOf).filter fun copy =>
      copy.1 ≤ ledger.tick + ticks.toNat, ?_, ?_, ?_⟩
    · rw [List.map_append, same, isReady]
    · intro copy member
      rcases List.mem_append.mp member with earlier | now
      · exact (passed copy earlier).trans (Nat.le_add_right _ _)
      · exact of_decide_eq_true (List.mem_filter.mp now).2
    · rw [left, List.append_assoc]
      have parts := List.filter_append_perm
        (fun copy : Nat × Segment => copy.1 ≤ ledger.tick + ticks.toNat)
        (carrier.scheduled.map copyOf)
      simp only [decide_not] at parts ⊢
      exact (parts.append_left handed).trans whole
  · intro copy member
    rw [left] at member
    simpa [CarrierLedger.note] using (List.mem_filter.mp member).2
  · rw [isReady]
    exact (List.filter_sublist.trans keeps.inOrder).map Prod.snd

theorem step (keeps : carrier.Keeps ledger returned) {move : CarrierMove}
    (step : Step carrier move next) :
    next.Keeps (ledger.note move) (returned ++ returnedSegments [move]) := by
  cases step with
  | setAvailable available =>
      simp only [returnedSegments, List.flatMap_singleton, List.append_nil]
      exact ⟨keeps.tick, rfl, keeps.inOrder, keeps.handed⟩
  | transmit called =>
      simpa [returnedSegments] using keeps.transmit called
  | advance called =>
      simpa [returnedSegments] using (keeps.advance called).1

/-- What is scheduled is not due, so what has been handed out is what is
due. -/
theorem returned_perm_due (keeps : carrier.Keeps ledger returned)
    (waiting : ∀ copy ∈ carrier.scheduled.map copyOf,
      ¬copy.1 ≤ ledger.tick) :
    returned.Perm (ledger.due.map Prod.snd) := by
  obtain ⟨handed, rfl, passed, whole⟩ := keeps.handed
  have parted := whole.filter fun copy : Nat × Segment =>
    copy.1 ≤ ledger.tick
  have early : handed.filter (fun copy => copy.1 ≤ ledger.tick) = handed :=
    List.filter_eq_self.mpr fun copy member =>
      decide_eq_true (passed copy member)
  have late : (carrier.scheduled.map copyOf).filter
      (fun copy => copy.1 ≤ ledger.tick) = [] :=
    List.filter_eq_nil_iff.mpr fun copy member reached =>
      waiting copy member (of_decide_eq_true reached)
  rw [List.filter_append, early, late, List.append_nil] at parted
  exact parted.map Prod.snd

end Keeps

theorem run_keeps {trace : List CarrierMove} {carrier : InMemoryCarrier}
    (run : Run Step new trace carrier) :
    carrier.Keeps (.ofTrace trace) (returnedSegments trace) := by
  induction run with
  | nil => exact keeps_new
  | snoc _ move induction =>
      rw [CarrierLedger.ofTrace_snoc, returnedSegments_snoc]
      exact induction.step move

/-- Every copy that the carrier takes is returned once or still scheduled, and
right after time has passed the returned copies are those that are due, each
batch in the order in which its copies were taken. -/
theorem copies_returned_when_due {trace : List CarrierMove}
    {carrier : InMemoryCarrier} (run : Run Step new trace carrier) :
    (returnedSegments trace ++
        carrier.scheduled.map ScheduledSegment.segment).Perm
      ((CarrierLedger.ofTrace trace).taken.map Prod.snd) ∧
      ∀ front ticks ready, trace = front ++ [.advanced ticks ready] →
        (returnedSegments trace).Perm
            ((CarrierLedger.ofTrace trace).due.map Prod.snd) ∧
          ready.Sublist ((CarrierLedger.ofTrace front).taken.map Prod.snd) := by
  have keeps := run_keeps run
  constructor
  · obtain ⟨handed, same, _, whole⟩ := keeps.handed
    have segments := whole.map Prod.snd
    rw [List.map_append, same, List.map_map] at segments
    exact segments
  · rintro front ticks ready rfl
    obtain ⟨before, early, move⟩ := run.last
    cases move with
    | advance called =>
        obtain ⟨_, waiting, inOrder⟩ := (run_keeps early).advance called
        refine ⟨keeps.returned_perm_due ?_, inOrder⟩
        rw [CarrierLedger.ofTrace_snoc]
        exact waiting

def sampleSegment (number : UInt64) : Segment where
  flowId := ⟨0⟩
  epoch := ⟨0⟩
  sequence := ⟨number⟩
  bytes := [number.toUInt8]

/-- A delayed attempt, a duplicated one, and one in a black hole. -/
def sampleTrace : List CarrierMove :=
  [.transmitted (sampleSegment 0) (.delay 1),
    .transmitted (sampleSegment 1) .duplicate, .switched false,
    .transmitted (sampleSegment 2) .deliver,
    .advanced 0 [sampleSegment 1, sampleSegment 1]]

theorem copies_returned_when_due_sample :
    ∃ carrier, Run Step new sampleTrace carrier ∧
      ([sampleSegment 1, sampleSegment 1] ++
        carrier.scheduled.map ScheduledSegment.segment).Perm
          ((CarrierLedger.ofTrace sampleTrace).taken.map Prod.snd) ∧
      carrier.pending = 1 := by
  have start : Run Step new [] new := .nil
  have run := start.snoc
      (@Step.transmit _ _ (sampleSegment 0) (.delay 1) rfl)
    |>.snoc (@Step.transmit _ _ (sampleSegment 1) .duplicate rfl)
    |>.snoc (.setAvailable false)
    |>.snoc (@Step.transmit _ _ (sampleSegment 2) .deliver rfl)
    |>.snoc (@Step.advance _ _ 0 _ rfl)
  exact ⟨_, run, (copies_returned_when_due run).1, rfl⟩

end InMemoryCarrier

end Velum.Session
