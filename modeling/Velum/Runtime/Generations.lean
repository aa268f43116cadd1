import Velum.Runtime.NodePool

/-!
# Profile generations

Every generation comes from one counter of 64 bits.  As long as the counter has
not wrapped, every generation is installed at most once.  A call of `stop`
draws and installs under the lock of the pool.  A call of `activate` draws
before it has the lock, so calls may install in another order than the one in
which they drew.  This is the only way in which the visible generation can go
back.
-/

namespace Velum.Runtime.NodePool

open Foundation

variable {Configuration : Type}

def Event.draws : Event → Option UInt64
  | .draw generation => some generation
  | .drawAndInstall generation => some generation
  | _ => none

def Event.installs : Event → Option UInt64
  | .install generation => some generation
  | .drawAndInstall generation => some generation
  | _ => none

/-- The generations in the order in which they were drawn. -/
def drawn (trace : List Event) : List UInt64 :=
  trace.filterMap Event.draws

/-- The generations in the order in which they were installed. -/
def installed (trace : List Event) : List UInt64 :=
  trace.filterMap Event.installs

theorem drawn_snoc (trace : List Event) (event : Event) :
    drawn (trace ++ [event]) = drawn trace ++ event.draws.toList := by
  unfold drawn
  rw [List.filterMap_append]
  cases event <;> rfl

theorem installed_snoc (trace : List Event) (event : Event) :
    installed (trace ++ [event]) =
      installed trace ++ event.installs.toList := by
  unfold installed
  rw [List.filterMap_append]
  cases event <;> rfl

/-- The generation that a suspended call is about to install. -/
def Stage.drawn : Stage Configuration → Option UInt64
  | .activateInstall _ generation => some generation
  | _ => none

def pending (pool : NodePool Configuration) (call : Nat) : Option UInt64 :=
  (pool.calls call).bind Stage.drawn

theorem pending_setCall (pool : NodePool Configuration) (call : Nat)
    (stage : Option (Stage Configuration)) :
    (pool.setCall call stage).pending =
      Function.update pool.pending call (stage.bind Stage.drawn) := by
  funext other
  change (Function.update pool.calls call stage other).bind _ = _
  by_cases same : other = call
  · rw [same, Function.update_self, Function.update_self]
  · rw [Function.update_of_ne same, Function.update_of_ne same]
    rfl

/-- What a step does to the generations. -/
inductive Moves (pool next : NodePool Configuration) : Event → Prop where
  | quiet (state : next.state.generation = pool.state.generation)
      (counter : next.nextGeneration = pool.nextGeneration)
      (pending : next.pending = pool.pending) : Moves pool next .quiet
  | read (state : next.state.generation = pool.state.generation)
      (counter : next.nextGeneration = pool.nextGeneration)
      (pending : next.pending = pool.pending) :
      Moves pool next (.read pool.state.generation)
  | draw {call : Nat}
      (state : next.state.generation = pool.state.generation)
      (counter : next.nextGeneration = pool.nextGeneration + 1)
      (pending : next.pending =
        Function.update pool.pending call (some pool.nextGeneration)) :
      Moves pool next (.draw pool.nextGeneration)
  | install {call : Nat} {generation : UInt64}
      (waited : pool.pending call = some generation)
      (state : next.state.generation = generation)
      (counter : next.nextGeneration = pool.nextGeneration)
      (pending : next.pending = Function.update pool.pending call none) :
      Moves pool next (.install generation)
  | drawAndInstall (state : next.state.generation = pool.nextGeneration)
      (counter : next.nextGeneration = pool.nextGeneration + 1)
      (pending : next.pending = pool.pending) :
      Moves pool next (.drawAndInstall pool.nextGeneration)

/-- A call that neither had nor gets a drawn generation. -/
theorem pending_undrawn {pool : NodePool Configuration} {call : Nat}
    {before after : Option (Stage Configuration)}
    (stage : pool.calls call = before)
    (undrawnBefore : before.bind Stage.drawn = none)
    (undrawnAfter : after.bind Stage.drawn = none) :
    (pool.setCall call after).pending = pool.pending := by
  rw [pending_setCall, undrawnAfter]
  apply Function.update_eq_self_iff.mpr
  unfold pending
  rw [stage, undrawnBefore]

theorem next_undrawn (generation : UInt64) (runtime : Nat)
    (purpose : Purpose) :
    (Purpose.next generation runtime purpose :
      Option (Stage Configuration)).bind Stage.drawn = none := by
  cases purpose <;> rfl

theorem moves_of_step {pool next : NodePool Configuration} {event : Event}
    (step : Step pool event next) : Moves pool next event := by
  cases step with
  | generation => exact .read rfl rfl rfl
  | activateRefused refused => exact .quiet rfl rfl rfl
  | activate idle accepted found =>
      exact .quiet rfl rfl (pending_undrawn idle rfl rfl)
  | activateDrawn stage => exact .draw rfl rfl (pending_setCall _ _ _)
  | activateInstalled stage =>
      refine .install ?_ rfl rfl (pending_setCall _ _ _)
      unfold pending
      rw [stage]
      rfl
  | stop idle =>
      exact .drawAndInstall rfl rfl (pending_undrawn idle rfl rfl)
  | runtimeFor idle => exact .read rfl rfl (pending_undrawn idle rfl rfl)
  | stopDone stage | recheckPassed stage current
  | recheckFailed stage superseded | openDone stage =>
      exact .read rfl rfl (pending_undrawn stage rfl rfl)
  | lockedStarted stage free present | stored stage =>
      exact .quiet rfl rfl
        (pending_undrawn stage rfl (next_undrawn _ _ _))
  | activateStartFailed stage | activateStarted stage
  | activateStored stage free | activateDone stage
  | drainEmpty stage free empty | drainTaken stage free taken
  | drainStopped stage | resolveRefused stage refused
  | resolved stage current selected | lockedEmpty stage free empty
  | startFailed stage | started stage | discarded stage | openFailed stage
  | opened stage =>
      exact .quiet rfl rfl (pending_undrawn stage rfl rfl)

/-- What the history says about the generations of the pool, as long as the
counter has not wrapped. -/
structure Accounted (trace : List Event) (pool : NodePool Configuration) :
    Prop where
  increasing : (drawn trace).Pairwise (· < ·)
  below : ∀ generation ∈ drawn trace,
    0 < generation ∧ generation.toNat ≤ (drawn trace).length
  counter : pool.nextGeneration = UInt64.ofNat ((drawn trace).length + 1)
  installedDrawn : ∀ generation ∈ installed trace, generation ∈ drawn trace
  pendingDrawn : ∀ call generation, pool.pending call = some generation →
    generation ∈ drawn trace ∧ generation ∉ installed trace
  pendingOnce : ∀ first second generation,
    pool.pending first = some generation →
    pool.pending second = some generation → first = second
  visible : pool.state.generation = (installed trace).getLast?.getD 0

theorem accounted_initial :
    Accounted [] ({} : NodePool Configuration) where
  increasing := .nil
  below := nofun
  counter := rfl
  installedDrawn := nofun
  pendingDrawn := nofun
  pendingOnce := nofun
  visible := rfl

/-! The next draw does not wrap. -/

section Room

variable {trace : List Event} {pool : NodePool Configuration}
  (accounted : Accounted trace pool)
  (room : (drawn trace).length + 1 < 2 ^ 64)

include accounted room

theorem toNat_nextGeneration :
    pool.nextGeneration.toNat = (drawn trace).length + 1 := by
  rw [accounted.counter]
  exact UInt64.toNat_ofNat_of_lt' room

theorem nextGeneration_pos : 0 < pool.nextGeneration := by
  rw [UInt64.lt_iff_toNat_lt, toNat_nextGeneration accounted room]
  exact Nat.succ_pos _

/-- A generation that is about to be drawn is the largest. -/
theorem lt_nextGeneration :
    ∀ generation ∈ drawn trace, generation < pool.nextGeneration := by
  intro generation member
  rw [UInt64.lt_iff_toNat_lt, toNat_nextGeneration accounted room]
  exact Nat.lt_succ_of_le (accounted.below generation member).2

/-- A generation that is about to be drawn has not been drawn. -/
theorem fresh_generation : pool.nextGeneration ∉ drawn trace := by
  intro member
  exact UInt64.lt_irrefl _ (lt_nextGeneration accounted room _ member)

theorem increasing_snoc :
    (drawn trace ++ [pool.nextGeneration]).Pairwise (· < ·) := by
  refine List.pairwise_append.mpr
    ⟨accounted.increasing, List.pairwise_singleton _ _, ?_⟩
  intro generation member
  rw [List.forall_mem_singleton]
  exact lt_nextGeneration accounted room generation member

/-- No generation is larger than the number of draws. -/
theorem below_snoc :
    ∀ generation ∈ drawn trace ++ [pool.nextGeneration],
      0 < generation ∧ generation.toNat ≤
        (drawn trace ++ [pool.nextGeneration]).length := by
  rw [List.length_append, List.length_singleton, List.forall_mem_append,
    List.forall_mem_singleton]
  refine ⟨?_, nextGeneration_pos accounted room,
    Nat.le_of_eq (toNat_nextGeneration accounted room)⟩
  intro generation member
  obtain ⟨positive, below⟩ := accounted.below generation member
  exact ⟨positive, Nat.le_succ_of_le below⟩

end Room

theorem counter_snoc {trace : List Event} {pool : NodePool Configuration}
    (accounted : Accounted trace pool) :
    pool.nextGeneration + 1 = UInt64.ofNat
      ((drawn trace ++ [pool.nextGeneration]).length + 1) := by
  rw [List.length_append, List.length_singleton, UInt64.ofNat_add _ 1,
    ← accounted.counter]
  rfl

theorem accounted_still {trace later : List Event}
    {pool next : NodePool Configuration} (accounted : Accounted trace pool)
    (drew : drawn later = drawn trace)
    (placed : installed later = installed trace)
    (state : next.state.generation = pool.state.generation)
    (counter : next.nextGeneration = pool.nextGeneration)
    (pending : next.pending = pool.pending) : Accounted later next := by
  constructor
  · rw [drew]
    exact accounted.increasing
  · rw [drew]
    exact accounted.below
  · rw [drew, counter]
    exact accounted.counter
  · rw [drew, placed]
    exact accounted.installedDrawn
  · rw [drew, placed, pending]
    exact accounted.pendingDrawn
  · rw [pending]
    exact accounted.pendingOnce
  · rw [state, placed]
    exact accounted.visible

theorem accounted_draw {trace later : List Event} {call : Nat}
    {pool next : NodePool Configuration} (accounted : Accounted trace pool)
    (room : (drawn trace).length + 1 < 2 ^ 64)
    (drew : drawn later = drawn trace ++ [pool.nextGeneration])
    (placed : installed later = installed trace)
    (state : next.state.generation = pool.state.generation)
    (counter : next.nextGeneration = pool.nextGeneration + 1)
    (pending : next.pending =
      Function.update pool.pending call (some pool.nextGeneration)) :
    Accounted later next := by
  have fresh := fresh_generation accounted room
  constructor
  · rw [drew]
    exact increasing_snoc accounted room
  · rw [drew]
    exact below_snoc accounted room
  · rw [drew, counter]
    exact counter_snoc accounted
  · rw [drew, placed]
    intro generation member
    exact List.mem_append_left _ (accounted.installedDrawn _ member)
  · rw [drew, placed, pending]
    intro other generation waits
    by_cases same : other = call
    · rw [same, Function.update_self] at waits
      obtain rfl := Option.some.inj waits
      refine ⟨List.mem_append_right _ List.mem_cons_self, ?_⟩
      intro member
      exact fresh (accounted.installedDrawn _ member)
    · rw [Function.update_of_ne same] at waits
      obtain ⟨before, absent⟩ := accounted.pendingDrawn other generation waits
      exact ⟨List.mem_append_left _ before, absent⟩
  · rw [pending]
    intro first second generation waits waitsToo
    by_cases here : first = call
    · by_cases there : second = call
      · rw [here, there]
      · rw [here, Function.update_self] at waits
        rw [Function.update_of_ne there] at waitsToo
        obtain rfl := Option.some.inj waits
        exact absurd (accounted.pendingDrawn _ _ waitsToo).1 fresh
    · rw [Function.update_of_ne here] at waits
      by_cases there : second = call
      · rw [there, Function.update_self] at waitsToo
        obtain rfl := Option.some.inj waitsToo
        exact absurd (accounted.pendingDrawn _ _ waits).1 fresh
      · rw [Function.update_of_ne there] at waitsToo
        exact accounted.pendingOnce _ _ _ waits waitsToo
  · rw [state, placed]
    exact accounted.visible

theorem accounted_install {trace later : List Event}
    {call : Nat} {generation : UInt64} {pool next : NodePool Configuration}
    (accounted : Accounted trace pool)
    (waited : pool.pending call = some generation)
    (drew : drawn later = drawn trace)
    (placed : installed later = installed trace ++ [generation])
    (state : next.state.generation = generation)
    (counter : next.nextGeneration = pool.nextGeneration)
    (pending : next.pending = Function.update pool.pending call none) :
    Accounted later next := by
  have other {caller : Nat} {waiting : UInt64}
      (waits : next.pending caller = some waiting) :
      caller ≠ call ∧ pool.pending caller = some waiting := by
    rw [pending] at waits
    by_cases same : caller = call
    · rw [same, Function.update_self] at waits
      cases waits
    · rw [Function.update_of_ne same] at waits
      exact ⟨same, waits⟩
  constructor
  · rw [drew]
    exact accounted.increasing
  · rw [drew]
    exact accounted.below
  · rw [drew, counter]
    exact accounted.counter
  · rw [drew, placed, List.forall_mem_append, List.forall_mem_singleton]
    exact ⟨accounted.installedDrawn,
      (accounted.pendingDrawn call generation waited).1⟩
  · rw [drew, placed]
    intro caller waiting waits
    obtain ⟨different, before⟩ := other waits
    obtain ⟨member, absent⟩ := accounted.pendingDrawn caller waiting before
    refine ⟨member, ?_⟩
    intro now
    rcases List.mem_append.mp now with early | late
    · exact absent early
    · rw [List.mem_singleton.mp late] at before
      exact different (accounted.pendingOnce _ _ _ before waited)
  · intro first second waiting waits waitsToo
    exact accounted.pendingOnce _ _ _ (other waits).2 (other waitsToo).2
  · rw [state, placed, List.getLast?_concat]
    rfl

theorem accounted_drawAndInstall {trace later : List Event}
    {pool next : NodePool Configuration} (accounted : Accounted trace pool)
    (room : (drawn trace).length + 1 < 2 ^ 64)
    (drew : drawn later = drawn trace ++ [pool.nextGeneration])
    (placed : installed later = installed trace ++ [pool.nextGeneration])
    (state : next.state.generation = pool.nextGeneration)
    (counter : next.nextGeneration = pool.nextGeneration + 1)
    (pending : next.pending = pool.pending) : Accounted later next := by
  have fresh := fresh_generation accounted room
  constructor
  · rw [drew]
    exact increasing_snoc accounted room
  · rw [drew]
    exact below_snoc accounted room
  · rw [drew, counter]
    exact counter_snoc accounted
  · rw [drew, placed, List.forall_mem_append, List.forall_mem_singleton]
    refine ⟨?_, List.mem_append_right _ List.mem_cons_self⟩
    intro generation member
    exact List.mem_append_left _ (accounted.installedDrawn _ member)
  · rw [drew, placed, pending]
    intro call generation waits
    obtain ⟨member, absent⟩ := accounted.pendingDrawn call generation waits
    refine ⟨List.mem_append_left _ member, ?_⟩
    intro now
    rcases List.mem_append.mp now with early | late
    · exact absent early
    · rw [List.mem_singleton.mp late] at member
      exact fresh member
  · rw [pending]
    exact accounted.pendingOnce
  · rw [state, placed, List.getLast?_concat]
    rfl

theorem drawn_length_le (trace later : List Event) :
    (drawn trace).length ≤ (drawn (trace ++ later)).length := by
  unfold drawn
  rw [List.filterMap_append, List.length_append]
  exact Nat.le_add_right _ _

theorem accounted_step {trace : List Event} {event : Event}
    {pool next : NodePool Configuration} (accounted : Accounted trace pool)
    (step : Step pool event next)
    (few : (drawn (trace ++ [event])).length < 2 ^ 64) :
    Accounted (trace ++ [event]) next := by
  have drew := drawn_snoc trace event
  have placed := installed_snoc trace event
  have room (draws : event.draws.isSome) :
      (drawn trace).length + 1 < 2 ^ 64 := by
    obtain ⟨generation, found⟩ := Option.isSome_iff_exists.mp draws
    rw [drew, found, List.length_append] at few
    exact few
  cases moves_of_step step with
  | quiet state counter pending =>
      exact accounted_still accounted (drew.trans (List.append_nil _))
        (placed.trans (List.append_nil _)) state counter pending
  | read state counter pending =>
      exact accounted_still accounted (drew.trans (List.append_nil _))
        (placed.trans (List.append_nil _)) state counter pending
  | draw state counter pending =>
      exact accounted_draw accounted (room rfl) drew
        (placed.trans (List.append_nil _)) state counter pending
  | install waited state counter pending =>
      exact accounted_install accounted waited
        (drew.trans (List.append_nil _)) placed state counter pending
  | drawAndInstall state counter pending =>
      exact accounted_drawAndInstall accounted (room rfl) drew placed state
        counter pending

theorem accounted_of_run {trace : List Event}
    {pool : NodePool Configuration} (run : Run Step {} trace pool)
    (few : (drawn trace).length < 2 ^ 64) : Accounted trace pool := by
  induction run with
  | nil => exact accounted_initial
  | snoc _ step induction =>
      have fewer := Nat.lt_of_le_of_lt (drawn_length_le _ _) few
      exact accounted_step (induction fewer) step few

/-! ## The visible generation -/

/-- Two calls install in the opposite order of that in which they drew. -/
def Overtaken (trace : List Event) : Prop :=
  ∃ earlier later, [earlier, later].Sublist (drawn trace) ∧
    [later, earlier].Sublist (installed trace)

/-- Whatever is read first, nothing smaller is read later. -/
def NeverGoesBack (trace : List Event) (pool : NodePool Configuration) :
    Prop :=
  ∀ (first second third : List Event)
    (before after : NodePool Configuration),
    trace = first ++ second ++ third →
    Run Step {} first before → Run Step before second after →
    Run Step after third pool →
    before.state.generation ≤ after.state.generation

/-- In increasing lists order and size agree. -/
theorem sublist_of_lt {generations : List UInt64}
    (increasing : generations.Pairwise (· < ·)) {small large : UInt64}
    (hasSmall : small ∈ generations) (hasLarge : large ∈ generations)
    (less : small < large) : [small, large].Sublist generations := by
  induction generations with
  | nil => cases hasSmall
  | cons head tail induction =>
      rw [List.pairwise_cons] at increasing
      rcases List.mem_cons.mp hasSmall with rfl | smallLater
      · rcases List.mem_cons.mp hasLarge with rfl | largeLater
        · exact absurd less (UInt64.lt_irrefl _)
        · exact .cons_cons _ (List.singleton_sublist.mpr largeLater)
      · rcases List.mem_cons.mp hasLarge with rfl | largeLater
        · exact absurd less (UInt64.lt_asymm (increasing.1 small smallLater))
        · exact .cons _ (induction increasing.2 smallLater largeLater)

theorem lt_of_sublist {generations : List UInt64}
    (increasing : generations.Pairwise (· < ·)) {small large : UInt64}
    (ordered : [small, large].Sublist generations) : small < large :=
  List.rel_of_pairwise_cons (increasing.sublist ordered)
    List.mem_cons_self

theorem split_of_mem_installed {trace : List Event} {generation : UInt64}
    (member : generation ∈ installed trace) :
    ∃ front back, trace = front ++ back ∧
      (installed front).getLast? = some generation := by
  obtain ⟨event, occurs, installs⟩ := List.mem_filterMap.mp member
  obtain ⟨front, back, rfl⟩ := List.append_of_mem occurs
  refine ⟨front ++ [event], back, by simp, ?_⟩
  rw [installed_snoc, installs]
  exact List.getLast?_concat

theorem getLast_installed_append {front : List Event} {generation : UInt64}
    (events : List Event)
    (last : (installed front).getLast? = some generation) :
    (installed (events ++ front)).getLast? = some generation := by
  unfold installed at last ⊢
  rw [List.filterMap_append, List.getLast?_append, last]
  rfl

/-- Two installs in order split the history behind each of them. -/
theorem split_of_installed {trace : List Event} {first second : UInt64}
    (ordered : [first, second].Sublist (installed trace)) :
    ∃ front middle back, trace = front ++ middle ++ back ∧
      (installed front).getLast? = some first ∧
      (installed (front ++ middle)).getLast? = some second := by
  induction trace with
  | nil => cases ordered
  | cons event rest induction =>
      have extend (inRest : [first, second].Sublist (installed rest)) :
          ∃ front middle back, event :: rest = front ++ middle ++ back ∧
            (installed front).getLast? = some first ∧
            (installed (front ++ middle)).getLast? = some second := by
        obtain ⟨front, middle, back, rfl, lastFirst, lastSecond⟩ :=
          induction inRest
        exact ⟨[event] ++ front, middle, back, rfl,
          getLast_installed_append [event] lastFirst,
          getLast_installed_append [event] lastSecond⟩
      cases found : event.installs with
      | none =>
          unfold installed at ordered
          rw [List.filterMap_cons_none found] at ordered
          exact extend ordered
      | some generation =>
          have head : installed (event :: rest) =
              generation :: installed rest :=
            List.filterMap_cons_some found
          rw [head] at ordered
          cases ordered with
          | cons _ inRest => exact extend inRest
          | cons_cons _ behind =>
              obtain ⟨middle, back, rfl, last⟩ :=
                split_of_mem_installed (List.singleton_sublist.mp behind)
              refine ⟨[event], middle, back, rfl, ?_,
                getLast_installed_append [event] last⟩
              unfold installed
              rw [List.filterMap_cons_some found]
              rfl

/-- As long as the counter has not wrapped, the visible generation never goes
back exactly when no call is overtaken between its draw and its install. -/
theorem neverGoesBack_iff {trace : List Event}
    {pool : NodePool Configuration} (run : Run Step {} trace pool)
    (few : (drawn trace).length < 2 ^ 64) :
    NeverGoesBack trace pool ↔ ¬Overtaken trace := by
  have accounted := accounted_of_run run few
  have fewer {front back : List Event} (whole : trace = front ++ back) :
      (drawn front).length < 2 ^ 64 := by
    rw [whole] at few
    exact Nat.lt_of_le_of_lt (drawn_length_le front back) few
  constructor
  · intro monotone overtaken
    obtain ⟨earlier, later, drew, placed⟩ := overtaken
    have less := lt_of_sublist accounted.increasing drew
    obtain ⟨front, middle, back, rfl, lastLater, lastEarlier⟩ :=
      split_of_installed placed
    obtain ⟨after, toAfter, fromAfter⟩ := run.split
    obtain ⟨before, toBefore, between⟩ := toAfter.split
    have bound := monotone front middle back before after rfl toBefore
      between fromAfter
    rw [(accounted_of_run toBefore (fewer (List.append_assoc _ _ _))).visible,
      (accounted_of_run toAfter (fewer rfl)).visible, lastLater, lastEarlier]
      at bound
    exact absurd less (UInt64.not_lt.mpr bound)
  · intro inOrder first second third before after whole toBefore between
      fromAfter
    have visibleBefore := (accounted_of_run toBefore
      (fewer (whole.trans (List.append_assoc _ _ _)))).visible
    have visibleAfter :=
      (accounted_of_run (toBefore.append between) (fewer whole)).visible
    cases lastFirst : (installed first).getLast? with
    | none =>
        rw [visibleBefore, lastFirst]
        exact UInt64.zero_le
    | some earlier =>
    cases lastSecond : (installed second).getLast? with
    | none =>
        have same : installed (first ++ second) = installed first := by
          unfold installed at lastSecond ⊢
          rw [List.filterMap_append, List.getLast?_eq_none_iff.mp lastSecond,
            List.append_nil]
        rw [visibleBefore, visibleAfter, same]
        exact UInt64.le_refl _
    | some later =>
        rw [visibleBefore, visibleAfter, lastFirst,
          getLast_installed_append first lastSecond]
        apply UInt64.not_lt.mp
        intro less
        have placed : [earlier, later].Sublist (installed trace) := by
          rw [whole]
          unfold installed
          rw [List.filterMap_append, List.filterMap_append]
          have both := (List.singleton_sublist.mpr
            (List.mem_of_getLast? lastFirst)).append
            (List.singleton_sublist.mpr (List.mem_of_getLast? lastSecond))
          exact both.trans (List.sublist_append_left _ _)
        have drew (generation : UInt64)
            (member : generation ∈ [earlier, later]) :
            generation ∈ drawn trace :=
          accounted.installedDrawn _ (placed.subset member)
        exact inOrder ⟨later, earlier,
          sublist_of_lt accounted.increasing (drew later (by simp))
            (drew earlier (by simp)) less, placed⟩

/-- Two calls of `stop` install in the order in which they draw. -/
theorem neverGoesBack_of_stops :
    ∃ pool : NodePool Unit,
      Run Step {} [.drawAndInstall 1, .drawAndInstall 2] pool ∧
      NeverGoesBack [.drawAndInstall 1, .drawAndInstall 2] pool := by
  have first : Run Step {} [.drawAndInstall 1] _ :=
    .single (@Step.stop Unit {} 0 rfl)
  have second : Run Step {} [.drawAndInstall 1, .drawAndInstall 2] _ :=
    first.snoc (@Step.stop Unit _ 1 rfl)
  refine ⟨_, second, (neverGoesBack_iff second (by decide)).mpr ?_⟩
  intro overtaken
  obtain ⟨earlier, later, drew, placed⟩ := overtaken
  have increasing : [(1 : UInt64), 2].Pairwise (· < ·) := by decide
  have up := lt_of_sublist increasing drew
  have down := lt_of_sublist increasing placed
  exact UInt64.lt_asymm up down

/-- A profile whose only node is the default. -/
def soleNode : List (ResolvedNode Unit) :=
  [{ id := "node", nodeAlias := "name", configuration := () }]

/-- A call of `activate` on a new pool that has drawn its generation. -/
theorem activate_drawn :
    ∃ (pool : NodePool Unit) (prepared : PoolState Unit),
      Run Step {} [.quiet, .quiet, .quiet, .draw 1] pool ∧
      pool.calls 0 = some (.activateInstall prepared 1) ∧
      (∀ call, call ≠ 0 → pool.calls call = none) ∧
      pool.state.addresses = [] ∧ pool.nextGeneration = 2 ∧
      pool.nextRuntime = 1 ∧ pool.stopped = [] := by
  have activated : Run Step {} [.quiet] _ :=
    .single (@Step.activate Unit {} 0 _ soleNode "node" _ _ rfl rfl rfl)
  have started : Run Step {} [.quiet, .quiet] _ :=
    activated.snoc (@Step.activateStarted Unit _ 0 _ _ rfl)
  have stored : Run Step {} [.quiet, .quiet, .quiet] _ :=
    started.snoc (@Step.activateStored Unit _ 0 _ _ _ rfl (by
      apply free_setCall
      · exact free_setCall (fun _ _ found => by cases found) 0 (by exact nofun)
      · exact nofun))
  have drawn : Run Step {} [.quiet, .quiet, .quiet, .draw 1] _ :=
    stored.snoc (@Step.activateDrawn Unit _ 0 _ rfl)
  refine ⟨_, _, drawn, rfl, ?_, rfl, rfl, rfl, rfl⟩
  intro call different
  simp [setCall, setSlot, startRuntime, Function.update_of_ne different]

/-- A call of `stop` overtakes a call of `activate` that has drawn. -/
theorem generation_goes_back :
    ∃ (trace : List Event) (pool : NodePool Unit),
      Run Step {} trace pool ∧ ¬NeverGoesBack trace pool := by
  obtain ⟨pool, prepared, drawn, stage, others, _, counter, _⟩ :=
    activate_drawn
  have stops := Step.stop (others 1 nofun)
  rw [counter] at stops
  have stopped := drawn.snoc stops
  have waiting : NodePool.calls
      (({ pool with nextGeneration := 2 + 1 }.replace
          { generation := 2 }).setCall 1
        (some (.drain pool.state.addresses .stop))) 0 =
      some (.activateInstall prepared 1) := by
    rw [calls_setCall_of_ne _ _ (by decide)]
    exact stage
  have installs := Step.activateInstalled waiting
  refine ⟨_, _, stopped.snoc installs, ?_⟩
  intro monotone
  have back := monotone _ [.install 1] [] _ _ rfl stopped (.single installs)
    .nil
  exact absurd back (by decide : ¬2 ≤ 1)

end Velum.Runtime.NodePool
