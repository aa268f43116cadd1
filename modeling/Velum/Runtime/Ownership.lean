import Velum.Runtime.Generations

/-!
# Every live runtime has an owner

A runtime that was started and not stopped is behind the lock of an entry, or
in the hand of a call.  An entry with a runtime belongs to the current state,
or some call still has to install or to drain it.  Without calls only the
entries of the current state are left.
-/

namespace Velum.Runtime.NodePool

open Foundation

variable {Configuration : Type}

/-- What a suspended call is responsible for. -/
structure Hand where
  /-- Entries of the state that it prepares. -/
  prepared : List Nat := []
  /-- Entries that it still has to install or to drain. -/
  owed : List Nat := []
  /-- A runtime that is behind no lock. -/
  carried : Option Nat := none
  /-- The entry that its runtime is for. -/
  target : Option Nat := none
  /-- The generation and the entry that it has resolved. -/
  claim : Option (UInt64 × Nat) := none
  /-- The entry whose lock it holds. -/
  held : Option Nat := none
  /-- The entry whose generation it has checked again. -/
  cleared : Option Nat := none

def Stage.hand : Stage Configuration → Hand
  | .activateStart prepared address =>
      { prepared := prepared.addresses, target := some address }
  | .activateStore prepared address runtime =>
      { prepared := prepared.addresses, target := some address
        carried := some runtime }
  | .activateDraw prepared =>
      { prepared := prepared.addresses, owed := prepared.addresses }
  | .activateInstall prepared _ =>
      { prepared := prepared.addresses, owed := prepared.addresses }
  | .drain remaining _ => { owed := remaining }
  | .drainStop address runtime remaining _ =>
      { owed := remaining, carried := some runtime, held := some address }
  | .lock generation address _ => { claim := some (generation, address) }
  | .start generation address _ =>
      { claim := some (generation, address), held := some address
        target := some address }
  | .recheck generation address runtime _ =>
      { claim := some (generation, address), held := some address
        target := some address, carried := some runtime }
  | .store _ address runtime _ =>
      { held := some address, target := some address
        carried := some runtime, cleared := some address }
  | .discard address runtime =>
      { held := some address, carried := some runtime }
  | .resolve _ _ _ => {}
  | .openStream _ _ => {}
  | .openRecheck _ => {}

/-- The hand of a call; an idle one is empty. -/
def hand (pool : NodePool Configuration) (call : Nat) : Hand :=
  ((pool.calls call).map Stage.hand).getD {}

theorem hand_of_stage {pool : NodePool Configuration} {call : Nat}
    {stage : Stage Configuration} (found : pool.calls call = some stage) :
    pool.hand call = Stage.hand stage := by
  unfold hand
  rw [found]
  rfl

theorem hand_of_idle {pool : NodePool Configuration} {call : Nat}
    (idle : pool.calls call = none) : pool.hand call = {} := by
  unfold hand
  rw [idle]
  rfl

theorem hand_setCall (pool : NodePool Configuration) (call : Nat)
    (stage : Option (Stage Configuration)) :
    (pool.setCall call stage).hand =
      Function.update pool.hand call ((stage.map Stage.hand).getD {}) := by
  funext other
  change ((Function.update pool.calls call stage other).map _).getD _ = _
  by_cases same : other = call
  · rw [same, Function.update_self, Function.update_self]
  · rw [Function.update_of_ne same, Function.update_of_ne same]
    rfl

/-- A free lock is in no hand. -/
theorem not_held_of_free {pool : NodePool Configuration} {address : Nat}
    (free : pool.Free address) (call : Nat) :
    (pool.hand call).held ≠ some address := by
  cases found : pool.calls call with
  | none =>
      rw [hand_of_idle found]
      exact nofun
  | some stage =>
      rw [hand_of_stage found]
      have unheld := free call stage found
      cases stage with
      | drainStop | start | recheck | store | discard => exact unheld
      | activateStart | activateStore | activateDraw | activateInstall |
        drain | lock | resolve | openStream | openRecheck =>
          intro held
          cases held

/-- The entry is one of a state that is or was visible. -/
def Installed (pool : NodePool Configuration) (address : Nat) : Prop :=
  address ∈ pool.state.addresses ∨
    ∃ state ∈ pool.superseded, address ∈ state.addresses

/-- The entry is visible, or some call will still install or drain it. -/
def Secured (pool : NodePool Configuration) (address : Nat) : Prop :=
  address ∈ pool.state.addresses ∨
    ∃ call, address ∈ (pool.hand call).owed

/-- What a hand may hold in a pool. -/
structure Fits (trace : List Event) (pool : NodePool Configuration)
    (hand : Hand) : Prop where
  carried : ∀ runtime, hand.carried = some runtime →
    runtime < pool.nextRuntime ∧
      ∀ address, hand.target = some address → pool.home runtime = address
  target : ∀ address, hand.target = some address →
    pool.slot address = none ∧
      (address ∈ hand.prepared ∨
        hand.held = some address ∧ pool.Installed address)
  claim : ∀ generation address, hand.claim = some (generation, address) →
    pool.Installed address ∧
      (generation = 0 ∨ generation ∈ installed trace) ∧
      (pool.state.generation = generation →
        address ∈ pool.state.addresses)
  cleared : ∀ address, hand.cleared = some address →
    hand.held = some address ∧ pool.Secured address
  owed : ∀ address ∈ hand.owed,
    pool.Installed address ∨ address ∈ hand.prepared
  prepared : ∀ address ∈ hand.prepared,
    address < pool.nextAddress ∧ ¬pool.Installed address

structure Owned (trace : List Event) (pool : NodePool Configuration) :
    Prop where
  slots : ∀ address runtime, pool.slot address = some runtime →
    pool.Secured address ∧ pool.home runtime = address ∧
      runtime < pool.nextRuntime
  live : ∀ runtime < pool.nextRuntime, runtime ∉ pool.stopped →
    pool.slot (pool.home runtime) = some runtime ∨
      ∃ call, (pool.hand call).carried = some runtime
  fits : ∀ call, Fits trace pool (pool.hand call)
  exclusive : ∀ first second address,
    (pool.hand first).held = some address →
    (pool.hand second).held = some address → first = second
  unshared : ∀ first second address,
    address ∈ (pool.hand first).prepared →
    address ∈ (pool.hand second).prepared → first = second
  allocated : ∀ address, pool.Installed address →
    address < pool.nextAddress
  separate : ∀ state ∈ pool.superseded, ∀ address ∈ state.addresses,
    address ∉ pool.state.addresses

theorem fits_empty (trace : List Event) (pool : NodePool Configuration) :
    Fits trace pool {} :=
  ⟨nofun, nofun, nofun, nofun, nofun, nofun⟩

theorem owned_initial : Owned [] ({} : NodePool Configuration) where
  slots := by
    intro address runtime stored
    cases stored
  live := by
    intro runtime known
    cases known
  fits call := fits_empty _ _
  exclusive := by
    intro first second address held
    cases held
  unshared := by
    intro first second address member
    cases member
  allocated := by
    intro address member
    rcases member with current | ⟨state, old, _⟩
    · cases current
    · cases old
  separate := by
    intro state replaced
    cases replaced

/-- What was installed stays so. -/
def Extends (trace later : List Event) : Prop :=
  ∀ generation ∈ installed trace, generation ∈ installed later

/-- A hand still fits when the pool keeps what it relies on. -/
theorem Fits.mono {trace later : List Event}
    {pool next : NodePool Configuration} {hand : Hand}
    (fits : Fits trace pool hand)
    (placed : Extends trace later)
    (runtimes : pool.nextRuntime ≤ next.nextRuntime)
    (homes : ∀ runtime < pool.nextRuntime,
      next.home runtime = pool.home runtime)
    (empty : ∀ address, hand.target = some address →
      next.slot address = none)
    (installs : ∀ address, pool.Installed address → next.Installed address)
    (current : ∀ generation address,
      hand.claim = some (generation, address) →
      next.state.generation = generation →
      address ∈ next.state.addresses)
    (secures : ∀ address, hand.cleared = some address →
      next.Secured address)
    (fresh : ∀ address ∈ hand.prepared, ¬next.Installed address)
    (addresses : pool.nextAddress ≤ next.nextAddress) :
    Fits later next hand where
  carried := by
    intro runtime inHand
    obtain ⟨known, home⟩ := fits.carried runtime inHand
    refine ⟨Nat.lt_of_lt_of_le known runtimes, ?_⟩
    rw [homes runtime known]
    exact home
  target := by
    intro address aimed
    refine ⟨empty address aimed, ?_⟩
    exact (fits.target address aimed).2.imp_right
      (And.imp_right (installs address))
  claim := by
    intro generation address claimed
    obtain ⟨known, drawn, _⟩ := fits.claim generation address claimed
    exact ⟨installs address known, drawn.imp_right (placed generation),
      current generation address claimed⟩
  cleared := by
    intro address checked
    exact ⟨(fits.cleared address checked).1, secures address checked⟩
  owed := by
    intro address member
    exact (fits.owed address member).imp_left (installs address)
  prepared := by
    intro address member
    exact ⟨Nat.lt_of_lt_of_le (fits.prepared address member).1 addresses,
      fresh address member⟩

/-- The slots and the states are the same. -/
theorem Fits.keep {trace later : List Event}
    {pool next : NodePool Configuration} {hand : Hand}
    (fits : Fits trace pool hand)
    (placed : Extends trace later)
    (slot : next.slot = pool.slot) (state : next.state = pool.state)
    (superseded : next.superseded = pool.superseded)
    (runtimes : pool.nextRuntime ≤ next.nextRuntime)
    (homes : ∀ runtime < pool.nextRuntime,
      next.home runtime = pool.home runtime)
    (secures : ∀ address, hand.cleared = some address →
      next.Secured address)
    (addresses : pool.nextAddress ≤ next.nextAddress) :
    Fits later next hand := by
  have same (address : Nat) :
      next.Installed address ↔ pool.Installed address := by
    unfold Installed
    rw [state, superseded]
  refine fits.mono placed runtimes homes ?_ (fun _ => (same _).mpr) ?_
    secures ?_ addresses
  · intro address aimed
    rw [slot]
    exact (fits.target address aimed).1
  · intro generation address claimed
    rw [state]
    exact (fits.claim generation address claimed).2.2
  · intro address member
    rw [same]
    exact (fits.prepared address member).2

/-! ## Steps -/

section Steps

variable {trace later : List Event} {pool : NodePool Configuration}
  {call : Nat} {stage : Option (Stage Configuration)}

/-- The hand of a call after a step that sets its stage. -/
abbrev handOf (stage : Option (Stage Configuration)) : Hand :=
  (stage.map Stage.hand).getD {}

theorem hand_self (pool : NodePool Configuration) (call : Nat)
    (stage : Option (Stage Configuration)) :
    (pool.setCall call stage).hand call = handOf stage := by
  rw [hand_setCall, Function.update_self]

theorem hand_other (pool : NodePool Configuration) {call other : Nat}
    (stage : Option (Stage Configuration)) (different : other ≠ call) :
    (pool.setCall call stage).hand other = pool.hand other := by
  rw [hand_setCall, Function.update_of_ne different]

/-- An entry stays secured unless the call that moves dropped it. -/
theorem secured_setCall {address : Nat} (secured : pool.Secured address)
    (kept : address ∈ (pool.hand call).owed →
      address ∈ (handOf stage).owed) :
    (pool.setCall call stage).Secured address := by
  rcases secured with current | ⟨owner, owed⟩
  · exact .inl current
  · by_cases same : owner = call
    · refine .inr ⟨call, ?_⟩
      rw [hand_self]
      rw [same] at owed
      exact kept owed
    · refine .inr ⟨owner, ?_⟩
      rw [hand_other pool stage same]
      exact owed

/-- Every hand fits after one call has moved. -/
theorem fits_setCall {next : NodePool Configuration}
    (own : Fits later (next.setCall call stage) (handOf stage))
    (others : ∀ other, other ≠ call →
      Fits later (next.setCall call stage) (next.hand other))
    (other : Nat) :
    Fits later (next.setCall call stage)
      ((next.setCall call stage).hand other) := by
  by_cases same : other = call
  · rw [same, hand_self]
    exact own
  · rw [hand_other next stage same]
    exact others other same

/-- Two calls cannot get to share a lock or a prepared entry when the one that
moves keeps what it has or takes what nobody has. -/
theorem alone_setCall (has : Hand → Prop)
    (alone : ∀ first second, has (pool.hand first) →
      has (pool.hand second) → first = second)
    (gained : has (handOf stage) → has (pool.hand call) ∨
      ∀ other, ¬has (pool.hand other))
    (first second : Nat)
    (firstHas : has ((pool.setCall call stage).hand first))
    (secondHas : has ((pool.setCall call stage).hand second)) :
    first = second := by
  by_cases here : first = call
  · by_cases there : second = call
    · rw [here, there]
    · rw [here, hand_self] at firstHas
      rw [hand_other pool stage there] at secondHas
      rcases gained firstHas with before | nobody
      · exact here.trans (alone call second before secondHas)
      · exact absurd secondHas (nobody second)
  · rw [hand_other pool stage here] at firstHas
    by_cases there : second = call
    · rw [there, hand_self] at secondHas
      rcases gained secondHas with before | nobody
      · exact (alone first call firstHas before).trans there.symm
      · exact absurd firstHas (nobody first)
    · rw [hand_other pool stage there] at secondHas
      exact alone first second firstHas secondHas

theorem Fits.setCall {hand : Hand} (fits : Fits trace pool hand)
    (placed : Extends trace later)
    (secures : ∀ address, hand.cleared = some address →
      (pool.setCall call stage).Secured address) :
    Fits later (pool.setCall call stage) hand :=
  fits.keep placed rfl rfl rfl (Nat.le_refl _) (fun _ _ => rfl) secures
    (Nat.le_refl _)

/-- A slot changes that the hand does not fill. -/
theorem Fits.setSlot {hand : Hand} {address : Nat} {runtime : Option Nat}
    (fits : Fits trace pool hand)
    (placed : Extends trace later)
    (empty : ∀ other, hand.target = some other →
      (pool.setSlot address runtime).slot other = none)
    (secures : ∀ other, hand.cleared = some other →
      ((pool.setSlot address runtime).setCall call stage).Secured other) :
    Fits later ((pool.setSlot address runtime).setCall call stage) hand := by
  apply fits.mono placed
  · exact Nat.le_refl _
  · intro runtime _
    rfl
  · exact empty
  · intro other visible
    exact visible
  · intro generation other claimed
    exact (fits.claim generation other claimed).2.2
  · exact secures
  · intro other member
    exact (fits.prepared other member).2
  · exact Nat.le_refl _

/-- The locks stay exclusive while one call moves. -/
theorem exclusive_setCall {next : NodePool Configuration}
    (owned : Owned trace pool) (hands : next.hand = pool.hand)
    (holds : ∀ address, (handOf stage).held = some address →
      (pool.hand call).held = some address ∨
        ∀ other, (pool.hand other).held ≠ some address)
    (first second address : Nat) :
    ((next.setCall call stage).hand first).held = some address →
    ((next.setCall call stage).hand second).held = some address →
    first = second := by
  apply alone_setCall fun hand => hand.held = some address
  · rw [hands]
    intro first second
    exact owned.exclusive first second address
  · rw [hands]
    exact holds address

/-- The prepared states stay apart while one call moves. -/
theorem unshared_setCall {next : NodePool Configuration}
    (owned : Owned trace pool) (hands : next.hand = pool.hand)
    (prepares : ∀ address ∈ (handOf stage).prepared,
      address ∈ (pool.hand call).prepared ∨
        ∀ other, address ∉ (pool.hand other).prepared)
    (first second address : Nat) :
    address ∈ ((next.setCall call stage).hand first).prepared →
    address ∈ ((next.setCall call stage).hand second).prepared →
    first = second := by
  apply alone_setCall fun hand => address ∈ hand.prepared
  · rw [hands]
    intro first second
    exact owned.unshared first second address
  · rw [hands]
    exact prepares address

/-- A call that moves on while no runtime changes hands.  What it drops is
empty and free. -/
theorem owned_setCall (owned : Owned trace pool)
    (placed : Extends trace later)
    (own : Fits trace pool (handOf stage))
    (checked : ∀ address, (handOf stage).cleared = some address →
      address ∈ pool.state.addresses)
    (owes : ∀ address ∈ (pool.hand call).owed,
      address ∈ (handOf stage).owed ∨
        pool.slot address = none ∧ pool.Free address)
    (carries : ∀ runtime, (pool.hand call).carried = some runtime →
      (handOf stage).carried = some runtime)
    (holds : ∀ address, (handOf stage).held = some address →
      (pool.hand call).held = some address ∨ pool.Free address)
    (prepares : ∀ address ∈ (handOf stage).prepared,
      address ∈ (pool.hand call).prepared ∨
        ∀ other, address ∉ (pool.hand other).prepared) :
    Owned later (pool.setCall call stage) where
  slots := by
    intro address runtime stored
    obtain ⟨secured, home, known⟩ := owned.slots address runtime stored
    refine ⟨secured_setCall secured ?_, home, known⟩
    intro owed
    rcases owes address owed with still | ⟨empty, _⟩
    · exact still
    · rw [show pool.slot address = some runtime from stored] at empty
      cases empty
  live := by
    intro runtime known running
    rcases owned.live runtime known running with stored | ⟨owner, carried⟩
    · exact .inl stored
    · refine .inr ⟨owner, ?_⟩
      by_cases same : owner = call
      · rw [same] at carried ⊢
        rw [hand_self]
        exact carries runtime carried
      · rw [hand_other pool stage same]
        exact carried
  fits := by
    refine fits_setCall ?_ ?_
    · exact own.setCall placed fun address cleared =>
        .inl (checked address cleared)
    · intro other different
      refine (owned.fits other).setCall placed ?_
      intro address cleared
      obtain ⟨held, secured⟩ := (owned.fits other).cleared address cleared
      refine secured_setCall secured ?_
      intro owed
      rcases owes address owed with still | ⟨_, free⟩
      · exact still
      · exact absurd held (not_held_of_free free other)
  exclusive := by
    apply exclusive_setCall owned rfl
    intro address held
    exact (holds address held).imp_right not_held_of_free
  unshared := unshared_setCall owned rfl prepares
  allocated := owned.allocated
  separate := owned.separate

/-- Only the counters of the entries and of the generations move. -/
theorem owned_counters (owned : Owned trace pool)
    (placed : Extends trace later)
    {nextAddress : Nat} (more : pool.nextAddress ≤ nextAddress)
    (nextGeneration : UInt64) :
    Owned later { pool with nextAddress, nextGeneration } where
  slots := owned.slots
  live := owned.live
  fits other :=
    (owned.fits other).keep placed rfl rfl rfl (Nat.le_refl _)
      (fun _ _ => rfl)
      (fun address cleared => ((owned.fits other).cleared address cleared).2)
      more
  exclusive := owned.exclusive
  unshared := owned.unshared
  allocated address member :=
    Nat.lt_of_lt_of_le (owned.allocated address member) more
  separate := owned.separate

/-- The factory hands a call a runtime for its entry. -/
theorem owned_start (owned : Owned trace pool) {address : Nat}
    (placed : Extends trace later)
    (aimed : (pool.hand call).target = some address)
    (empty : (pool.hand call).carried = none)
    (after : handOf stage =
      { pool.hand call with carried := some pool.nextRuntime }) :
    Owned later ((pool.startRuntime address).setCall call stage) := by
  have homes : ∀ runtime < pool.nextRuntime,
      (pool.startRuntime address).home runtime = pool.home runtime := by
    intro runtime known
    exact Function.update_of_ne (Nat.ne_of_lt known) _ _
  have newest : (pool.startRuntime address).home pool.nextRuntime =
      address := Function.update_self _ _ _
  have secures (other : Nat) (secured : pool.Secured other) :
      ((pool.startRuntime address).setCall call stage).Secured other := by
    apply secured_setCall
    · exact secured
    · intro owed
      rw [after]
      exact owed
  have keep {hand : Hand} (fits : Fits trace pool hand) :
      Fits later ((pool.startRuntime address).setCall call stage) hand :=
    fits.keep placed rfl rfl rfl (Nat.le_succ _) homes
      (fun address cleared => secures address (fits.cleared address cleared).2)
      (Nat.le_refl _)
  constructor
  case slots =>
    intro other runtime stored
    obtain ⟨secured, home, known⟩ := owned.slots other runtime stored
    refine ⟨secures other secured, ?_, Nat.lt_succ_of_lt known⟩
    exact (homes runtime known).trans home
  case live =>
    intro runtime known running
    rcases Nat.lt_succ_iff_lt_or_eq.mp known with old | rfl
    · rcases owned.live runtime old running with stored | ⟨owner, carried⟩
      · refine .inl ?_
        change pool.slot ((pool.startRuntime address).home runtime) = _
        rw [homes runtime old]
        exact stored
      · refine .inr ⟨owner, ?_⟩
        by_cases same : owner = call
        · rw [same, empty] at carried
          cases carried
        · rw [hand_other _ stage same]
          exact carried
    · refine .inr ⟨call, ?_⟩
      rw [hand_self, after]
  case fits =>
    refine fits_setCall ?_ fun other _ => keep (owned.fits other)
    have before := keep (owned.fits call)
    rw [after]
    refine ⟨?_, before.target, before.claim, before.cleared, before.owed,
      before.prepared⟩
    intro runtime carried
    cases carried
    refine ⟨Nat.lt_succ_self _, ?_⟩
    intro other same
    rw [show (pool.hand call).target = some other from same] at aimed
    cases aimed
    exact newest
  case exclusive =>
    apply exclusive_setCall owned rfl
    intro other held
    rw [after] at held
    exact .inl held
  case unshared =>
    apply unshared_setCall owned rfl
    intro other member
    rw [after] at member
    exact .inl member
  case allocated => exact owned.allocated
  case separate => exact owned.separate

/-- Two calls never fill the same entry. -/
theorem target_alone (owned : Owned trace pool) {first second address : Nat}
    (firstAims : (pool.hand first).target = some address)
    (secondAims : (pool.hand second).target = some address) :
    first = second := by
  rcases ((owned.fits first).target address firstAims).2 with
    prepares | ⟨holds, visible⟩
  · rcases ((owned.fits second).target address secondAims).2 with
      preparesToo | ⟨_, visible⟩
    · exact owned.unshared first second address prepares preparesToo
    · exact absurd visible ((owned.fits first).prepared address prepares).2
  · rcases ((owned.fits second).target address secondAims).2 with
      prepares | ⟨holdsToo, _⟩
    · exact absurd visible ((owned.fits second).prepared address prepares).2
    · exact owned.exclusive first second address holds holdsToo

/-- A call puts its runtime behind the lock of its entry. -/
theorem owned_fill (owned : Owned trace pool) {address runtime : Nat}
    (placed : Extends trace later)
    (aimed : (pool.hand call).target = some address)
    (carried : (pool.hand call).carried = some runtime)
    (own : Fits trace pool (handOf stage))
    (done : (handOf stage).target = none ∧ (handOf stage).cleared = none ∧
      (handOf stage).held = none)
    (owes : ∀ other ∈ (pool.hand call).owed, other ∈ (handOf stage).owed)
    (secured : pool.Secured address ∨ address ∈ (handOf stage).owed)
    (prepares : ∀ other ∈ (handOf stage).prepared,
      other ∈ (pool.hand call).prepared) :
    Owned later
      ((pool.setSlot address (some runtime)).setCall call stage) := by
  obtain ⟨known, home⟩ := (owned.fits call).carried runtime carried
  obtain ⟨empty, _⟩ := (owned.fits call).target address aimed
  have filled : (pool.setSlot address (some runtime)).slot address =
      some runtime := Function.update_self _ _ _
  have others {other : Nat} (different : other ≠ address) :
      (pool.setSlot address (some runtime)).slot other = pool.slot other :=
    Function.update_of_ne different _ _
  have secures {other : Nat} (before : pool.Secured other) :
      ((pool.setSlot address (some runtime)).setCall call stage).Secured
        other := by
    apply secured_setCall
    · exact before
    · exact owes other
  constructor
  case slots =>
    intro other running stored
    change (pool.setSlot address (some runtime)).slot other = _ at stored
    by_cases same : other = address
    · rw [same, filled] at stored
      cases stored
      rw [same]
      refine ⟨?_, home address aimed, known⟩
      rcases secured with before | owed
      · exact secures before
      · refine .inr ⟨call, ?_⟩
        rw [hand_self]
        exact owed
    · rw [others same] at stored
      obtain ⟨before, facts⟩ := owned.slots other running stored
      exact ⟨secures before, facts⟩
  case live =>
    intro running bound alive
    change (pool.setSlot address (some runtime)).slot
      (pool.home running) = _ ∨ _
    rcases owned.live running bound alive with stored | ⟨owner, inHand⟩
    · refine .inl ?_
      rw [others, stored]
      intro same
      rw [same, empty] at stored
      cases stored
    · by_cases same : owner = call
      · rw [same, carried] at inHand
        cases inHand
        rw [home address aimed]
        exact .inl filled
      · refine .inr ⟨owner, ?_⟩
        rw [hand_other _ stage same]
        exact inHand
  case fits =>
    refine fits_setCall ?_ ?_
    · apply own.setSlot placed
      · intro other aims
        rw [done.1] at aims
        cases aims
      · intro other clears
        rw [done.2.1] at clears
        cases clears
    · intro other different
      have fits := owned.fits other
      apply fits.setSlot placed
      · intro aim aims
        rw [others]
        · exact (fits.target aim aims).1
        · intro same
          rw [same] at aims
          exact different (target_alone owned aims aimed)
      · intro other clears
        exact secures (fits.cleared other clears).2
  case exclusive =>
    apply exclusive_setCall owned rfl
    intro other held
    rw [done.2.2] at held
    cases held
  case unshared =>
    apply unshared_setCall owned rfl
    intro other member
    exact .inl (prepares other member)
  case allocated => exact owned.allocated
  case separate => exact owned.separate

/-- A drained entry gives its runtime to the call that drains it. -/
theorem owned_take (owned : Owned trace pool) {address runtime : Nat}
    {remaining : List Nat}
    (placed : Extends trace later)
    (before : pool.hand call = { owed := address :: remaining })
    (free : pool.Free address) (stored : pool.slot address = some runtime)
    (after : handOf stage =
      { owed := remaining, carried := some runtime
        held := some address }) :
    Owned later ((pool.setSlot address none).setCall call stage) := by
  have emptied : (pool.setSlot address none).slot address = none :=
    Function.update_self _ _ _
  have others {other : Nat} (different : other ≠ address) :
      (pool.setSlot address none).slot other = pool.slot other :=
    Function.update_of_ne different _ _
  have secures {other : Nat} (different : other ≠ address)
      (secured : pool.Secured other) :
      ((pool.setSlot address none).setCall call stage).Secured other := by
    apply secured_setCall
    · exact secured
    · change other ∈ (pool.hand call).owed → _
      rw [before, after]
      exact fun member => (List.mem_cons.mp member).resolve_left different
  constructor
  case slots =>
    intro other running found
    change (pool.setSlot address none).slot other = _ at found
    by_cases same : other = address
    · rw [same, emptied] at found
      cases found
    · rw [others same] at found
      obtain ⟨secured, facts⟩ := owned.slots other running found
      exact ⟨secures same secured, facts⟩
  case live =>
    intro running bound alive
    change (pool.setSlot address none).slot (pool.home running) = _ ∨ _
    rcases owned.live running bound alive with found | ⟨owner, inHand⟩
    · by_cases same : pool.home running = address
      · rw [same, stored] at found
        cases found
        refine .inr ⟨call, ?_⟩
        rw [hand_self, after]
      · rw [others same]
        exact .inl found
    · refine .inr ⟨owner, ?_⟩
      by_cases same : owner = call
      · rw [same, before] at inHand
        cases inHand
      · rw [hand_other _ stage same]
        exact inHand
  case fits =>
    refine fits_setCall ?_ ?_
    · have owed := (owned.fits call).owed
      rw [before] at owed
      rw [after]
      refine ⟨?_, nofun, nofun, nofun, ?_, nofun⟩
      · intro running inHand
        cases inHand
        exact ⟨(owned.slots address runtime stored).2.2, nofun⟩
      · intro other member
        exact owed other (List.mem_cons_of_mem _ member)
    · intro other different
      have fits := owned.fits other
      apply fits.setSlot placed
      · intro aim aims
        by_cases same : aim = address
        · rw [same]
          exact emptied
        · rw [others same]
          exact (fits.target aim aims).1
      · intro checked clears
        obtain ⟨held, secured⟩ := fits.cleared checked clears
        apply secures _ secured
        intro same
        rw [same] at held
        exact not_held_of_free free other held
  case exclusive =>
    apply exclusive_setCall owned rfl
    intro other held
    rw [after] at held
    cases held
    exact .inr (not_held_of_free free)
  case unshared =>
    apply unshared_setCall owned rfl
    intro other member
    rw [after] at member
    cases member
  case allocated => exact owned.allocated
  case separate => exact owned.separate

/-- A call stops the runtime in its hand. -/
theorem owned_stop (owned : Owned trace pool) {runtime : Nat}
    (placed : Extends trace later)
    (carried : (pool.hand call).carried = some runtime)
    (unprepared : (pool.hand call).prepared = [])
    (after : handOf stage = { owed := (pool.hand call).owed }) :
    Owned later ((pool.stopRuntime runtime).setCall call stage) := by
  have secures {other : Nat} (secured : pool.Secured other) :
      ((pool.stopRuntime runtime).setCall call stage).Secured other := by
    apply secured_setCall
    · exact secured
    · rw [after]
      exact id
  constructor
  case slots =>
    intro other running found
    obtain ⟨secured, facts⟩ := owned.slots other running found
    exact ⟨secures secured, facts⟩
  case live =>
    intro running bound alive
    obtain ⟨different, alive⟩ := not_or.mp (mt List.mem_cons.mpr alive)
    rcases owned.live running bound alive with found | ⟨owner, inHand⟩
    · exact .inl found
    · refine .inr ⟨owner, ?_⟩
      by_cases same : owner = call
      · rw [same, carried] at inHand
        exact absurd (Option.some.inj inHand).symm different
      · rw [hand_other _ stage same]
        exact inHand
  case fits =>
    refine fits_setCall ?_ ?_
    · have owed := (owned.fits call).owed
      rw [unprepared] at owed
      rw [after]
      exact ⟨nofun, nofun, nofun, nofun, owed, nofun⟩
    · intro other different
      have fits := owned.fits other
      exact fits.keep placed rfl rfl rfl (Nat.le_refl _) (fun _ _ => rfl)
        (fun address cleared => secures (fits.cleared address cleared).2)
        (Nat.le_refl _)
  case exclusive =>
    apply exclusive_setCall owned rfl
    intro other held
    rw [after] at held
    cases held
  case unshared =>
    apply unshared_setCall owned rfl
    intro other member
    rw [after] at member
    cases member
  case allocated => exact owned.allocated
  case separate => exact owned.separate

/-- A call replaces the visible state by the one it prepared, and takes over
the entries of the old one. -/
theorem owned_replace (owned : Owned trace pool)
    {state : PoolState Configuration}
    (placed : Extends trace later)
    (fresh : state.generation ≠ 0 ∧ state.generation ∉ installed trace)
    (visible : state.addresses = (pool.hand call).prepared)
    (owes : ∀ address ∈ (pool.hand call).owed,
      address ∈ (pool.hand call).prepared)
    (unloaded : (pool.hand call).carried = none)
    (after : handOf stage = { owed := pool.state.addresses }) :
    Owned later ((pool.replace state).setCall call stage) := by
  have keeps {address : Nat} (before : pool.Installed address) :
      ((pool.replace state).setCall call stage).Installed address := by
    rcases before with current | ⟨old, member, inside⟩
    · exact .inr ⟨pool.state, List.mem_cons_self, current⟩
    · exact .inr ⟨old, List.mem_cons_of_mem _ member, inside⟩
  have grows {address : Nat}
      (now : ((pool.replace state).setCall call stage).Installed address) :
      pool.Installed address ∨ address ∈ (pool.hand call).prepared := by
    rcases now with current | ⟨old, member, inside⟩
    · change address ∈ state.addresses at current
      rw [visible] at current
      exact .inr current
    · rcases List.mem_cons.mp member with rfl | earlier
      · exact .inl (.inl inside)
      · exact .inl (.inr ⟨old, earlier, inside⟩)
  have secures {address : Nat} (secured : pool.Secured address) :
      ((pool.replace state).setCall call stage).Secured address := by
    rcases secured with current | ⟨owner, owed⟩
    · refine .inr ⟨call, ?_⟩
      rw [hand_self, after]
      exact current
    · by_cases same : owner = call
      · rw [same] at owed
        refine .inl ?_
        change address ∈ state.addresses
        rw [visible]
        exact owes address owed
      · refine .inr ⟨owner, ?_⟩
        rw [hand_other _ stage same]
        exact owed
  constructor
  case slots =>
    intro other running found
    obtain ⟨secured, facts⟩ := owned.slots other running found
    exact ⟨secures secured, facts⟩
  case live =>
    intro running bound alive
    rcases owned.live running bound alive with found | ⟨owner, inHand⟩
    · exact .inl found
    · refine .inr ⟨owner, ?_⟩
      by_cases same : owner = call
      · rw [same, unloaded] at inHand
        cases inHand
      · rw [hand_other _ stage same]
        exact inHand
  case fits =>
    refine fits_setCall ?_ ?_
    · rw [after]
      refine ⟨nofun, nofun, nofun, nofun, ?_, nofun⟩
      intro address member
      exact .inl (.inr ⟨pool.state, List.mem_cons_self, member⟩)
    · intro other different
      have fits := owned.fits other
      refine fits.mono placed (Nat.le_refl _) (fun _ _ => rfl)
        (fun aim aims => (fits.target aim aims).1) (fun _ => keeps) ?_
        (fun address cleared => secures (fits.cleared address cleared).2) ?_
        (Nat.le_refl _)
      · intro generation address claimed same
        change state.generation = generation at same
        rcases (fits.claim generation address claimed).2.1 with zero | old
        · exact absurd (same.trans zero) fresh.1
        · rw [← same] at old
          exact absurd old fresh.2
      · intro address member now
        rcases grows now with before | prepared
        · exact (fits.prepared address member).2 before
        · exact different (owned.unshared other call address member prepared)
  case exclusive =>
    apply exclusive_setCall owned rfl
    intro other held
    rw [after] at held
    cases held
  case unshared =>
    apply unshared_setCall owned rfl
    intro other member
    rw [after] at member
    cases member
  case allocated =>
    intro address now
    rcases grows now with before | prepared
    · exact owned.allocated address before
    · exact ((owned.fits call).prepared address prepared).1
  case separate =>
    intro old member address inside now
    change address ∈ state.addresses at now
    rw [visible] at now
    apply ((owned.fits call).prepared address now).2
    rcases List.mem_cons.mp member with rfl | earlier
    · exact .inl inside
    · exact .inr ⟨old, earlier, inside⟩

end Steps

/-! ## Entries -/

theorem prepareNodes_addresses {nodes : List (ResolvedNode Configuration)}
    {ids : List String} {aliases finalAliases : OrderedMap String String}
    {entries finalEntries : OrderedMap String (NodeEntry Configuration)}
    {base address next : Nat} (above : base ≤ address)
    (within : ∀ entry ∈ entries.entries,
      base ≤ entry.2.address ∧ entry.2.address < address)
    (accepted : PoolState.prepareNodes ids aliases entries address nodes =
      .ok (finalAliases, finalEntries, next)) :
    base ≤ next ∧ ∀ entry ∈ finalEntries.entries,
      base ≤ entry.2.address ∧ entry.2.address < next := by
  induction nodes generalizing ids aliases entries address with
  | nil =>
      cases accepted
      exact ⟨above, within⟩
  | cons node rest induction =>
      unfold PoolState.prepareNodes at accepted
      split at accepted
      · cases accepted
      refine induction (Nat.le_succ_of_le above) ?_ accepted
      intro entry member
      rcases OrderedMap.mem_insert_iff.mp member with rfl | ⟨earlier, _⟩
      · exact ⟨above, Nat.lt_succ_self _⟩
      · obtain ⟨low, high⟩ := within entry earlier
        exact ⟨low, Nat.lt_succ_of_lt high⟩

/-- The entries of a prepared state are new. -/
theorem prepare_addresses {nodes : List (ResolvedNode Configuration)}
    {defaultNode : String} {address next : Nat}
    {prepared : PoolState Configuration}
    (accepted : PoolState.prepare address nodes defaultNode =
      .ok (prepared, next)) :
    address ≤ next ∧ ∀ other ∈ prepared.addresses,
      address ≤ other ∧ other < next := by
  unfold PoolState.prepare at accepted
  split at accepted
  · cases accepted
  split at accepted
  · cases accepted
  rename_i aliases entries final looped
  obtain ⟨above, bounds⟩ :=
    prepareNodes_addresses (Nat.le_refl address)
      (by intro entry member; cases member) looped
  have every : final = next ∧ prepared.nodes = entries := by
    split at accepted
    · cases accepted
      exact ⟨rfl, rfl⟩
    · split at accepted
      · cases accepted
      · cases accepted
        exact ⟨rfl, rfl⟩
  obtain ⟨rfl, same⟩ := every
  refine ⟨above, ?_⟩
  intro other member
  obtain ⟨entry, inside, rfl⟩ := List.mem_map.mp member
  rw [same] at inside
  exact bounds entry inside

theorem address_of_get {state : PoolState Configuration} {name : String}
    {entry : NodeEntry Configuration}
    (found : state.nodes.get? name = some entry) :
    entry.address ∈ state.addresses :=
  List.mem_map.mpr ⟨(name, entry), OrderedMap.get?_eq_some_iff.mp found, rfl⟩

theorem address_of_select {state : PoolState Configuration}
    {reference : String} {entry : NodeEntry Configuration}
    (selected : state.select reference = .ok entry) :
    entry.address ∈ state.addresses := by
  unfold PoolState.select at selected
  dsimp only at selected
  split at selected
  · cases selected
  · rename_i found
    cases selected
    obtain ⟨name, _, present⟩ := Option.bind_eq_some_iff.mp found
    exact address_of_get present

/-! ## Every step -/

theorem secured_allocated {trace : List Event}
    {pool : NodePool Configuration} (owned : Owned trace pool)
    {address : Nat} (secured : pool.Secured address) :
    address < pool.nextAddress := by
  rcases secured with current | ⟨owner, owed⟩
  · exact owned.allocated address (.inl current)
  · rcases (owned.fits owner).owed address owed with visible | prepared
    · exact owned.allocated address visible
    · exact ((owned.fits owner).prepared address prepared).1

/-- The visible generation is the initial one or was installed. -/
theorem visible_installed {trace : List Event}
    {pool : NodePool Configuration} (accounted : Accounted trace pool) :
    pool.state.generation = 0 ∨
      pool.state.generation ∈ installed trace := by
  rw [accounted.visible]
  cases last : (installed trace).getLast? with
  | none => exact .inl rfl
  | some generation => exact .inr (List.mem_of_getLast? last)

theorem owned_activate {trace later : List Event}
    {pool : NodePool Configuration} {call nextAddress : Nat}
    {nodes : List (ResolvedNode Configuration)} {defaultNode : String}
    {prepared : PoolState Configuration} {entry : NodeEntry Configuration}
    (owned : Owned trace pool)
    (placed : Extends trace later)
    (idle : pool.calls call = none)
    (accepted : PoolState.prepare pool.nextAddress nodes defaultNode =
      .ok (prepared, nextAddress))
    (found : prepared.nodes.get? prepared.defaultNode = some entry) :
    Owned later ({ pool with nextAddress }.setCall call
      (some (.activateStart prepared entry.address))) := by
  obtain ⟨more, bounds⟩ := prepare_addresses accepted
  have unused {address : Nat} (member : address ∈ prepared.addresses) :
      ¬pool.Installed address := by
    intro visible
    have below := owned.allocated address visible
    have above := (bounds address member).1
    omega
  have empty : pool.slot entry.address = none := by
    rw [Option.eq_none_iff_forall_ne_some]
    intro runtime stored
    have below := secured_allocated owned
      (owned.slots entry.address runtime stored).1
    have above := (bounds entry.address (address_of_get found)).1
    omega
  have before := hand_of_idle idle
  refine owned_setCall
    (owned_counters owned (fun _ => id) more pool.nextGeneration) placed
    ?_ nofun ?_ ?_ nofun ?_
  · refine ⟨nofun, ?_, nofun, nofun, nofun, ?_⟩
    · intro address aimed
      cases aimed
      exact ⟨empty, .inl (address_of_get found)⟩
    · intro address member
      exact ⟨(bounds address member).2, unused member⟩
  · change ∀ address ∈ (pool.hand call).owed, _
    rw [before]
    exact nofun
  · change ∀ runtime, (pool.hand call).carried = _ → _
    rw [before]
    exact nofun
  · intro address member
    refine .inr ?_
    intro other inside
    have below := ((owned.fits other).prepared address inside).1
    have above := (bounds address member).1
    omega

/-- A call without a runtime and without an entry to drain lets go. -/
theorem owned_release {trace later : List Event}
    {pool : NodePool Configuration} {call : Nat}
    {stage : Option (Stage Configuration)} (owned : Owned trace pool)
    (placed : Extends trace later)
    (unloaded : (pool.hand call).carried = none)
    (paid : (pool.hand call).owed = []) (after : handOf stage = {}) :
    Owned later (pool.setCall call stage) := by
  apply owned_setCall owned placed
  · rw [after]
    exact fits_empty trace pool
  · rw [after]
    exact nofun
  · rw [paid]
    exact nofun
  · rw [unloaded]
    exact nofun
  · rw [after]
    exact nofun
  · rw [after]
    exact nofun

theorem handOf_next (generation : UInt64) (runtime : Nat)
    (purpose : Purpose) :
    handOf (Purpose.next generation runtime purpose :
      Option (Stage Configuration)) = {} := by
  cases purpose with
  | runtimeFor => rfl
  | openStream => rfl

/-- The stored default runtime makes the prepared entries owed. -/
theorem owned_activateStored {trace later : List Event}
    {pool : NodePool Configuration} {call address runtime : Nat}
    {prepared : PoolState Configuration} (owned : Owned trace pool)
    (placed : Extends trace later)
    (stage : pool.calls call =
      some (.activateStore prepared address runtime)) :
    Owned later ((pool.setSlot address (some runtime)).setCall call
      (some (.activateDraw prepared))) := by
  have before := hand_of_stage stage
  have fits := owned.fits call
  rw [before] at fits
  have inside : address ∈ prepared.addresses := by
    rcases (fits.target address rfl).2 with prepared | ⟨held, _⟩
    · exact prepared
    · cases held
  apply owned_fill owned placed
  · rw [before]
    rfl
  · rw [before]
    rfl
  · exact ⟨nofun, nofun, nofun, nofun, fun other member => .inr member,
      fits.prepared⟩
  · exact ⟨rfl, rfl, rfl⟩
  · rw [before]
    exact nofun
  · exact .inr inside
  · rw [before]
    exact fun other => id

/-- A generation that a call has drawn is installed for the first time. -/
theorem owned_activateInstalled {trace later : List Event}
    {pool : NodePool Configuration} {call : Nat} {generation : UInt64}
    {prepared : PoolState Configuration} (accounted : Accounted trace pool)
    (owned : Owned trace pool)
    (placed : Extends trace later)
    (stage : pool.calls call =
      some (.activateInstall prepared generation)) :
    Owned later ((pool.replace { prepared with generation }).setCall call
      (some (.drain pool.state.addresses .activate))) := by
  have before := hand_of_stage stage
  have waits : pool.pending call = some generation := by
    unfold pending
    rw [stage]
    rfl
  obtain ⟨drew, absent⟩ := accounted.pendingDrawn call generation waits
  have positive := (accounted.below generation drew).1
  apply owned_replace owned placed
  · exact ⟨(UInt64.ne_of_lt positive).symm, absent⟩
  · rw [before]
    rfl
  · rw [before]
    exact fun address => id
  · rw [before]
    rfl
  · rfl

theorem owned_stopCall {trace later : List Event}
    {pool : NodePool Configuration} {call : Nat}
    (accounted : Accounted trace pool)
    (room : (drawn trace).length + 1 < 2 ^ 64) (owned : Owned trace pool)
    (placed : Extends trace later)
    (idle : pool.calls call = none) :
    Owned later
      (({ pool with nextGeneration := pool.nextGeneration + 1 }.replace
          { generation := pool.nextGeneration }).setCall call
        (some (.drain pool.state.addresses .stop))) := by
  have before := hand_of_idle idle
  have counted := owned_counters owned (fun _ => id) (Nat.le_refl _)
    (pool.nextGeneration + 1)
  apply owned_replace counted placed
  · refine ⟨(UInt64.ne_of_lt (nextGeneration_pos accounted room)).symm, ?_⟩
    intro member
    exact fresh_generation accounted room (accounted.installedDrawn _ member)
  · change _ = (pool.hand call).prepared
    rw [before]
    rfl
  · change ∀ address ∈ (pool.hand call).owed, _
    rw [before]
    exact nofun
  · change (pool.hand call).carried = none
    rw [before]
  · rfl

theorem fits_of_stage {trace : List Event}
    {pool : NodePool Configuration} {call : Nat}
    {stage : Stage Configuration} (owned : Owned trace pool)
    (found : pool.calls call = some stage) :
    Fits trace pool (Stage.hand stage) := by
  rw [← hand_of_stage found]
  exact owned.fits call

/-- A suspended call moves on while no runtime changes hands. -/
theorem owned_moves {trace later : List Event}
    {pool : NodePool Configuration} {call : Nat}
    {before : Stage Configuration} {after : Option (Stage Configuration)}
    (owned : Owned trace pool)
    (placed : Extends trace later)
    (stage : pool.calls call = some before)
    (own : Fits trace pool (handOf after))
    (checked : ∀ address, (handOf after).cleared = some address →
      address ∈ pool.state.addresses)
    (owes : ∀ address ∈ (Stage.hand before).owed,
      address ∈ (handOf after).owed ∨
        pool.slot address = none ∧ pool.Free address)
    (carries : ∀ runtime, (Stage.hand before).carried = some runtime →
      (handOf after).carried = some runtime)
    (holds : ∀ address, (handOf after).held = some address →
      (Stage.hand before).held = some address ∨ pool.Free address)
    (prepares : ∀ address ∈ (handOf after).prepared,
      address ∈ (Stage.hand before).prepared) :
    Owned later (pool.setCall call after) := by
  rw [← hand_of_stage stage] at owes carries holds prepares
  apply owned_setCall owned placed own checked owes carries holds
  intro address member
  exact .inl (prepares address member)

theorem owned_activateDrawn {trace later : List Event}
    {pool : NodePool Configuration} {call : Nat}
    {generation nextGeneration : UInt64}
    {prepared : PoolState Configuration} (owned : Owned trace pool)
    (placed : Extends trace later)
    (stage : pool.calls call = some (.activateDraw prepared)) :
    Owned later ({ pool with nextGeneration }.setCall call
      (some (.activateInstall prepared generation))) := by
  have counted := owned_counters owned (fun _ => id) (Nat.le_refl _)
    nextGeneration
  apply owned_moves counted placed stage
  · exact fits_of_stage counted stage
  · exact nofun
  · exact fun address => .inl
  · exact fun runtime => id
  · exact nofun
  · exact fun address => id

theorem owned_drainEmpty {trace later : List Event}
    {pool : NodePool Configuration} {call address : Nat}
    {remaining : List Nat} {drainer : Drainer} (owned : Owned trace pool)
    (placed : Extends trace later)
    (stage : pool.calls call = some (.drain (address :: remaining) drainer))
    (free : pool.Free address) (empty : pool.slot address = none) :
    Owned later (pool.setCall call (some (.drain remaining drainer))) := by
  have fits := fits_of_stage owned stage
  apply owned_moves owned placed stage
  · refine ⟨nofun, nofun, nofun, nofun, ?_, nofun⟩
    intro other member
    exact fits.owed other (List.mem_cons_of_mem _ member)
  · exact nofun
  · intro other member
    rcases List.mem_cons.mp member with rfl | later
    · exact .inr ⟨empty, free⟩
    · exact .inl later
  · exact nofun
  · exact nofun
  · exact nofun

theorem owned_resolved {trace later : List Event}
    {pool : NodePool Configuration} {call : Nat} {reference : String}
    {purpose : Purpose} {entry : NodeEntry Configuration} {generation : UInt64}
    (accounted : Accounted trace pool) (owned : Owned trace pool)
    (placed : Extends trace later)
    (stage : pool.calls call = some (.resolve reference generation purpose))
    (current : pool.state.generation = generation)
    (selected : pool.state.select reference = .ok entry) :
    Owned later (pool.setCall call
      (some (.lock generation entry.address purpose))) := by
  have visible := address_of_select selected
  apply owned_moves owned placed stage
  · refine ⟨nofun, nofun, ?_, nofun, nofun, nofun⟩
    intro claimed address same
    cases same
    rw [← current]
    exact ⟨.inl visible, visible_installed accounted, fun _ => visible⟩
  · exact nofun
  · exact nofun
  · exact nofun
  · exact nofun
  · exact nofun

theorem owned_lockedEmpty {trace later : List Event}
    {pool : NodePool Configuration} {call address : Nat} {generation : UInt64}
    {purpose : Purpose} (owned : Owned trace pool)
    (placed : Extends trace later)
    (stage : pool.calls call = some (.lock generation address purpose))
    (free : pool.Free address) (empty : pool.slot address = none) :
    Owned later
      (pool.setCall call (some (.start generation address purpose))) := by
  have fits := fits_of_stage owned stage
  apply owned_moves owned placed stage
  · refine ⟨nofun, ?_, fits.claim, nofun, nofun, nofun⟩
    intro other aimed
    cases aimed
    exact ⟨empty, .inr ⟨rfl, (fits.claim generation address rfl).1⟩⟩
  · exact nofun
  · exact nofun
  · exact nofun
  · intro other held
    cases held
    exact .inr free
  · exact nofun

/-- The generation has not changed since the entry was resolved, so the entry
is one of the visible state. -/
theorem owned_recheckPassed {trace later : List Event}
    {pool : NodePool Configuration} {call address runtime : Nat}
    {generation : UInt64} {purpose : Purpose} (owned : Owned trace pool)
    (placed : Extends trace later)
    (stage : pool.calls call =
      some (.recheck generation address runtime purpose))
    (current : pool.state.generation = generation) :
    Owned later (pool.setCall call
      (some (.store generation address runtime purpose))) := by
  have fits := fits_of_stage owned stage
  have visible := (fits.claim generation address rfl).2.2 current
  apply owned_moves owned placed stage
  · refine ⟨fits.carried, fits.target, nofun, ?_, nofun, nofun⟩
    intro other cleared
    cases cleared
    exact ⟨rfl, .inl visible⟩
  · intro other cleared
    cases cleared
    exact visible
  · exact nofun
  · exact fun runtime => id
  · exact fun other => .inl
  · exact nofun

theorem owned_recheckFailed {trace later : List Event}
    {pool : NodePool Configuration} {call address runtime : Nat}
    {generation : UInt64} {purpose : Purpose} (owned : Owned trace pool)
    (placed : Extends trace later)
    (stage : pool.calls call =
      some (.recheck generation address runtime purpose)) :
    Owned later (pool.setCall call (some (.discard address runtime))) := by
  have fits := fits_of_stage owned stage
  apply owned_moves owned placed stage
  · refine ⟨?_, nofun, nofun, nofun, nofun, nofun⟩
    intro other carried
    exact ⟨(fits.carried other carried).1, nofun⟩
  · exact nofun
  · exact nofun
  · exact fun runtime => id
  · exact fun other => .inl
  · exact nofun

theorem owned_stored {trace later : List Event}
    {pool : NodePool Configuration} {call address runtime : Nat}
    {generation : UInt64} {purpose : Purpose} (owned : Owned trace pool)
    (placed : Extends trace later)
    (stage : pool.calls call =
      some (.store generation address runtime purpose)) :
    Owned later ((pool.setSlot address (some runtime)).setCall call
      (Purpose.next generation runtime purpose)) := by
  have before := hand_of_stage stage
  have fits := fits_of_stage owned stage
  apply owned_fill owned placed
  · rw [before]
    rfl
  · rw [before]
    rfl
  · rw [handOf_next]
    exact fits_empty trace pool
  · rw [handOf_next]
    exact ⟨rfl, rfl, rfl⟩
  · rw [before]
    exact nofun
  · exact .inl (fits.cleared address rfl).2
  · rw [handOf_next]
    exact nofun

theorem owned_step {trace : List Event} {event : Event}
    {pool next : NodePool Configuration} (accounted : Accounted trace pool)
    (owned : Owned trace pool) (step : Step pool event next)
    (few : (drawn (trace ++ [event])).length < 2 ^ 64) :
    Owned (trace ++ [event]) next := by
  have placed : Extends trace (trace ++ [event]) := by
    intro generation member
    rw [installed_snoc]
    exact List.mem_append_left _ member
  cases step with
  | generation | activateRefused refused =>
      exact owned_counters owned placed (Nat.le_refl _) pool.nextGeneration
  | activate idle accepted found =>
      exact owned_activate owned placed idle accepted found
  | activateStarted stage | started stage =>
      have before := hand_of_stage stage
      apply owned_start owned placed
      · rw [before]
        rfl
      · rw [before]
        rfl
      · rw [before]
        rfl
  | activateStored stage free => exact owned_activateStored owned placed stage
  | activateDrawn stage => exact owned_activateDrawn owned placed stage
  | activateInstalled stage =>
      exact owned_activateInstalled accounted owned placed stage
  | stop idle =>
      rw [drawn_snoc, List.length_append] at few
      exact owned_stopCall accounted few owned placed idle
  | activateStartFailed stage | activateDone stage | stopDone stage
  | resolveRefused stage | startFailed stage | openFailed stage
  | opened stage | openDone stage =>
      have before := hand_of_stage stage
      apply owned_release owned placed
      · rw [before]
        rfl
      · rw [before]
        rfl
      · rfl
  | lockedStarted stage free present =>
      have before := hand_of_stage stage
      apply owned_release owned placed
      · rw [before]
        rfl
      · rw [before]
        rfl
      · exact handOf_next _ _ _
  | runtimeFor idle =>
      have before := hand_of_idle idle
      apply owned_release owned placed
      · rw [before]
      · rw [before]
      · rfl
  | drainEmpty stage free empty =>
      exact owned_drainEmpty owned placed stage free empty
  | drainTaken stage free taken =>
      exact owned_take owned placed (hand_of_stage stage) free taken rfl
  | drainStopped stage | discarded stage =>
      have before := hand_of_stage stage
      apply owned_stop owned placed
      · rw [before]
        rfl
      · rw [before]
        rfl
      · rw [before]
        rfl
  | resolved stage current selected =>
      exact owned_resolved accounted owned placed stage current selected
  | lockedEmpty stage free empty =>
      exact owned_lockedEmpty owned placed stage free empty
  | recheckPassed stage current =>
      exact owned_recheckPassed owned placed stage current
  | recheckFailed stage superseded =>
      exact owned_recheckFailed owned placed stage
  | stored stage => exact owned_stored owned placed stage

theorem owned_of_run {trace : List Event} {pool : NodePool Configuration}
    (run : Run Step {} trace pool)
    (few : (drawn trace).length < 2 ^ 64) : Owned trace pool := by
  induction run with
  | nil => exact owned_initial
  | snoc earlier step induction =>
      have fewer := Nat.lt_of_le_of_lt (drawn_length_le _ _) few
      exact owned_step (accounted_of_run earlier fewer) (induction fewer) step
        few

/-- As long as the generations have not wrapped, without a call in progress
every live runtime is stored in an entry of the visible state, no two entries
share one, and the runtimes of replaced states are stopped. -/
theorem runtimes_owned_when_idle {trace : List Event}
    {pool : NodePool Configuration} (run : Run Step {} trace pool)
    (few : (drawn trace).length < 2 ^ 64)
    (idle : ∀ call, pool.calls call = none) :
    (∀ runtime < pool.nextRuntime, runtime ∉ pool.stopped →
      ∃ name entry, pool.state.nodes.get? name = some entry ∧
        pool.slot entry.address = some runtime) ∧
    (∀ first second runtime, pool.slot first = some runtime →
      pool.slot second = some runtime → first = second) ∧
    ∀ state ∈ pool.superseded, ∀ name entry,
      state.nodes.get? name = some entry →
      ∀ runtime < pool.nextRuntime, pool.home runtime = entry.address →
        runtime ∈ pool.stopped := by
  have owned := owned_of_run run few
  have stored {runtime : Nat} (known : runtime < pool.nextRuntime)
      (running : runtime ∉ pool.stopped) :
      pool.slot (pool.home runtime) = some runtime ∧
        pool.home runtime ∈ pool.state.addresses := by
    have found : pool.slot (pool.home runtime) = some runtime := by
      rcases owned.live runtime known running with found | ⟨owner, inHand⟩
      · exact found
      · rw [hand_of_idle (idle owner)] at inHand
        cases inHand
    refine ⟨found, ?_⟩
    rcases (owned.slots _ runtime found).1 with visible | ⟨owner, owed⟩
    · exact visible
    · rw [hand_of_idle (idle owner)] at owed
      cases owed
  refine ⟨?_, ?_, ?_⟩
  · intro runtime known running
    obtain ⟨found, visible⟩ := stored known running
    obtain ⟨⟨name, entry⟩, member, same⟩ := List.mem_map.mp visible
    refine ⟨name, entry, OrderedMap.get?_eq_some_iff.mpr member, ?_⟩
    rw [← found]
    exact congrArg pool.slot same
  · intro first second runtime here there
    rw [← (owned.slots first runtime here).2.1,
      (owned.slots second runtime there).2.1]
  · intro state replaced name entry found runtime known home
    by_contra running
    have visible := (stored known running).2
    rw [home] at visible
    exact owned.separate state replaced entry.address (address_of_get found)
      visible

/-- After its first `activate` an idle pool stores the runtime in the entry
of the default node. -/
theorem runtimes_owned_after_activate :
    ∃ pool : NodePool Unit,
      Run Step {} [.quiet, .quiet, .quiet, .draw 1, .install 1, .quiet]
        pool ∧
      (∀ call, pool.calls call = none) ∧
      ∃ name entry, pool.state.nodes.get? name = some entry ∧
        pool.slot entry.address = some 0 := by
  obtain ⟨pool, prepared, drawn, stage, others, nothing, _, one, running⟩ :=
    activate_drawn
  have installs := Step.activateInstalled stage
  rw [nothing] at installs
  have ends := @Step.activateDone Unit
    ((pool.replace { prepared with generation := 1 }).setCall 0
      (some (.drain [] .activate))) 0 (calls_setCall_self _ _ _)
  have run := (drawn.snoc installs).snoc ends
  have idle : ∀ call, NodePool.calls
      (((pool.replace { prepared with generation := 1 }).setCall 0
        (some (.drain [] .activate))).setCall 0 none) call = none := by
    intro call
    by_cases same : call = 0
    · rw [same, calls_setCall_self]
    · rw [calls_setCall_of_ne _ _ same, calls_setCall_of_ne _ _ same]
      exact others call same
  refine ⟨_, run, idle, (runtimes_owned_when_idle run (by decide) idle).1 0
    ?_ ?_⟩
  · change 0 < pool.nextRuntime
    omega
  · change 0 ∉ pool.stopped
    rw [running]
    exact nofun

/-- Calls of `stop` without an entry to drain only move the counter. -/
theorem run_stops (count : Nat) {pool : NodePool Configuration} {call : Nat}
    (empty : pool.state.nodes = .empty) (idle : pool.calls call = none)
    (visible : pool.nextGeneration = pool.state.generation + 1) :
    ∃ (trace : List Event) (next : NodePool Configuration),
      Run Step pool trace next ∧ next.state.nodes = .empty ∧
      next.state.generation = pool.state.generation + UInt64.ofNat count ∧
      next.nextGeneration = next.state.generation + 1 ∧
      next.calls = pool.calls ∧ next.slot = pool.slot ∧
      next.nextRuntime = pool.nextRuntime ∧ next.stopped = pool.stopped := by
  induction count with
  | zero =>
      exact ⟨[], pool, .nil, empty, (UInt64.add_zero _).symm, visible, rfl, rfl,
        rfl, rfl⟩
  | succ count induction =>
      obtain ⟨trace, before, run, drained, generation, next, calls, slot,
        runtimes, stopped⟩ := induction
      have stops := run.snoc (Step.stop ((congrFun calls call).trans idle))
      have nothing : before.state.addresses = [] := by
        unfold PoolState.addresses
        rw [drained]
        rfl
      rw [nothing] at stops
      refine ⟨_, _, stops.snoc (Step.stopDone (calls_setCall_self _ _ _)), rfl,
        ?_, rfl, ?_, slot, runtimes, stopped⟩
      · change before.nextGeneration = _
        rw [next, generation, UInt64.ofNat_add count 1, UInt64.add_assoc]
        rfl
      · change Function.update (Function.update before.calls call _) call none =
          pool.calls
        rw [Function.update_idem, calls]
        exact Function.update_eq_self_iff.mpr idle.symm

theorem free_of_alone {pool : NodePool Configuration} {owner : Nat}
    (others : ∀ call, call ≠ owner → pool.calls call = none)
    {stage : Stage Configuration} (own : pool.calls owner = some stage)
    {address : Nat} (unheld : stage.holds ≠ some address) :
    pool.Free address := by
  intro call found present
  by_cases same : call = owner
  · rw [same, own] at present
    obtain rfl := Option.some.inj present
    exact unheld
  · rw [others call same] at present
    cases present

/-- A call has resolved the node of a profile, which is then stopped. -/
theorem stopped_after_resolve :
    ∃ (trace : List Event) (pool : NodePool Unit),
      Run Step {} trace pool ∧ pool.state.nodes = .empty ∧
      pool.state.generation = 2 ∧ pool.nextGeneration = 3 ∧
      pool.calls 0 = some (.lock 1 0 .runtimeFor) ∧
      (∀ call, call ≠ 0 → pool.calls call = none) ∧
      pool.slot 0 = none ∧ pool.nextRuntime = 1 ∧ pool.stopped = [0] := by
  have free : NodePool.Free ({} : NodePool Unit) 0 :=
    fun _ _ found => by cases found
  have activated : Run Step {} [.quiet] _ :=
    .single (@Step.activate Unit {} 1 _ soleNode "node" _ _ rfl rfl rfl)
  have started := activated.snoc (@Step.activateStarted Unit _ 1 _ _ rfl)
  have stored := started.snoc (@Step.activateStored Unit _ 1 _ _ _ rfl
    (free_setCall (free_setCall free 1 (by exact nofun)) 1 (by exact nofun)))
  have drawn := stored.snoc (@Step.activateDrawn Unit _ 1 _ rfl)
  have installed := drawn.snoc (@Step.activateInstalled Unit _ 1 _ _ rfl)
  have active := installed.snoc (@Step.activateDone Unit _ 1 rfl)
  have called := active.snoc
    (@Step.runtimeFor Unit _ 0 "node" .runtimeFor rfl)
  have resolved := called.snoc
    (@Step.resolved Unit _ 0 _ _ _ _ rfl rfl rfl)
  have stopping := resolved.snoc (@Step.stop Unit _ 1 rfl)
  have taken := stopping.snoc (@Step.drainTaken Unit _ 1 0 0 [] .stop rfl
    (by
      iterate 9 apply free_setCall
      · exact free
      all_goals exact nofun) rfl)
  have drained := taken.snoc (@Step.drainStopped Unit _ 1 _ _ _ _ rfl)
  have stopped := drained.snoc (@Step.stopDone Unit _ 1 rfl)
  refine ⟨_, _, stopped, rfl, rfl, rfl, rfl, ?_, rfl, rfl, rfl⟩
  intro call different
  by_cases same : call = 1
  · rw [same, calls_setCall_self]
  · simp [setCall, setSlot, startRuntime, stopRuntime, replace,
      Function.update_of_ne different, Function.update_of_ne same]

/-- Beyond the bound an entry of a stopped profile keeps a runtime: when the
counter has come round, the generation that the call has resolved is visible
again. -/
theorem runtime_lost_after_wrap :
    ∃ (trace : List Event) (pool : NodePool Unit),
      Run Step {} trace pool ∧ (∀ call, pool.calls call = none) ∧
      ¬∀ runtime < pool.nextRuntime, runtime ∉ pool.stopped →
        ∃ name entry, pool.state.nodes.get? name = some entry ∧
          pool.slot entry.address = some runtime := by
  obtain ⟨trace, early, run, drained, two, three, resolved, others, unfilled,
    one, stopped⟩ := stopped_after_resolve
  obtain ⟨stops, pool, round, empty, generation, _, calls, slot, runtimes,
    ended⟩ := run_stops (2 ^ 64 - 1) drained (others 1 nofun)
      (three.trans (congrArg (· + 1) two.symm))
  have recurs : pool.state.generation = 1 := by
    rw [generation, two]
    rfl
  have stage : pool.calls 0 = some (.lock 1 0 .runtimeFor) :=
    (congrFun calls 0).trans resolved
  have alone : ∀ call, call ≠ 0 → pool.calls call = none := by
    intro call different
    rw [calls]
    exact others call different
  have locked := (run.append round).snoc (Step.lockedEmpty stage
    (free_of_alone alone stage nofun) ((congrFun slot 0).trans unfilled))
  have started := locked.snoc (Step.started (calls_setCall_self _ _ _))
  have checked := started.snoc
    (Step.recheckPassed (calls_setCall_self _ _ _) recurs)
  have stored := checked.snoc (Step.stored (calls_setCall_self _ _ _))
  refine ⟨_, _, stored, ?_, ?_⟩
  · intro call
    by_cases same : call = 0
    · rw [same, calls_setCall_self]
      rfl
    · simp [setCall, setSlot, startRuntime, Function.update_of_ne same,
        alone call same]
  · intro owned
    have running : pool.nextRuntime ∉ pool.stopped := by
      rw [runtimes, one, ended, stopped]
      decide
    obtain ⟨name, entry, found, _⟩ :=
      owned pool.nextRuntime (Nat.lt_succ_self _) running
    change pool.state.nodes.get? name = _ at found
    rw [empty] at found
    cases found

end Velum.Runtime.NodePool
