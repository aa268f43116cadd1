import Velum.Foundation.TransitionSystem

/-!
# Relays

A relay copies bytes between a local stream and a relay stream, one loop for
each direction.  The loops are suspended in their reads and writes, and the
two ends send bytes and end their streams at any time.  No read and no write
fails, and no shutdown is signalled.

What becomes of one direction when the other has ended is what the relays of
the client and of the node differ in.  A loop that is dropped drops its sink
with it.
-/

namespace Velum.Proxy

open Foundation

inductive Direction where
  | upstream
  | downstream
  deriving DecidableEq, Repr

def Direction.other : Direction → Direction
  | .upstream => .downstream
  | .downstream => .upstream

/-- Where a copy loop is suspended. -/
inductive CopyStage where
  | reading
  | writing (rest : List UInt8)
  -- The end of the stream has been read; its close is awaited.
  | closing
  | done
  -- The loop is gone, with the bytes that it had read and not yet written.
  | dropped (rest : List UInt8)
  deriving DecidableEq, Repr

/-- One direction: what its source has sent so far, and what the loop has made
of it. -/
structure Copy where
  sent : List UInt8 := []
  ended : Bool := false
  waiting : List UInt8 := []
  stage : CopyStage := .reading
  written : List UInt8 := []
  -- The sink has been finished or shut down.
  closed : Bool := false
  deriving DecidableEq, Repr

namespace Copy

/-- The bytes that a loop has read and not yet written. -/
def held (copy : Copy) : List UInt8 :=
  match copy.stage with
  | .writing rest => rest
  | .dropped rest => rest
  | _ => []

def isDropped (copy : Copy) : Bool :=
  match copy.stage with
  | .dropped _ => true
  | _ => false

def send (copy : Copy) (bytes : List UInt8) : Option Copy :=
  if copy.ended then none
  else
    some { copy with
      sent := copy.sent ++ bytes
      waiting := copy.waiting ++ bytes }

def finishSource (copy : Copy) : Option Copy :=
  if copy.ended then none else some { copy with ended := true }

/-- A read returns some of the bytes that are there. -/
def read (buffer count : Nat) (copy : Copy) : Option Copy :=
  if copy.stage = .reading ∧ 0 < count ∧ count ≤ buffer ∧
      count ≤ copy.waiting.length then
    some { copy with
      stage := .writing (copy.waiting.take count)
      waiting := copy.waiting.drop count }
  else none

/-- A part of `write_all`. -/
def write (count : Nat) (copy : Copy) : Option Copy :=
  match copy.stage with
  | .writing rest =>
      if 0 < count ∧ count ≤ rest.length then
        some { copy with
          stage := if count = rest.length then .reading
            else .writing (rest.drop count)
          written := copy.written ++ rest.take count }
      else none
  | _ => none

/-- A read returns the end of the stream. -/
def readEnd (awaits : Bool) (copy : Copy) : Option Copy :=
  if copy.stage = .reading ∧ copy.waiting = [] ∧ copy.ended = true then
    some (if awaits then { copy with stage := .closing }
      else { copy with stage := .done, closed := true })
  else none

def close (copy : Copy) : Option Copy :=
  if copy.stage = .closing then
    some { copy with stage := .done, closed := true }
  else none

/-- A loop that has not returned is dropped, and its sink with it, which may
finish the stream. -/
def drop (finishes : Bool) (copy : Copy) : Copy :=
  if copy.stage = .done then copy
  else { copy with stage := .dropped copy.held, closed := finishes }

/-- Dropping the loop loses nothing that there is: it holds no bytes, none wait
for it, and the end of its source, if that has come, is passed on by the drop
itself. -/
def Idle (finishes : Bool) (copy : Copy) : Prop :=
  copy.stage = .done ∨
    copy.held = [] ∧ copy.waiting = [] ∧ (copy.ended = true → finishes = true)

end Copy

/-- What the end of one loop does to the other. -/
inductive Cut where
  | spares
  -- The other loop is dropped at once.
  | drops
  -- The task of the other loop is aborted: it is dropped when it next yields.
  | aborts
  deriving DecidableEq, Repr

/-- How a relay joins its two loops. -/
structure RelayShape where
  buffer : Nat
  -- The close at the end of the direction is awaited.
  awaits : Direction → Bool
  -- What the end of the direction does to the other one.
  cut : Direction → Cut
  -- Dropping the sink of the direction finishes it or shuts it down.
  finishes : Direction → Bool

/-- The proxy of the client spawns the upstream loop, and aborts it when the
downstream loop has ended.  A stream of the transport is finished when it is
dropped. -/
def relayHalves : RelayShape where
  buffer := 16 * 1024
  awaits
    | .upstream => false
    | .downstream => true
  cut
    | .upstream => .spares
    | .downstream => .aborts
  finishes _ := true

/-- The Android relay selects the loop that ends first.  Whether a stream of
the tunnel is `shut` down when it is dropped is left to the tunnel. -/
def relayTcp (shut : Bool) : RelayShape where
  buffer := 16 * 1024
  awaits
    | .upstream => false
    | .downstream => true
  cut _ := .drops
  finishes
    | .upstream => true
    | .downstream => shut

/-- The node joins its loops. -/
def relayParts : RelayShape where
  buffer := 16 * 1024
  awaits
    | .upstream => true
    | .downstream => false
  cut _ := .spares
  finishes _ := true

structure Relay where
  copy : Direction → Copy := fun _ => {}
  aborted : Direction → Bool := fun _ => false

inductive RelayLabel where
  | sends (direction : Direction) (bytes : List UInt8)
  | ends (direction : Direction)
  | reads (direction : Direction) (count : Nat)
  | writes (direction : Direction) (count : Nat)
  | readsEnd (direction : Direction)
  | closes (direction : Direction)
  -- The aborted task of the direction yields.
  | yields (direction : Direction)
  deriving DecidableEq, Repr

/-- The steps of the relay itself. -/
def RelayLabel.isOwn : RelayLabel → Bool
  | .sends _ _ => false
  | .ends _ => false
  | _ => true

namespace Relay

def setCopy (relay : Relay) (direction : Direction) (copy : Copy) : Relay :=
  { relay with
    copy := fun other =>
      if other = direction then copy else relay.copy other }

def drop (shape : RelayShape) (relay : Relay) (direction : Direction) :
    Relay :=
  relay.setCopy direction
    ((relay.copy direction).drop (shape.finishes direction))

def abort (relay : Relay) (direction : Direction) : Relay :=
  { relay with
    aborted := fun other =>
      if other = direction then true else relay.aborted other }

/-- What becomes of the other loop once this one has ended. -/
def settle (shape : RelayShape) (relay : Relay) (direction : Direction) :
    Relay :=
  if (relay.copy direction).stage = .done then
    match shape.cut direction with
    | .spares => relay
    | .drops => relay.drop shape direction.other
    | .aborts => relay.abort direction.other
  else relay

/-- One step of a loop. -/
def advance (shape : RelayShape) (relay : Relay) (direction : Direction)
    (action : Copy → Option Copy) : Option Relay :=
  (action (relay.copy direction)).map fun copy =>
    (relay.setCopy direction copy).settle shape direction

/-- A task that has returned or is gone already is not dropped. -/
def yield (shape : RelayShape) (relay : Relay) (direction : Direction) :
    Option Relay :=
  if relay.aborted direction = true ∧
      (relay.copy direction).stage ≠ .done ∧
      (relay.copy direction).isDropped = false then
    some (relay.drop shape direction)
  else none

def step (shape : RelayShape) (relay : Relay) : RelayLabel → Option Relay
  | .sends direction bytes =>
      ((relay.copy direction).send bytes).map (relay.setCopy direction)
  | .ends direction =>
      (relay.copy direction).finishSource.map (relay.setCopy direction)
  | .reads direction count =>
      relay.advance shape direction (Copy.read shape.buffer count)
  | .writes direction count =>
      relay.advance shape direction (Copy.write count)
  | .readsEnd direction =>
      relay.advance shape direction (Copy.readEnd (shape.awaits direction))
  | .closes direction => relay.advance shape direction Copy.close
  | .yields direction => relay.yield shape direction

def Step (shape : RelayShape) (relay : Relay) (label : RelayLabel)
    (after : Relay) : Prop :=
  relay.step shape label = some after

/-- The relay has nothing more to do. -/
def Quiet (shape : RelayShape) (relay : Relay) : Prop :=
  ∀ label : RelayLabel, label.isOwn = true → relay.step shape label = none

/-- What is written is what was sent, in order, and a sink is closed only
behind all of it, by the end of its source or by being dropped.  When the relay
is quiet, everything has been written, and closed if its source has ended. -/
def Transparent (shape : RelayShape) (relay : Relay) : Prop :=
  ∀ direction,
    ((relay.copy direction).written <+: (relay.copy direction).sent ∧
      ((relay.copy direction).closed = true →
        (relay.copy direction).written = (relay.copy direction).sent ∧
          ((relay.copy direction).ended = true ∨
            (relay.copy direction).isDropped = true))) ∧
    (relay.Quiet shape →
      (relay.copy direction).written = (relay.copy direction).sent ∧
        ((relay.copy direction).ended = true →
          (relay.copy direction).closed = true))

/-- A step to a transparent state. -/
def TransparentStep (shape : RelayShape) (relay : Relay) (label : RelayLabel)
    (after : Relay) : Prop :=
  Step shape relay label after ∧ after.Transparent shape

/-! ## The condition -/

/-- If the end of the direction drops the other loop at once, that one is
idle. -/
def MayEnd (shape : RelayShape) (relay : Relay) (direction : Direction) :
    Prop :=
  shape.cut direction = .drops →
    (relay.copy direction.other).Idle (shape.finishes direction.other)

/-- The condition on a step: a loop is dropped only when it is idle, and the
source of a loop that is gone sends nothing more; nor does it end, unless the
drop has finished the stream. -/
def Tame (shape : RelayShape) (relay : Relay) : RelayLabel → Prop
  | .sends direction bytes =>
      (relay.copy direction).isDropped = true → bytes = []
  | .ends direction => (relay.copy direction).isDropped = true →
      shape.finishes direction = true
  | .readsEnd direction => shape.awaits direction = false →
      relay.MayEnd shape direction
  | .closes direction => relay.MayEnd shape direction
  | .yields direction =>
      (relay.copy direction).Idle (shape.finishes direction)
  | _ => True

def TameStep (shape : RelayShape) (relay : Relay) (label : RelayLabel)
    (after : Relay) : Prop :=
  Step shape relay label after ∧ relay.Tame shape label

end Relay

end Velum.Proxy
