import Mathlib.Data.List.Pairwise
import Mathlib.Data.String.Basic
import Velum.Foundation.TransitionSystem

/-!
# Traffic profiles

The runtime selects one profile at a time.  An update takes its place only when
it is authentic, valid, and expires later, and a kill switch suspends the
selection.  The clock may show any time at any call.
-/

namespace Velum.Forest

open Foundation

/-- Times are in nanoseconds. -/
structure TrafficProfile where
  schemaVersion : UInt16
  identifier : String
  digest : { bytes : List UInt8 // bytes.length = 32 }
  expiresAt : Int
  writeSizeClasses : List UInt16
  deriving DecidableEq

inductive ProfileError where
  | unsupportedSchema
  | invalidProfile
  | expired
  | authenticationRejected
  | invalidRotation
  deriving DecidableEq, Repr

/-- A size class is not larger than the one before it. -/
def descends : List UInt16 → Bool
  | first :: second :: rest =>
      decide (second ≤ first) || descends (second :: rest)
  | _ => false

def TrafficProfile.validate (profile : TrafficProfile) (now : Int) :
    Except ProfileError Unit :=
  if profile.schemaVersion ≠ 1 then .error .unsupportedSchema
  else if profile.identifier = "" ∨ 64 < profile.identifier.utf8ByteSize ∨
      profile.writeSizeClasses = [] then
    .error .invalidProfile
  else if descends profile.writeSizeClasses then .error .invalidProfile
  else if profile.expiresAt ≤ now then .error .expired
  else .ok ()

structure ProfileUpdate where
  profile : TrafficProfile
  proof : List UInt8
  deriving DecidableEq

structure ProfileStore where
  active : TrafficProfile

def ProfileStore.new (active : TrafficProfile) (now : Int) :
    Except ProfileError ProfileStore :=
  (active.validate now).map fun _ => ⟨active⟩

/-- The application says which updates are authentic. -/
def ProfileStore.rotate (store : ProfileStore) (update : ProfileUpdate)
    (verify : ProfileUpdate → Bool) (now : Int) :
    Except ProfileError Unit × ProfileStore :=
  if verify update = false then (.error .authenticationRejected, store)
  else
    match update.profile.validate now with
    | .error error => (.error error, store)
    | .ok _ =>
        if update.profile.identifier = store.active.identifier ∨
            update.profile.expiresAt ≤ store.active.expiresAt then
          (.error .invalidRotation, store)
        else (.ok (), ⟨update.profile⟩)

structure ForestRuntime where
  profiles : ProfileStore
  trafficEnabled : Bool

namespace ForestRuntime

def new (profiles : ProfileStore) : ForestRuntime := ⟨profiles, true⟩

def disableAfterFailure (runtime : ForestRuntime) : ForestRuntime :=
  { runtime with trafficEnabled := false }

def enable (runtime : ForestRuntime) : ForestRuntime :=
  { runtime with trafficEnabled := true }

def activeProfile (runtime : ForestRuntime) (now : Int) :
    Option TrafficProfile :=
  if runtime.trafficEnabled ∧ now < runtime.profiles.active.expiresAt then
    some runtime.profiles.active
  else none

end ForestRuntime

/-! ## Runs -/

inductive ProfileEvent where
  | rotated (update : ProfileUpdate) (verify : ProfileUpdate → Bool)
      (result : Except ProfileError Unit)
  | selected (now : Int) (profile : Option TrafficProfile)
  | disabled
  | enabled

/-- `profiles_mut` gives the store to a caller that rotates it, each time with a
verifier of its own. -/
inductive ProfileStep (runtime : ForestRuntime) :
    ProfileEvent → ForestRuntime → Prop where
  | rotated (update : ProfileUpdate) (verify : ProfileUpdate → Bool)
      (now : Int) :
      ProfileStep runtime
        (.rotated update verify (runtime.profiles.rotate update verify now).1)
        { runtime with
          profiles := (runtime.profiles.rotate update verify now).2 }
  | selected (now : Int) :
      ProfileStep runtime
        (.selected now (runtime.activeProfile now)) runtime
  | disabled : ProfileStep runtime .disabled runtime.disableAfterFailure
  | enabled : ProfileStep runtime .enabled runtime.enable

def ProfileEvent.adopts : ProfileEvent → Option TrafficProfile
  | .rotated update _ (.ok _) => some update.profile
  | _ => none

def ProfileEvent.switches (enabled : Bool) : ProfileEvent → Bool
  | .disabled => false
  | .enabled => true
  | _ => enabled

/-- The profiles that were active, oldest first. -/
def adopted (first : TrafficProfile) (trace : List ProfileEvent) :
    List TrafficProfile :=
  first :: trace.filterMap ProfileEvent.adopts

/-- Where the kill switch stands. -/
def enabledAfter (trace : List ProfileEvent) : Bool :=
  trace.foldl ProfileEvent.switches true

/-! ## One rotation -/

structure TrafficProfile.Sound (profile : TrafficProfile) : Prop where
  schema : profile.schemaVersion = 1
  named : profile.identifier ≠ ""
  short : profile.identifier.utf8ByteSize ≤ 64
  filled : profile.writeSizeClasses ≠ []
  ascending : profile.writeSizeClasses.Pairwise (· < ·)

theorem descends_eq_false_iff (sizes : List UInt16) :
    descends sizes = false ↔ sizes.Pairwise (· < ·) := by
  induction sizes with
  | nil => simp [descends]
  | cons first rest induction =>
      cases rest with
      | nil => simp [descends]
      | cons second rest =>
          rw [descends, Bool.or_eq_false_iff, induction,
            decide_eq_false_iff_not, UInt16.not_le]
          constructor
          · rintro ⟨below, ascending⟩
            apply List.pairwise_cons.mpr
            refine ⟨?_, ascending⟩
            intro later member
            rcases List.mem_cons.mp member with rfl | inside
            · exact below
            · exact UInt16.lt_trans below
                (List.rel_of_pairwise_cons ascending inside)
          · intro ascending
            exact ⟨List.rel_of_pairwise_cons ascending List.mem_cons_self,
              ascending.of_cons⟩

theorem TrafficProfile.validate_eq_ok_iff {profile : TrafficProfile}
    {now : Int} :
    profile.validate now = .ok () ↔
      profile.Sound ∧ now < profile.expiresAt := by
  rw [validate]
  constructor
  · intro accepted
    split at accepted
    next => cases accepted
    next schema =>
        split at accepted
        next => cases accepted
        next shape =>
            split at accepted
            next => cases accepted
            next ascending =>
                split at accepted
                next => cases accepted
                next live =>
                    simp only [not_or, Nat.not_lt] at shape
                    rw [Bool.not_eq_true, descends_eq_false_iff] at ascending
                    exact ⟨⟨not_not.mp schema, shape.1, shape.2.1, shape.2.2,
                      ascending⟩, Int.not_le.mp live⟩
  · rintro ⟨sound, live⟩
    have ascending := (descends_eq_false_iff _).mpr sound.ascending
    simp [sound.schema, sound.named, sound.filled, ascending,
      Nat.not_lt.mpr sound.short, Int.not_le.mpr live]

/-- A rotation adopts the profile of an authentic update, or it changes
nothing. -/
theorem ProfileStore.rotate_cases (store : ProfileStore)
    (update : ProfileUpdate) (verify : ProfileUpdate → Bool) (now : Int) :
    (∃ error, store.rotate update verify now = (.error error, store)) ∨
    verify update = true ∧ update.profile.Sound ∧
      store.active.expiresAt < update.profile.expiresAt ∧
      update.profile.identifier ≠ store.active.identifier ∧
      store.rotate update verify now = (.ok (), ⟨update.profile⟩) := by
  rw [rotate]
  split
  next => exact .inl ⟨_, rfl⟩
  next verified =>
      split
      next error _ => exact .inl ⟨error, rfl⟩
      next _ accepted =>
          split
          next => exact .inl ⟨_, rfl⟩
          next rotates =>
              rw [not_or, Int.not_le] at rotates
              exact .inr ⟨Bool.eq_true_of_not_eq_false verified,
                (TrafficProfile.validate_eq_ok_iff.mp accepted).1,
                rotates.2, rotates.1, rfl⟩

/-! ## Whole runs -/

section Runs

variable {first : TrafficProfile}
  {trace : List ProfileEvent} {runtime next : ForestRuntime}
  {event : ProfileEvent}

variable (first) in
/-- What a trace says of the state after it. -/
structure Governs (trace : List ProfileEvent) (runtime : ForestRuntime) :
    Prop where
  active : (adopted first trace).getLast? = some runtime.profiles.active
  switch : enabledAfter trace = runtime.trafficEnabled
  sound : ∀ profile ∈ adopted first trace, profile.Sound
  later : (adopted first trace).Pairwise (·.expiresAt < ·.expiresAt)
  authentic : ∀ update verify, .rotated update verify (.ok ()) ∈ trace →
    verify update = true

theorem adopted_snoc :
    adopted first (trace ++ [event]) =
      adopted first trace ++ event.adopts.toList := by
  rw [adopted, List.filterMap_append, ← List.cons_append, ← adopted]
  cases adopts : event.adopts with
  | none => simp [adopts]
  | some profile => simp [adopts]

theorem enabledAfter_snoc :
    enabledAfter (trace ++ [event]) =
      event.switches (enabledAfter trace) := by
  rw [enabledAfter, List.foldl_append]
  rfl

/-- A profile that was active expires no later than the one that is. -/
theorem Governs.le_active (governs : Governs first trace runtime)
    {profile : TrafficProfile} (member : profile ∈ adopted first trace) :
    profile.expiresAt ≤ runtime.profiles.active.expiresAt := by
  obtain ⟨front, split⟩ := List.getLast?_eq_some_iff.mp governs.active
  have later := governs.later
  rw [split] at member later
  rcases List.mem_append.mp member with earlier | last
  · exact ((List.pairwise_append.mp later).2.2 _ earlier _
      List.mem_cons_self).le
  · rw [List.mem_singleton.mp last]

/-- An event that adopts nothing keeps what is known of the profiles. -/
theorem Governs.keep (governs : Governs first trace runtime)
    (quiet : event.adopts = none) (active : next.profiles = runtime.profiles)
    (switch : event.switches runtime.trafficEnabled = next.trafficEnabled) :
    Governs first (trace ++ [event]) next := by
  have same : adopted first (trace ++ [event]) = adopted first trace := by
    rw [adopted_snoc, quiet, Option.toList_none, List.append_nil]
  constructor
  · rw [same, governs.active, active]
  · rw [enabledAfter_snoc, governs.switch, switch]
  · rw [same]
    exact governs.sound
  · rw [same]
    exact governs.later
  · intro update verify member
    rcases List.mem_append.mp member with earlier | now
    · exact governs.authentic update verify earlier
    · rw [← List.mem_singleton.mp now] at quiet
      cases quiet

/-- An authentic update that expires later is adopted. -/
theorem Governs.adopt (governs : Governs first trace runtime)
    {update : ProfileUpdate} {verify : ProfileUpdate → Bool}
    (verified : verify update = true)
    (sound : update.profile.Sound)
    (later : runtime.profiles.active.expiresAt < update.profile.expiresAt) :
    Governs first (trace ++ [.rotated update verify (.ok ())])
      { runtime with profiles := ⟨update.profile⟩ } := by
  have grown : adopted first (trace ++ [.rotated update verify (.ok ())]) =
      adopted first trace ++ [update.profile] := adopted_snoc
  constructor
  · rw [grown, List.getLast?_concat]
  · rw [enabledAfter_snoc]
    exact governs.switch
  · rw [grown]
    intro profile member
    rcases List.mem_append.mp member with earlier | new
    · exact governs.sound profile earlier
    · rw [List.mem_singleton.mp new]
      exact sound
  · rw [grown, List.pairwise_append]
    refine ⟨governs.later, List.pairwise_singleton _ _, ?_⟩
    intro profile member new added
    rw [List.mem_singleton.mp added]
    exact (governs.le_active member).trans_lt later
  · intro other checked member
    rcases List.mem_append.mp member with earlier | new
    · exact governs.authentic other checked earlier
    · cases List.mem_singleton.mp new
      exact verified

theorem Governs.step (governs : Governs first trace runtime)
    (move : ProfileStep runtime event next) :
    Governs first (trace ++ [event]) next := by
  cases move with
  | rotated update verify now =>
      rcases runtime.profiles.rotate_cases update verify now with
        ⟨error, refused⟩ | ⟨verified, sound, later, _, rotated⟩
      · rw [refused]
        exact governs.keep rfl rfl rfl
      · rw [rotated]
        exact governs.adopt verified sound later
  | selected now => exact governs.keep rfl rfl rfl
  | disabled => exact governs.keep rfl rfl rfl
  | enabled => exact governs.keep rfl rfl rfl

theorem governs_of_run {start : Int} {store : ProfileStore}
    (created : ProfileStore.new first start = .ok store)
    (run : Run ProfileStep (.new store) trace runtime) :
    Governs first trace runtime := by
  induction run with
  | nil =>
      rw [ProfileStore.new] at created
      cases accepted : first.validate start with
      | error error =>
          rw [accepted] at created
          cases created
      | ok value =>
          rw [accepted] at created
          cases created
          constructor
          · rfl
          · rfl
          · intro profile member
            rw [List.mem_singleton.mp member]
            exact (TrafficProfile.validate_eq_ok_iff.mp accepted).1
          · exact List.pairwise_singleton _ _
          · intro update verify member
            cases member
  | snoc _ move induction => exact induction.step move

variable (first) in
/-- What every trace shows. -/
structure Governed (trace : List ProfileEvent) : Prop where
  sound : ∀ profile ∈ adopted first trace, profile.Sound
  later : (adopted first trace).Pairwise (·.expiresAt < ·.expiresAt)
  authentic : ∀ update verify, .rotated update verify (.ok ()) ∈ trace →
    verify update = true
  /-- The profile that was adopted last is selected while the switch is on and
  the profile has not expired, and nothing is selected otherwise. -/
  selects : ∀ front back now selection,
    trace = front ++ .selected now selection :: back →
    ∃ latest, (adopted first front).getLast? = some latest ∧
      selection = if enabledAfter front ∧ now < latest.expiresAt then
        some latest else none

/-- In every run only valid profiles are selected, each authenticated, and each
adopted profile expires later than all before it, so no update is accepted a
second time and no earlier profile comes back. -/
theorem profiles_never_roll_back (first : TrafficProfile) (start : Int)
    (store : ProfileStore)
    (created : ProfileStore.new first start = .ok store)
    (trace : List ProfileEvent) (runtime : ForestRuntime)
    (run : Run ProfileStep (.new store) trace runtime) :
    Governed first trace := by
  have governs := governs_of_run created run
  constructor
  · exact governs.sound
  · exact governs.later
  · exact governs.authentic
  · rintro front back now selection rfl
    obtain ⟨middle, early, late⟩ := run.split
    obtain ⟨_, move, _⟩ := late.head
    have before := governs_of_run created early
    cases move
    exact ⟨_, before.active, by rw [before.switch]; rfl⟩

end Runs

def sampleProfile (identifier : String) (expiresAt : Int) : TrafficProfile where
  schemaVersion := 1
  identifier := identifier
  digest := ⟨List.replicate 32 7, List.length_replicate⟩
  expiresAt := expiresAt
  writeSizeClasses := [256, 512, 1024]

/-- An update with the proof 1. -/
def sampleVerify (update : ProfileUpdate) : Bool := update.proof == [1]

/-- An authentic update is adopted, and a second time it is refused. -/
theorem profiles_never_roll_back_sample :
    ∃ runtime,
      Run ProfileStep (.new ⟨sampleProfile "bootstrap" 100⟩)
        [.rotated ⟨sampleProfile "rotated" 200, [1]⟩ sampleVerify (.ok ()),
          .rotated ⟨sampleProfile "rotated" 200, [1]⟩ sampleVerify
            (.error .invalidRotation)] runtime ∧
      Governed (sampleProfile "bootstrap" 100)
        [.rotated ⟨sampleProfile "rotated" 200, [1]⟩ sampleVerify (.ok ()),
          .rotated ⟨sampleProfile "rotated" 200, [1]⟩ sampleVerify
            (.error .invalidRotation)] := by
  have adopts := Run.single (@ProfileStep.rotated
    (.new ⟨sampleProfile "bootstrap" 100⟩)
    ⟨sampleProfile "rotated" 200, [1]⟩ sampleVerify 1)
  have refuses := adopts.snoc (.rotated ⟨sampleProfile "rotated" 200, [1]⟩
    sampleVerify 1)
  exact ⟨_, refuses, profiles_never_roll_back _ 1 _ rfl _ _ refuses⟩

end Velum.Forest
