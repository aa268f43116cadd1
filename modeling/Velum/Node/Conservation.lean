import Velum.Node.Admission

/-!
# Quota conservation

The accounting stores exactly the sessions of the connections, with the flows
that they have reserved.  A step changes one connection and the line that it
has in the ledger of the accounting.
-/

namespace Velum.Node.Admissions

open Foundation Server

/-- The session that the accounting stores for a connection; `close` has taken
it out of the connection before it is given back. -/
def storedSession (session : Option AdmittedSession) :
    Option Operation → Option AdmittedSession
  | some (.closeSession taken) => some taken
  | _ => session

/-- The flows that the accounting counts for a connection. -/
def countedFlows (reserved : List (Nat × SessionLease)) :
    Option Operation → List (Nat × SessionLease)
  | some (.finish call result) => call.settle result reserved
  | _ => reserved

def line (session : Option AdmittedSession)
    (reserved : List (Nat × SessionLease)) (operation : Option Operation) :
    Option (SessionKey × Nat) :=
  (storedSession session operation).map fun key =>
    (key, (countedFlows reserved operation).length)

def ledger (state : Admissions) : Ledger Nat := fun connection =>
  line (state.session connection) (state.reserved connection)
    (state.operation connection)

/-- What an operation relies on between its sections. -/
def Relies (admission : RelayAdmission) (session : Option AdmittedSession)
    (reserved : List (Nat × SessionLease)) : Option Operation → Prop
  | some (.admitDatagram credential principal) =>
      admission.authenticator.authenticate credential = .ok principal
  | some (.openFlow _ key created) =>
      session = some key ∧ (created = true → reserved = [])
  | some (.undo _ key _) => session = some key ∧ reserved = []
  | some (.release flow lease) =>
      (flow, lease) ∈ reserved ∨ ¬HasLease session lease
  | some .close => reserved = []
  | some (.closeSession _) => session = none ∧ reserved = []
  | some (.finish (.admitDatagram credential) .done) =>
      ∃ key, session = some key ∧
        admission.authenticator.authenticate credential = .ok key.principal
  | some (.finish (.reserveFlow _ principal) (.reserved lease)) =>
      session = some ⟨principal, lease⟩
  | _ => True

/-- One connection by itself. -/
structure Coherent (admission : RelayAdmission)
    (session : Option AdmittedSession)
    (reserved : List (Nat × SessionLease)) (operation : Option Operation) :
    Prop where
  relies : Relies admission session reserved operation
  leases : ∀ flow lease, (flow, lease) ∈ countedFlows reserved operation →
    HasLease session lease

structure Sound (admission : RelayAdmission) (quota : PrincipalQuota)
    (state : Admissions) : Prop where
  quota : state.quotas.quota = quota
  ledger : Matches state.quotas state.ledger
  coherent : ∀ connection, Coherent admission (state.session connection)
    (state.reserved connection) (state.operation connection)

theorem sound_initial (admission : RelayAdmission) (quota : PrincipalQuota) :
    Sound admission quota { quotas := .new quota } where
  quota := rfl
  ledger := matches_new quota
  coherent _ := ⟨trivial, nofun⟩

variable {admission : RelayAdmission} {quota : PrincipalQuota}
  {state next : Admissions} {event : Event}

/-- A step leaves the other connections as they are. -/
theorem others_step (step : Step admission state event next) {other : Nat}
    (different : other ≠ event.connection) :
    next.session other = state.session other ∧
      next.reserved other = state.reserved other ∧
      next.operation other = state.operation other := by
  cases step with
  | unauthenticated => exact ⟨rfl, rfl, rfl⟩
  | admitOpened | reserveOpened | undone | closeTaken =>
      exact ⟨Function.update_of_ne different _ _, rfl,
        Function.update_of_ne different _ _⟩
  | returned =>
      exact ⟨rfl, Function.update_of_ne different _ _,
        Function.update_of_ne different _ _⟩
  | _ => exact ⟨rfl, rfl, Function.update_of_ne different _ _⟩

/-- It is enough to look at the connection that changes. -/
theorem sound_change {connection : Nat} {quotas : AdmissionControl}
    {session : Option AdmittedSession}
    {reserved : List (Nat × SessionLease)} {operation : Option Operation}
    (sound : Sound admission quota state)
    (kept : quotas.quota = state.quotas.quota)
    (matched : Matches quotas (Function.update state.ledger connection
      (line session reserved operation)))
    (coherent : Coherent admission session reserved operation) :
    Sound admission quota
      { quotas
        session := Function.update state.session connection session
        operation := Function.update state.operation connection operation
        reserved := Function.update state.reserved connection reserved }
    where
  quota := kept.trans sound.quota
  ledger := by
    convert matched using 1
    funext other
    by_cases own : other = connection
    · simp [ledger, own]
    · simp [ledger, own]
  coherent := by
    intro other
    by_cases own : other = connection
    · simpa [own] using coherent
    · simpa [own] using sound.coherent other

theorem sound_setOperation {connection : Nat} {quotas : AdmissionControl}
    {operation : Option Operation} (sound : Sound admission quota state)
    (kept : quotas.quota = state.quotas.quota)
    (matched : Matches quotas (Function.update state.ledger connection
      (line (state.session connection) (state.reserved connection)
        operation)))
    (coherent : Coherent admission (state.session connection)
      (state.reserved connection) operation) :
    Sound admission quota
      ({ state with quotas }.setOperation connection operation) := by
  have changed := sound_change sound kept matched coherent
  rw [Function.update_eq_self, Function.update_eq_self] at changed
  exact changed

theorem sound_setSession {connection : Nat} {quotas : AdmissionControl}
    {session : Option AdmittedSession} {operation : Option Operation}
    (sound : Sound admission quota state)
    (kept : quotas.quota = state.quotas.quota)
    (matched : Matches quotas (Function.update state.ledger connection
      (line session (state.reserved connection) operation)))
    (coherent : Coherent admission session (state.reserved connection)
      operation) :
    Sound admission quota
      (({ state with quotas }.setSession connection session).setOperation
        connection operation) := by
  have changed := sound_change sound kept matched coherent
  rw [Function.update_eq_self] at changed
  exact changed

theorem ledger_of_stage {connection : Nat} {operation : Option Operation}
    (stage : state.operation connection = operation) :
    state.ledger connection = line (state.session connection)
      (state.reserved connection) operation := by
  unfold ledger
  rw [stage]

theorem Sound.coherent_of_stage {connection : Nat}
    {operation : Option Operation} (sound : Sound admission quota state)
    (stage : state.operation connection = operation) :
    Coherent admission (state.session connection)
      (state.reserved connection) operation := by
  rw [← stage]
  exact sound.coherent connection

/-- The accounting stays as it is, and so does the line of the connection. -/
theorem sound_moves {connection : Nat} {before after : Option Operation}
    (sound : Sound admission quota state)
    (stage : state.operation connection = before)
    (same : line (state.session connection) (state.reserved connection)
        after =
      line (state.session connection) (state.reserved connection) before)
    (coherent : Coherent admission (state.session connection)
      (state.reserved connection) after) :
    Sound admission quota (state.setOperation connection after) := by
  apply sound_setOperation sound rfl
  · rw [same, ← ledger_of_stage stage, Function.update_eq_self]
    exact sound.ledger
  · exact coherent

/-- A connection without a session has no flows. -/
theorem Coherent.nothing_counted {operation : Option Operation}
    {reserved : List (Nat × SessionLease)}
    (coherent : Coherent admission none reserved operation) :
    countedFlows reserved operation = [] := by
  apply List.eq_nil_iff_forall_not_mem.mpr
  intro ⟨flow, lease⟩ member
  obtain ⟨_, impossible, _⟩ := coherent.leases flow lease member
  cases impossible

/-- A new session of a connection that has none. -/
theorem sound_opened {connection : Nat} {principal : PrincipalId}
    {lease : SessionLease} {quotas : AdmissionControl}
    {before after : Option Operation} (sound : Sound admission quota state)
    (stage : state.operation connection = before)
    (unbound : state.session connection = none)
    (plain : countedFlows (state.reserved connection) before =
      state.reserved connection)
    (free : storedSession none before = none)
    (opened : state.quotas.openSession principal = (.ok lease, quotas))
    (own : storedSession (some ⟨principal, lease⟩) after =
      some ⟨principal, lease⟩)
    (counted : ∀ reserved, countedFlows reserved after = reserved)
    (relies : Relies admission (some ⟨principal, lease⟩) [] after) :
    Sound admission quota
      (({ state with quotas }.setSession connection
        (some ⟨principal, lease⟩)).setOperation connection after) := by
  have coherent := sound.coherent_of_stage stage
  rw [unbound] at coherent
  have empty : state.reserved connection = [] := by
    rw [← plain]
    exact coherent.nothing_counted
  apply sound_setSession sound
  · exact (AdmissionControl.openSession_ok opened).2.2.2.1
  · rw [empty]
    have made : line (some ⟨principal, lease⟩) [] after =
        some (⟨principal, lease⟩, 0) := by
      unfold line
      rw [own, counted]
      rfl
    rw [made]
    apply matches_openSession sound.ledger _ opened
    rw [ledger_of_stage stage, unbound]
    unfold line
    rw [free]
    rfl
  · rw [empty]
    refine ⟨relies, ?_⟩
    rw [counted]
    exact nofun

theorem sound_step (sound : Sound admission quota state)
    (step : Step admission state event next) :
    Sound admission quota next := by
  cases step with
  | unauthenticated rejected => exact sound
  | admitDatagram authenticated unlocked =>
      have coherent := sound.coherent_of_stage unlocked
      exact sound_moves sound unlocked rfl ⟨authenticated, coherent.leases⟩
  | reserve unlocked =>
      have coherent := sound.coherent_of_stage unlocked
      exact sound_moves sound unlocked rfl ⟨trivial, coherent.leases⟩
  | admitForeign stage bound foreign | reserveForeign stage bound foreign
  | closeUnbound stage unbound =>
      have coherent := sound.coherent_of_stage stage
      exact sound_moves sound stage rfl ⟨trivial, coherent.leases⟩
  | admitKnown stage bound same =>
      have coherent := sound.coherent_of_stage stage
      refine sound_moves sound stage rfl ⟨⟨_, bound, ?_⟩, coherent.leases⟩
      rw [same]
      exact coherent.relies
  | admitOpened stage unbound opened =>
      have coherent := sound.coherent_of_stage stage
      exact sound_opened sound stage unbound rfl rfl opened rfl
        (fun _ => rfl) ⟨_, rfl, coherent.relies⟩
  | reserveOpened stage unbound opened =>
      exact sound_opened sound stage unbound rfl rfl opened rfl
        (fun _ => rfl) ⟨rfl, fun _ => rfl⟩
  | admitRefused stage unbound failed | admitPanicked stage unbound failed
  | reserveRefused stage unbound failed
  | reservePanicked stage unbound failed =>
      have coherent := sound.coherent_of_stage stage
      rw [AdmissionControl.openSession_unchanged failed nofun]
      exact sound_moves sound stage rfl ⟨trivial, coherent.leases⟩
  | reserveKnown stage bound same =>
      have coherent := sound.coherent_of_stage stage
      refine sound_moves sound stage rfl ⟨⟨?_, nofun⟩, coherent.leases⟩
      rw [bound, ← same]
  | @flowOpened connection flow session created quotas stage opened =>
      obtain ⟨⟨bound, _⟩, leases⟩ := sound.coherent_of_stage stage
      have before := ledger_of_stage stage
      rw [bound] at before
      apply sound_setOperation sound
      · have frame := (AdmissionControl.openFlow_frame state.quotas
          session.principal session.lease).1
        rw [opened] at frame
        exact frame
      · rw [bound]
        exact matches_openFlow sound.ledger before opened
      · refine ⟨bound, ?_⟩
        intro other lease member
        rcases List.mem_cons.mp member with same | earlier
        · cases same
          exact ⟨session, bound, rfl⟩
        · exact leases other lease earlier
  | flowRefused stage refused =>
      have coherent := sound.coherent_of_stage stage
      rw [AdmissionControl.openFlow_unchanged refused]
      exact sound_moves sound stage rfl ⟨trivial, coherent.leases⟩
  | firstFlowRefused stage refused =>
      obtain ⟨⟨bound, first⟩, leases⟩ := sound.coherent_of_stage stage
      rw [AdmissionControl.openFlow_unchanged refused]
      exact sound_moves sound stage rfl ⟨⟨bound, first rfl⟩, leases⟩
  | undone stage =>
      obtain ⟨⟨bound, empty⟩, leases⟩ := sound.coherent_of_stage stage
      have before := ledger_of_stage stage
      rw [bound] at before
      apply sound_setSession sound
      · exact (AdmissionControl.closeSession_frame ..).1
      · exact matches_closeSession sound.ledger before
      · rw [empty]
        exact ⟨trivial, nofun⟩
  | release unlocked reserved =>
      have coherent := sound.coherent_of_stage unlocked
      exact sound_moves sound unlocked rfl ⟨reserved, coherent.leases⟩
  | @released connection flow session stage bound =>
      obtain ⟨known, leases⟩ := sound.coherent_of_stage stage
      have member : (flow, session.lease) ∈ state.reserved connection := by
        rcases known with member | stale
        · exact member
        · exact absurd ⟨session, bound, rfl⟩ stale
      have shorter := List.length_erase_of_mem member
      have positive := List.length_pos_of_mem member
      have before := ledger_of_stage stage
      rw [bound] at before
      apply sound_setOperation sound
      · exact (AdmissionControl.closeFlow_frame ..).1
      · rw [bound]
        change Matches _ (Function.update _ _ (some (session,
          ((state.reserved connection).erase (flow, session.lease)).length)))
        apply matches_closeFlow sound.ledger
        rw [before, shorter]
        change some (session, (state.reserved connection).length) = _
        congr 2
        omega
      · refine ⟨trivial, ?_⟩
        intro other lease left
        exact leases other lease (List.mem_of_mem_erase left)
  | @releaseStale connection flow lease stage stale =>
      have coherent := sound.coherent_of_stage stage
      have absent : (flow, lease) ∉ state.reserved connection :=
        fun member => stale (coherent.leases flow lease member)
      have same : countedFlows (state.reserved connection)
          (some (.finish (.releaseFlow flow lease) .done)) =
          state.reserved connection := List.erase_of_not_mem absent
      apply sound_moves sound stage
      · unfold line
        rw [same]
        rfl
      · refine ⟨trivial, ?_⟩
        rw [same]
        exact coherent.leases
  | close unlocked drained =>
      have coherent := sound.coherent_of_stage unlocked
      exact sound_moves sound unlocked rfl ⟨drained, coherent.leases⟩
  | @closeTaken connection session stage bound =>
      have coherent := sound.coherent_of_stage stage
      have empty : state.reserved connection = [] := coherent.relies
      have before := ledger_of_stage stage
      rw [bound] at before
      apply sound_setSession sound rfl
      · change Matches _ (Function.update _ _
          (line (some session) (state.reserved connection) (some .close)))
        rw [← before, Function.update_eq_self]
        exact sound.ledger
      · rw [empty]
        exact ⟨⟨rfl, rfl⟩, nofun⟩
  | closed stage =>
      obtain ⟨⟨unbound, empty⟩, leases⟩ := sound.coherent_of_stage stage
      have before := ledger_of_stage stage
      apply sound_setOperation sound
      · exact (AdmissionControl.closeSession_frame ..).1
      · rw [unbound]
        exact matches_closeSession sound.ledger before
      · exact ⟨trivial, leases⟩
  | @returned connection call result stage =>
      have coherent := sound.coherent_of_stage stage
      have before := ledger_of_stage stage
      have matched : Matches state.quotas (Function.update state.ledger
          connection (line (state.session connection)
            (call.settle result (state.reserved connection)) none)) := by
        change Matches _ (Function.update _ _ (line _ _
          (some (.finish call result))))
        rw [← before, Function.update_eq_self]
        exact sound.ledger
      have changed := sound_change sound rfl matched
        ⟨trivial, coherent.leases⟩
      rw [Function.update_eq_self] at changed
      exact changed

theorem sound_of_run {trace : List Event}
    (run : Run (Step admission) { quotas := .new quota } trace state) :
    Sound admission quota state := by
  induction run with
  | nil => exact sound_initial admission quota
  | snoc earlier step induction => exact sound_step induction step

/-! ## Leases -/

/-- The leases that were drawn, oldest first. -/
def drawnLeases (trace : List Event) : List SessionLease :=
  trace.filterMap fun event =>
    match event with
    | .opened _ session => some session.lease
    | _ => none

/-- The lease counter after a step. -/
theorem nextLease_step (step : Step admission state event next) :
    (∃ connection session, event = .opened connection session ∧
      session.lease.value = state.quotas.nextLease ∧
      next.quotas.nextLease.toNat = state.quotas.nextLease.toNat + 1) ∨
    (drawnLeases [event] = [] ∧
      next.quotas.nextLease = state.quotas.nextLease) := by
  cases step with
  | admitOpened stage unbound opened | reserveOpened stage unbound opened =>
      obtain ⟨_, drawn, counted, _⟩ := AdmissionControl.openSession_ok opened
      exact .inl ⟨_, _, rfl, drawn, counted⟩
  | admitRefused stage unbound failed | admitPanicked stage unbound failed
  | reserveRefused stage unbound failed
  | reservePanicked stage unbound failed =>
      rw [AdmissionControl.openSession_unchanged failed nofun]
      exact .inr ⟨rfl, rfl⟩
  | @flowOpened connection flow session created quotas stage tried
  | @flowRefused connection flow session error quotas stage tried
  | @firstFlowRefused connection flow session error quotas stage tried =>
      have frame := (AdmissionControl.openFlow_frame state.quotas
        session.principal session.lease).2
      rw [tried] at frame
      exact .inr ⟨rfl, frame⟩
  | undone stage | closed stage =>
      exact .inr ⟨rfl, (AdmissionControl.closeSession_frame ..).2⟩
  | released stage bound =>
      exact .inr ⟨rfl, (AdmissionControl.closeFlow_frame ..).2⟩
  | _ => exact .inr ⟨rfl, rfl⟩

/-- Every lease that was drawn is below the counter, and no lease was drawn
twice. -/
theorem leases_of_run {trace : List Event}
    (run : Run (Step admission) { quotas := .new quota } trace state) :
    (∀ lease ∈ drawnLeases trace,
      lease.value.toNat < state.quotas.nextLease.toNat) ∧
    (drawnLeases trace).Nodup := by
  induction run with
  | nil => exact ⟨nofun, .nil⟩
  | @snoc trace state next event earlier step induction =>
      obtain ⟨below, distinct⟩ := induction
      have grown : drawnLeases (trace ++ [event]) =
          drawnLeases trace ++ drawnLeases [event] :=
        List.filterMap_append ..
      rw [grown]
      rcases nextLease_step step with
        ⟨connection, session, rfl, drawn, counted⟩ | ⟨none, same⟩
      · have own : drawnLeases [.opened connection session] =
            [session.lease] := rfl
        rw [own]
        constructor
        · intro lease member
          rcases List.mem_append.mp member with before | last
          · have less := below lease before
            omega
          · rw [List.mem_singleton.mp last, drawn, counted]
            exact Nat.lt_succ_self _
        · apply distinct.append (List.nodup_singleton _)
          intro lease before last
          have less := below lease before
          rw [List.mem_singleton.mp last, drawn] at less
          exact Nat.lt_irrefl _ less
      · rw [none, same, List.append_nil]
        exact ⟨below, distinct⟩

/-! ## Bindings -/

/-- The operation does not take the session of its connection away. -/
def Operation.Keeps : Option Operation → Prop
  | some (.openFlow _ _ created) => created = false
  | some (.undo _ _ _) => False
  | some .close => False
  | some (.closeSession _) => False
  | _ => True

/-- The connection is bound, and only `close` ends that. -/
structure Firm (state : Admissions) (connection : Nat)
    (session : AdmittedSession) : Prop where
  bound : state.session connection = some session
  keeps : Operation.Keeps (state.operation connection)

theorem Firm.unique {connection : Nat} {one other : AdmittedSession}
    (firm : state.Firm connection one)
    (again : state.Firm connection other) : one = other := by
  have same := firm.bound.symm.trans again.bound
  cases same
  rfl

theorem firm_setOperation {connection : Nat} {session : AdmittedSession}
    {operation : Option Operation}
    (bound : state.session connection = some session)
    (keeps : Operation.Keeps operation) :
    (state.setOperation connection operation).Firm connection session := by
  refine ⟨bound, ?_⟩
  rw [operation_setOperation_self]
  exact keeps

theorem firm_step {connection : Nat} {session : AdmittedSession}
    (firm : state.Firm connection session)
    (step : Step admission state event next)
    (left : event ≠ .began connection .close) :
    next.Firm connection session := by
  by_cases elsewhere : connection ≠ event.connection
  · obtain ⟨kept, _, same⟩ := others_step step elsewhere
    exact ⟨kept.trans firm.bound, same ▸ firm.keeps⟩
  have here := not_ne_iff.mp elsewhere
  obtain ⟨bound, keeps⟩ := firm
  cases step with
  | unauthenticated rejected => exact ⟨bound, keeps⟩
  | admitDatagram authenticated unlocked | reserve unlocked
  | release unlocked reserved | admitForeign stage | admitKnown stage
  | reserveForeign stage | flowOpened stage | flowRefused stage
  | released stage | releaseStale stage | returned stage =>
      simp only [Event.connection] at here
      subst here
      exact firm_setOperation bound trivial
  | reserveKnown stage =>
      simp only [Event.connection] at here
      subst here
      exact firm_setOperation bound rfl
  | close unlocked drained =>
      simp only [Event.connection] at here
      exact absurd (here ▸ rfl) left
  | admitOpened stage unbound | reserveOpened stage unbound
  | admitRefused stage unbound | admitPanicked stage unbound
  | reserveRefused stage unbound | reservePanicked stage unbound =>
      simp only [Event.connection] at here
      rw [here, unbound] at bound
      cases bound
  | firstFlowRefused stage | undone stage | closeTaken stage
  | closeUnbound stage | closed stage =>
      -- These operations were not under way on a firm connection.
      simp only [Event.connection] at here
      rw [here, stage] at keeps
      cases keeps

/-- A binding lasts until the connection is closed. -/
theorem firm_of_run {connection : Nat} {session : AdmittedSession}
    {trace : List Event} (firm : state.Firm connection session)
    (run : Run (Step admission) state trace next)
    (left : .began connection .close ∉ trace) :
    next.Firm connection session := by
  induction run with
  | nil => exact firm
  | snoc earlier step induction =>
      rw [List.mem_append, not_or] at left
      apply firm_step (induction left.1) step
      intro closing
      exact left.2 (List.mem_singleton.mpr closing.symm)

/-- A flow that was reserved leaves its connection bound. -/
theorem firm_of_reserved {connection flow : Nat} {principal : PrincipalId}
    {lease : SessionLease} (sound : Sound admission quota state)
    (step : Step admission state (.returned connection
      (.reserveFlow flow principal) (.reserved lease)) next) :
    next.Firm connection ⟨principal, lease⟩ := by
  cases step with
  | returned stage =>
      exact firm_setOperation (sound.coherent_of_stage stage).relies trivial

/-- A datagram that was admitted leaves its connection bound to the principal
of its credential. -/
theorem firm_of_admitted {connection : Nat} {credential : List UInt8}
    (sound : Sound admission quota state)
    (step : Step admission state
      (.returned connection (.admitDatagram credential) .done) next) :
    ∃ session, next.Firm connection session ∧
      admission.authenticator.authenticate credential =
        .ok session.principal := by
  cases step with
  | returned stage =>
      obtain ⟨session, bound, authenticated⟩ :=
        (sound.coherent_of_stage stage).relies
      exact ⟨session, firm_setOperation bound trivial, authenticated⟩

/-! ## Failures -/

/-- An operation that is under way has changed nothing that it keeps, unless
it does what it was called for. -/
def Undoable (session : Option AdmittedSession)
    (reserved : List (Nat × SessionLease)) (sessionNow : Option AdmittedSession)
    (reservedNow : List (Nat × SessionLease)) : Option Operation → Prop
  | some (.openFlow _ _ true) => session = none ∧ reservedNow = reserved
  | some (.undo _ _ _) => session = none ∧ reservedNow = reserved
  | some (.release _ _) => True
  | some .close => True
  | some (.closeSession _) => True
  | some (.finish _ result) =>
      result.Failure → sessionNow = session ∧ reservedNow = reserved
  | _ => sessionNow = session ∧ reservedNow = reserved

/-- The operations on the connection that the label returns from fail. -/
def FailsOn (connection : Nat) (event : Event) : Prop :=
  ∀ call result, event = .returned connection call result → result.Failure

theorem undoable_step {connection : Nat} {session : Option AdmittedSession}
    {reserved : List (Nat × SessionLease)}
    (undoable : Undoable session reserved (state.session connection)
      (state.reserved connection) (state.operation connection))
    (step : Step admission state event next)
    (fails : FailsOn connection event) :
    Undoable session reserved (next.session connection)
      (next.reserved connection) (next.operation connection) := by
  by_cases elsewhere : connection ≠ event.connection
  · obtain ⟨sessionKept, reservedKept, operationKept⟩ :=
      others_step step elsewhere
    rw [sessionKept, reservedKept, operationKept]
    exact undoable
  have here := not_ne_iff.mp elsewhere
  cases step with
  | unauthenticated rejected => exact undoable
  | admitDatagram authenticated unlocked | reserve unlocked =>
      simp only [Event.connection] at here
      subst here
      rw [unlocked] at undoable
      rw [operation_setOperation_self]
      exact undoable
  | reserveKnown stage | firstFlowRefused stage =>
      simp only [Event.connection] at here
      subst here
      rw [stage] at undoable
      rw [operation_setOperation_self]
      exact undoable
  | reserveOpened stage unbound opened =>
      simp only [Event.connection] at here
      subst here
      rw [stage] at undoable
      rw [operation_setOperation_self]
      exact ⟨undoable.1.symm.trans unbound, undoable.2⟩
  | undone stage =>
      simp only [Event.connection] at here
      subst here
      rw [stage] at undoable
      rw [operation_setOperation_self, session_setOperation,
        session_setSession_self]
      exact fun _ => ⟨undoable.1.symm, undoable.2⟩
  | admitForeign stage | reserveForeign stage | flowRefused stage
  | admitRefused stage | admitPanicked stage | reserveRefused stage
  | reservePanicked stage =>
      simp only [Event.connection] at here
      subst here
      rw [stage] at undoable
      rw [operation_setOperation_self]
      exact fun _ => undoable
  | admitKnown | admitOpened | flowOpened | released | releaseStale
  | closeUnbound | closed =>
      simp only [Event.connection] at here
      subst here
      rw [operation_setOperation_self]
      exact False.elim
  | release | close | closeTaken =>
      simp only [Event.connection] at here
      subst here
      rw [operation_setOperation_self]
      trivial
  | returned stage =>
      simp only [Event.connection] at here
      subst here
      rw [stage] at undoable
      have failure := fails _ _ rfl
      rw [operation_setOperation_self, reserved_setOperation,
        reserved_setReserved_self, Call.settle_of_failure _ _ failure]
      exact undoable failure

/-- Between two states in which no operation is under way on a connection,
operations that fail leave it as it was. -/
theorem unchanged_of_failures {connection : Nat} {trace : List Event}
    (run : Run (Step admission) state trace next)
    (before : state.operation connection = none)
    (after : next.operation connection = none)
    (fails : ∀ event ∈ trace, FailsOn connection event) :
    next.session connection = state.session connection ∧
      next.reserved connection = state.reserved connection := by
  have undoable : Undoable (state.session connection)
      (state.reserved connection) (next.session connection)
      (next.reserved connection) (next.operation connection) := by
    clear after
    induction run with
    | nil =>
        rw [before]
        exact ⟨rfl, rfl⟩
    | snoc earlier step induction =>
        have front := induction fun event member =>
          fails event (List.mem_append_left _ member)
        exact undoable_step front step
          (fails _ (List.mem_append_right _ List.mem_cons_self))
  rw [after] at undoable
  exact undoable

/-! ## Conservation -/

/-- What is true of the accounting after every run. -/
structure QuotaConserved (admission : RelayAdmission)
    (quota : PrincipalQuota) (trace : List Event) (state : Admissions) :
    Prop where
  /-- Between operations exactly the sessions of bound connections are stored,
  with their numbers of reserved flows. -/
  exactly : (∀ connection, state.operation connection = none) →
    ∀ key usage, state.quotas.sessions.get? key = some usage ↔
      ∃ connection, state.session connection = some key ∧
        usage.flows = (state.reserved connection).length
  /-- A connection that is between operations is counted, whatever the others
  are doing. -/
  own : ∀ connection key, state.operation connection = none →
    state.session connection = some key →
    state.quotas.sessions.get? key =
      some { flows := (state.reserved connection).length }
  /-- No two connections are bound with one lease. -/
  single : ∀ first second one other, state.session first = some one →
    state.session second = some other → one.lease = other.lease →
    first = second
  sessions : ∀ principal,
    state.quotas.sessionCount principal ≤ quota.maxSessions
  flows : ∀ key usage, state.quotas.sessions.get? key = some usage →
    usage.flows ≤ quota.maxFlowsPerSession
  leases : (drawnLeases trace).Nodup
  /-- A bound connection keeps its principal and its lease until `close`. -/
  bound : ∀ first second middle connection key, trace = first ++ second →
    Run (Step admission) { quotas := .new quota } first middle →
    Run (Step admission) middle second state →
    middle.operation connection = none →
    middle.session connection = some key →
    .began connection .close ∉ second → state.session connection = some key
  /-- Operations that fail leave their connection as it was. -/
  failed : ∀ first second middle connection, trace = first ++ second →
    Run (Step admission) { quotas := .new quota } first middle →
    Run (Step admission) middle second state →
    middle.operation connection = none →
    state.operation connection = none →
    (∀ event ∈ second, FailsOn connection event) →
    state.session connection = middle.session connection ∧
      state.reserved connection = middle.reserved connection
  /-- While all operations fail, the accounting stays as it was. -/
  unchanged : ∀ first second middle, trace = first ++ second →
    Run (Step admission) { quotas := .new quota } first middle →
    Run (Step admission) middle second state →
    (∀ connection, middle.operation connection = none) →
    (∀ connection, state.operation connection = none) →
    (∀ connection, ∀ event ∈ second, FailsOn connection event) →
    ∀ key, state.quotas.sessions.get? key = middle.quotas.sessions.get? key

theorem ledger_of_idle {connection : Nat}
    (idle : state.operation connection = none) :
    state.ledger connection = (state.session connection).map fun key =>
      (key, (state.reserved connection).length) :=
  ledger_of_stage idle

theorem Sound.ledger_of_bound {connection : Nat} {key : SessionKey}
    (sound : Sound admission quota state)
    (bound : state.session connection = some key) :
    ∃ flows, state.ledger connection = some (key, flows) := by
  have coherent := sound.coherent connection
  unfold Admissions.ledger line
  rw [bound] at coherent ⊢
  cases stage : state.operation connection with
  | none => exact ⟨_, rfl⟩
  | some operation =>
      rw [stage] at coherent
      cases operation with
      | closeSession taken => cases coherent.relies.1
      | _ => exact ⟨_, rfl⟩

theorem Sound.stored_of_idle (sound : Sound admission quota state)
    (idle : ∀ connection, state.operation connection = none)
    (key : SessionKey) (usage : SessionUsage) :
    state.quotas.sessions.get? key = some usage ↔
      ∃ connection, state.session connection = some key ∧
        usage.flows = (state.reserved connection).length := by
  rw [sound.ledger.stored]
  apply exists_congr
  intro connection
  rw [ledger_of_idle (idle connection)]
  simp [eq_comm]

theorem quota_conserved (admission : RelayAdmission)
    (quota : PrincipalQuota) {trace : List Event} {state : Admissions}
    (run : Run (Step admission) { quotas := .new quota } trace state) :
    QuotaConserved admission quota trace state := by
  have sound := sound_of_run run
  constructor
  case exactly =>
    intro idle key usage
    exact sound.stored_of_idle idle key usage
  case own =>
    intro connection key idle bound
    have held := ledger_of_idle idle
    rw [bound] at held
    exact sound.ledger.get?_of_held held
  case single =>
    intro first second one other here there same
    obtain ⟨oneFlows, oneHeld⟩ := sound.ledger_of_bound here
    obtain ⟨otherFlows, otherHeld⟩ := sound.ledger_of_bound there
    exact sound.ledger.apart first second one other oneFlows otherFlows
      oneHeld otherHeld same
  case sessions =>
    intro principal
    rw [← sound.quota]
    exact sound.ledger.sessions principal
  case flows =>
    intro key usage found
    obtain ⟨holder, held⟩ := (sound.ledger.stored key usage).mp found
    rw [← sound.quota]
    exact sound.ledger.flows holder key usage.flows held
  case leases => exact (leases_of_run run).2
  case bound =>
    intro first second middle connection key _ _ toEnd idle bound left
    have firm : middle.Firm connection key := by
      refine ⟨bound, ?_⟩
      rw [idle]
      trivial
    exact (firm_of_run firm toEnd left).bound
  case failed =>
    intro first second middle connection _ _ toEnd before after fails
    exact unchanged_of_failures toEnd before after fails
  case unchanged =>
    intro first second middle _ toMiddle toEnd before after fails key
    have earlier := sound_of_run toMiddle
    apply Option.ext
    intro usage
    rw [sound.stored_of_idle after, earlier.stored_of_idle before]
    apply exists_congr
    intro connection
    obtain ⟨session, reserved⟩ := unchanged_of_failures toEnd
      (before connection) (after connection) (fails connection)
    rw [session, reserved]

/-- One connection reserves a flow for a new principal. -/
theorem quota_conserved_reserve :
    ∃ state : Admissions,
      Run (Step { authenticator := {}, destinations := {} })
        { quotas := .new { maxSessions := 1, maxFlowsPerSession := 1 } }
        [.began 0 (.reserveFlow 7 ⟨1⟩), .opened 0 ⟨⟨1⟩, ⟨0⟩⟩, .progressed 0,
          .returned 0 (.reserveFlow 7 ⟨1⟩) (.reserved ⟨0⟩)] state ∧
      state.quotas.sessions.get? ⟨⟨1⟩, ⟨0⟩⟩ = some { flows := 1 } := by
  have began : Run (Step { authenticator := {}, destinations := {} })
      { quotas := .new { maxSessions := 1, maxFlowsPerSession := 1 } }
      [.began 0 (.reserveFlow 7 ⟨1⟩)] _ :=
    .single (Step.reserve rfl)
  have opened : Run (Step { authenticator := {}, destinations := {} })
      { quotas := .new { maxSessions := 1, maxFlowsPerSession := 1 } }
      [.began 0 (.reserveFlow 7 ⟨1⟩), .opened 0 ⟨⟨1⟩, ⟨0⟩⟩] _ :=
    began.snoc (Step.reserveOpened rfl rfl rfl)
  have counted : Run (Step { authenticator := {}, destinations := {} })
      { quotas := .new { maxSessions := 1, maxFlowsPerSession := 1 } }
      [.began 0 (.reserveFlow 7 ⟨1⟩), .opened 0 ⟨⟨1⟩, ⟨0⟩⟩, .progressed 0] _ :=
    opened.snoc (Step.flowOpened rfl rfl)
  have returned : Run (Step { authenticator := {}, destinations := {} })
      { quotas := .new { maxSessions := 1, maxFlowsPerSession := 1 } }
      [.began 0 (.reserveFlow 7 ⟨1⟩), .opened 0 ⟨⟨1⟩, ⟨0⟩⟩, .progressed 0,
        .returned 0 (.reserveFlow 7 ⟨1⟩) (.reserved ⟨0⟩)] _ :=
    counted.snoc (Step.returned rfl)
  refine ⟨_, returned, ?_⟩
  exact (quota_conserved _ _ returned).own 0 ⟨⟨1⟩, ⟨0⟩⟩ rfl rfl

end Velum.Node.Admissions
