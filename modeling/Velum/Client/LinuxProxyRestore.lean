import Velum.Client.LinuxProxyBackend

/-!
# Restoring the proxy settings of Linux desktops

Capturing and enabling touch the settings of one and the same desktop, and
enabling writes only settings that were captured.  So whatever was cut off or
has failed, a restore that comes to its end gives the former settings back.
-/

namespace Velum.Client.LinuxProxyBackend

open Foundation

/-! ## The settings of a desktop -/

/-- The desktop whose settings are captured and enabled, if any are. -/
def Environment.target (environment : Environment) : LinuxDesktop :=
  environment.desktop.getD .gnome

/-- The schema of a desktop that uses GSettings. -/
def LinuxDesktop.schema : LinuxDesktop → Option Text
  | .gnome => some gnomeSchema
  | .mate => some mateSchema
  | .kde => none

def Environment.kdeEntries (environment : Environment) : List (Text × Text) :=
  kdeKeys.map fun key => (environment.kdeFile, key)

/-- The world differs from the original one at most in captured settings. -/
def Within (environment : Environment) (original world : World) : Prop :=
  match environment.target.schema with
  | some schema => world.kde = original.kde ∧
      Store.AgreeOutside (settingKeys schema) world.gsettings
        original.gsettings
  | none => world.gsettings = original.gsettings ∧
      Store.AgreeOutside environment.kdeEntries world.kde original.kde

/-- The snapshot that is captured of a world. -/
def snapshotOf (environment : Environment) (original : World) :
    ProxySnapshot :=
  match environment.target.schema with
  | some schema => .gsettings ((settingKeys schema).map fun setting =>
      (settingName setting, original.gsettings setting))
  | none => .kde (kdeKeys.map fun key =>
      (key, original.readKde (environment.kdeFile, key)))

/-- Trimming the output of a command gives the value. -/
structure Tidy (printed : Text → Prop) (original : World) : Prop where
  trims : ∀ value, printed value → dartTrim (value ++ ['\n']) = value
  settings : ∀ setting, printed (original.gsettings setting)
  entries : ∀ entry, dartTrim (original.readKde entry ++ ['\n']) =
    original.readKde entry

/-! ## Programs that only read -/

/-- A program leaves the world alone and finds one value, unless it fails. -/
def Finds {Value : Type} (world : World) (expected : Value)
    (result : Except Failure Value) (after : World) : Prop :=
  after = world ∧ ∀ found, result = .ok found → found = expected

theorem finds_ok {Value : Type} (world : World) (expected : Value) :
    Finds world expected (.ok expected) world :=
  ⟨rfl, fun _ same => (Except.ok.inj same).symm⟩

theorem finds_error {Value : Type} (world : World) (expected : Value)
    (failure : Failure) : Finds world expected (.error failure) world := by
  refine ⟨rfl, ?_⟩
  intro found same
  cases same

section Reading

variable {printed : Text → Prop} {environment : Environment}
  {safe : World → Call → Prop} {original world : World}

theorem guarantees_firstExecutable {candidates : List Text}
    (allowed : ∀ call, safe world call) :
    Script.Guarantees (World.Answers printed) safe
      (fun _ after => after = world) (firstExecutable candidates) world := by
  induction candidates with
  | nil => exact rfl
  | cons candidate candidates induction =>
      refine Script.guarantees_bind_except.mpr ⟨allowed _, ?_⟩
      rintro (failure | found) after rfl
      · exact rfl
      · cases found with
        | true => exact rfl
        | false => exact induction

theorem guarantees_detectDesktop (allowed : ∀ call, safe world call) :
    Script.Guarantees (World.Answers printed) safe
      (Finds world environment.target) (detectDesktop environment) world := by
  rw [detectDesktop, Environment.target]
  cases environment.desktop with
  | some desktop => exact finds_ok world desktop
  | none =>
      refine Script.guarantees_bind_except.mpr ⟨allowed _, ?_⟩
      rintro (failure | listed) after rfl
      · exact finds_error after _ failure
      · cases listed with
        | true => exact finds_ok after _
        | false => exact finds_error after _ _

/-- A program for the desktop that is found. -/
theorem guarantees_onDesktop {Value : Type}
    {post : Except Failure Value → World → Prop}
    {program : LinuxDesktop → Program Value}
    (allowed : ∀ call, safe world call)
    (fails : ∀ failure, post (.error failure) world)
    (runs : Script.Guarantees (World.Answers printed) safe post
      (program environment.target) world) :
    Script.Guarantees (World.Answers printed) safe post
      (detectDesktop environment >>= program : Program Value) world := by
  refine Script.guarantees_bind_except.mpr
    ((guarantees_detectDesktop allowed).mono (fun safe => safe) ?_)
  rintro (failure | desktop) after ⟨rfl, found⟩
  · exact fails failure
  · rw [found desktop rfl]
    exact runs

theorem guarantees_onExecutable {Value : Type} {candidates : List Text}
    {post : Except Failure Value → World → Prop}
    {program : Text → Program Value} (allowed : ∀ call, safe world call)
    (fails : ∀ failure, post (.error failure) world)
    (runs : ∀ executable, Script.Guarantees (World.Answers printed) safe post
      (program executable) world) :
    Script.Guarantees (World.Answers printed) safe post
      (firstExecutable candidates >>= program : Program Value) world := by
  refine Script.guarantees_bind_except.mpr
    ((guarantees_firstExecutable allowed).mono (fun safe => safe) ?_)
  rintro (failure | executable) after rfl
  · exact fails failure
  · exact runs executable

/-! ## Capturing -/

theorem guarantees_captureEach {Item : Type} {name : Item → Text}
    {read : Item → Program Text} (output : Item → Text) (items : List Item)
    (reads : ∀ item, Script.Guarantees (World.Answers printed)
      (fun current _ => current = world) (Finds world (output item))
      (read item) world) :
    Script.Guarantees (World.Answers printed)
      (fun current _ => current = world)
      (Finds world (items.map fun item =>
        (name item, dartTrim (output item))))
      (captureEach name read items) world := by
  induction items with
  | nil => exact finds_ok world []
  | cons item items induction =>
      refine Script.guarantees_bind_except.mpr
        ((reads item).mono (fun safe => safe) ?_)
      rintro (failure | found) after ⟨rfl, same⟩
      · exact finds_error after _ failure
      refine Script.guarantees_bind_except.mpr
        (induction.mono (fun safe => safe) ?_)
      rintro (failure | others) later ⟨rfl, captured⟩
      · exact finds_error later _ failure
      · rw [same found rfl, captured others rfl]
        exact finds_ok later _

theorem guarantees_captureGSettings (tidy : Tidy printed original)
    (schema : Text) :
    Script.Guarantees (World.Answers printed)
      (fun current _ => current = original)
      (Finds original (.gsettings ((settingKeys schema).map fun setting =>
        (settingName setting, original.gsettings setting))))
      (captureGSettings schema) original := by
  have trims : ∀ setting, dartTrim (original.gsettings setting ++ ['\n']) =
      original.gsettings setting :=
    fun setting => tidy.trims _ (tidy.settings setting)
  have captured := @guarantees_captureEach printed original (Text × Text)
    settingName (fun setting => getSetting setting.1 setting.2)
    (fun setting => original.gsettings setting ++ ['\n']) (settingKeys schema)
  simp only [trims] at captured
  refine Script.guarantees_bind_except.mpr
    ((captured ?_).mono (fun safe => safe) ?_)
  · intro setting
    refine ⟨rfl, ?_⟩
    rintro reply after ⟨rfl, ⟨failure, rfl⟩ | rfl⟩
    · exact finds_error after _ failure
    · exact finds_ok after _
  · rintro (failure | settings) after ⟨rfl, found⟩
    · exact finds_error after _ failure
    · rw [found settings rfl]
      exact finds_ok after _

theorem guarantees_captureKde (tidy : Tidy printed original) :
    Script.Guarantees (World.Answers printed)
      (fun current _ => current = original)
      (Finds original (.kde (kdeKeys.map fun key =>
        (key, original.readKde (environment.kdeFile, key)))))
      (captureKde environment) original := by
  have captured := fun reader => @guarantees_captureEach printed original Text
    id (fun key => readConfig reader environment.kdeFile key)
    (fun key => original.readKde (environment.kdeFile, key) ++ ['\n']) kdeKeys
  simp only [tidy.entries] at captured
  apply guarantees_onExecutable
  · exact fun _ => rfl
  · exact finds_error original _
  intro reader
  refine Script.guarantees_bind_except.mpr
    ((captured reader ?_).mono (fun safe => safe) ?_)
  · intro key
    refine ⟨rfl, ?_⟩
    rintro reply after ⟨rfl, ⟨failure, rfl⟩ | rfl⟩
    · exact finds_error after _ failure
    · exact finds_ok after _
  · rintro (failure | settings) after ⟨rfl, found⟩
    · exact finds_error after _ failure
    · rw [found settings rfl]
      exact finds_ok after _

/-- Capturing changes nothing. -/
theorem guarantees_capture (tidy : Tidy printed original) :
    Script.Guarantees (World.Answers printed)
      (fun current _ => current = original)
      (Finds original (snapshotOf environment original))
      (capture environment) original := by
  apply guarantees_onDesktop
  · exact fun _ => rfl
  · exact finds_error original _
  · rw [snapshotOf]
    cases environment.target with
    | gnome => exact guarantees_captureGSettings tidy gnomeSchema
    | mate => exact guarantees_captureGSettings tidy mateSchema
    | kde => exact guarantees_captureKde tidy

end Reading

/-! ## Writing -/

theorem Within.setSetting {environment : Environment} {original world : World}
    {schema : Text} (used : environment.target.schema = some schema)
    (held : Within environment original world) {setting : Text × Text}
    (member : setting ∈ settingKeys schema) (stored : Text) :
    Within environment original (world.setSetting setting stored) := by
  rw [Within, used] at held ⊢
  exact ⟨held.1, held.2.update member stored⟩

theorem Within.writeConfig {environment : Environment}
    {original world : World} (used : environment.target.schema = none)
    (held : Within environment original world) {key : Text}
    (member : key ∈ kdeKeys) (value : Text) :
    Within environment original
      (world.writeConfig (environment.kdeFile, key) value) := by
  rw [Within, used] at held ⊢
  exact ⟨held.1, held.2.update (List.mem_map_of_mem member) _⟩

theorem Within.refl (environment : Environment) (original : World) :
    Within environment original original := by
  rw [Within]
  split
  next => exact ⟨rfl, Store.AgreeOutside.refl _ _⟩
  next => exact ⟨rfl, Store.AgreeOutside.refl _ _⟩

section Writing

variable {printed : Text → Prop} {environment : Environment}
  {safe : World → Call → Prop} {original world : World}

theorem guarantees_setSetting {post : Except Failure Unit → World → Prop}
    {setting : Text × Text} {value : Text} (allowed : ∀ call, safe world call)
    (fails : ∀ failure, post (.error failure) world)
    (sets : ∀ stored, (printed value → stored = value) →
      ∀ reply, post reply (world.setSetting setting stored)) :
    Script.Guarantees (World.Answers printed) safe post
      (setSetting setting.1 setting.2 value) world := by
  refine ⟨allowed _, ?_⟩
  rintro reply after (⟨failure, rfl, rfl⟩ | ⟨stored, same, rfl, answered⟩)
  · exact fails failure
  · exact sets stored same reply

theorem guarantees_writeConfig {post : Except Failure Unit → World → Prop}
    {executable file key value : Text} (allowed : ∀ call, safe world call)
    (fails : ∀ failure, post (.error failure) world)
    (writes : ∀ reply, post reply (world.writeConfig (file, key) value)) :
    Script.Guarantees (World.Answers printed) safe post
      (writeConfig executable file key value) world := by
  refine ⟨allowed _, ?_⟩
  rintro reply after (⟨failure, rfl, rfl⟩ | ⟨rfl, answered⟩)
  · exact fails failure
  · exact writes reply

theorem mem_of_enabledSettings {schema : Text} {port : Nat}
    {bypassHosts : List Text} {setting : (Text × Text) × Text}
    (member : setting ∈ enabledSettings schema port bypassHosts) :
    setting.1 ∈ settingKeys schema := by
  simp only [enabledSettings, List.mem_cons, List.not_mem_nil, or_false]
    at member
  rcases member with rfl | rfl | rfl | rfl | rfl | rfl | rfl | rfl <;>
    simp [settingKeys]

theorem mem_of_enabledKde {port : Nat} {bypassHosts : List Text}
    {entry : Text × Text} (member : entry ∈ enabledKde port bypassHosts) :
    entry.1 ∈ kdeKeys := by
  simp only [enabledKde, List.mem_cons, List.not_mem_nil, or_false] at member
  rcases member with rfl | rfl | rfl | rfl | rfl <;> simp [kdeKeys]

/-- Enabling writes captured settings only. -/
theorem guarantees_enable (held : Within environment original world)
    (port : Nat) (bypassHosts : List Text) :
    Script.Guarantees (World.Answers printed)
      (fun current _ => Within environment original current)
      (fun _ after => Within environment original after)
      (enable environment port bypassHosts) world := by
  have settings : ∀ {schema}, environment.target.schema = some schema →
      Script.Guarantees (World.Answers printed)
        (fun current _ => Within environment original current)
        (fun _ after => Within environment original after)
        (enableGSettings schema port bypassHosts) world := by
    intro schema used
    refine @Script.guarantees_forM _ _ _ _ _ _ _ _ _
      (fun _ current => Within environment original current) _ _ held ?_
      (fun _ kept => kept)
    intro done setting rest current whole kept
    have member : setting ∈ enabledSettings schema port bypassHosts :=
      whole ▸ List.mem_append_right _ List.mem_cons_self
    apply guarantees_setSetting (fun _ => kept) (fun _ => kept)
    rintro stored _ (failure | done)
    · exact kept.setSetting used (mem_of_enabledSettings member) stored
    · exact kept.setSetting used (mem_of_enabledSettings member) stored
  apply guarantees_onDesktop
  · exact fun _ => held
  · exact fun _ => held
  · cases target : environment.target with
    | gnome => exact settings (congrArg LinuxDesktop.schema target)
    | mate => exact settings (congrArg LinuxDesktop.schema target)
    | kde =>
        have used : environment.target.schema = none :=
          congrArg LinuxDesktop.schema target
        apply guarantees_onExecutable
        · exact fun _ => held
        · exact fun _ => held
        intro executable
        refine @Script.guarantees_forM _ _ _ _ _ _ _ _ _
          (fun _ current => Within environment original current) _ _ held ?_
          (fun _ kept => kept)
        intro done entry rest current whole kept
        have member : entry ∈ enabledKde port bypassHosts :=
          whole ▸ List.mem_append_right _ List.mem_cons_self
        apply guarantees_writeConfig (fun _ => kept) (fun _ => kept)
        rintro (failure | done)
        · exact kept.writeConfig used (mem_of_enabledKde member) entry.2
        · exact kept.writeConfig used (mem_of_enabledKde member) entry.2

/-! ## Restoring -/

/-- The settings can be read as before. -/
def Same (original world : World) : Prop :=
  world.gsettings = original.gsettings ∧
    ∀ entry, world.readKde entry = original.readKde entry

/-- Restoring that is cut off or fails writes captured settings only. -/
structure Restored (environment : Environment) (original : World)
    (result : Except Failure Unit) (world : World) : Prop where
  held : Within environment original world
  complete : result = .ok () → Same original world

theorem restored_of_error {failure : Failure}
    (held : Within environment original world) :
    Restored environment original (.error failure) world :=
  ⟨held, fun done => by cases done⟩

theorem splitOnce_settingName {schema : Text}
    (known : schema = gnomeSchema ∨ schema = mateSchema)
    {setting : Text × Text} (member : setting ∈ settingKeys schema) :
    Text.splitOnce '|' (settingName setting) = some setting := by
  have free : ∀ known ∈ settingKeys schema, '|' ∉ known.1 := by
    rcases known with rfl | rfl
    · decide
    · decide
  exact Text.splitOnce_of_not_mem (free setting member) setting.2

theorem guarantees_restoreGSettings (tidy : Tidy printed original)
    {schema : Text} (used : environment.target.schema = some schema)
    (known : schema = gnomeSchema ∨ schema = mateSchema)
    (held : Within environment original world) :
    Script.Guarantees (World.Answers printed)
      (fun current _ => Within environment original current)
      (Restored environment original)
      (((settingKeys schema).map fun setting =>
        (settingName setting, original.gsettings setting)).forM
          restoreSetting : Program Unit) world := by
  rw [Script.forM_map]
  refine @Script.guarantees_forM _ _ _ _ _ _ _ _ _
    (fun done current => Within environment original current ∧
      Store.AgreeOn done current.gsettings original.gsettings) _ _
    ⟨held, Store.agreeOn_nil _ _⟩ ?_ ?_
  · rintro done setting rest current whole ⟨kept, assigned⟩
    have member : setting ∈ settingKeys schema :=
      whole ▸ List.mem_append_right _ List.mem_cons_self
    rw [restoreSetting, splitOnce_settingName known member]
    apply guarantees_setSetting (fun _ => kept)
    · exact fun failure => restored_of_error kept
    · intro stored same reply
      have value : stored = original.gsettings setting :=
        same (tidy.settings setting)
      subst value
      have next := kept.setSetting used member (original.gsettings setting)
      cases reply with
      | error failure => exact restored_of_error next
      | ok _ => exact ⟨next, assigned.update setting⟩
  · rintro current ⟨kept, assigned⟩
    refine ⟨kept, fun _ => ?_⟩
    rw [Within, used] at kept
    refine ⟨kept.2.eq assigned, ?_⟩
    intro entry
    rw [World.readKde, World.readKde, kept.1]

theorem guarantees_restoreKde (used : environment.target.schema = none)
    (held : Within environment original world) (executable : Text) :
    Script.Guarantees (World.Answers printed)
      (fun current _ => Within environment original current)
      (Restored environment original)
      ((kdeKeys.map fun key =>
        (key, original.readKde (environment.kdeFile, key))).forM fun entry =>
          writeConfig executable environment.kdeFile entry.1 entry.2 :
        Program Unit) world := by
  rw [Script.forM_map]
  refine @Script.guarantees_forM _ _ _ _ _ _ _ _ _
    (fun done current => Within environment original current ∧
      Store.AgreeOn (done.map fun key => (environment.kdeFile, key))
        current.readKde original.readKde) _ _
    ⟨held, Store.agreeOn_nil _ _⟩ ?_ ?_
  · rintro done key rest current whole ⟨kept, assigned⟩
    have member : key ∈ kdeKeys :=
      whole ▸ List.mem_append_right _ List.mem_cons_self
    have next := kept.writeConfig used member
      (original.readKde (environment.kdeFile, key))
    apply guarantees_writeConfig (fun _ => kept)
    · exact fun failure => restored_of_error kept
    · rintro (failure | written)
      · exact restored_of_error next
      · refine ⟨next, ?_⟩
        rw [World.readKde_writeConfig, List.map_append]
        exact assigned.update (environment.kdeFile, key)
  · rintro current ⟨kept, assigned⟩
    refine ⟨kept, fun _ => ?_⟩
    rw [Within, used] at kept
    have outside : Store.AgreeOutside environment.kdeEntries current.readKde
        original.readKde := by
      intro entry absent
      rw [World.readKde, World.readKde, kept.2 entry absent]
    exact ⟨kept.1, congrFun (outside.eq assigned)⟩

theorem guarantees_restore (tidy : Tidy printed original)
    (held : Within environment original world) :
    Script.Guarantees (World.Answers printed)
      (fun current _ => Within environment original current)
      (Restored environment original)
      (restore environment (snapshotOf environment original)) world := by
  rw [snapshotOf]
  cases target : environment.target with
  | gnome =>
      have used := congrArg LinuxDesktop.schema target
      exact guarantees_restoreGSettings tidy used (.inl rfl) held
  | mate =>
      have used := congrArg LinuxDesktop.schema target
      exact guarantees_restoreGSettings tidy used (.inr rfl) held
  | kde =>
      apply guarantees_onExecutable
      · exact fun _ => held
      · exact fun failure => restored_of_error held
      · exact guarantees_restoreKde (congrArg LinuxDesktop.schema target) held

/-! ## Whole runs -/

/-- An operation is cut off, or comes to its end, or fails. -/
def Interrupted (printed : Text → Prop) (environment : Environment)
    (snapshot : ProxySnapshot) (world : World) (operation : Operation)
    (after : World) : Prop :=
  Script.Leads (World.Answers printed) world
    (operation.program environment snapshot) after

theorem held_of_interrupted (tidy : Tidy printed original) {after : World}
    {operation : Operation} (held : Within environment original world)
    (interrupted : Interrupted printed environment
      (snapshotOf environment original) world operation after) :
    Within environment original after := by
  cases operation with
  | enable port bypassHosts =>
      have kept := @guarantees_enable printed environment original world held
        port bypassHosts
      exact kept.of_leads (fun kept => kept) (fun kept => kept) interrupted
  | restore =>
      have kept := guarantees_restore tidy held
      exact kept.of_leads (fun kept => kept) (fun ends => ends.held)
        interrupted

/-- After a capture, and however often enabling and restoring were cut off or
have failed since, a restore that succeeds gives every setting back. -/
theorem linux_backend_restores {snapshot : ProxySnapshot}
    {captured world final : World} {trace : List Operation}
    (tidy : Tidy printed original)
    (capturing : Script.Ends (World.Answers printed) original
      (capture environment) (.ok snapshot) captured)
    (run : Run (Interrupted printed environment snapshot) captured trace
      world)
    (restoring : Script.Ends (World.Answers printed) world
      (restore environment snapshot) (.ok ()) final) :
    captured = original ∧ Same original final := by
  have found := (guarantees_capture tidy).of_ends capturing
  obtain ⟨rfl, same⟩ := found
  rw [same snapshot rfl] at run restoring
  refine ⟨rfl, ?_⟩
  have held := run.invariant (Within.refl environment captured)
    (fun held interrupted => held_of_interrupted tidy held interrupted)
  exact ((guarantees_restore tidy held).of_ends restoring).complete rfl

end Writing

/-! ## A run without failures -/

def World.perform (world : World) : (call : Call) → call.Reply × World
  | .getSetting schema key =>
      (.ok (world.gsettings (schema, key) ++ ['\n']), world)
  | .readConfig _ file key =>
      (.ok (world.readKde (file, key) ++ ['\n']), world)
  | .setSetting schema key value =>
      (.ok (), world.setSetting (schema, key) value)
  | .writeConfig _ file key value =>
      (.ok (), world.writeConfig (file, key) value)
  | .listSchemas => (.ok true, world)
  | .which _ => (.ok true, world)

theorem World.answers_perform {printed : Text → Prop} (world : World)
    (call : Call) :
    world.Answers printed call (world.perform call).1
      (world.perform call).2 := by
  cases call with
  | getSetting schema key => exact ⟨rfl, .inr rfl⟩
  | readConfig executable file key => exact ⟨rfl, .inr rfl⟩
  | setSetting schema key value =>
      exact .inr ⟨value, fun _ => rfl, rfl, .inr rfl⟩
  | writeConfig executable file key value => exact .inr ⟨rfl, .inr rfl⟩
  | listSchemas => exact rfl
  | which candidate => exact rfl

def mateDesktop : Environment where
  currentDesktop := "MATE".toList
  home := "/home/velum".toList

/-- No proxy is set, for any setting. -/
def unsetWorld : World where
  gsettings _ := "'none'".toList
  kde _ := none

def mateEnabled : World :=
  (Script.run World.perform (enable mateDesktop 8080 []) unsetWorld).2

def mateRestored : World :=
  (Script.run World.perform
    (restore mateDesktop (snapshotOf mateDesktop unsetWorld)) mateEnabled).2

def isUnset (value : Text) : Prop :=
  value = "'none'".toList

theorem unsetWorld_tidy : Tidy isUnset unsetWorld := by
  have missing : dartTrim ['\n'] = [] := by decide
  refine ⟨?_, fun _ => rfl, fun _ => missing⟩
  rintro _ rfl
  decide

theorem linux_backend_restores_mate : Same unsetWorld mateRestored := by
  have answers := @World.answers_perform isUnset
  have captured : (Script.run World.perform (capture mateDesktop)
      unsetWorld).1 = .ok (snapshotOf mateDesktop unsetWorld) := by
    decide +kernel
  have restored : (Script.run World.perform (restore mateDesktop
      (snapshotOf mateDesktop unsetWorld)) mateEnabled).1 = .ok () := by
    decide +kernel
  have capturing := Script.ends_run answers (capture mateDesktop) unsetWorld
  have restoring := Script.ends_run answers (restore mateDesktop
    (snapshotOf mateDesktop unsetWorld)) mateEnabled
  have enabling := (Script.ends_run answers (enable mateDesktop 8080 [])
    unsetWorld).leads
  rw [captured] at capturing
  rw [restored] at restoring
  have unchanged := (guarantees_capture unsetWorld_tidy).of_ends capturing
  rw [unchanged.1] at capturing
  have run : Run (Interrupted isUnset mateDesktop
      (snapshotOf mateDesktop unsetWorld)) unsetWorld [.enable 8080 []]
      mateEnabled := .single enabling
  exact (linux_backend_restores unsetWorld_tidy capturing run restoring).2

end Velum.Client.LinuxProxyBackend
