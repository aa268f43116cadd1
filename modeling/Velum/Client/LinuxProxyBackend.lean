import Velum.Client.RoutingRule
import Velum.Foundation.Assignments
import Velum.Foundation.TransitionSystem

/-!
# The proxy settings of Linux desktops

The settings are kept by GSettings under the schema of the desktop, or in a
file of KDE.  Each of them is read and written by a command of its own, which
may fail; a command that fails may have written its value.  Capturing reads
more settings than enabling writes, and restoring writes all that were
captured.
-/

namespace Velum.Client.LinuxProxyBackend

open Foundation

inductive LinuxDesktop where
  | gnome
  | mate
  | kde
  deriving DecidableEq

inductive Failure where
  | process
  | format
  | range
  | unsupported
  deriving DecidableEq

/-- The name of the desktop is in upper case. -/
structure Environment where
  currentDesktop : Text
  home : Text

inductive Call where
  | getSetting (schema key : Text)
  | setSetting (schema key value : Text)
  | listSchemas
  | which (candidate : Text)
  | readConfig (executable file key : Text)
  | writeConfig (executable file key value : Text)

def Call.Reply : Call → Type
  | .getSetting _ _ => Except Failure Text
  | .readConfig _ _ _ => Except Failure Text
  | .listSchemas => Except Failure Bool
  | .which _ => Except Failure Bool
  | _ => Except Failure Unit

/-- Settings by schema and key, and entries of configuration files by file and
key. -/
structure World where
  gsettings : Text × Text → Text
  kde : Text × Text → Option Text

namespace World

/-- A key that is missing is read as the empty default. -/
def readKde (world : World) (entry : Text × Text) : Text :=
  (world.kde entry).getD []

def setSetting (world : World) (setting : Text × Text) (value : Text) :
    World :=
  { world with gsettings := Function.update world.gsettings setting value }

def writeConfig (world : World) (entry : Text × Text) (value : Text) : World :=
  { world with kde := Function.update world.kde entry (some value) }

theorem readKde_writeConfig (world : World) (entry : Text × Text)
    (value : Text) : (world.writeConfig entry value).readKde =
      Function.update world.readKde entry value := by
  funext other
  change (Function.update world.kde entry (some value) other).getD [] = _
  by_cases same : other = entry
  · rw [same, Function.update_self, Function.update_self]
    rfl
  · rw [Function.update_of_ne same, Function.update_of_ne same]
    rfl

/-- A command prints a value and ends the line.  Setting a value that has been
`printed` stores this value. -/
def Answers (printed : Text → Prop) (world : World) :
    (call : Call) → call.Reply → World → Prop
  | .getSetting schema key, reply, after => after = world ∧
      ((∃ failure, reply = .error failure) ∨
        reply = .ok (world.gsettings (schema, key) ++ ['\n']))
  | .readConfig _ file key, reply, after => after = world ∧
      ((∃ failure, reply = .error failure) ∨
        reply = .ok (world.readKde (file, key) ++ ['\n']))
  | .setSetting schema key value, reply, after =>
      (∃ failure, reply = .error failure ∧ after = world) ∨
        ∃ stored, (printed value → stored = value) ∧
          after = world.setSetting (schema, key) stored ∧
          ((∃ failure, reply = .error failure) ∨ reply = .ok ())
  | .writeConfig _ file key value, reply, after =>
      (∃ failure, reply = .error failure ∧ after = world) ∨
        after = world.writeConfig (file, key) value ∧
          ((∃ failure, reply = .error failure) ∨ reply = .ok ())
  | .listSchemas, _, after => after = world
  | .which _, _, after => after = world

end World

abbrev Program (Value : Type) :=
  ExceptT Failure (Script Call Call.Reply) Value

def getSetting (schema key : Text) : Program Text :=
  ExceptT.mk (Script.call (Call.getSetting schema key))

def setSetting (schema key value : Text) : Program Unit :=
  ExceptT.mk (Script.call (Call.setSetting schema key value))

def listSchemas : Program Bool :=
  ExceptT.mk (Script.call Call.listSchemas)

def which (candidate : Text) : Program Bool :=
  ExceptT.mk (Script.call (Call.which candidate))

def readConfig (executable file key : Text) : Program Text :=
  ExceptT.mk (Script.call (Call.readConfig executable file key))

def writeConfig (executable file key value : Text) : Program Unit :=
  ExceptT.mk (Script.call (Call.writeConfig executable file key value))

/-! ## Where the settings are -/

namespace Environment

def names (environment : Environment) (name : String) : Bool :=
  decide (name.toList <:+: environment.currentDesktop)

/-- The desktop that the environment names. -/
def desktop (environment : Environment) : Option LinuxDesktop :=
  if environment.names "KDE" then some .kde
  else if environment.names "MATE" then some .mate
  else if environment.names "GNOME" || environment.names "CINNAMON" ||
      environment.names "BUDGIE" || environment.names "UNITY" then
    some .gnome
  else none

def kdeFile (environment : Environment) : Text :=
  environment.home ++ "/.config/kioslaverc".toList

end Environment

def detectDesktop (environment : Environment) : Program LinuxDesktop :=
  match environment.desktop with
  | some desktop => pure desktop
  | none => do
      if ← listSchemas then pure .gnome else throw .unsupported

def firstExecutable : List Text → Program Text
  | [] => throw .unsupported
  | candidate :: candidates => do
      if ← which candidate then pure candidate
      else firstExecutable candidates

def kdeWriter : Program Text :=
  firstExecutable ["kwriteconfig6".toList, "kwriteconfig5".toList]

def kdeReader : Program Text :=
  firstExecutable ["kreadconfig6".toList, "kreadconfig5".toList]

def gnomeSchema : Text := "org.gnome.system.proxy".toList

def mateSchema : Text := "org.mate.system.proxy".toList

/-! ## Capturing -/

inductive ProxySnapshot where
  -- The key of a setting follows its schema and a bar.
  | gsettings (settings : List (Text × Text))
  | kde (settings : List (Text × Text))
  | unknown
  deriving DecidableEq

def captureEach {Item : Type} (name : Item → Text)
    (read : Item → Program Text) : List Item → Program (List (Text × Text))
  | [] => pure []
  | item :: items => do
      let output ← read item
      let others ← captureEach name read items
      pure ((name item, dartTrim output) :: others)

def settingName (setting : Text × Text) : Text :=
  setting.1 ++ '|' :: setting.2

def settingKeys (schema : Text) : List (Text × Text) :=
  [(schema, "mode".toList),
    (schema, "ignore-hosts".toList),
    (schema ++ ".http".toList, "host".toList),
    (schema ++ ".http".toList, "port".toList),
    (schema ++ ".https".toList, "host".toList),
    (schema ++ ".https".toList, "port".toList),
    (schema ++ ".socks".toList, "host".toList),
    (schema ++ ".socks".toList, "port".toList)]

def captureGSettings (schema : Text) : Program ProxySnapshot := do
  let settings ← captureEach settingName
    (fun setting => getSetting setting.1 setting.2) (settingKeys schema)
  pure (.gsettings settings)

def kdeKeys : List Text :=
  ["ProxyType".toList, "NoProxyFor".toList, "httpProxy".toList,
    "httpsProxy".toList, "socksProxy".toList, "Proxy Config Script".toList]

def captureKde (environment : Environment) : Program ProxySnapshot := do
  let reader ← kdeReader
  let settings ← captureEach id
    (fun key => readConfig reader environment.kdeFile key) kdeKeys
  pure (.kde settings)

def capture (environment : Environment) : Program ProxySnapshot := do
  match ← detectDesktop environment with
  | .gnome => captureGSettings gnomeSchema
  | .mate => captureGSettings mateSchema
  | .kde => captureKde environment

/-! ## Enabling -/

def quoteHost (host : Text) : Text :=
  '\'' :: host.flatMap (fun character =>
    if character = '\'' then ['\\', '\''] else [character]) ++ ['\'']

def ignoredHosts (bypassHosts : List Text) : Text :=
  '[' :: ", ".toList.intercalate (bypassHosts.map quoteHost) ++ [']']

def enabledSettings (schema : Text) (port : Nat) (bypassHosts : List Text) :
    List ((Text × Text) × Text) :=
  let host := "'127.0.0.1'".toList
  let digits := Nat.toDigits 10 port
  [((schema ++ ".http".toList, "host".toList), host),
    ((schema ++ ".http".toList, "port".toList), digits),
    ((schema ++ ".https".toList, "host".toList), host),
    ((schema ++ ".https".toList, "port".toList), digits),
    ((schema ++ ".socks".toList, "host".toList), host),
    ((schema ++ ".socks".toList, "port".toList), digits),
    ((schema, "ignore-hosts".toList), ignoredHosts bypassHosts),
    ((schema, "mode".toList), "'manual'".toList)]

def enableGSettings (schema : Text) (port : Nat) (bypassHosts : List Text) :
    Program Unit :=
  (enabledSettings schema port bypassHosts).forM fun setting =>
    setSetting setting.1.1 setting.1.2 setting.2

def enabledKde (port : Nat) (bypassHosts : List Text) : List (Text × Text) :=
  let address := "://127.0.0.1:".toList ++ Nat.toDigits 10 port
  [("httpProxy".toList, "http".toList ++ address),
    ("httpsProxy".toList, "https".toList ++ address),
    ("socksProxy".toList, "socks".toList ++ address),
    ("NoProxyFor".toList, ",".toList.intercalate bypassHosts),
    ("ProxyType".toList, "1".toList)]

def enableKde (environment : Environment) (port : Nat)
    (bypassHosts : List Text) : Program Unit := do
  let executable ← kdeWriter
  (enabledKde port bypassHosts).forM fun entry =>
    writeConfig executable environment.kdeFile entry.1 entry.2

def enable (environment : Environment) (port : Nat)
    (bypassHosts : List Text) : Program Unit := do
  match ← detectDesktop environment with
  | .gnome => enableGSettings gnomeSchema port bypassHosts
  | .mate => enableGSettings mateSchema port bypassHosts
  | .kde => enableKde environment port bypassHosts

/-! ## Restoring -/

/-- Sets the setting of a name that holds a bar. -/
def restoreSetting (entry : Text × Text) : Program Unit :=
  match Text.splitOnce '|' entry.1 with
  | none => throw .range
  | some (schema, key) => setSetting schema key entry.2

def restore (environment : Environment) : ProxySnapshot → Program Unit
  | .gsettings settings => settings.forM restoreSetting
  | .kde settings => do
      let executable ← kdeWriter
      settings.forM fun entry =>
        writeConfig executable environment.kdeFile entry.1 entry.2
  | .unknown => throw .format

inductive Operation where
  | enable (port : Nat) (bypassHosts : List Text)
  | restore

def Operation.program (environment : Environment) (snapshot : ProxySnapshot) :
    Operation → Program Unit
  | .enable port bypassHosts =>
      LinuxProxyBackend.enable environment port bypassHosts
  | .restore => LinuxProxyBackend.restore environment snapshot

end Velum.Client.LinuxProxyBackend
