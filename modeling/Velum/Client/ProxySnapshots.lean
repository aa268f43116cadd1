import Velum.Client.DesktopProxies
import Velum.Foundation.JsonReader

/-!
# Backups of proxies as JSON texts

The settings of Windows and macOS as they stand in a backup.  What was written
of them is read back.
-/

namespace Velum.Client

open Foundation

/-! ## Snapshots -/

/-- The JSON fields of settings. -/
structure SettingsJson (Settings : Type) where
  write : Settings → List (String × Json)
  read : List (String × Json) → Option Settings
  read_write : ∀ settings, read (write settings) = some settings
  portable : ∀ settings, (Json.object (write settings)).Portable

section Snapshots

variable {Settings : Type} (settings : SettingsJson Settings)

def SnapshotValues.toJson : SnapshotValues Settings → List (String × Json)
  | .plain values => settings.write values
  | .recovery original applied =>
      [("original", .object (settings.write original)),
        ("applied", match applied with
          | none => .null
          | some applied => .object (settings.write applied))]

def ProxySnapshot.toJson (snapshot : ProxySnapshot Settings) :
    List (String × Json) :=
  [("backend", .string snapshot.backend),
    ("values", .object (snapshot.values.toJson settings))]

def readSettings (fields : List (String × Json)) :
    Except ProxyException Settings :=
  match settings.read fields with
  | some values => .ok values
  | none => .error .type

def SnapshotValues.fromJson (values : List (String × Json)) :
    Except ProxyException (SnapshotValues Settings) :=
  match Json.field values "original" with
  | .object original => do
      let original ← readSettings settings original
      match Json.field values "applied" with
      | .object applied =>
          return .recovery original (some (← readSettings settings applied))
      | _ => return .recovery original none
  | _ => return .plain (← readSettings settings values)

def ProxySnapshot.fromJson (json : List (String × Json)) :
    Except ProxyException (ProxySnapshot Settings) :=
  match Json.field json "backend", Json.field json "values" with
  | .string backend, .object values =>
      (SnapshotValues.fromJson settings values).map (ProxySnapshot.mk backend)
  | _, _ => .error (.format "Invalid system proxy backup fields.")

def decodeSnapshot {Text : Type} (codec : JsonCodec Text) (source : Text) :
    Except ProxyException (ProxySnapshot Settings) :=
  match codec.decode source with
  | some (.object json) => ProxySnapshot.fromJson settings json
  | some _ => .error (.format "Invalid system proxy backup.")
  | none => .error (.format "Unexpected character")

variable {settings}

theorem readSettings_write (values : Settings) :
    readSettings settings (settings.write values) = .ok values := by
  rw [readSettings, settings.read_write]

theorem fromJson_recovery (original : Settings) (applied : Option Settings) :
    SnapshotValues.fromJson settings
      ((SnapshotValues.recovery original applied).toJson settings) =
        .ok (.recovery original applied) := by
  cases applied with
  | none =>
      simp [SnapshotValues.toJson, SnapshotValues.fromJson, Json.field,
        List.lookup_cons, readSettings_write]
  | some applied =>
      simp [SnapshotValues.toJson, SnapshotValues.fromJson, Json.field,
        List.lookup_cons, readSettings_write]
      rfl

theorem portable_recovery (backend : String) (original : Settings)
    (applied : Option Settings) :
    (Json.object ((ProxySnapshot.mk backend
      (.recovery original applied)).toJson settings)).Portable := by
  have written (values : Settings) :
      ((settings.write values).map Prod.fst).Nodup ∧
        Json.PortableFields (settings.write values) := by
    simpa only [Json.Portable] using settings.portable values
  cases applied with
  | none =>
      simp [ProxySnapshot.toJson, SnapshotValues.toJson, Json.Portable,
        Json.PortableFields, written]
  | some applied =>
      simp [ProxySnapshot.toJson, SnapshotValues.toJson, Json.Portable,
        Json.PortableFields, written]

end Snapshots

/-- Backups are JSON texts of the settings. -/
def SettingsJson.snapshots {Settings Text : Type}
    (settings : SettingsJson Settings) (codec : JsonCodec Text) :
    SnapshotCodec Settings Text where
  encode snapshot := codec.encode (.object (snapshot.toJson settings))
  decode := decodeSnapshot settings codec
  decode_encode backend original applied := by
    rw [decodeSnapshot, codec.decode_encode _ (portable_recovery _ _ _)]
    exact congrArg (Except.map (ProxySnapshot.mk backend))
      (fromJson_recovery original applied)

/-! ## The registry -/

section Registry

def RegistryName.text : RegistryName → String
  | .proxyEnable => "ProxyEnable"
  | .proxyServer => "ProxyServer"
  | .proxyOverride => "ProxyOverride"
  | .autoConfigUrl => "AutoConfigURL"

end Registry

/-! ## The network services -/

section Services

theorem mapM_map_some {Value Written : Type} {write : Value → Written}
    {read : Written → Option Value}
    (reads : ∀ value, read (write value) = some value) (values : List Value) :
    (values.map write).mapM read = some values := by
  induction values with
  | nil => rfl
  | cons value rest induction =>
      rw [List.map_cons, List.mapM_cons, reads, induction]
      rfl

def writeOptional {Value : Type} (write : Value → Json) : Option Value → Json
  | none => .null
  | some value => write value

def ServiceProxy.toJson (state : ServiceProxy) : Json :=
  .object [("enabled", .bool state.enabled),
    ("server", writeOptional .string state.server),
    ("port", writeOptional (fun port => .number port.toInt) state.port)]

def readServer : Json → Option (Option String)
  | .null => some none
  | .string server => some (some server)
  | _ => none

def readPort : Json → Option (Option Int64)
  | .null => some none
  | .number port => some (some (Int64.ofInt port))
  | _ => none

def ServiceProxy.fromJson : Json → Option ServiceProxy
  | .object fields => do
      let server ← readServer (Json.field fields "server")
      let port ← readPort (Json.field fields "port")
      match Json.field fields "enabled" with
      | .bool enabled => return ⟨enabled, server, port⟩
      | _ => none
  | _ => none

theorem ServiceProxy.fromJson_toJson (state : ServiceProxy) :
    ServiceProxy.fromJson state.toJson = some state := by
  obtain ⟨enabled, server, port⟩ := state
  have servers : readServer (writeOptional .string server) = some server := by
    cases server with
    | none => rfl
    | some server => rfl
  have ports : readPort (writeOptional
      (fun port : Int64 => .number port.toInt) port) = some port := by
    cases port with
    | none => rfl
    | some port => simp [writeOptional, readPort]
  simp [toJson, fromJson, Json.field, List.lookup_cons, servers, ports]

theorem ServiceProxy.portable_toJson (state : ServiceProxy) :
    state.toJson.Portable := by
  obtain ⟨enabled, server, port⟩ := state
  have servers : (writeOptional .string server).Portable := by
    cases server with
    | none => trivial
    | some server => trivial
  have ports : (writeOptional
      (fun port : Int64 => Json.number port.toInt) port).Portable := by
    cases port with
    | none => trivial
    | some port => exact ⟨port.le_toInt, port.toInt_lt⟩
  simp [toJson, Json.Portable, Json.PortableFields, servers, ports]

def NetworkService.toJson (service : NetworkService) : Json :=
  .object [("http", (service.proxies .webproxy).toJson),
    ("https", (service.proxies .securewebproxy).toJson),
    ("socks", (service.proxies .socksfirewallproxy).toJson),
    ("pac", service.pac.toJson),
    ("bypass", .array (service.bypass.map .string))]

def readDomain : Json → Option String
  | .string domain => some domain
  | _ => none

def NetworkService.fromJson : Json → Option NetworkService
  | .object fields => do
      let http ← ServiceProxy.fromJson (Json.field fields "http")
      let https ← ServiceProxy.fromJson (Json.field fields "https")
      let socks ← ServiceProxy.fromJson (Json.field fields "socks")
      let pac ← ServiceProxy.fromJson (Json.field fields "pac")
      match Json.field fields "bypass" with
      | .array domains =>
          return {
            proxies := fun
              | .webproxy => http
              | .securewebproxy => https
              | .socksfirewallproxy => socks
            pac
            bypass := ← domains.mapM readDomain }
      | _ => none
  | _ => none

theorem NetworkService.fromJson_toJson (service : NetworkService) :
    NetworkService.fromJson service.toJson = some service := by
  obtain ⟨proxies, pac, bypass⟩ := service
  have domain (host : String) : readDomain (Json.string host) = some host :=
    rfl
  have domains := mapM_map_some domain bypass
  simp [toJson, fromJson, Json.field, List.lookup_cons,
    ServiceProxy.fromJson_toJson, domains]
  funext kind
  cases kind with
  | webproxy => rfl
  | securewebproxy => rfl
  | socksfirewallproxy => rfl

theorem NetworkService.portable_toJson (service : NetworkService) :
    service.toJson.Portable := by
  have domains : Json.PortableItems (service.bypass.map .string) := by
    apply Json.portableItems_of_forall
    intro item member
    obtain ⟨domain, _, rfl⟩ := List.mem_map.mp member
    trivial
  simp [toJson, Json.Portable, Json.PortableFields,
    ServiceProxy.portable_toJson, domains]

end Services

end Velum.Client
