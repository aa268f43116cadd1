import Mathlib.Data.Fintype.Pi
import Mathlib.Data.List.Forall2
import Velum.Client.SystemProxy

/-!
# The proxies of Windows and macOS

On Windows the proxy is four values of the registry, and a restore writes every
one of them.  On macOS each network service has its proxies; a restore leaves
the server and port of a proxy that had none as an enable has set them.
-/

namespace Velum.Client

open Foundation

/-! ## Windows -/

inductive RegistryName where
  | proxyEnable
  | proxyServer
  | proxyOverride
  | autoConfigUrl
  deriving DecidableEq, Repr

instance : Fintype RegistryName where
  elems := {.proxyEnable, .proxyServer, .proxyOverride, .autoConfigUrl}
  complete name := by
    cases name with
    | proxyEnable => simp
    | proxyServer => simp
    | proxyOverride => simp
    | autoConfigUrl => simp

structure RegistryValue where
  type : String
  data : String
  deriving DecidableEq, Repr

abbrev RegistryValues := RegistryName → Option RegistryValue

namespace WindowsProxyBackend

def set (name : RegistryName) (type data : String) (values : RegistryValues) :
    RegistryValues :=
  Function.update values name (some ⟨type, data⟩)

def delete (name : RegistryName) (values : RegistryValues) : RegistryValues :=
  Function.update values name none

/-- The running programs are told to read the values again. -/
def refresh (values : RegistryValues) : RegistryValues := values

def enable (port : Int) (bypassHosts : List String) :
    List (RegistryValues → RegistryValues) :=
  [set .proxyServer "REG_SZ" ("http=127.0.0.1:" ++ toString port ++
      ";https=127.0.0.1:" ++ toString port ++
      ";socks=127.0.0.1:" ++ toString port),
    delete .autoConfigUrl,
    set .proxyOverride "REG_SZ" (";".intercalate bypassHosts),
    set .proxyEnable "REG_DWORD" "1",
    refresh]

def restoreValue (original : RegistryValues) (name : RegistryName) :
    RegistryValues → RegistryValues :=
  match original name with
  | none => delete name
  | some value => set name value.type value.data

def restore (original : RegistryValues) :
    List (RegistryValues → RegistryValues) :=
  [.proxyServer, .proxyOverride, .proxyEnable, .autoConfigUrl].map
    (restoreValue original) ++ [refresh]

end WindowsProxyBackend

inductive ProxyKind where
  | webproxy
  | securewebproxy
  | socksfirewallproxy
  deriving DecidableEq, Repr

instance : Fintype ProxyKind where
  elems := {.webproxy, .securewebproxy, .socksfirewallproxy}
  complete kind := by
    cases kind with
    | webproxy => simp
    | securewebproxy => simp
    | socksfirewallproxy => simp

structure ServiceProxy where
  enabled : Bool
  server : Option String
  port : Option Int64
  deriving DecidableEq, Repr

structure NetworkService where
  proxies : ProxyKind → ServiceProxy
  pac : ServiceProxy
  bypass : List String
  deriving DecidableEq

namespace NetworkService

def setAutoproxyState (enabled : Bool) (service : NetworkService) :
    NetworkService :=
  { service with pac := { service.pac with enabled } }

/-- The new URL is used at once. -/
def setAutoproxyUrl (url : String) (service : NetworkService) :
    NetworkService :=
  { service with
    pac := { service.pac with enabled := true, server := some url } }

/-- The new server is used at once. -/
def setProxy (kind : ProxyKind) (server : String) (port : Int64)
    (service : NetworkService) : NetworkService :=
  { service with
    proxies := Function.update service.proxies kind
      ⟨true, some server, some port⟩ }

def setProxyState (kind : ProxyKind) (enabled : Bool)
    (service : NetworkService) : NetworkService :=
  { service with
    proxies := Function.update service.proxies kind
      { service.proxies kind with enabled } }

/-- The word `Empty` removes all domains. -/
def setBypassDomains (domains : List String) (service : NetworkService) :
    NetworkService :=
  { service with
    bypass := if domains.head? = some "Empty" then [] else domains }

end NetworkService

/-- The network services by their names. -/
@[ext]
structure NetworkServices where
  services : List (String × NetworkService)
  distinct : (services.map Prod.fst).Nodup
  deriving DecidableEq

namespace MacosProxyBackend

open NetworkService

section Commands

def kinds : List ProxyKind := [.webproxy, .securewebproxy, .socksfirewallproxy]

def alter (name : String) (command : NetworkService → NetworkService)
    (entry : String × NetworkService) : String × NetworkService :=
  if entry.1 = name then (entry.1, command entry.2) else entry

theorem alter_fst (name : String) (command : NetworkService → NetworkService)
    (entry : String × NetworkService) :
    (alter name command entry).1 = entry.1 := by
  unfold alter
  split
  · rfl
  · rfl

/-- A command of `networksetup` is about one service. -/
def networksetup (name : String) (command : NetworkService → NetworkService)
    (settings : NetworkServices) : NetworkServices where
  services := settings.services.map (alter name command)
  distinct := by
    have same : Prod.fst ∘ alter name command = Prod.fst :=
      funext (alter_fst name command)
    rw [List.map_map, same]
    exact settings.distinct

/-- What `networksetup` takes for no domains. -/
def bypassArguments (domains : List String) : List String :=
  if domains.isEmpty then ["Empty"] else domains

def enableService (port : Int) (bypassHosts : List String) :
    List (NetworkService → NetworkService) :=
  setAutoproxyState false ::
    kinds.flatMap (fun kind =>
      [setProxy kind "127.0.0.1" (Int64.ofInt port),
        setProxyState kind true]) ++
    [setBypassDomains (bypassArguments bypassHosts)]

def enable (settings : NetworkServices) (port : Int)
    (bypassHosts : List String) : List (NetworkServices → NetworkServices) :=
  settings.services.flatMap fun entry =>
    (enableService port bypassHosts).map (networksetup entry.1)

def restoreProxy (state : ServiceProxy) (kind : ProxyKind) :
    List (NetworkService → NetworkService) :=
  match state.server, state.port with
  | some server, some port =>
      [setProxy kind server port, setProxyState kind state.enabled]
  | _, _ => [setProxyState kind state.enabled]

def restorePac (state : ServiceProxy) :
    List (NetworkService → NetworkService) :=
  match state.server with
  | some url =>
      if url.isEmpty then [setAutoproxyState state.enabled]
      else [setAutoproxyUrl url, setAutoproxyState state.enabled]
  | none => [setAutoproxyState state.enabled]

def restoreService (original : NetworkService) :
    List (NetworkService → NetworkService) :=
  kinds.flatMap (fun kind => restoreProxy (original.proxies kind) kind) ++
    restorePac original.pac ++
    [setBypassDomains (bypassArguments original.bypass)]

def restore (original : NetworkServices) :
    List (NetworkServices → NetworkServices) :=
  original.services.flatMap fun entry =>
    (restoreService entry.2).map (networksetup entry.1)

end Commands

/-! ### One service -/

section Service

variable {original service : NetworkService}

/-- Every proxy has a server and a port, and the domains do not start with the
word that removes them. -/
def Complete (original : NetworkService) : Prop :=
  (∀ kind, (original.proxies kind).server.isSome = true ∧
    (original.proxies kind).port.isSome = true) ∧
  original.bypass.head? ≠ some "Empty"

/-- What no command changes. -/
def SamePac (original service : NetworkService) : Prop :=
  service.pac.server = original.pac.server ∧
    service.pac.port = original.pac.port

def restoredProxy (original current : ServiceProxy) : ServiceProxy :=
  if original.server.isSome && original.port.isSome then original
  else { current with enabled := original.enabled }

theorem carryOut_restoreProxy (state : ServiceProxy) (kind : ProxyKind)
    (service : NetworkService) :
    carryOut (restoreProxy state kind) service =
      { service with
        proxies := Function.update service.proxies kind
          (restoredProxy state (service.proxies kind)) } := by
  obtain ⟨enabled, server, port⟩ := state
  cases server with
  | none => rfl
  | some server =>
      cases port with
      | none => rfl
      | some port => simp [restoreProxy, setProxy, setProxyState, restoredProxy]

theorem carryOut_restorePac (same : SamePac original service) :
    carryOut (restorePac original.pac) service =
      { service with pac := original.pac } := by
  obtain ⟨server, port⟩ := same
  have restored (url : Option String) (used : url = original.pac.server) :
      (⟨original.pac.enabled, url, service.pac.port⟩ : ServiceProxy) =
        original.pac := by
    rw [used, port]
  unfold restorePac
  split
  · rename_i url named
    split
    · exact congrArg (NetworkService.mk service.proxies · service.bypass)
        (restored _ server)
    · exact congrArg (NetworkService.mk service.proxies · service.bypass)
        (restored _ named.symm)
  · exact congrArg (NetworkService.mk service.proxies · service.bypass)
      (restored _ server)

/-- A restore of one service. -/
theorem carryOut_restoreService (same : SamePac original service) :
    carryOut (restoreService original) service =
      { proxies := fun kind =>
          restoredProxy (original.proxies kind) (service.proxies kind)
        pac := original.pac
        bypass := if original.bypass.head? = some "Empty" then []
          else original.bypass } := by
  have proxies : carryOut (kinds.flatMap fun kind =>
      restoreProxy (original.proxies kind) kind) service =
        { service with proxies := fun kind =>
            restoredProxy (original.proxies kind) (service.proxies kind) } := by
    simp only [kinds, List.flatMap_cons, List.flatMap_nil, List.append_nil,
      carryOut_append, carryOut_restoreProxy]
    congr 1
    funext kind
    cases kind with
    | webproxy => simp
    | securewebproxy => simp
    | socksfirewallproxy => simp
  have domains : (if (bypassArguments original.bypass).head? = some "Empty"
      then [] else bypassArguments original.bypass) =
        if original.bypass.head? = some "Empty" then []
        else original.bypass := by
    cases original.bypass with
    | nil => rfl
    | cons domain rest => rfl
  have pac (proxies : ProxyKind → ServiceProxy) :
      carryOut (restorePac original.pac) { service with proxies } =
        { service with proxies, pac := original.pac } :=
    carryOut_restorePac same
  rw [restoreService, carryOut_append, carryOut_append, proxies, pac]
  rw [← domains]
  rfl

theorem SamePac.enabled {port : Int} {bypassHosts : List String}
    {command : NetworkService → NetworkService}
    (same : SamePac original service)
    (member : command ∈ enableService port bypassHosts) :
    SamePac original (command service) := by
  simp only [enableService, List.mem_append, List.mem_cons, List.mem_flatMap,
    List.not_mem_nil, or_false] at member
  rcases member with (rfl | ⟨kind, _, rfl | rfl⟩) | rfl
  · exact same
  · exact same
  · exact same
  · exact same

theorem SamePac.restored {command : NetworkService → NetworkService}
    (same : SamePac original service)
    (member : command ∈ restoreService original) :
    SamePac original (command service) := by
  simp only [restoreService, List.mem_append, List.mem_flatMap,
    List.mem_singleton] at member
  rcases member with (⟨kind, _, proxy⟩ | pac) | rfl
  · unfold restoreProxy at proxy
    split at proxy
    · rcases List.mem_pair.mp proxy with rfl | rfl
      · exact same
      · exact same
    · cases List.mem_singleton.mp proxy
      exact same
  · unfold restorePac at pac
    split at pac
    · rename_i url named
      split at pac
      · cases List.mem_singleton.mp pac
        exact same
      · rcases List.mem_pair.mp pac with rfl | rfl
        · exact ⟨named.symm, same.2⟩
        · exact same
    · cases List.mem_singleton.mp pac
      exact same
  · exact same

theorem Complete.restored (complete : Complete original)
    (same : SamePac original service) :
    carryOut (restoreService original) service = original := by
  obtain ⟨proxies, domains⟩ := complete
  have restored : (fun kind =>
      restoredProxy (original.proxies kind) (service.proxies kind)) =
        original.proxies := by
    funext kind
    obtain ⟨server, port⟩ := proxies kind
    simp [restoredProxy, server, port]
  rw [carryOut_restoreService same, restored, if_neg domains]

/-- Only complete services are restored once all of their proxies have been
set. -/
theorem complete_of_restored (same : SamePac original service)
    (used : ∀ kind, (service.proxies kind).server.isSome = true ∧
      (service.proxies kind).port.isSome = true)
    (restored : carryOut (restoreService original) service = original) :
    Complete original := by
  rw [carryOut_restoreService same] at restored
  constructor
  · intro kind
    have state := congrFun (congrArg NetworkService.proxies restored) kind
    dsimp only [restoredProxy] at state
    split at state
    · rename_i present
      exact (Bool.and_eq_true _ _).mp present
    · rw [← state]
      exact used kind
  · intro first
    have domains := congrArg NetworkService.bypass restored
    dsimp only at domains
    rw [if_pos first] at domains
    rw [← domains] at first
    cases first

theorem carryOut_enableService (port : Int) (bypassHosts : List String)
    (service : NetworkService) :
    (carryOut (enableService port bypassHosts) service).proxies =
      fun _ => ⟨true, some "127.0.0.1", some (Int64.ofInt port)⟩ := by
  funext kind
  cases kind with
  | webproxy =>
      simp [enableService, kinds, setProxy, setProxyState, setAutoproxyState,
        setBypassDomains]
  | securewebproxy =>
      simp [enableService, kinds, setProxy, setProxyState, setAutoproxyState,
        setBypassDomains]
  | socksfirewallproxy =>
      simp [enableService, kinds, setProxy, setProxyState, setAutoproxyState,
        setBypassDomains]

theorem SamePac.carryOut_enableService (same : SamePac original service)
    (port : Int) (bypassHosts : List String) :
    SamePac original (carryOut (enableService port bypassHosts) service) :=
  same

end Service

/-! ### All services -/

section Services

theorem alter_alter (name : String)
    (first second : NetworkService → NetworkService)
    (entry : String × NetworkService) :
    alter name second (alter name first entry) =
      alter name (second ∘ first) entry := by
  unfold alter
  by_cases named : entry.1 = name
  · simp [named]
  · simp [named]

theorem services_networksetup (name : String)
    (commands : List (NetworkService → NetworkService))
    (settings : NetworkServices) :
    (carryOut (commands.map (networksetup name)) settings).services =
      settings.services.map (alter name (carryOut commands)) := by
  induction commands generalizing settings with
  | nil =>
      have same : alter name (carryOut []) = id := by
        funext entry
        simp [alter]
      rw [same, List.map_id]
      rfl
  | cons command rest induction =>
      rw [List.map_cons, carryOut_cons, induction, networksetup, List.map_map]
      apply List.map_congr_left
      intro entry _
      exact alter_alter name command (carryOut rest) entry

variable {entries : List (String × NetworkService)}
  {commands : NetworkService → List (NetworkService → NetworkService)}

/-- The commands for several services, one after the other. -/
theorem services_carryOut (settings : NetworkServices) :
    (carryOut (entries.flatMap fun entry =>
      (commands entry.2).map (networksetup entry.1)) settings).services =
      settings.services.map fun current =>
        entries.foldl (fun current entry =>
          alter entry.1 (carryOut (commands entry.2)) current) current := by
  induction entries generalizing settings with
  | nil => simp
  | cons entry rest induction =>
      rw [List.flatMap_cons, carryOut_append, induction, services_networksetup,
        List.map_map]
      rfl

theorem foldl_alter_of_absent {current : String × NetworkService}
    (absent : current.1 ∉ entries.map Prod.fst) :
    entries.foldl (fun current entry =>
      alter entry.1 (carryOut (commands entry.2)) current) current =
        current := by
  induction entries with
  | nil => rfl
  | cons entry rest induction =>
      simp only [List.map_cons, List.mem_cons, not_or] at absent
      rw [List.foldl_cons, alter, if_neg absent.1]
      exact induction absent.2

/-- A service is reached by its own commands only. -/
theorem foldl_alter_of_mem {entry : String × NetworkService}
    {service : NetworkService} (distinct : (entries.map Prod.fst).Nodup)
    (member : entry ∈ entries) :
    entries.foldl (fun current entry =>
      alter entry.1 (carryOut (commands entry.2)) current)
        (entry.1, service) =
      (entry.1, carryOut (commands entry.2) service) := by
  induction entries with
  | nil => cases member
  | cons first rest induction =>
      rw [List.map_cons, List.nodup_cons] at distinct
      rcases List.mem_cons.mp member with rfl | later
      · rw [List.foldl_cons, alter, if_pos rfl]
        exact foldl_alter_of_absent distinct.1
      · have other : entry.1 ≠ first.1 := by
          intro same
          apply distinct.1
          rw [← same]
          exact List.mem_map_of_mem later
        rw [List.foldl_cons, alter, if_neg other]
        exact induction distinct.2 later

end Services

end MacosProxyBackend

def macosProxyBackend : ProxyBackend NetworkServices where
  id := "macos"
  enableCommands := MacosProxyBackend.enable
  restoreCommands := MacosProxyBackend.restore

section Macos

open MacosProxyBackend NetworkService

variable {original settings : NetworkServices}

/-- The settings have the services of the original ones, with the same URLs. -/
def Kept (original settings : NetworkServices) : Prop :=
  List.Forall₂ (fun entry current =>
    current.1 = entry.1 ∧ SamePac entry.2 current.2)
    original.services settings.services

theorem Kept.networksetup {name : String}
    {command : NetworkService → NetworkService}
    (kept : Kept original settings)
    (keeps : ∀ entry ∈ original.services, entry.1 = name → ∀ service,
      SamePac entry.2 service → SamePac entry.2 (command service)) :
    Kept original (networksetup name command settings) := by
  unfold Kept
  rw [MacosProxyBackend.networksetup, List.forall₂_map_right_iff]
  apply ((List.forall₂_and_left _ _).mpr ⟨keeps, kept⟩).imp
  rintro entry current ⟨keeps, named, same⟩
  refine ⟨(alter_fst _ _ _).trans named, ?_⟩
  unfold alter
  split
  · rename_i used
    exact keeps (named.symm.trans used) _ same
  · exact same

theorem kept_of_touched
    (touched : Touched macosProxyBackend original settings) :
    Kept original settings := by
  induction touched with
  | untouched => exact List.forall₂_same.mpr fun _ _ => ⟨rfl, rfl, rfl⟩
  | enabled _ member kept =>
      obtain ⟨entry, _, member⟩ := List.mem_flatMap.mp member
      obtain ⟨command, listed, rfl⟩ := List.mem_map.mp member
      apply kept.networksetup
      intro other _ _ service same
      exact same.enabled listed
  | restored _ member kept =>
      obtain ⟨entry, present, member⟩ := List.mem_flatMap.mp member
      obtain ⟨command, listed, rfl⟩ := List.mem_map.mp member
      apply kept.networksetup
      intro other found named service same
      cases List.inj_on_of_nodup_map original.distinct found present named
      exact same.restored listed

/-- What a restore makes of a service. -/
def restoreEntry (original : NetworkServices)
    (current : String × NetworkService) : String × NetworkService :=
  original.services.foldl (fun current entry =>
    alter entry.1 (carryOut (restoreService entry.2)) current) current

theorem services_restoredFrom :
    (restoredFrom macosProxyBackend original settings).services =
      settings.services.map (restoreEntry original) :=
  services_carryOut settings

theorem restoreEntry_eq {entry : String × NetworkService}
    (member : entry ∈ original.services) (service : NetworkService) :
    restoreEntry original (entry.1, service) =
      (entry.1, carryOut (restoreService entry.2) service) :=
  foldl_alter_of_mem original.distinct member

/-- What an enable makes of a service. -/
def enableEntry (original : NetworkServices) (port : Int)
    (bypassHosts : List String) (current : String × NetworkService) :
    String × NetworkService :=
  original.services.foldl (fun current entry =>
    alter entry.1 (carryOut (enableService port bypassHosts)) current) current

theorem services_enabled (port : Int) (bypassHosts : List String) :
    (carryOut (macosProxyBackend.enableCommands original port bypassHosts)
      settings).services =
        settings.services.map (enableEntry original port bypassHosts) :=
  @services_carryOut original.services
    (fun _ => enableService port bypassHosts) settings

theorem enableEntry_eq {entry : String × NetworkService} {port : Int}
    {bypassHosts : List String} (member : entry ∈ original.services) :
    enableEntry original port bypassHosts entry =
      (entry.1, carryOut (enableService port bypassHosts) entry.2) :=
  @foldl_alter_of_mem original.services
    (fun _ => enableService port bypassHosts) entry entry.2 original.distinct
    member

/-- A restore after an enable gives the settings back exactly when every
service is complete. -/
theorem restoredFrom_enabled_iff {port : Int} {bypassHosts : List String} :
    restoredFrom macosProxyBackend original
        (carryOut (macosProxyBackend.enableCommands original port bypassHosts)
          original) = original ↔
      ∀ entry ∈ original.services, Complete entry.2 := by
  have each : restoredFrom macosProxyBackend original
        (carryOut (macosProxyBackend.enableCommands original port bypassHosts)
          original) = original ↔
      ∀ entry ∈ original.services, carryOut (restoreService entry.2)
        (carryOut (enableService port bypassHosts) entry.2) = entry.2 := by
    rw [NetworkServices.ext_iff, services_restoredFrom, services_enabled,
      List.map_map]
    nth_rewrite 2 [← List.map_id original.services]
    rw [List.map_inj_left]
    apply forall₂_congr
    intro entry member
    rw [Function.comp_apply, enableEntry_eq member, restoreEntry_eq member]
    exact ⟨congrArg Prod.snd, congrArg (Prod.mk entry.1)⟩
  rw [each]
  constructor
  · intro restored entry member
    apply complete_of_restored _ _ (restored entry member)
    · exact SamePac.carryOut_enableService ⟨rfl, rfl⟩ port bypassHosts
    · intro kind
      rw [carryOut_enableService]
      exact ⟨rfl, rfl⟩
  · intro complete entry member
    apply (complete entry member).restored
    exact SamePac.carryOut_enableService ⟨rfl, rfl⟩ port bypassHosts

/-- On macOS settings can be restored exactly when every service is
complete. -/
theorem macos_restorable_iff (original : NetworkServices) :
    Restorable macosProxyBackend original ↔
      ∀ entry ∈ original.services, Complete entry.2 := by
  constructor
  · intro restorable
    apply (@restoredFrom_enabled_iff original 0 []).mp
    exact restorable _ (.carryOut .untouched fun _ member => member)
  · intro complete settings touched
    have same : original.services =
        settings.services.map (restoreEntry original) := by
      rw [← List.forall₂_eq_eq_eq, List.forall₂_map_right_iff]
      have members : ∀ entry ∈ original.services, entry ∈ original.services :=
        fun _ member => member
      apply ((List.forall₂_and_left _ _).mpr
        ⟨members, kept_of_touched touched⟩).imp
      rintro entry ⟨name, service⟩ ⟨member, rfl, pac⟩
      rw [restoreEntry_eq member, (complete entry member).restored pac]
    rw [← services_restoredFrom] at same
    exact NetworkServices.ext same.symm

end Macos

end Velum.Client
