import TunnelBore.Shared.ConfigFile
import TunnelBore.Wire.HandshakePorts

/-!
# The configurations of the two programs

`Publisher.Config` has the members that messages depend on.  Here both configurations have all of
their members, as they are kept in their files.

* `Publisher.StoredConfig.format`, `Broker.Config.format` — how they are written and read;
* `Publisher.configOf_eq` — `Publisher.configOf` reads the same and keeps less of it;
* `Wire.saved_never_loaded` — after `saveConfig`, `loadConfig` throws.
-/

namespace TunnelBore

/-- An `int` can be stored. -/
theorem storable_int32 (n : Int32) : (Json.number n.toInt).Storable := by
  have hlow := n.le_toInt
  have hhigh := n.toInt_lt
  exact .number (by omega) (by omega)

/-- An `int` is read back. -/
theorem ofInt_getInt (n : Int32) :
    (Json.number n.toInt).getInt.map Int32.ofInt = some n := by
  have hlow := n.le_toInt
  have hhigh := n.toInt_lt
  rw [Json.getInt_number (by omega) (by omega), Option.map_some, Int32.ofInt_toInt]

namespace Publisher

open TunnelBore.Broker (optionalString)

/-- `j.at(key)` of a member that is an `int`. -/
def int32At (j : Json) (key : String) : Option Int32 := (j.intAt key).map Int32.ofInt

/-- `ServiceInfo`. -/
structure StoredService where
  name : Option String
  socketType : String
  hiddenPort : Int32
  publicPort : Int32
  hiddenHost : Option String
  deriving DecidableEq, Repr

/-- `Config`. -/
structure StoredConfig where
  identity : String
  passHashed : String
  host : String
  port : Int32
  authorityHost : String
  authorityPort : Int32
  services : List StoredService
  ssl : Bool := true
  deriving DecidableEq, Repr

/-- `to_json` of a `ServiceInfo`. -/
def StoredService.toJson (service : StoredService) : Json :=
  .object [
    ("hiddenHost", optionalJson service.hiddenHost),
    ("hiddenPort", .number service.hiddenPort.toInt),
    ("name", optionalJson service.name),
    ("publicPort", .number service.publicPort.toInt),
    ("socketType", .string service.socketType)]

/-- `from_json` of a `ServiceInfo`. -/
def StoredService.ofJson (j : Json) : Option StoredService := do
  let name ← (j.find "name").bind optionalString
  let socketType ← j.stringAt "socketType"
  let hiddenPort ← int32At j "hiddenPort"
  let publicPort ← int32At j "publicPort"
  let hiddenHost ← (j.find "hiddenHost").bind optionalString
  return ⟨name, socketType, hiddenPort, publicPort, hiddenHost⟩

/-- `json::get<std::vector<ServiceInfo>>()`. -/
def storedServicesOf : Json → Option (List StoredService)
  | .array elements => elements.mapM StoredService.ofJson
  | _ => none

/-- `to_json` of a `Config`. -/
def StoredConfig.toJson (config : StoredConfig) : Json :=
  .object [
    ("authorityHost", .string config.authorityHost),
    ("authorityPort", .number config.authorityPort.toInt),
    ("host", .string config.host),
    ("identity", .string config.identity),
    ("passHashed", .string config.passHashed),
    ("port", .number config.port.toInt),
    ("services", .array (config.services.map StoredService.toJson)),
    ("ssl", .boolean config.ssl)]

/-- `from_json` of a `Config`. -/
def StoredConfig.ofJson (j : Json) : Option StoredConfig := do
  let identity ← j.stringAt "identity"
  let passHashed ← j.stringAt "passHashed"
  let host ← j.stringAt "host"
  let port ← int32At j "port"
  let authorityHost ← j.stringAt "authorityHost"
  let authorityPort ← int32At j "authorityPort"
  let services ← (j.find "services").bind storedServicesOf
  let ssl ← j.boolAt "ssl"
  return ⟨identity, passHashed, host, port, authorityHost, authorityPort, services, ssl⟩

/-! ### What is written is read back -/

theorem storable_optional (s : Option String) : (optionalJson s).Storable := by
  cases s with
  | none => exact .null
  | some s => exact .string s

theorem optionalString_optionalJson (s : Option String) :
    optionalString (optionalJson s) = some s := by
  cases s <;> rfl

theorem StoredService.storable (service : StoredService) : service.toJson.Storable := by
  have hsorted : ["hiddenHost", "hiddenPort", "name", "publicPort", "socketType"].Pairwise
      Json.KeyBefore := by decide
  refine .object hsorted ?_
  simp only [List.forall_mem_cons]
  exact ⟨storable_optional _, storable_int32 _, storable_optional _, storable_int32 _, .string _,
    by simp⟩

theorem StoredService.ofJson_toJson (service : StoredService) :
    StoredService.ofJson service.toJson = some service := by
  have hname : (service.toJson.find "name").bind optionalString = some service.name :=
    optionalString_optionalJson service.name
  have hhost : (service.toJson.find "hiddenHost").bind optionalString = some service.hiddenHost :=
    optionalString_optionalJson service.hiddenHost
  have hhidden : int32At service.toJson "hiddenPort" = some service.hiddenPort :=
    ofInt_getInt service.hiddenPort
  have hpublic : int32At service.toJson "publicPort" = some service.publicPort :=
    ofInt_getInt service.publicPort
  unfold StoredService.ofJson
  rw [hname, hhost, hhidden, hpublic]
  rfl

/-- The services are read back. -/
theorem storedServicesOf_toJson (services : List StoredService) :
    storedServicesOf (.array (services.map StoredService.toJson)) = some services := by
  show (services.map StoredService.toJson).mapM StoredService.ofJson = _
  induction services with
  | nil => rfl
  | cons service services ih =>
    rw [List.map_cons, List.mapM_cons, StoredService.ofJson_toJson, ih]
    rfl

theorem StoredConfig.storable (config : StoredConfig) : config.toJson.Storable := by
  have hservices : (Json.array (config.services.map StoredService.toJson)).Storable := by
    refine .array fun element helement => ?_
    obtain ⟨service, -, rfl⟩ := List.mem_map.mp helement
    exact service.storable
  have hsorted : ["authorityHost", "authorityPort", "host", "identity", "passHashed", "port",
      "services", "ssl"].Pairwise Json.KeyBefore := by decide
  refine .object hsorted ?_
  simp only [List.forall_mem_cons]
  exact ⟨.string _, storable_int32 _, .string _, .string _, .string _, storable_int32 _, hservices,
    .boolean _, by simp⟩

theorem StoredConfig.ofJson_toJson (config : StoredConfig) :
    StoredConfig.ofJson config.toJson = some config := by
  have hport : int32At config.toJson "port" = some config.port := ofInt_getInt config.port
  have hauthorityPort : int32At config.toJson "authorityPort" = some config.authorityPort :=
    ofInt_getInt config.authorityPort
  have hservices : (config.toJson.find "services").bind storedServicesOf = some config.services :=
    storedServicesOf_toJson config.services
  unfold StoredConfig.ofJson
  rw [hport, hauthorityPort, hservices]
  rfl

/-! ### What messages depend on -/

/-- The parts of a service that messages depend on. -/
def StoredService.brief (service : StoredService) : ServiceInfo :=
  ⟨service.name, service.hiddenPort.toInt, service.publicPort.toInt, service.hiddenHost⟩

/-- The parts of a configuration that messages depend on. -/
def StoredConfig.brief (config : StoredConfig) : Config :=
  ⟨config.identity, config.host, config.services.map StoredService.brief⟩

theorem intAt_eq (j : Json) (key : String) :
    j.intAt key = (int32At j key).map Int32.toInt := by
  unfold int32At Json.intAt Json.getInt
  cases j.find key with
  | none => rfl
  | some value =>
    cases hvalue : value.getArithmetic with
    | none => simp [hvalue]
    | some n => simp [hvalue, Int32.size]

theorem serviceInfoOf_eq (j : Json) :
    serviceInfoOf j = (StoredService.ofJson j).map StoredService.brief := by
  unfold serviceInfoOf StoredService.ofJson
  simp [intAt_eq, Option.map_bind, Option.bind_map, Function.comp_def, StoredService.brief]

theorem servicesOf_eq (j : Json) :
    servicesOf j = (storedServicesOf j).map (List.map StoredService.brief) := by
  cases j with
  | array elements =>
    show elements.mapM serviceInfoOf = (elements.mapM StoredService.ofJson).map _
    induction elements with
    | nil => rfl
    | cons element elements ih =>
      rw [List.mapM_cons, List.mapM_cons, serviceInfoOf_eq, ih]
      cases StoredService.ofJson element with
      | none => rfl
      | some service =>
        cases elements.mapM StoredService.ofJson <;> rfl
  | _ => rfl

/-- **`configOf`** reads what is read here, and keeps a part of it. -/
theorem configOf_eq (j : Json) : configOf j = (StoredConfig.ofJson j).map StoredConfig.brief := by
  have hservices : (j.find "services").bind servicesOf =
      ((j.find "services").bind storedServicesOf).map (List.map StoredService.brief) := by
    cases j.find "services" with
    | none => rfl
    | some services => exact servicesOf_eq services
  unfold configOf StoredConfig.ofJson
  rw [hservices]
  generalize (j.find "services").bind storedServicesOf = services
  simp [intAt_eq, Option.map_bind, Option.bind_map, Function.comp_def, StoredConfig.brief]

/-- How the publisher keeps its configuration. -/
def StoredConfig.format : ConfigFormat StoredConfig where
  path inDev := if inDev then "publisher/configDev.json" else "publisher/config.json"
  toJson := StoredConfig.toJson
  ofJson := StoredConfig.ofJson
  isObject _ := ⟨_, rfl⟩
  storable := StoredConfig.storable
  ofJson_toJson := StoredConfig.ofJson_toJson
  ofJson_array _ := rfl

/-- `saveConfig`. -/
def StoredConfig.saveConfig {ε : Type} (config : StoredConfig) (lib : JsonLibrary ε) (inDev : Bool)
    (files : HomeFiles) : Option HomeFiles :=
  format.saveConfig lib inDev files config

/-- `loadConfig`, with all members. -/
def StoredConfig.loadConfig {ε : Type} (lib : JsonLibrary ε) (inDev : Bool) (files : HomeFiles) :
    Option StoredConfig :=
  format.loadConfig lib inDev files

/-- `Publisher.loadConfig` accepts the same files. -/
theorem loadConfig_eq {ε : Type} (lib : JsonLibrary ε) (inDev : Bool) (files : HomeFiles) :
    (files.loadHomeFile (StoredConfig.format.path inDev)).bind (Publisher.loadConfig lib.parse) =
      (StoredConfig.loadConfig lib inDev files).map StoredConfig.brief := by
  unfold StoredConfig.loadConfig ConfigFormat.loadConfig
  cases files.loadHomeFile (StoredConfig.format.path inDev) with
  | none => rfl
  | some configString =>
    rw [Option.bind_some, Option.bind_eq_bind, Option.bind_some, Publisher.loadConfig]
    cases lib.parse configString with
    | error e => rfl
    | ok j => exact configOf_eq j

end Publisher

namespace Broker

/-- `ServerConfig`. -/
structure ServerConfig where
  iface : String
  port : UInt16
  deriving DecidableEq, Repr

/-- `Config`. -/
structure Config where
  bind : ServerConfig
  ssl : Bool := true
  deriving DecidableEq, Repr

/-- `to_json` of a `ServerConfig`. -/
def ServerConfig.toJson (config : ServerConfig) : Json :=
  .object [("iface", .string config.iface), ("port", .number config.port.toNat)]

/-- `from_json` of a `ServerConfig`. -/
def ServerConfig.ofJson (j : Json) : Option ServerConfig := do
  let iface ← j.stringAt "iface"
  let port ← (j.find "port").bind Json.getUnsignedShort
  return ⟨iface, port⟩

/-- `to_json` of a `Config`. -/
def Config.toJson (config : Config) : Json :=
  .object [("bind", config.bind.toJson), ("ssl", .boolean config.ssl)]

/-- `from_json` of a `Config`. -/
def Config.ofJson (j : Json) : Option Config := do
  let bind ← (j.find "bind").bind ServerConfig.ofJson
  let ssl ← j.boolAt "ssl"
  return ⟨bind, ssl⟩

theorem ServerConfig.storable (config : ServerConfig) : config.toJson.Storable := by
  have hport := config.port.toNat_lt
  have hsorted : ["iface", "port"].Pairwise Json.KeyBefore := by decide
  refine .object hsorted ?_
  simp only [List.forall_mem_cons]
  exact ⟨.string _, .number (by omega) (by omega), by simp⟩

theorem ServerConfig.ofJson_toJson (config : ServerConfig) :
    ServerConfig.ofJson config.toJson = some config := by
  have hport : (config.toJson.find "port").bind Json.getUnsignedShort = some config.port := by
    have hlt := config.port.toNat_lt
    have hkept := Json.toNat_ofInt_port (n := config.port.toNat) (by omega) (by omega)
    show some (UInt16.ofInt config.port.toNat) = some config.port
    rw [UInt16.toNat_inj.mp (Int.ofNat_inj.mp hkept)]
  unfold ServerConfig.ofJson
  rw [hport]
  rfl

theorem Config.storable (config : Config) : config.toJson.Storable := by
  have hsorted : ["bind", "ssl"].Pairwise Json.KeyBefore := by decide
  refine .object hsorted ?_
  simp only [List.forall_mem_cons]
  exact ⟨config.bind.storable, .boolean _, by simp⟩

theorem Config.ofJson_toJson (config : Config) : Config.ofJson config.toJson = some config := by
  have hbind : (config.toJson.find "bind").bind ServerConfig.ofJson = some config.bind :=
    config.bind.ofJson_toJson
  unfold Config.ofJson
  rw [hbind]
  rfl

/-- How the broker keeps its configuration. -/
def Config.format : ConfigFormat Config where
  path inDev := if inDev then "broker/configDev.json" else "broker/config.json"
  toJson := Config.toJson
  ofJson := Config.ofJson
  isObject _ := ⟨_, rfl⟩
  storable := Config.storable
  ofJson_toJson := Config.ofJson_toJson
  ofJson_array _ := rfl

/-- `saveConfig`. -/
def Config.saveConfig {ε : Type} (config : Config) (lib : JsonLibrary ε) (inDev : Bool)
    (files : HomeFiles) : Option HomeFiles :=
  format.saveConfig lib inDev files config

/-- `loadConfig`. -/
def Config.loadConfig {ε : Type} (lib : JsonLibrary ε) (inDev : Bool) (files : HomeFiles) :
    Option Config :=
  format.loadConfig lib inDev files

end Broker

namespace Wire

open TunnelBore.Publisher (StoredConfig)

/-- **No configuration is read back** after it was saved: what `saveConfig` writes makes
    `loadConfig` throw, in both programs. -/
theorem saved_never_loaded {ε : Type} {lib : JsonLibrary ε} (hlib : lib.Documented) (inDev : Bool)
    (files : HomeFiles) :
    (∀ config : StoredConfig, ¬StoredConfig.format.RoundTrips lib inDev files config ∧
        ∀ saved, config.saveConfig lib inDev files = some saved →
          StoredConfig.loadConfig lib inDev saved = none) ∧
      ∀ config : Broker.Config, ¬Broker.Config.format.RoundTrips lib inDev files config ∧
        ∀ saved, config.saveConfig lib inDev files = some saved →
          Broker.Config.loadConfig lib inDev saved = none :=
  ⟨fun _ => ⟨ConfigFormat.not_roundTrips hlib, fun _ => ConfigFormat.loadConfig_saved hlib⟩,
    fun _ => ⟨ConfigFormat.not_roundTrips hlib, fun _ => ConfigFormat.loadConfig_saved hlib⟩⟩

/-- A configuration of the broker. -/
def brokerConfig : Broker.Config := ⟨⟨"::", 11800⟩, true⟩

/-- What `saveConfig` writes for it. -/
def brokerText : Bytes :=
  asciiString "[\x7b\"bind\":\x7b\"iface\":\"::\",\"port\":11800\x7d,\"ssl\":true\x7d]"

/-- The library on this configuration. -/
def brokerLibrary : JsonLibrary Unit where
  parse text := if text = brokerText then .ok (.array [brokerConfig.toJson]) else .error ()
  dump
    | .array [.object [("bind", .object [("iface", .string "::"), ("port", .number 11800)]),
        ("ssl", .boolean true)]] => some brokerText
    | _ => none
  braced
    | .array [.string key, value] => .object [(key, value)]
    | value                       => .array [value]

/-- A home directory in which everything can be written. -/
def emptyHome : HomeFiles := ⟨fun _ => none, fun _ => true⟩

theorem brokerLibrary_documented : brokerLibrary.Documented := by
  refine ⟨fun {value text} _ hdump => ?_, fun {value} hpair => ?_⟩
  · simp only [brokerLibrary] at hdump
    split at hdump
    · obtain rfl := Option.some.inj hdump
      have hparsed : brokerLibrary.parse brokerText = .ok (.array [brokerConfig.toJson]) := by
        simp [brokerLibrary]
      exact hparsed
    · cases hdump
  · simp only [brokerLibrary]
    split
    · exact absurd trivial hpair
    · rfl

theorem saved_never_loaded_broker :
    ∃ saved, brokerConfig.saveConfig brokerLibrary false emptyHome = some saved ∧
      saved.loadHomeFile "broker/config.json" = some brokerText ∧
      Broker.Config.loadConfig brokerLibrary false saved = none := by
  have hsaved : brokerConfig.saveConfig brokerLibrary false emptyHome = some _ := rfl
  refine ⟨_, hsaved, rfl, ?_⟩
  exact ((saved_never_loaded brokerLibrary_documented false emptyHome).2 brokerConfig).2 _ hsaved

/-- The file holds an array, and `loadConfig` looks for the members of an object in it. -/
theorem not_roundTrips_broker :
    (brokerConfig.saveConfig brokerLibrary false emptyHome).isSome = true ∧
      ¬Broker.Config.format.RoundTrips brokerLibrary false emptyHome brokerConfig := by
  refine ⟨rfl, ?_⟩
  rintro ⟨saved, hsaved, hloaded⟩
  obtain rfl : _ = saved := Option.some.inj hsaved
  cases hloaded

end Wire

end TunnelBore
