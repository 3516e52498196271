import TunnelBore.Wire.ServiceRouting

namespace TunnelBore.Publisher

/-!
# The ports of a handshake

The publisher keeps the ports of its configuration as `int` and announces them so.  The broker
reads them as `unsigned short`, which keeps the low 16 bits without a check, and opens what it
has read.

* `loadConfig` — the configurations that the publisher accepts;
* `KeepsPorts` — the handshake is refused, or the broker has the ports that were configured;
* `keepsPorts_iff` — so it is exactly when every configured port is the number of a port.
-/

open TunnelBore.Broker (optionalString)

/-- `from_json` of a `ServiceInfo`; its `socketType` is read and not looked at again. -/
def serviceInfoOf (j : Json) : Option ServiceInfo := do
  let name ← (j.find "name").bind optionalString
  let _socketType ← j.stringAt "socketType"
  let hiddenPort ← j.intAt "hiddenPort"
  let publicPort ← j.intAt "publicPort"
  let hiddenHost ← (j.find "hiddenHost").bind optionalString
  return ⟨name, hiddenPort, publicPort, hiddenHost⟩

/-- `json::get<std::vector<ServiceInfo>>()`. -/
def servicesOf : Json → Option (List ServiceInfo)
  | .array elements => elements.mapM serviceInfoOf
  | _ => none

/-- `from_json` of a `Config`.  What no message depends on has to be there all the same. -/
def configOf (j : Json) : Option Config := do
  let identity ← j.stringAt "identity"
  let _passHashed ← j.stringAt "passHashed"
  let host ← j.stringAt "host"
  let _port ← j.intAt "port"
  let _authorityHost ← j.stringAt "authorityHost"
  let _authorityPort ← j.intAt "authorityPort"
  let services ← (j.find "services").bind servicesOf
  let _ssl ← j.boolAt "ssl"
  return ⟨identity, host, services⟩

/-- `loadConfig` on the text of the configuration file; `none` says that it throws. -/
def loadConfig {ε : Type} (parse : Bytes → Except ε Json) (configString : Bytes) :
    Option Config :=
  match parse configString with
  | .error _ => none
  | .ok j    => configOf j

end TunnelBore.Publisher

namespace TunnelBore.Wire

open TunnelBore.Broker

/-- The broker's record of a service has the ports that were configured. -/
def PortsOf (info : Publisher.ServiceInfo) (serviceInfo : ServiceInfo) : Prop :=
  SamePorts (.make info) serviceInfo

/-- The handshake is answered with an error. -/
structure Refused (w after : PublisherWorld) (ref : String) (outcome : CallbackEnd) :
    Prop where
  returned : outcome = .returned false
  error : ∃ message, after.written = w.written ++ [errorMessage ref message]
  unchanged : after.publisher = w.publisher

/-- The handshake is read with the ports that were configured, and what the broker then holds and
    did not hold before is on configured ports. -/
structure ReadAs (cfg : Publisher.Config) (w after : PublisherWorld) (services : Json) :
    Prop where
  read : ∃ infos, servicesOf services = some infos ∧ List.Forall₂ PortsOf cfg.services infos
  opened : ∀ id serviceInfo, after.publisher.services.lookup id = some serviceInfo →
    w.publisher.services.lookup id = some serviceInfo ∨
      ∃ info ∈ cfg.services, PortsOf info serviceInfo

variable (cfg : Publisher.Config) (w : PublisherWorld) (starts : Starts) (what ref : String)

/-- **No port is silently changed** by the handshake of a configuration. -/
def KeepsPorts : Prop :=
  let payload := Publisher.ControlMessage.payload cfg .handshake
  let result := PublisherWorld.onHandshake starts what payload ref w
  Refused w result.1 ref result.2 ∨
    ∃ services, payload.find "services" = some services ∧ ReadAs cfg w result.1 services

/-- The cast keeps the numbers of ports and no others. -/
theorem toNat_ofInt_eq_iff {n : Int} : n = ((UInt16.ofInt n).toNat : Int) ↔ IsPort n := by
  constructor
  · intro hkept
    have hlt := (UInt16.ofInt n).toNat_lt
    unfold IsPort
    omega
  · intro hport
    exact (Json.toNat_ofInt_port hport.1 hport.2).symm

/-- An entry of the configuration is announced with its own ports exactly when they are ports. -/
theorem portsOf_announced_iff {info : Publisher.ServiceInfo} :
    PortsOf info (announced (.make info)) ↔ IsPort info.hiddenPort ∧ IsPort info.publicPort := by
  show info.hiddenPort = ((UInt16.ofInt info.hiddenPort).toNat : Int) ∧
    info.publicPort = ((UInt16.ofInt info.publicPort).toNat : Int) ↔ _
  rw [toNat_ofInt_eq_iff, toNat_ofInt_eq_iff]

/-- The same for all entries at once. -/
theorem forall₂_portsOf_iff (infos : List Publisher.ServiceInfo) :
    List.Forall₂ PortsOf infos ((infos.map Publisher.Service.make).map announced) ↔
      ∀ info ∈ infos, IsPort info.hiddenPort ∧ IsPort info.publicPort := by
  induction infos with
  | nil => simp
  | cons info infos ih =>
    rw [List.map_cons, List.map_cons, List.forall₂_cons, ih, portsOf_announced_iff,
      List.forall_mem_cons]

/-- Only ports are kept: a handshake of the publisher is never refused. -/
theorem isPort_of_keepsPorts (h : KeepsPorts cfg w starts what ref) :
    ∀ info ∈ cfg.services, IsPort info.hiddenPort ∧ IsPort info.publicPort := by
  unfold KeepsPorts at h
  simp only [onHandshake_payload] at h
  rcases h with hrefused | ⟨services, hfind, hread⟩
  · exact absurd hrefused.returned (by simp)
  · obtain ⟨infos, hinfos, hports⟩ := hread.read
    obtain rfl : Json.array (cfg.makeServices.map Publisher.Service.toJson) = services :=
      Option.some.inj hfind
    rw [servicesOf_handshake] at hinfos
    obtain rfl := Option.some.inj hinfos
    exact (forall₂_portsOf_iff cfg.services).mp hports

/-- **Ports are kept exactly when they are ports**, whatever the broker holds before and whichever
    services can be started. -/
theorem keepsPorts_iff :
    KeepsPorts cfg w starts what ref ↔
      ∀ info ∈ cfg.services, IsPort info.hiddenPort ∧ IsPort info.publicPort := by
  constructor
  · exact isPort_of_keepsPorts cfg w starts what ref
  · intro hports
    unfold KeepsPorts
    simp only [onHandshake_payload]
    refine .inr ⟨_, rfl, ⟨_, servicesOf_handshake _, (forall₂_portsOf_iff _).mpr hports⟩, ?_⟩
    intro id serviceInfo hheld
    rcases Broker.Publisher.addServices_entry hheld with hbefore | ⟨offer, hmem, rfl⟩
    · exact .inl hbefore
    · -- an offer is one of the services announced
      obtain ⟨i, hi, rfl⟩ := List.mem_mapIdx.mp hmem
      obtain ⟨v, hv, heq⟩ := List.mem_map.mp (List.getElem_mem hi)
      obtain ⟨info, hinfo, rfl⟩ := List.mem_map.mp hv
      refine .inr ⟨info, hinfo, ?_⟩
      show PortsOf info (cfg.makeServices.map announced)[i]
      rw [← heq]
      exact portsOf_announced_iff.mpr (hports info hinfo)

/-- A configuration file with the public port 65616. -/
def configFile : Json :=
  .object [
    ("authorityHost", .string "localhost"),
    ("authorityPort", .number 11801),
    ("host", .string "localhost"),
    ("identity", .string "pub"),
    ("passHashed", .string "hash"),
    ("port", .number 11805),
    ("services", .array [.object [
      ("hiddenHost", .null),
      ("hiddenPort", .number 8080),
      ("name", .null),
      ("publicPort", .number 65616),
      ("socketType", .string "tcp")]]),
    ("ssl", .boolean true)]

/-- Its configuration. -/
def cfgWrapped : Publisher.Config := ⟨"pub", "localhost", [⟨none, 8080, 65616, none⟩]⟩

/-- The file is accepted, and the broker opens port 80 for it. -/
theorem keepsPorts_wrapped :
    Publisher.loadConfig (fun _ => Except.ok (ε := Unit) configFile) [] = some cfgWrapped ∧
      ¬KeepsPorts cfgWrapped { publisher := { identity := "pub" } } (fun _ => ("service", true))
        "" "" ∧
      (PublisherWorld.onHandshake (fun _ => ("service", true)) ""
        (Publisher.ControlMessage.payload cfgWrapped .handshake) ""
        { publisher := { identity := "pub" } }).1.publisher.services.lookup "service" =
          some ⟨none, 80, 8080⟩ := by
  refine ⟨by decide +kernel, fun hkept => ?_, by decide +kernel⟩
  have hport := (isPort_of_keepsPorts _ _ _ _ _ hkept _ List.mem_cons_self).2
  -- the public port is none
  exact absurd hport.2 (by decide)

end TunnelBore.Wire
