import TunnelBore.Broker.Subscriptions
import Mathlib.Data.List.Sort

namespace TunnelBore.TypeScript

open TunnelBore.Broker (PublisherWorld Starts serviceInfoOf servicesOf)

/-!
# The handshake of the TypeScript publisher

The publisher in TypeScript keeps its services under their hidden ports and announces them on
`open`.  A service without a name is announced without the member `name`: `JSON.stringify` omits
what is `undefined`.  The broker in C++ reads the members with `at`, which throws on one that is
missing; a name that is absent would have to be `null`.

* `announced_perm` — with distinct hidden ports, what is announced is what was configured;
* `Accepted` — the broker reads one service for each that is configured;
* `accepted_iff` — it does exactly when every service has a name.
-/

/-- `ServiceInfo`. -/
structure ServiceInfo where
  name : Option String
  socketType : String
  hiddenPort : Nat
  publicPort : Nat
  hiddenHost : Option String
  deriving DecidableEq, Repr

/-- The parts of `Config` that the handshake depends on. -/
structure Config where
  identity : String
  services : List ServiceInfo
  deriving DecidableEq, Repr

/-- `LocalService`. -/
structure LocalService where
  name : Option String
  hiddenHost : Option String
  hiddenPort : Nat
  publicPort : Nat
  socketType : String
  deriving DecidableEq, Repr

/-- The constructor of `LocalService`. -/
def LocalService.make (service : ServiceInfo) : LocalService where
  name := service.name
  hiddenHost := service.hiddenHost
  hiddenPort := service.hiddenPort
  publicPort := service.publicPort
  socketType := service.socketType.toLower

/-- `this.services`, an object whose keys are ports. -/
abbrev Services := AList fun _ : Nat => LocalService

/-- `this.services[service.hiddenPort] = new LocalService(..)`, for every service. -/
def setServices (services : Services) (config : List ServiceInfo) : Services :=
  config.foldl (fun services service => services.insert service.hiddenPort (.make service))
    services

/-- The services after the constructor of `Publisher`. -/
def Config.makeServices (cfg : Config) : Services := setServices ∅ cfg.services

/-- `Object.keys`: keys that are array indices come in ascending order. -/
def objectKeys (services : Services) : List Nat := services.keys.insertionSort (· ≤ ·)

/-- What `JSON.stringify` makes of the object for one service. -/
def LocalService.describe (service : LocalService) : Json :=
  .object ([("hiddenPort", .number service.hiddenPort), ("publicPort", .number service.publicPort)]
    ++ service.name.toList.map fun name => ("name", .string name))

/-- The array `services` of the message. -/
def describeServices (services : Services) : List Json :=
  (objectKeys services).filterMap fun servicePort =>
    (services.lookup servicePort).map LocalService.describe

/-- The message that is sent on `open`. -/
def handshake (cfg : Config) : Json :=
  .object [
    ("type", .string "Handshake"),
    ("identity", .string cfg.identity),
    ("services", .array (describeServices cfg.makeServices))]

/-! ### What is announced -/

/-- Services with keys that are new are put in front, one after the other. -/
theorem setServices_entries {services : Services} {config : List ServiceInfo}
    (hnew : ∀ service ∈ config, service.hiddenPort ∉ services)
    (hdistinct : (config.map ServiceInfo.hiddenPort).Nodup) :
    (setServices services config).entries =
      (config.map fun service => ⟨service.hiddenPort, .make service⟩).reverse ++
        services.entries := by
  induction config generalizing services with
  | nil => rfl
  | cons service config ih =>
    rw [List.map_cons, List.nodup_cons] at hdistinct
    have hfresh : service.hiddenPort ∉ services := hnew service List.mem_cons_self
    show (setServices (services.insert service.hiddenPort (.make service)) config).entries = _
    rw [ih _ hdistinct.2, AList.entries_insert_of_notMem hfresh]
    · simp
    · -- the ports of the others are neither in the table nor the one just put there
      intro other hother hmem
      rcases AList.mem_insert _ |>.mp hmem with hsame | hmem
      · exact hdistinct.1 (hsame ▸ List.mem_map_of_mem hother)
      · exact hnew other (List.mem_cons_of_mem _ hother) hmem

/-- **What is announced is what was configured**, in the order of the hidden ports. -/
theorem announced_perm {cfg : Config}
    (hdistinct : (cfg.services.map ServiceInfo.hiddenPort).Nodup) :
    ∃ listed : List ServiceInfo, listed.Perm cfg.services ∧
      describeServices cfg.makeServices =
        listed.map fun service => (LocalService.make service).describe := by
  have hentries : cfg.makeServices.entries =
      (cfg.services.map fun service => ⟨service.hiddenPort, .make service⟩).reverse := by
    refine (setServices_entries (fun service _ => AList.notMem_empty _) hdistinct).trans ?_
    exact List.append_nil _
  have hkeys : cfg.makeServices.keys = cfg.services.reverse.map ServiceInfo.hiddenPort := by
    show cfg.makeServices.entries.keys = _
    rw [hentries, ← List.map_reverse, List.keys, List.map_map]
    rfl
  refine ⟨cfg.services.reverse.insertionSort fun a b => a.hiddenPort ≤ b.hiddenPort, ?_, ?_⟩
  · exact (List.perm_insertionSort _ _).trans (List.reverse_perm _)
  · unfold describeServices objectKeys
    rw [hkeys, ← List.map_insertionSort (r := fun a b => a.hiddenPort ≤ b.hiddenPort) _ _ _
      (fun _ _ _ _ => Iff.rfl), List.filterMap_map, ← List.filterMap_eq_map]
    apply List.filterMap_congr
    intro service hservice
    -- a service that is listed is found under its port
    have hmem : service ∈ cfg.services :=
      List.mem_reverse.mp ((List.perm_insertionSort _ _).mem_iff.mp hservice)
    have hfound : cfg.makeServices.lookup service.hiddenPort = some (.make service) := by
      apply AList.mem_lookup_iff.mpr
      rw [hentries, List.mem_reverse]
      exact List.mem_map_of_mem hmem
    simp [hfound]

/-! ### What the broker reads -/

/-- `info` is the broker's record of a service that is configured as `service`. -/
structure Describes (service : ServiceInfo) (info : Broker.ServiceInfo) : Prop where
  publicPort : info.publicPort.toNat = service.publicPort
  hiddenPort : info.hiddenPort.toNat = service.hiddenPort
  name : info.name = none ↔ service.name = none

variable (cfg : Config) (starts : Starts) (what ref : String) (w : PublisherWorld)

/-- The handler of handshakes reads the message without an exception, one service for each that
    is configured, and adds them. -/
def Accepted : Prop :=
  ∃ infos, ((handshake cfg).find "services").bind servicesOf = some infos ∧
    (∃ listed : List ServiceInfo, listed.Perm cfg.services ∧
      List.Forall₂ Describes listed infos) ∧
    (PublisherWorld.onHandshake starts what (handshake cfg) ref w).1.publisher =
      w.publisher.addServices (w.offers starts infos) ∧
    (PublisherWorld.onHandshake starts what (handshake cfg) ref w).2 = .returned true

/-- The object for a service is read when it has a name. -/
theorem serviceInfoOf_describe (service : ServiceInfo) :
    serviceInfoOf (LocalService.make service).describe = service.name.map fun name =>
      ⟨some name, .ofInt service.publicPort, .ofInt service.hiddenPort⟩ := by
  obtain ⟨name, socketType, hiddenPort, publicPort, hiddenHost⟩ := service
  cases name with
  | none => rfl
  | some name => rfl

/-- An array is read element by element. -/
theorem servicesOf_eq_some_iff {services : List ServiceInfo} {infos : List Broker.ServiceInfo} :
    servicesOf (.array (services.map fun service => (LocalService.make service).describe)) =
        some infos ↔
      List.Forall₂ (fun service info =>
        serviceInfoOf (LocalService.make service).describe = some info) services infos := by
  show (services.map _).mapM serviceInfoOf = some infos ↔ _
  induction services generalizing infos with
  | nil =>
    rw [List.forall₂_nil_left_iff]
    exact ⟨fun h => (Option.some.inj h).symm, fun h => h ▸ rfl⟩
  | cons service services ih =>
    rw [List.map_cons, List.mapM_cons, List.forall₂_cons_left_iff]
    simp only [Option.bind_eq_bind, Option.bind_eq_some_iff, ih]
    constructor
    · rintro ⟨info, hinfo, rest, hrest, heq⟩
      exact ⟨info, rest, hinfo, hrest, (Option.some.inj heq).symm⟩
    · rintro ⟨info, rest, hinfo, hrest, rfl⟩
      exact ⟨info, hinfo, rest, hrest, rfl⟩

/-- What is read is what was configured. -/
theorem describes_of_read {service : ServiceInfo} {info : Broker.ServiceInfo}
    (hports : service.hiddenPort < 65536 ∧ service.publicPort < 65536)
    (hread : serviceInfoOf (LocalService.make service).describe = some info) :
    Describes service info := by
  have hcast : ∀ port : Nat, port < 65536 → (UInt16.ofInt port).toNat = port := by
    intro port hport
    have hkept := Json.toNat_ofInt_port (Int.natCast_nonneg port) (by omega)
    omega
  rw [serviceInfoOf_describe] at hread
  obtain ⟨name, hname, rfl⟩ := Option.map_eq_some_iff.mp hread
  exact ⟨hcast _ hports.2, hcast _ hports.1, by simp [hname]⟩

/-- **The handshake is accepted exactly when every service has a name.** -/
theorem accepted_iff
    (hports : ∀ service ∈ cfg.services, service.hiddenPort < 65536 ∧ service.publicPort < 65536)
    (hdistinct : (cfg.services.map ServiceInfo.hiddenPort).Nodup) :
    Accepted cfg starts what ref w ↔ ∀ service ∈ cfg.services, service.name ≠ none := by
  obtain ⟨listed, hperm, hlisted⟩ := announced_perm hdistinct
  have hfind : (handshake cfg).find "services" =
      some (.array (listed.map fun service => (LocalService.make service).describe)) := by
    rw [← hlisted]
    rfl
  unfold Accepted
  simp only [hfind, Option.bind_some, servicesOf_eq_some_iff]
  constructor
  · rintro ⟨infos, hread, -⟩ service hservice
    -- the service is in the list that is read
    have hnamed : List.Forall₂ (fun (service : ServiceInfo) info => service.name ≠ none ∧
        serviceInfoOf (LocalService.make service).describe = some info) listed infos := by
      refine hread.imp fun service info hinfo => ⟨fun hname => ?_, hinfo⟩
      rw [serviceInfoOf_describe, hname] at hinfo
      cases hinfo
    exact ((List.forall₂_and_left _ _).mp hnamed).1 service (hperm.mem_iff.mpr hservice)
  · -- with names everything is read, and what is read is what was configured
    intro hnamed
    have hread : List.Forall₂ (fun service info =>
        serviceInfoOf (LocalService.make service).describe = some info) listed
        (listed.map fun service =>
          ⟨service.name, .ofInt service.publicPort, .ofInt service.hiddenPort⟩) := by
      rw [List.forall₂_map_right_iff, List.forall₂_same]
      intro service hservice
      obtain ⟨name, hname⟩ := Option.ne_none_iff_exists'.mp
        (hnamed service (hperm.mem_iff.mp hservice))
      rw [serviceInfoOf_describe, hname]
      rfl
    refine ⟨_, hread, ⟨listed, hperm, ?_⟩, ?_⟩
    · have hlistedPorts : ∀ service ∈ listed,
          service.hiddenPort < 65536 ∧ service.publicPort < 65536 :=
        fun service hservice => hports service (hperm.mem_iff.mp hservice)
      exact ((List.forall₂_and_left _ _).mpr ⟨hlistedPorts, hread⟩).imp
        fun _ _ h => describes_of_read h.1 h.2
    · simp only [PublisherWorld.onHandshake, hfind, servicesOf_eq_some_iff.mpr hread, and_self]

/-- A web server without a name and one with a name. -/
def cfgUnnamed : Config :=
  ⟨"pub", [⟨some "ssh", "tcp", 8022, 22, none⟩, ⟨none, "tcp", 8080, 80, none⟩]⟩

/-- The services with names are accepted, in any order of their hidden ports. -/
theorem accepted_named :
    Accepted ⟨"pub", [⟨some "web", "tcp", 8080, 80, none⟩, ⟨some "ssh", "TCP", 8022, 22, none⟩]⟩
      (fun _ => ("service", true)) "" "" { publisher := { identity := "pub" } } :=
  (accepted_iff _ _ _ _ _ (by decide) (by decide)).mpr (by decide)

/-- One service without a name makes the broker refuse them all. -/
theorem accepted_unnamed :
    ¬Accepted cfgUnnamed (fun _ => ("service", true)) "" ""
        { publisher := { identity := "pub" } } ∧
      (PublisherWorld.onHandshake (fun _ => ("service", true)) "" (handshake cfgUnnamed) ""
        { publisher := { identity := "pub" } }).1.publisher.services.keys = [] := by
  refine ⟨?_, by decide +kernel⟩
  rintro ⟨infos, hread, -⟩
  have hnone : (((handshake cfgUnnamed).find "services").bind servicesOf).isNone = true := by
    decide +kernel
  rw [hread] at hnone
  cases hnone

end TunnelBore.TypeScript
