import Mathlib
import TunnelBore.TypeScript.NewTunnel

namespace TunnelBore.TypeScript

/-!
# What is configured and what is served

The publisher keeps the configured services in an object whose keys are their hidden ports: of
several services with one hidden port it keeps the last.  The sessions of services that are not
`tcp` are made without the hidden host.

* `Announces` — the handshake lists what is configured;
* `Serves` — a message about a service makes a session for that service;
* `announces_and_serves_iff` — the configurations for which both hold.
-/

/-! ### The table -/

/-- A port is found under its decimal. -/
theorem serviceAt_port {services : Services} {port : Nat} {service : LocalService}
    (h : services.lookup port = some service) :
    serviceAt services (toString port) = .own service := by
  have hfind : services.entries.find? (fun entry => toString entry.1 = toString port) =
      some ⟨port, service⟩ := by
    have hlookup := List.map_dlookup_eq_find port services.entries
    rw [show List.dlookup port services.entries = some service from h, Option.map_some] at hlookup
    rw [hlookup]
    congr 1
    funext entry
    exact decide_eq_decide.mpr (Nat.repr_inj.trans eq_comm)
  unfold serviceAt
  rw [hfind]

/-- The ports in the table are configured. -/
theorem mem_setServices {services : Services} {config : List ServiceInfo} {port : Nat}
    (h : port ∈ setServices services config) :
    port ∈ services ∨ port ∈ config.map ServiceInfo.hiddenPort := by
  induction config generalizing services with
  | nil => exact .inl h
  | cons service config ih =>
    rw [List.map_cons, List.mem_cons]
    have hrest : port ∈ services.insert service.hiddenPort (.make service) ∨
        port ∈ config.map ServiceInfo.hiddenPort := ih h
    rcases hrest with h | h
    · rcases (AList.mem_insert _).mp h with rfl | h
      · exact .inr (.inl rfl)
      · exact .inl h
    · exact .inr (.inr h)

/-- With distinct hidden ports every service is in the table. -/
theorem lookup_makeServices {cfg : Config}
    (hdistinct : (cfg.services.map ServiceInfo.hiddenPort).Nodup) {service : ServiceInfo}
    (hservice : service ∈ cfg.services) :
    cfg.makeServices.lookup service.hiddenPort = some (.make service) := by
  apply AList.mem_lookup_iff.mpr
  have hentries : cfg.makeServices.entries = _ :=
    setServices_entries (fun service _ => AList.notMem_empty _) hdistinct
  rw [hentries, List.mem_append, List.mem_reverse]
  exact .inl (List.mem_map_of_mem hservice)

/-! ### The announcement -/

/-- The array of the handshake is what is configured, in some order. -/
def Announces (cfg : Config) : Prop :=
  (describeServices cfg.makeServices).Perm
    (cfg.services.map fun service => (LocalService.make service).describe)

/-- **The handshake lists what is configured exactly when the hidden ports are distinct.** -/
theorem announces_iff (cfg : Config) :
    Announces cfg ↔ (cfg.services.map ServiceInfo.hiddenPort).Nodup := by
  constructor
  · intro h
    -- the table has an entry for each port that is listed
    have hports : (cfg.services.map ServiceInfo.hiddenPort).length ≤
        cfg.makeServices.keys.length := by
      have hlength := h.length_eq
      rw [List.length_map] at hlength
      rw [List.length_map, ← hlength]
      refine (List.length_filterMap_le _ _).trans ?_
      exact (List.perm_insertionSort _ _).length_eq.le
    have hsubset : cfg.makeServices.keys ⊆ cfg.services.map ServiceInfo.hiddenPort := by
      intro port hport
      exact (mem_setServices (AList.mem_keys.mp hport)).resolve_left (AList.notMem_empty _)
    have hnodup : cfg.makeServices.keys.Nodup := cfg.makeServices.keys_nodup
    exact ((List.subperm_of_subset hnodup hsubset).perm_of_length_le hports).nodup hnodup
  · intro hdistinct
    obtain ⟨listed, hperm, hlisted⟩ := announced_perm hdistinct
    unfold Announces
    rw [hlisted]
    exact hperm.map _

/-! ### The sessions -/

/-- The hidden host of a service; without one it is the host of the publisher. -/
def ServiceInfo.target (service : ServiceInfo) : String :=
  (service.hiddenHost.filter fun host => host ≠ "").getD "localhost"

variable (parse : Bytes → Option Json) (keyOf : Json → Option String) (brokerHost : String)

/-- A message with the ports of the service makes a session for the service, when the authority
    signs it. -/
def Serves (cfg : Config) (signed : Bytes) (service : ServiceInfo) : Prop :=
  ∀ message : NewTunnelMessage, message.hiddenPort = some (.number service.hiddenPort) →
    message.publicPort = some (.number service.publicPort) →
    ∃ session, (NewTunnelRun.newTunnel parse keyOf cfg.makeServices brokerHost message none
        (.response 200 [signed] false)).sessions = [session] ∧
      session.publicPort = service.publicPort ∧ session.hiddenPort = service.hiddenPort ∧
      session.hiddenHost = service.target

/-- A TCP service, or a UDP service on the host of the publisher. -/
def ServiceInfo.Reachable (service : ServiceInfo) : Prop :=
  (service.socketType.toLower = "tcp" ∧ service.publicPort < 65536) ∨
    (service.socketType.toLower = "udp4" ∨ service.socketType.toLower = "udp6") ∧
      (service.hiddenHost = none ∨ service.hiddenHost = some "" ∨
        service.hiddenHost = some "localhost")

instance (service : ServiceInfo) : Decidable service.Reachable :=
  inferInstanceAs (Decidable (_ ∨ _))

variable {parse keyOf brokerHost} {cfg : Config} {service : ServiceInfo} {signed : Bytes}
variable {token : String}

/-- The constructor of `LocalService` puts the type in lower case, and that of `UdpSession` does so
    again. -/
theorem toLower_toLower (s : String) : s.toLower.toLower = s.toLower := by
  unfold String.toLower
  rw [String.map_map]
  congr 1
  funext c
  exact Char.toLower_toLower_eq_toLower c

theorem target_eq_localhost :
    service.target = "localhost" ↔ service.hiddenHost = none ∨ service.hiddenHost = some "" ∨
      service.hiddenHost = some "localhost" := by
  unfold ServiceInfo.target
  cases service.hiddenHost with
  | none => simp
  | some host =>
    by_cases hhost : host = ""
    · simp [hhost, Option.filter]
    · simp [hhost, Option.filter]

theorem serviceable_make :
    (LocalService.make service).Serviceable ↔
      (service.socketType.toLower = "tcp" ∧ service.publicPort < 65536) ∨
        service.socketType.toLower = "udp4" ∨ service.socketType.toLower = "udp6" := by
  unfold LocalService.Serviceable udpSocketType
  simp only [LocalService.make, toLower_toLower]
  split
  · next htcp => simp [htcp]
  · next hudp =>
    split
    · next h4 => simp [h4]
    · next h4 => simp [hudp, h4]

/-- The session that is made for a service that can be reached is the one that is configured. -/
theorem reachable_iff :
    service.Reachable ↔ ∃ session,
      (LocalService.make service).createSession brokerHost token = some session ∧
        session.hiddenHost = service.target := by
  have hhost : ∀ session, (LocalService.make service).createSession brokerHost token =
      some session → (session.hiddenHost = service.target ↔
        service.socketType.toLower = "tcp" ∨ service.target = "localhost") := by
    intro session hsession
    rw [(createSession_spec hsession).2.2.2]
    show (if service.socketType.toLower = "tcp" then service.target else "localhost") = _ ↔ _
    split
    · next htcp => simp [htcp]
    · next hudp => simp [hudp, eq_comm]
  have hmade : (∃ session, (LocalService.make service).createSession brokerHost token =
      some session) ↔ (LocalService.make service).Serviceable := by
    rw [← Option.isSome_iff_exists, createSession_isSome]
  unfold ServiceInfo.Reachable
  rw [← target_eq_localhost]
  constructor
  · rintro (⟨htcp, hport⟩ | ⟨hudp, hlocal⟩)
    · obtain ⟨session, hsession⟩ := hmade.mpr (serviceable_make.mpr (.inl ⟨htcp, hport⟩))
      exact ⟨session, hsession, (hhost session hsession).mpr (.inl htcp)⟩
    · obtain ⟨session, hsession⟩ := hmade.mpr (serviceable_make.mpr (.inr hudp))
      exact ⟨session, hsession, (hhost session hsession).mpr (.inr hlocal)⟩
  · rintro ⟨session, hsession, heq⟩
    rcases serviceable_make.mp (hmade.mp ⟨session, hsession⟩) with htcp | hudp
    · exact .inl htcp
    · have hne : service.socketType.toLower ≠ "tcp" := by
        rcases hudp with hudp | hudp <;> simp [hudp]
      exact .inr ⟨hudp, ((hhost session hsession).mp heq).resolve_left hne⟩

/-- **A service is served exactly when it is one that can be reached.** -/
theorem serves_iff (hdistinct : (cfg.services.map ServiceInfo.hiddenPort).Nodup)
    (hservice : service ∈ cfg.services)
    (hport : keyOf (.number service.hiddenPort) = some (toString service.hiddenPort))
    (htoken : tokenText parse keyOf signed = some token) :
    Serves parse keyOf brokerHost cfg signed service ↔ service.Reachable := by
  have hfound : serviceAt cfg.makeServices (toString service.hiddenPort) =
      .own (.make service) := serviceAt_port (lookup_makeServices hdistinct hservice)
  -- the session for a message
  have hsessions : ∀ message : NewTunnelMessage,
      message.hiddenPort = some (.number service.hiddenPort) →
      (NewTunnelRun.newTunnel parse keyOf cfg.makeServices brokerHost message none
          (.response 200 [signed] false)).sessions =
        ((LocalService.make service).createSession brokerHost token).toList := by
    intro message hmessage
    have hkey : textOf keyOf message.hiddenPort = some (toString service.hiddenPort) := by
      rw [hmessage]
      exact hport
    rw [NewTunnelRun.newTunnel_response hkey, (NewTunnelRun.foldl_onData_own hfound _ rfl).2]
    simp only [NewTunnelRun.sessionsOf, NewTunnelRun.madeOf, htoken, Option.bind_some]
    cases (LocalService.make service).createSession brokerHost token <;> rfl
  have hreachable : service.Reachable ↔ ∃ session,
      (LocalService.make service).createSession brokerHost token = some session ∧
        session.hiddenHost = service.target := reachable_iff
  rw [hreachable]
  constructor
  · intro h
    obtain ⟨session, hone, -, -, htarget⟩ := h ⟨none, none, some (.number service.hiddenPort),
      some (.number service.publicPort), none⟩ rfl rfl
    rw [hsessions _ rfl] at hone
    refine ⟨session, ?_, htarget⟩
    exact Option.mem_toList.mp (hone ▸ List.mem_singleton_self session)
  · rintro ⟨session, hsession, htarget⟩ message hmessage -
    obtain ⟨hpublic, hhidden, -, -⟩ := createSession_spec hsession
    refine ⟨session, ?_, hpublic, hhidden, htarget⟩
    rw [hsessions message hmessage, hsession]
    rfl

/-- **What is configured is announced and served exactly when** the hidden ports are distinct and
    every service is a TCP service, or a UDP service on the host of the publisher. -/
theorem announces_and_serves_iff
    (hports : ∀ service ∈ cfg.services,
      keyOf (.number service.hiddenPort) = some (toString service.hiddenPort))
    (htoken : tokenText parse keyOf signed = some token) :
    (Announces cfg ∧ ∀ service ∈ cfg.services, Serves parse keyOf brokerHost cfg signed service) ↔
      (cfg.services.map ServiceInfo.hiddenPort).Nodup ∧
        ∀ service ∈ cfg.services, service.Reachable := by
  rw [announces_iff]
  refine and_congr_right fun hdistinct => forall₂_congr fun service hservice => ?_
  exact serves_iff hdistinct hservice (hports service hservice) htoken

/-- Two TCP services and a UDP service of this host. -/
theorem announces_and_serves_distinct :
    let cfg : Config := ⟨"pub", [⟨some "ssh", "tcp", 8022, 22, some "db"⟩,
      ⟨some "web", "TCP", 8080, 80, none⟩, ⟨some "dns", "udp4", 53, 5353, some ""⟩]⟩
    Announces cfg ∧
      ∀ service ∈ cfg.services, Serves parseSigned plainText "broker" cfg signedJson service := by
  have htoken : tokenText parseSigned plainText signedJson = some "t" := by decide +kernel
  exact (announces_and_serves_iff (by decide +kernel) htoken).mpr
    ⟨by decide +kernel, by decide +kernel⟩

/-- Two hosts with one hidden port: only the last is announced, and a message about the first makes
    a session for the last. -/
theorem announces_and_serves_shared :
    let cfg : Config := ⟨"pub", [⟨some "db1", "tcp", 5432, 15432, some "db1"⟩,
      ⟨some "db2", "tcp", 5432, 25432, some "db2"⟩]⟩
    (describeServices cfg.makeServices).length = 1 ∧ ¬Announces cfg ∧
      ¬Serves parseSigned plainText "broker" cfg signedJson
        ⟨some "db1", "tcp", 5432, 15432, some "db1"⟩ := by
  refine ⟨by decide +kernel, ?_, ?_⟩
  · rw [announces_iff]
    decide
  · intro h
    obtain ⟨session, hone, hport, -⟩ := h ⟨none, none, some (.number 5432), some (.number 15432),
      none⟩ rfl rfl
    have hother : (NewTunnelRun.newTunnel parseSigned plainText
        (Config.mk "pub" [⟨some "db1", "tcp", 5432, 15432, some "db1"⟩,
          ⟨some "db2", "tcp", 5432, 25432, some "db2"⟩]).makeServices "broker"
        ⟨none, none, some (.number 5432), some (.number 15432), none⟩ none
        (.response 200 [signedJson] false)).sessions.map LocalSession.publicPort = [25432] := by
      decide +kernel
    rw [hone, List.map_singleton, hport] at hother
    cases hother

end TunnelBore.TypeScript
