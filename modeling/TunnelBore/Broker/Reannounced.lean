import TunnelBore.Broker.ServiceTable

namespace TunnelBore.Broker

open TunnelBore.Lib

/-!
# Services that are announced again

`addService` says in its log that a service on a public port that is taken is recreated, and it
collects it for that; but it returns from within the loop that collects.  A publisher that
announces a port again, with another hidden port or name, so goes on being sent the old one.

* `addServices_adds` — what a whole handshake does to the table;
* `TakesEffect` — the table holds what was announced, and the publisher is sent it;
* `handshake_takes_effect_iff` — a handshake takes effect exactly if what the table holds on the
  announced ports already is what is announced.
-/

namespace ServiceTable

variable {env : ServiceStarts} {p : ServiceTable} {infos : List ServiceInfo}

/-- What `addServices` does to the table, if every service can be started. -/
structure AddsServices (p : ServiceTable) (infos : List ServiceInfo) (p' : ServiceTable) :
    Prop where
  kept : ∀ id service, p.services.lookup id = some service → p'.services.lookup id = some service
  added : ∀ id service, p'.services.lookup id = some service →
    p.services.lookup id = some service ∨
      ∃ info ∈ infos, service = ⟨id, info⟩ ∧ ¬p.Holds info.publicPort
  held : ∀ info ∈ infos, p'.Holds info.publicPort

/-- **`addServices`** on a sound table. -/
theorem addServices_adds (hp : p.Sound env) (hids : Function.Injective env.generateId)
    (hstarts : ∀ n, p.generated ≤ n → n < p.generated + infos.length → env.start n = true) :
    p.AddsServices infos (p.addServices env infos) := by
  unfold addServices
  induction infos generalizing p with
  | nil => exact ⟨fun _ _ h => h, fun _ _ h => .inl h, by simp⟩
  | cons info infos ih =>
    rw [List.foldl_cons]
    have hspec := hp.addsService hids info
    obtain ⟨hle, hge⟩ := generated_addService env p info
    have hrest := ih (hp.addService hids info) fun n hlow hhigh => by
      refine hstarts n (by omega) ?_
      rw [List.length_cons]
      omega
    refine ⟨fun id service h => hrest.kept id service (hspec.kept id service h),
      fun id service h => ?_, List.forall_mem_cons.mpr ⟨?_, hrest.held⟩⟩
    · rcases hrest.added id service h with hbefore | ⟨other, hmem, rfl, hfree⟩
      · rcases hspec.added id service hbefore with hold | ⟨rfl, hfree⟩
        · exact .inl hold
        · exact .inr ⟨info, List.mem_cons_self, rfl, hfree⟩
      · -- a port that is free after the first service was free before
        refine .inr ⟨other, List.mem_cons_of_mem _ hmem, rfl, ?_⟩
        rintro ⟨id', service', hlookup, hport⟩
        exact hfree ⟨id', service', hspec.kept id' service' hlookup, hport⟩
    · have hresult : (p.addService env info).2 = true := by
        rw [addService_eq]
        split
        · rfl
        · rw [snd_startService]
          apply hstarts p.generated le_rfl
          rw [List.length_cons]
          omega
      obtain ⟨id, service, hlookup, hport⟩ := hspec.succeeds.mp hresult
      exact ⟨id, service, hrest.kept id service hlookup, hport⟩

/-- The table holds exactly what was announced for each port, and for a client of such a service
    the publisher is sent the hidden port that it has announced. -/
structure TakesEffect (infos : List ServiceInfo) (p' : ServiceTable) : Prop where
  held : ∀ info ∈ infos, ∃ id, p'.services.lookup id = some ⟨id, info⟩
  only : ∀ info ∈ infos, ∀ id service, p'.services.lookup id = some service →
    service.info.publicPort = info.publicPort → service.info = info
  carried : ∀ info ∈ infos, ∀ id service, p'.services.lookup id = some service →
    service.info.publicPort = info.publicPort → ∀ tunnelId, ∃ message,
      p'.informAboutConnection id tunnelId = some message ∧
        message.find "hiddenPort" = some (.number info.hiddenPort.toNat)

/-- What the table holds on the public port is what is announced. -/
def Agrees (p : ServiceTable) (info : ServiceInfo) : Prop :=
  ∀ id service, p.services.lookup id = some service →
    service.info.publicPort = info.publicPort → service.info = info

/-- **When a handshake takes effect.**  In every reachable table, for every handshake with
    pairwise distinct public ports whose services can all be started: it takes effect exactly if
    the table agrees already with every service announced. -/
theorem handshake_takes_effect_iff {events : List TableEvent} {j : Json}
    (hids : Function.Injective env.generateId) (hrun : run (step env) {} events = some p)
    (hservices : (j.find "services").bind servicesOf = some infos)
    (hdistinct : (infos.map ServiceInfo.publicPort).Nodup)
    (hstarts : ∀ n, p.generated ≤ n → n < p.generated + infos.length → env.start n = true) :
    TakesEffect infos (p.onHandshake env j) ↔ ∀ info ∈ infos, p.Agrees info := by
  have hp := sound_of_run hids hrun
  have hafter : p.onHandshake env j = p.addServices env infos := by
    simp only [onHandshake, hservices]
  rw [hafter]
  have hadds := addServices_adds hp hids hstarts
  have hsound := hp.addServices hids infos
  constructor
  · -- what was held on the port is still there
    intro heffect info hinfo id service hlookup hport
    exact heffect.only info hinfo id service (hadds.kept id service hlookup) hport
  · intro hagrees
    have honly : ∀ info ∈ infos, ∀ id service,
        (p.addServices env infos).services.lookup id = some service →
          service.info.publicPort = info.publicPort → service.info = info := by
      intro info hinfo id service hlookup hport
      rcases hadds.added id service hlookup with hold | ⟨other, hother, rfl, -⟩
      · exact hagrees info hinfo id service hold hport
      · -- the public port says which announcement it is
        exact List.inj_on_of_nodup_map hdistinct hother hinfo hport
    refine ⟨fun info hinfo => ?_, honly, fun info hinfo id service hlookup hport tunnelId => ?_⟩
    · obtain ⟨id, service, hlookup, hport⟩ := hadds.held info hinfo
      refine ⟨id, ?_⟩
      rw [hlookup, ← hsound.keyed id service hlookup, ← honly info hinfo id service hlookup hport]
    · refine ⟨PublisherWorld.newTunnel id tunnelId service.info, ?_, ?_⟩
      · rw [informAboutConnection, hlookup, Option.map_some]
      · rw [honly info hinfo id service hlookup hport]
        rfl

/-- Every service can be started. -/
def unaryStarts : ServiceStarts where
  generateId := unaryIds.generateId
  start _ := true

theorem injective_unaryStarts : Function.Injective unaryStarts.generateId := injective_unaryIds

/-- Announcing the same again, and one more service, takes effect. -/
theorem handshake_takes_effect_iff_same :
    ∃ p, run (step unaryStarts) {} [.handshake (.object [("services",
        .array [announcement 8080 80])])] = some p ∧
      TakesEffect [⟨none, 8080, 80⟩, ⟨none, 8081, 81⟩] (p.onHandshake unaryStarts
        (.object [("services", .array [announcement 8080 80, announcement 8081 81])])) := by
  obtain ⟨p, hrun, hentries⟩ : ∃ p, run (step unaryStarts) {} [.handshake (.object [("services",
        .array [announcement 8080 80])])] = some p ∧
      p.services.entries = [⟨"", ⟨"", ⟨none, 8080, 80⟩⟩⟩] :=
    ⟨_, Option.eq_some_of_isSome (by decide +kernel), by decide +kernel⟩
  refine ⟨p, hrun, (handshake_takes_effect_iff injective_unaryStarts hrun rfl ?_ ?_).mpr ?_⟩
  · decide
  · exact fun _ _ _ => rfl
  · intro info hinfo id service hlookup hport
    have hmem := AList.mem_lookup_iff.mp hlookup
    rw [hentries, List.mem_singleton] at hmem
    obtain rfl : service = ⟨"", ⟨none, 8080, 80⟩⟩ := by
      cases hmem
      rfl
    rcases List.mem_pair.mp hinfo with rfl | rfl
    · rfl
    · exact absurd hport (by decide)

/-- A publisher announces port 8080 with the hidden port 80, and then, without having been away,
    with the hidden port 81: it goes on being sent port 80. -/
theorem handshake_ignored :
    ¬∀ (env : ServiceStarts) (events : List TableEvent) (p : ServiceTable) (j : Json)
      (infos : List ServiceInfo), Function.Injective env.generateId →
      run (step env) {} events = some p →
      (j.find "services").bind servicesOf = some infos →
      (infos.map ServiceInfo.publicPort).Nodup →
      (∀ n, p.generated ≤ n → n < p.generated + infos.length → env.start n = true) →
      TakesEffect infos (p.onHandshake env j) := by
  intro hclaim
  obtain ⟨p, hrun, hheld⟩ : ∃ p, run (step unaryStarts) {} [.handshake (.object [("services",
        .array [announcement 8080 80])])] = some p ∧
      (p.onHandshake unaryStarts (.object [("services",
        .array [announcement 8080 81])])).services.lookup "" = some ⟨"", ⟨none, 8080, 80⟩⟩ :=
    ⟨_, Option.eq_some_of_isSome (by decide +kernel), by decide +kernel⟩
  have heffect := hclaim unaryStarts _ p (.object [("services", .array [announcement 8080 81])])
    [⟨none, 8080, 81⟩] injective_unaryStarts hrun rfl (by simp) fun _ _ _ => rfl
  have honly := heffect.only _ List.mem_cons_self _ _ hheld rfl
  exact absurd honly (by decide)

end ServiceTable

end TunnelBore.Broker
