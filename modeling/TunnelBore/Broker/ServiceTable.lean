import TunnelBore.Broker.Subscriptions

namespace TunnelBore.Broker

open TunnelBore.Lib

/-!
# The service table

`Broker.Publisher` has `addService` in the form it comes down to.  Here it is as it is written:
the loop over the table that collects the services on the same public port to recreate them, and
returns at the first one; the loop that removes what was collected and counts; and the start of a
new service.

* `addService_eq` — what it comes down to; `Matches.addService` — `Broker.Publisher.addService`
  does the same;
* `Sound` — the invariant: one service for each public port, under its own id, and no id that is
  yet to be generated;
* `serviceTable_invariant` — it holds in every reachable table, with what `addService` does there.
-/

/-- A `Service` of the table. -/
structure TableService where
  serviceId : ServiceId
  info : ServiceInfo
  deriving DecidableEq, Repr

/-- What the environment answers: the id that is generated as the `n`th one, and whether the
    service it is for can be started. -/
structure ServiceStarts where
  generateId : Nat → ServiceId
  start : Nat → Bool

/-- The part of a `Publisher` that concerns its services. -/
structure ServiceTable where
  services : AList (fun _ : ServiceId => TableService) := ∅
  /-- How many ids have been generated. -/
  generated : Nat := 0
  /-- The control session can be locked. -/
  attached : Bool := false
  /-- The results that were reported with `ServiceStartResult`. -/
  reported : List Bool := []

/-- What happens to the table. -/
inductive TableEvent
  /-- A handshake is dispatched to its subscription. -/
  | handshake (j : Json)
  | removeService (id : ServiceId)
  | setCurrentControlSession
  | detachControlSession (eraseServices : Bool)

namespace ServiceTable

variable (env : ServiceStarts) (p : ServiceTable)

/-- The lambda `returnResult` of `addService`. -/
def returnResult (result : Bool) : ServiceTable × Bool :=
  (if p.attached then { p with reported := p.reported ++ [result] } else p, result)

/-- `Publisher::removeService`. -/
def removeService (id : ServiceId) : ServiceTable × Nat :=
  if id ∈ p.services then ({ p with services := p.services.erase id }, 1) else (p, 0)

/-- The first loop of `addService`, over the entries of the table: the ids collected in
    `recreatedServices`, and whether the function returned from within the loop. -/
def searchLoop (info : ServiceInfo) :
    List (Sigma fun _ : ServiceId => TableService) → List ServiceId → List ServiceId × Bool
  | [],            recreatedServices => (recreatedServices, false)
  | entry :: rest, recreatedServices =>
    if info.publicPort = entry.2.info.publicPort then (recreatedServices ++ [entry.1], true)
    else searchLoop info rest recreatedServices

/-- The second loop, which counts what it has erased. -/
def eraseLoop (p : ServiceTable) : List ServiceId → Nat → ServiceTable × Nat
  | [],         eraseCounter => (p, eraseCounter)
  | id :: rest, eraseCounter =>
    eraseLoop (p.removeService id).1 rest (eraseCounter + (p.removeService id).2)

/-- The rest of `addService`: a new service is constructed and started. -/
def startService (info : ServiceInfo) : ServiceTable × Bool :=
  let serviceId := env.generateId p.generated
  let started := { p with generated := p.generated + 1 }
  if env.start p.generated then
    { started with services := started.services.insert serviceId ⟨serviceId, info⟩ }.returnResult
      true
  else
    started.returnResult false

/-- `Publisher::addService`. -/
def addService (info : ServiceInfo) : ServiceTable × Bool :=
  match searchLoop info p.services.entries [] with
  | (_, true)                  => p.returnResult true
  | (recreatedServices, false) =>
    match p.eraseLoop recreatedServices 0 with
    | (erased, eraseCounter) =>
      if eraseCounter ≠ recreatedServices.length then erased.returnResult false
      else erased.startService env info

/-- `Publisher::addServices`. -/
def addServices (infos : List ServiceInfo) : ServiceTable :=
  infos.foldl (fun p info => (p.addService env info).1) p

/-- The subscription to `Handshake`, as far as it changes the table. -/
def onHandshake (j : Json) : ServiceTable :=
  match (j.find "services").bind servicesOf with
  | none       => p
  | some infos => p.addServices env infos

/-- One event. -/
def step : TableEvent → Option ServiceTable
  | .handshake j                        => some (p.onHandshake env j)
  | .removeService id                   => some (p.removeService id).1
  | .setCurrentControlSession           => some { p with attached := true }
  | .detachControlSession eraseServices =>
    some { p with
      attached := false
      services := if eraseServices then ∅ else p.services }

/-- `Publisher::getService` and what `ControlSession::informAboutConnection` writes then. -/
def informAboutConnection (serviceId : ServiceId) (tunnelId : TunnelId) : Option Json :=
  (p.services.lookup serviceId).map fun service =>
    PublisherWorld.newTunnel serviceId tunnelId service.info

/-! ### What `addService` comes down to -/

variable {env : ServiceStarts} {p : ServiceTable} {info : ServiceInfo} {id : ServiceId}

/-- Some service of the table is on the public port. -/
def Holds (p : ServiceTable) (publicPort : UInt16) : Prop :=
  ∃ id service, p.services.lookup id = some service ∧ service.info.publicPort = publicPort

theorem holds_iff {publicPort : UInt16} : p.Holds publicPort ↔
    ∃ entry ∈ p.services.entries, publicPort = entry.2.info.publicPort := by
  constructor
  · rintro ⟨id, service, hlookup, hport⟩
    exact ⟨⟨id, service⟩, AList.mem_lookup_iff.mp hlookup, hport.symm⟩
  · rintro ⟨⟨id, service⟩, hmem, hport⟩
    exact ⟨id, service, AList.mem_lookup_iff.mpr hmem, hport.symm⟩

instance (publicPort : UInt16) : Decidable (p.Holds publicPort) :=
  decidable_of_iff _ holds_iff.symm

@[simp] theorem services_returnResult (result : Bool) :
    (p.returnResult result).1.services = p.services := by
  unfold returnResult
  split <;> rfl

@[simp] theorem generated_returnResult (result : Bool) :
    (p.returnResult result).1.generated = p.generated := by
  unfold returnResult
  split <;> rfl

/-- The loop returns exactly if a service is on the port; else it has collected nothing. -/
theorem searchLoop_cases (info : ServiceInfo)
    (entries : List (Sigma fun _ : ServiceId => TableService)) (recreated : List ServiceId) :
    ((∃ entry ∈ entries, info.publicPort = entry.2.info.publicPort) ∧
        (searchLoop info entries recreated).2 = true) ∨
      ((¬∃ entry ∈ entries, info.publicPort = entry.2.info.publicPort) ∧
        searchLoop info entries recreated = (recreated, false)) := by
  induction entries with
  | nil => exact .inr ⟨by simp, rfl⟩
  | cons entry rest ih =>
    unfold searchLoop
    split
    · next hport => exact .inl ⟨⟨entry, List.mem_cons_self, hport⟩, rfl⟩
    · next hport =>
      -- the loop goes on with the rest
      rcases ih with ⟨⟨other, hmem, hother⟩, hreturned⟩ | ⟨hnone, hleft⟩
      · exact .inl ⟨⟨other, List.mem_cons_of_mem _ hmem, hother⟩, hreturned⟩
      · refine .inr ⟨?_, hleft⟩
        rintro ⟨other, hmem, hother⟩
        rcases List.mem_cons.mp hmem with rfl | hmem
        · exact hport hother
        · exact hnone ⟨other, hmem, hother⟩

/-- **What `addService` comes down to.**  The loop collects at most one service, and returns when
    it does, so nothing is ever recreated. -/
theorem addService_eq (env : ServiceStarts) (p : ServiceTable) (info : ServiceInfo) :
    p.addService env info =
      if p.Holds info.publicPort then p.returnResult true else p.startService env info := by
  unfold addService
  rcases searchLoop_cases info p.services.entries [] with ⟨hfound, hreturned⟩ | ⟨hnone, hleft⟩
  · rw [if_pos (holds_iff.mpr hfound)]
    generalize searchLoop info p.services.entries [] = result at hreturned
    obtain ⟨recreated, returned⟩ := result
    obtain rfl : returned = true := hreturned
    rfl
  · rw [if_neg (fun h => hnone (holds_iff.mp h)), hleft]
    rfl

theorem services_startService : (p.startService env info).1.services =
    if env.start p.generated then
      p.services.insert (env.generateId p.generated) ⟨env.generateId p.generated, info⟩
    else p.services := by
  unfold startService
  simp only
  split <;> simp

/-- A service that is started is the only new one, under the id that was generated. -/
theorem lookup_startService {service : TableService}
    (h : (p.startService env info).1.services.lookup id = some service) :
    p.services.lookup id = some service ∨
      (id = env.generateId p.generated ∧ service = ⟨id, info⟩) := by
  rw [services_startService] at h
  split at h
  · by_cases hid : id = env.generateId p.generated
    · subst hid
      rw [AList.lookup_insert p.services, Option.some.injEq] at h
      exact .inr ⟨rfl, h.symm⟩
    · rw [AList.lookup_insert_ne (s := p.services) hid] at h
      exact .inl h
  · -- nothing is inserted when it cannot be started
    exact .inl h

theorem generated_startService :
    (p.startService env info).1.generated = p.generated + 1 := by
  unfold startService
  simp only
  split <;> simp

theorem snd_startService : (p.startService env info).2 = env.start p.generated := by
  unfold startService
  simp only
  split
  · next h => exact h.symm
  · next h => exact (Bool.eq_false_iff.mpr h).symm

/-! ### The shorter form -/

/-- The tables of the two models hold the same. -/
def Matches (p : ServiceTable) (publisher : Publisher) : Prop :=
  ∀ id, publisher.services.lookup id = (p.services.lookup id).map TableService.info

theorem Matches.hasPublicPort_iff {publisher : Publisher} (h : p.Matches publisher)
    {publicPort : UInt16} : publisher.hasPublicPort publicPort = true ↔ p.Holds publicPort := by
  unfold Publisher.hasPublicPort
  rw [List.any_eq_true]
  constructor
  · rintro ⟨⟨id, info⟩, hmem, hport⟩
    have hlookup : publisher.services.lookup id = some info := AList.mem_lookup_iff.mpr hmem
    rw [h] at hlookup
    obtain ⟨service, hservice, rfl⟩ := Option.map_eq_some_iff.mp hlookup
    exact ⟨id, service, hservice, (eq_of_beq hport).symm⟩
  · rintro ⟨id, service, hlookup, hport⟩
    have hinfo : publisher.services.lookup id = some service.info := by
      rw [h, hlookup, Option.map_some]
    exact ⟨⟨id, service.info⟩, AList.mem_lookup_iff.mp hinfo, by simp [hport]⟩

/-- **The two models do the same**, with the answers of the environment for the service. -/
theorem Matches.addService {publisher : Publisher} (h : p.Matches publisher) :
    let offer : Offer := ⟨info, env.generateId p.generated, env.start p.generated⟩
    (p.addService env info).1.Matches (publisher.addService offer).1 ∧
      (p.addService env info).2 = (publisher.addService offer).2 := by
  intro offer
  rw [addService_eq]
  unfold Publisher.addService
  by_cases hholds : p.Holds info.publicPort
  · rw [if_pos hholds, if_pos (h.hasPublicPort_iff.mpr hholds)]
    refine ⟨fun id => ?_, rfl⟩
    rw [services_returnResult, h]
  · rw [if_neg hholds, if_neg (fun hhas => hholds (h.hasPublicPort_iff.mp hhas))]
    refine ⟨fun id => ?_, ?_⟩
    · rw [services_startService]
      by_cases hstart : env.start p.generated = true
      · -- both insert under the id that was generated
        rw [if_pos hstart, if_pos (show offer.started = true from hstart)]
        by_cases hid : id = env.generateId p.generated
        · subst hid
          rw [AList.lookup_insert p.services, Option.map_some]
          exact AList.lookup_insert publisher.services
        · rw [AList.lookup_insert_ne (s := p.services) hid, ← h]
          exact AList.lookup_insert_ne hid
      · rw [if_neg hstart, if_neg (show ¬offer.started = true from hstart), h]
    · rw [snd_startService]
      by_cases hstart : env.start p.generated = true
      · rw [if_pos (show offer.started = true from hstart), hstart]
      · rw [if_neg (show ¬offer.started = true from hstart), Bool.eq_false_iff.mpr hstart]

/-! ### The invariant -/

/-- One service for each public port, each under its own id, which was generated before. -/
structure Sound (env : ServiceStarts) (p : ServiceTable) : Prop where
  keyed : ∀ id service, p.services.lookup id = some service → service.serviceId = id
  unique : ∀ id id' service service', p.services.lookup id = some service →
    p.services.lookup id' = some service' →
    service.info.publicPort = service'.info.publicPort → id = id'
  known : ∀ id service, p.services.lookup id = some service →
    ∃ n < p.generated, env.generateId n = id

theorem sound_empty (env : ServiceStarts) : Sound env {} where
  keyed _ _ h := by cases h
  unique _ _ _ _ h := by cases h
  known _ _ h := by cases h

/-- Taking services out keeps a table sound. -/
theorem Sound.of_le {p' : ServiceTable} (hp : p.Sound env) (hgenerated : p.generated ≤ p'.generated)
    (hlookup : ∀ id service, p'.services.lookup id = some service →
      p.services.lookup id = some service) : p'.Sound env where
  keyed id service h := hp.keyed id service (hlookup id service h)
  unique id id' service service' h h' :=
    hp.unique id id' service service' (hlookup _ _ h) (hlookup _ _ h')
  known id service h := by
    obtain ⟨n, hn, hid⟩ := hp.known id service (hlookup id service h)
    exact ⟨n, by omega, hid⟩

/-- The next id is not in the table. -/
theorem Sound.fresh (hp : p.Sound env) (hids : Function.Injective env.generateId) :
    p.services.lookup (env.generateId p.generated) = none := by
  cases hlookup : p.services.lookup (env.generateId p.generated) with
  | none => rfl
  | some service =>
    obtain ⟨n, hn, hid⟩ := hp.known _ _ hlookup
    have := hids hid
    omega

/-- What `addService` should do: it succeeds exactly if there is a service on the public port
    afterwards; what was in the table stays, and what is new is the service announced, on a port
    that was free; and when it fails the table is the same. -/
structure AddsService (p : ServiceTable) (info : ServiceInfo) (r : ServiceTable × Bool) : Prop where
  succeeds : r.2 = true ↔ r.1.Holds info.publicPort
  kept : ∀ id service, p.services.lookup id = some service → r.1.services.lookup id = some service
  added : ∀ id service, r.1.services.lookup id = some service →
    p.services.lookup id = some service ∨ (service = ⟨id, info⟩ ∧ ¬p.Holds info.publicPort)
  failed : r.2 = false → r.1.services = p.services

/-- Leaving the table as it is adds the service if there is one on its port. -/
theorem AddsService.of_same {r : ServiceTable × Bool} (hsame : r.1.services = p.services)
    (hresult : r.2 = true ↔ p.Holds info.publicPort) : p.AddsService info r where
  succeeds := by
    unfold Holds
    rw [hsame]
    exact hresult
  kept id service h := by rwa [hsame]
  added id service h := by
    rw [hsame] at h
    exact .inl h
  failed _ := hsame

/-- **`addService`** on a sound table. -/
theorem Sound.addsService (hp : p.Sound env) (hids : Function.Injective env.generateId)
    (info : ServiceInfo) : p.AddsService info (p.addService env info) := by
  rw [addService_eq]
  by_cases hholds : p.Holds info.publicPort
  · -- nothing happens
    rw [if_pos hholds]
    exact .of_same (p.services_returnResult true) ⟨fun _ => hholds, fun _ => rfl⟩
  · rw [if_neg hholds]
    cases hstart : env.start p.generated with
    | true =>
      -- the new service takes an id that is free
      have hservices : (p.startService env info).1.services =
          p.services.insert (env.generateId p.generated) ⟨env.generateId p.generated, info⟩ := by
        rw [services_startService, if_pos hstart]
      have hself : (p.startService env info).1.services.lookup (env.generateId p.generated) =
          some ⟨env.generateId p.generated, info⟩ := by
        rw [hservices]
        exact AList.lookup_insert p.services
      refine ⟨⟨fun _ => ⟨_, _, hself, rfl⟩, fun _ => ?_⟩, fun id service h => ?_,
        fun id service h => ?_, fun hfailed => ?_⟩
      · rw [snd_startService, hstart]
      · have hne : id ≠ env.generateId p.generated := by
          rintro rfl
          rw [hp.fresh hids] at h
          cases h
        rw [hservices, ← h]
        exact AList.lookup_insert_ne hne
      · exact (lookup_startService h).imp_right fun hnew => ⟨hnew.2, hholds⟩
      · rw [snd_startService, hstart] at hfailed
        cases hfailed
    | false =>
      -- a service that cannot be started is not inserted
      have hresult : (p.startService env info).2 = true ↔ p.Holds info.publicPort := by
        rw [snd_startService, hstart]
        exact ⟨fun h => absurd h Bool.false_ne_true, fun h => absurd h hholds⟩
      exact .of_same (by rw [services_startService, if_neg (by simp [hstart])]) hresult

theorem generated_addService (env : ServiceStarts) (p : ServiceTable) (info : ServiceInfo) :
    p.generated ≤ (p.addService env info).1.generated ∧
      (p.addService env info).1.generated ≤ p.generated + 1 := by
  rw [addService_eq]
  split
  · rw [generated_returnResult]
    omega
  · rw [generated_startService]
    omega

/-- `addService` keeps a table sound. -/
theorem Sound.addService (hp : p.Sound env) (hids : Function.Injective env.generateId)
    (info : ServiceInfo) : (p.addService env info).1.Sound env := by
  have hspec := hp.addsService hids info
  refine ⟨fun id service h => ?_, fun id id' service service' h h' hport => ?_,
    fun id service h => ?_⟩
  · rcases hspec.added id service h with hold | ⟨rfl, -⟩
    · exact hp.keyed id service hold
    · rfl
  · rcases hspec.added id service h with hold | ⟨hnew, hfree⟩
    · rcases hspec.added id' service' h' with hold' | ⟨rfl, hfree⟩
      · exact hp.unique id id' service service' hold hold' hport
      · -- a new service is on a port that was free
        exact absurd ⟨id, service, hold, hport⟩ hfree
    · rcases hspec.added id' service' h' with hold' | ⟨hnew', -⟩
      · rw [hnew] at hport
        exact absurd ⟨id', service', hold', hport.symm⟩ hfree
      · -- there is only one id that is new
        have hid : ∀ k other, (p.addService env info).1.services.lookup k = some other →
            other = ⟨k, info⟩ → k = env.generateId p.generated := by
          intro k other hlookup hother
          rw [addService_eq, if_neg hfree] at hlookup
          rcases lookup_startService hlookup with hold | ⟨hk, -⟩
          · exact absurd ⟨k, other, hold, by rw [hother]⟩ hfree
          · exact hk
        exact (hid id service h hnew).trans (hid id' service' h' hnew').symm
  · have hgenerated := generated_addService env p info
    rcases hspec.added id service h with hold | ⟨-, hfree⟩
    · obtain ⟨n, hn, hid⟩ := hp.known id service hold
      exact ⟨n, by omega, hid⟩
    · rw [addService_eq, if_neg hfree] at h ⊢
      rw [generated_startService]
      rcases lookup_startService h with hold | ⟨hid, -⟩
      · obtain ⟨n, hn, hid⟩ := hp.known id service hold
        exact ⟨n, by omega, hid⟩
      · -- the id of the new service has just been generated
        exact ⟨p.generated, by omega, hid.symm⟩

theorem Sound.addServices (hp : p.Sound env) (hids : Function.Injective env.generateId)
    (infos : List ServiceInfo) : (p.addServices env infos).Sound env := by
  unfold ServiceTable.addServices
  induction infos generalizing p with
  | nil => exact hp
  | cons info infos ih =>
    rw [List.foldl_cons]
    exact ih (hp.addService hids info)

/-- **One event** keeps the table sound. -/
theorem Sound.step {p' : ServiceTable} {e : TableEvent} (hp : p.Sound env)
    (hids : Function.Injective env.generateId) (h : p.step env e = some p') : p'.Sound env := by
  cases e with
  | handshake j =>
    obtain rfl := Option.some.inj h
    show (p.onHandshake env j).Sound env
    unfold onHandshake
    split
    · exact hp
    · exact hp.addServices hids _
  | removeService id =>
    obtain rfl := Option.some.inj h
    show (p.removeService id).1.Sound env
    unfold removeService
    split
    · refine hp.of_le le_rfl fun id' service h => ?_
      by_cases hid : id' = id
      · subst hid
        rw [show (p.services.erase id').lookup id' = none from AList.lookup_erase ..] at h
        cases h
      · rwa [show (p.services.erase id).lookup id' = p.services.lookup id' from
          AList.lookup_erase_ne hid] at h
    · exact hp
  | setCurrentControlSession =>
    obtain rfl := Option.some.inj h
    exact hp.of_le le_rfl fun _ _ => id
  | detachControlSession eraseServices =>
    obtain rfl := Option.some.inj h
    refine hp.of_le le_rfl fun id service h => ?_
    cases eraseServices with
    | false => exact h
    | true => cases h

theorem sound_of_run {events : List TableEvent} (hids : Function.Injective env.generateId)
    (hrun : run (step env) {} events = some p) : p.Sound env :=
  run_preserves (I := Sound env) (fun _ _ _ hp h => hp.step hids h) (sound_empty env) hrun

/-- A list decodes if all its elements do. -/
theorem isSome_mapM {l : List Json} (h : (l.mapM serviceInfoOf).isSome = true) :
    ∀ j ∈ l, (serviceInfoOf j).isSome = true := by
  induction l with
  | nil => simp
  | cons j l ih =>
    rw [List.mapM_cons] at h
    cases hj : serviceInfoOf j with
    | none => simp [hj] at h
    | some info =>
      cases hl : l.mapM serviceInfoOf with
      | none => simp [hj, hl] at h
      | some infos => exact List.forall_mem_cons.mpr ⟨by simp [hj], ih (by simp [hl])⟩

/-- **The service table.**  After any sequence of handshakes with any lists of services, removals
    and detachments, with any results of `Service::start`: no two services have the same public
    port, each is under its own id, `addService` does what it should, and a handshake with a list
    that does not decode changes nothing. -/
theorem serviceTable_invariant {events : List TableEvent}
    (hids : Function.Injective env.generateId) (hrun : run (step env) {} events = some p) :
    (∀ id id' service service', p.services.lookup id = some service →
        p.services.lookup id' = some service' →
        service.info.publicPort = service'.info.publicPort → id = id') ∧
      (∀ id service, p.services.lookup id = some service → service.serviceId = id) ∧
      (∀ info, p.AddsService info (p.addService env info)) ∧
      ∀ j services, j.find "services" = some services →
        (¬∃ elements, services = .array elements ∧
          ∀ element ∈ elements, (serviceInfoOf element).isSome = true) →
        p.onHandshake env j = p := by
  have hp := sound_of_run hids hrun
  refine ⟨hp.unique, hp.keyed, hp.addsService hids, fun j services hfind hmalformed => ?_⟩
  have hnone : servicesOf services = none := by
    by_contra hsome
    obtain ⟨infos, hinfos⟩ := Option.ne_none_iff_exists'.mp hsome
    unfold servicesOf at hinfos
    split at hinfos
    · next elements =>
      exact hmalformed ⟨elements, rfl, isSome_mapM (Option.isSome_iff_exists.mpr ⟨infos, hinfos⟩)⟩
    · cases hinfos
  simp only [onHandshake, hfind, Option.bind_some, hnone]

/-- The ids "", "i", "ii" and so on; the second service cannot be started. -/
def unaryIds : ServiceStarts where
  generateId n := String.ofList (List.replicate n 'i')
  start n := n ≠ 1

theorem injective_unaryIds : Function.Injective unaryIds.generateId := by
  intro m n h
  have hlists : List.replicate m 'i' = List.replicate n 'i' := by
    simpa [unaryIds, String.ofList_inj] using h
  simpa using congrArg List.length hlists

/-- A service as it is announced. -/
def announcement (publicPort hiddenPort : Int) : Json :=
  .object [("name", .null), ("publicPort", .number publicPort),
    ("hiddenPort", .number hiddenPort)]

/-- A handshake with one port twice and one that cannot be listened on, then one with a list that
    does not decode. -/
def eventsHandshakes : List TableEvent :=
  [.setCurrentControlSession,
    .handshake (.object [("services", .array [announcement 8080 80, announcement 8080 81,
      announcement 8081 81])]),
    .handshake (.object [("services", .array [announcement 8082 82, .null])])]

theorem serviceTable_invariant_handshakes :
    ∃ p, run (step unaryIds) {} eventsHandshakes = some p ∧
      p.services.keys = [""] ∧ p.reported = [true, true, false] ∧
      p.AddsService ⟨none, 8081, 81⟩ (p.addService unaryIds ⟨none, 8081, 81⟩) := by
  obtain ⟨p, hrun, hkeys, hreported⟩ : ∃ p, run (step unaryIds) {} eventsHandshakes = some p ∧
      p.services.keys = [""] ∧ p.reported = [true, true, false] :=
    ⟨_, Option.eq_some_of_isSome (by decide +kernel), by decide +kernel, by decide +kernel⟩
  exact ⟨p, hrun, hkeys, hreported,
    (serviceTable_invariant injective_unaryIds hrun).2.2.1 ⟨none, 8081, 81⟩⟩

end ServiceTable

end TunnelBore.Broker
