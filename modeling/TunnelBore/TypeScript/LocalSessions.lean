import TunnelBore.TypeScript.NewTunnel

namespace TunnelBore.TypeScript

open TunnelBore.Lib

/-!
# The sessions of a local service

A `LocalService` keeps its sessions in two tables, one for each kind, and frees them from there
(`freeSession`, `freeAll`); a session whose sockets fail or close has itself freed by its service.
`freeAll` looks at one of the tables only, and a `UdpSession` frees itself before it calls
`onAnyClose`.

* `LocalSessions.step` — the calls, and the events of the sockets;
* `Tidy` — one table holds the sessions that were not freed, and the other one is empty;
* `freed_once_iff` — every session is freed once as long as no UDP socket fails and no UDP session
  is left to `freeAll`.
-/

/-- A `LocalService` with its sessions, which are numbered as their ids are generated. -/
structure LocalSessions where
  service : LocalService
  tcpSessions : PlainObject Nat := ∅
  udpSessions : PlainObject Nat := ∅
  /-- How many ids have been generated. -/
  generated : Nat := 0
  /-- The sessions whose constructor has returned. -/
  created : List Nat := []
  anyCloseWasCalled : Nat → Bool := fun _ => false
  /-- How often `free` was called on a session. -/
  frees : Nat → Nat := fun _ => 0
  /-- The sessions of which a socket was closed, with the timeouts that wait. -/
  timeouts : List Nat := []
  /-- An exception has ended the process. -/
  crashed : Bool := false

inductive LocalEvent
  | createSession (brokerHost token : String)
  | freeSession (id : String)
  | freeAll
  /-- A socket of the session emits `error`. -/
  | error (session : Nat)
  /-- A socket of the session emits `close`. -/
  | close (session : Nat)
  /-- The timeout after a `close`. -/
  | timeout (session : Nat)
  deriving DecidableEq, Repr

namespace LocalSessions

variable (uuid : Nat → String) (l : LocalSessions)

/-- `free` of a session; the flag says that it throws, as closing a `dgram.Socket` twice does. -/
def free (session : Nat) : LocalSessions × Bool :=
  ({ l with frees := Function.update l.frees session (l.frees session + 1) },
    decide (l.service.socketType ≠ "tcp" ∧ l.frees session ≠ 0))

/-- `LocalService::freeSession`; a member that is inherited has no `free`. -/
def freeSession (id : String) : LocalSessions × Bool :=
  if l.service.socketType = "tcp" then
    match property l.tcpSessions id with
    | .undefined   => (l, false)
    | .inherited   => (l, true)
    | .own session =>
      let freed := l.free session
      if freed.2 then freed
      else ({ freed.1 with tcpSessions := freed.1.tcpSessions.erase id }, false)
  else
    match property l.udpSessions id with
    | .undefined   => (l, false)
    | .inherited   => (l, true)
    | .own session =>
      let freed := l.free session
      if freed.2 then freed
      else ({ freed.1 with udpSessions := freed.1.udpSessions.erase id }, false)

/-- The loop of `freeAll`. -/
def freeEach : LocalSessions → List String → LocalSessions × Bool
  | l, []        => (l, false)
  | l, id :: ids => if (l.freeSession id).2 then l.freeSession id
    else freeEach (l.freeSession id).1 ids

/-- `LocalService::freeAll`. -/
def freeAll : LocalSessions × Bool := l.freeEach l.tcpSessions.keys

/-- `onAnyClose` of a session. -/
def onAnyClose (session : Nat) : LocalSessions × Bool :=
  if l.anyCloseWasCalled session then (l, false)
  else
    freeSession
      { l with anyCloseWasCalled := Function.update l.anyCloseWasCalled session true }
      (uuid session)

/-- The handler of `error` of a `UdpSession`. -/
def onUdpError (session : Nat) : LocalSessions × Bool :=
  if (l.free session).2 then l.free session
  else (l.free session).1.onAnyClose uuid session

/-- `LocalService::createSession`; when the constructor of the session throws, nothing is stored. -/
def createSession (brokerHost token : String) : LocalSessions :=
  let id := uuid l.generated
  let l' := { l with generated := l.generated + 1 }
  if (l.service.createSession brokerHost token).isNone then l'
  else if l.service.socketType = "tcp" then
    { l' with
      created := l.generated :: l.created
      tcpSessions := l.tcpSessions.insert id l.generated }
  else
    { l' with
      created := l.generated :: l.created
      udpSessions := l.udpSessions.insert id l.generated }

/-- What an event handler leaves: an exception that it does not catch ends the process. -/
def handled (result : LocalSessions × Bool) : LocalSessions :=
  { result.1 with crashed := result.2 }

/-- One event; `none` when it cannot happen.  An exception of a call is the caller's. -/
def step : LocalEvent → Option LocalSessions
  | .createSession brokerHost token =>
    if l.crashed then none else some (l.createSession uuid brokerHost token)
  | .freeSession id => if l.crashed then none else some (l.freeSession id).1
  | .freeAll => if l.crashed then none else some l.freeAll.1
  | .error session =>
    if l.crashed ∨ session ∉ l.created then none
    -- a `TcpSession` logs the error
    else if l.service.socketType = "tcp" then some l
    else some (handled (l.onUdpError uuid session))
  | .close session =>
    if l.crashed ∨ session ∉ l.created then none
    else if l.service.socketType = "tcp" then some { l with timeouts := session :: l.timeouts }
    -- nothing listens to it
    else some l
  | .timeout session =>
    if l.crashed ∨ session ∉ l.timeouts then none
    else some (handled
      (onAnyClose uuid { l with timeouts := l.timeouts.erase session } session))

/-- A service without sessions. -/
def start (service : LocalService) : LocalSessions where
  service := service

/-! ### The tables -/

/-- The session that is kept under an id. -/
def lookup (id : String) : Option Nat :=
  if l.service.socketType = "tcp" then l.tcpSessions.lookup id else l.udpSessions.lookup id

/-- The session is freed and no longer kept under the id. -/
def drop (id : String) (session : Nat) : LocalSessions :=
  { l with
    frees := Function.update l.frees session (l.frees session + 1)
    tcpSessions := l.tcpSessions.erase id
    udpSessions := l.udpSessions.erase id }

/-- The sessions that were created and not freed are kept under their ids, and nothing else is. -/
structure Tidy : Prop where
  fresh : ∀ n ∈ l.created, n < l.generated
  unmade : ∀ n, n ∉ l.created → l.frees n = 0
  once : ∀ n, l.frees n ≤ 1
  listed : ∀ id n, l.lookup id = some n ↔ id = uuid n ∧ n ∈ l.created ∧ l.frees n = 0
  tcp : l.service.socketType = "tcp" → l.udpSessions = ∅
  udp : l.service.socketType ≠ "tcp" → l.tcpSessions = ∅

variable {uuid l}

theorem erase_empty (id : String) : (∅ : PlainObject Nat).erase id = ∅ := rfl

theorem property_of_none {object : PlainObject Nat} {key : String} (h : object.lookup key = none) :
    property object key = .inherited ∨ property object key = .undefined := by
  unfold property
  rw [h]
  by_cases hkey : key ∈ prototypeKeys
  · exact .inl (if_pos hkey)
  · exact .inr (if_neg hkey)

/-- **`freeSession`** frees a session that is kept, and does nothing for any other id. -/
theorem freeSession_cases (hl : Tidy uuid l) (id : String) :
    (l.lookup id = none ∧ (l.freeSession id).1 = l) ∨
      ∃ n, l.lookup id = some n ∧ l.freeSession id = (l.drop id n, false) := by
  have hfree : ∀ n, l.lookup id = some n → (l.free n).2 = false := by
    intro n hn
    simp [free, ((hl.listed id n).mp hn).2.2]
  unfold freeSession
  by_cases htcp : l.service.socketType = "tcp"
  · simp only [lookup, if_pos htcp] at hfree ⊢
    cases hlookup : l.tcpSessions.lookup id with
    | none =>
      refine .inl ⟨rfl, ?_⟩
      rcases property_of_none hlookup with hnone | hnone <;> rw [hnone]
    | some n =>
      refine .inr ⟨n, rfl, ?_⟩
      rw [property_of_some hlookup]
      simp only [hfree n hlookup, Bool.false_eq_true, if_false]
      simp [drop, free, hl.tcp htcp, erase_empty]
  · simp only [lookup, if_neg htcp] at hfree ⊢
    cases hlookup : l.udpSessions.lookup id with
    | none =>
      refine .inl ⟨rfl, ?_⟩
      rcases property_of_none hlookup with hnone | hnone <;> rw [hnone]
    | some n =>
      refine .inr ⟨n, rfl, ?_⟩
      rw [property_of_some hlookup]
      simp only [hfree n hlookup, Bool.false_eq_true, if_false]
      simp [drop, free, hl.udp htcp, erase_empty]

theorem lookup_drop (id other : String) (n : Nat) :
    (l.drop id n).lookup other = if other = id then none else l.lookup other := by
  unfold lookup drop
  by_cases hother : other = id
  · subst hother
    simp
  · simp [hother, AList.lookup_erase_ne hother]

/-- **A session that is dropped** is freed for the first time. -/
theorem Tidy.drop (hl : Tidy uuid l) (huuid : Function.Injective uuid) {id : String} {n : Nat}
    (hn : l.lookup id = some n) : Tidy uuid (l.drop id n) := by
  obtain ⟨rfl, hcreated, hzero⟩ := (hl.listed id n).mp hn
  have hself : (l.drop (uuid n) n).frees n = 1 := by
    show Function.update l.frees n (l.frees n + 1) n = 1
    rw [Function.update_self, hzero]
  have hothers : ∀ m, m ≠ n → (l.drop (uuid n) n).frees m = l.frees m :=
    fun m hm => Function.update_of_ne hm _ _
  refine ⟨hl.fresh, fun m hm => ?_, fun m => ?_, fun other m => ?_, fun htcp => ?_, fun hudp => ?_⟩
  · have hne : m ≠ n := by
      rintro rfl
      exact hm hcreated
    rw [hothers m hne]
    exact hl.unmade m hm
  · by_cases hm : m = n
    · rw [hm, hself]
    · rw [hothers m hm]
      exact hl.once m
  · rw [lookup_drop]
    by_cases hm : m = n
    · -- the session itself is kept under no id
      subst hm
      rw [hself]
      split
      · simp
      · next hother =>
        simp only [one_ne_zero, and_false, iff_false]
        intro hkept
        exact hother ((hl.listed other m).mp hkept).1
    · rw [hothers m hm]
      split
      · next hother =>
        subst hother
        refine iff_of_false (by simp) ?_
        rintro ⟨hsame, -⟩
        exact hm (huuid hsame).symm
      · exact hl.listed other m
  · show l.udpSessions.erase (uuid n) = ∅
    rw [hl.tcp htcp, erase_empty]
  · show l.tcpSessions.erase (uuid n) = ∅
    rw [hl.udp hudp, erase_empty]

theorem Tidy.freeSession (hl : Tidy uuid l) (huuid : Function.Injective uuid) (id : String) :
    Tidy uuid (l.freeSession id).1 := by
  rcases freeSession_cases hl id with ⟨-, hsame⟩ | ⟨n, hn, hdrop⟩
  · rw [hsame]
    exact hl
  · rw [hdrop]
    exact hl.drop huuid hn

/-! ### `freeAll` -/

/-- The loop frees every session that is kept under one of the ids. -/
theorem freeEach_spec (huuid : Function.Injective uuid) {ids : List String} (hids : ids.Nodup)
    (hl : Tidy uuid l) (hkept : ∀ id ∈ ids, l.lookup id ≠ none) :
    Tidy uuid (l.freeEach ids).1 ∧ (l.freeEach ids).1.created = l.created ∧
      (l.freeEach ids).1.service = l.service ∧
      ∀ id, (l.freeEach ids).1.lookup id = if id ∈ ids then none else l.lookup id := by
  induction ids generalizing l with
  | nil => exact ⟨hl, rfl, rfl, fun id => by simp [freeEach]⟩
  | cons id ids ih =>
    obtain ⟨hnew, hids⟩ := List.nodup_cons.mp hids
    obtain ⟨hnone, -⟩ | ⟨n, hn, hdrop⟩ := freeSession_cases hl id
    · exact absurd hnone (hkept id List.mem_cons_self)
    · -- the others are still kept
      have hothers : ∀ other ∈ ids, (l.drop id n).lookup other ≠ none := by
        intro other hother
        have hne : other ≠ id := by
          rintro rfl
          exact hnew hother
        rw [lookup_drop, if_neg hne]
        exact hkept other (List.mem_cons_of_mem _ hother)
      obtain ⟨htidy, hcreated, hservice, hlookup⟩ := ih hids (hl.drop huuid hn) hothers
      have hloop : l.freeEach (id :: ids) = (l.drop id n).freeEach ids := by
        rw [freeEach, hdrop]
        rfl
      rw [hloop]
      refine ⟨htidy, hcreated, hservice, fun other => ?_⟩
      rw [hlookup, lookup_drop]
      by_cases hother : other = id <;> simp [hother]

/-- A table in which nothing is found is empty. -/
theorem eq_empty_of_lookup {sessions : PlainObject Nat}
    (h : ∀ id, sessions.lookup id = none) : sessions = ∅ := by
  have hkeys : sessions.keys = [] := by
    rw [List.eq_nil_iff_forall_not_mem]
    intro id hid
    exact AList.lookup_eq_none.mp (h id) (AList.mem_keys.mp hid)
  exact AList.ext (List.map_eq_nil_iff.mp hkeys)

/-- Both tables are empty, and every session was freed once. -/
structure Swept (l : LocalSessions) : Prop where
  tcp : l.tcpSessions = ∅
  udp : l.udpSessions = ∅
  once : ∀ n ∈ l.created, l.frees n = 1

/-- When nothing is kept, everything was freed. -/
theorem Tidy.swept (hl : Tidy uuid l) (h : ∀ id, l.lookup id = none) : l.Swept := by
  have htables : l.tcpSessions = ∅ ∧ l.udpSessions = ∅ := by
    by_cases htcp : l.service.socketType = "tcp"
    · simp only [lookup, if_pos htcp] at h
      exact ⟨eq_empty_of_lookup h, hl.tcp htcp⟩
    · simp only [lookup, if_neg htcp] at h
      exact ⟨hl.udp htcp, eq_empty_of_lookup h⟩
  refine ⟨htables.1, htables.2, fun n hn => ?_⟩
  have hatMost := hl.once n
  have hfreed : l.frees n ≠ 0 := by
    intro hzero
    have hkept := (hl.listed (uuid n) n).mpr ⟨rfl, hn, hzero⟩
    rw [h] at hkept
    cases hkept
  omega

/-- **`freeAll`** keeps the order; it frees every session unless some are in the table that it does
    not look at. -/
theorem Tidy.freeAll (hl : Tidy uuid l) (huuid : Function.Injective uuid) :
    Tidy uuid l.freeAll.1 ∧ (l.freeAll.1.Swept ↔ l.udpSessions = ∅) := by
  by_cases htcp : l.service.socketType = "tcp"
  · have hkept : ∀ id ∈ l.tcpSessions.keys, l.lookup id ≠ none := by
      intro id hid
      rw [lookup, if_pos htcp]
      exact AList.lookup_isSome.mpr (AList.mem_keys.mpr hid) |> Option.isSome_iff_ne_none.mp
    obtain ⟨htidy, -, -, hlookup⟩ := freeEach_spec huuid l.tcpSessions.keys_nodup hl hkept
    refine ⟨htidy, iff_of_true (htidy.swept fun id => ?_) (hl.tcp htcp)⟩
    rw [hlookup]
    split
    · rfl
    · next hid =>
      rw [lookup, if_pos htcp]
      exact AList.lookup_eq_none.mpr fun hmem => hid (AList.mem_keys.mp hmem)
  · -- the loop has nothing to do
    have hnothing : l.freeAll = (l, false) := by
      unfold LocalSessions.freeAll
      rw [hl.udp htcp]
      rfl
    rw [hnothing]
    refine ⟨hl, fun hswept => hswept.udp, fun hudp => hl.swept fun id => ?_⟩
    rw [lookup, if_neg htcp, hudp]
    rfl

/-! ### One event -/

/-- No session was freed twice, and none that was freed is in a table. -/
structure Freed (l : LocalSessions) : Prop where
  once : ∀ n, l.frees n ≤ 1
  gone : ∀ n, l.frees n ≠ 0 → ∀ id, l.tcpSessions.lookup id ≠ some n ∧
    l.udpSessions.lookup id ≠ some n

theorem Tidy.freed (hl : Tidy uuid l) : l.Freed := by
  refine ⟨hl.once, fun n hn id => ?_⟩
  have hkept : l.lookup id ≠ some n := fun h => hn ((hl.listed id n).mp h).2.2
  by_cases htcp : l.service.socketType = "tcp"
  · rw [lookup, if_pos htcp] at hkept
    exact ⟨hkept, by simp [hl.tcp htcp]⟩
  · rw [lookup, if_neg htcp] at hkept
    exact ⟨by simp [hl.udp htcp], hkept⟩

/-- After the event no session was freed twice, and after `freeAll` every one was freed. -/
def Meets (uuid : Nat → String) (l : LocalSessions) (e : LocalEvent) : Prop :=
  ∀ l', l.step uuid e = some l' → l'.Freed ∧ (e = .freeAll → l'.Swept)

/-- It is a TCP service; else no socket fails, and `freeAll` is called without sessions. -/
def Spares (l : LocalSessions) : LocalEvent → Prop
  | .error _ => l.service.socketType = "tcp"
  | .freeAll => l.service.socketType = "tcp" ∨ l.udpSessions.keys = []
  | _        => True

instance (e : LocalEvent) : Decidable (l.Spares e) :=
  match e with
  | .error _            => inferInstanceAs (Decidable (_ = _))
  | .freeAll            => inferInstanceAs (Decidable (_ ∨ _))
  | .createSession _ _  => isTrue trivial
  | .freeSession _      => isTrue trivial
  | .close _            => isTrue trivial
  | .timeout _          => isTrue trivial

/-- Fields that the sessions do not depend on. -/
theorem Tidy.congr {l' : LocalSessions} (hl : Tidy uuid l) (hservice : l'.service = l.service)
    (htcp : l'.tcpSessions = l.tcpSessions) (hudp : l'.udpSessions = l.udpSessions)
    (hgenerated : l.generated ≤ l'.generated) (hcreated : l'.created = l.created)
    (hfrees : l'.frees = l.frees) : Tidy uuid l' := by
  have hlookup : ∀ id, l'.lookup id = l.lookup id := by
    intro id
    rw [lookup, lookup, hservice, htcp, hudp]
  refine ⟨fun n hn => ?_, ?_, ?_, ?_, ?_, ?_⟩
  · rw [hcreated] at hn
    exact (hl.fresh n hn).trans_le hgenerated
  · rw [hcreated, hfrees]
    exact hl.unmade
  · rw [hfrees]
    exact hl.once
  · intro id n
    rw [hlookup, hcreated, hfrees]
    exact hl.listed id n
  · rw [hservice, hudp]
    exact hl.tcp
  · rw [hservice, htcp]
    exact hl.udp

/-- **A session that is created** is kept under a new id. -/
theorem Tidy.createSession (hl : Tidy uuid l) (huuid : Function.Injective uuid)
    (brokerHost token : String) : Tidy uuid (l.createSession uuid brokerHost token) := by
  have hnew : l.generated ∉ l.created := fun h => (hl.fresh _ h).ne rfl
  have hzero : l.frees l.generated = 0 := hl.unmade _ hnew
  -- in which table it is kept makes no difference
  have hstored : ∀ l' : LocalSessions, l'.generated = l.generated + 1 →
      l'.created = l.generated :: l.created → l'.frees = l.frees → l'.service = l.service →
      (∀ id, l'.lookup id = if id = uuid l.generated then some l.generated else l.lookup id) →
      (l.service.socketType = "tcp" → l'.udpSessions = ∅) →
      (l.service.socketType ≠ "tcp" → l'.tcpSessions = ∅) → Tidy uuid l' := by
    intro l' hgenerated hcreated hfrees hservice hlookup htcp hudp
    refine ⟨fun n hn => ?_, fun n hn => ?_, ?_, fun id n => ?_, ?_, ?_⟩
    · rw [hcreated] at hn
      rw [hgenerated]
      rcases List.mem_cons.mp hn with rfl | hn
      · omega
      · exact Nat.lt_succ_of_lt (hl.fresh n hn)
    · rw [hcreated] at hn
      rw [hfrees]
      exact hl.unmade n fun hmem => hn (List.mem_cons_of_mem _ hmem)
    · rw [hfrees]
      exact hl.once
    · rw [hlookup, hcreated, hfrees, List.mem_cons]
      split
      · next hid =>
        subst hid
        constructor
        · rintro heq
          obtain rfl := Option.some.inj heq
          exact ⟨rfl, .inl rfl, hzero⟩
        · rintro ⟨hsame, -⟩
          exact congrArg some (huuid hsame)
      · next hid =>
        rw [hl.listed]
        refine and_congr_right fun hsame => ?_
        have hne : n ≠ l.generated := by
          rintro rfl
          exact hid hsame
        simp [hne]
    · rw [hservice]
      exact htcp
    · rw [hservice]
      exact hudp
  unfold LocalSessions.createSession
  simp only
  split
  · exact hl.congr rfl rfl rfl (Nat.le_succ _) rfl rfl
  · split
    · next htcp =>
      refine hstored _ rfl rfl rfl rfl (fun id => ?_) hl.tcp fun hudp => absurd htcp hudp
      simp only [lookup, if_pos htcp]
      by_cases hid : id = uuid l.generated
      · subst hid
        simp
      · rw [AList.lookup_insert_ne hid, if_neg hid]
    · next hudp =>
      refine hstored _ rfl rfl rfl rfl (fun id => ?_) (fun htcp => absurd htcp hudp) hl.udp
      simp only [lookup, if_neg hudp]
      by_cases hid : id = uuid l.generated
      · subst hid
        simp
      · rw [AList.lookup_insert_ne hid, if_neg hid]

/-- The end of a session has it freed, if it is still kept. -/
theorem Tidy.onAnyClose (hl : Tidy uuid l) (huuid : Function.Injective uuid) (n : Nat) :
    Tidy uuid (l.onAnyClose uuid n).1 := by
  unfold LocalSessions.onAnyClose
  split
  · exact hl
  · have hcalled : Tidy uuid
        { l with anyCloseWasCalled := Function.update l.anyCloseWasCalled n true } :=
      hl.congr rfl rfl rfl le_rfl rfl rfl
    exact hcalled.freeSession huuid _

/-- **A UDP session whose socket fails** is freed twice, or freed and kept. -/
theorem not_freed_of_error (hl : Tidy uuid l) (hudp : l.service.socketType ≠ "tcp") {n : Nat}
    (hn : n ∈ l.created) : ¬(handled (l.onUdpError uuid n)).Freed := by
  intro hfreed
  unfold onUdpError at hfreed
  by_cases hzero : l.frees n = 0
  · have hkept : l.udpSessions.lookup (uuid n) = some n := by
      have hlisted := (hl.listed (uuid n) n).mpr ⟨rfl, hn, hzero⟩
      rwa [lookup, if_neg hudp] at hlisted
    have hfirst : (l.free n).2 = false := by simp [free, hzero]
    rw [hfirst, if_neg (by simp)] at hfreed
    have hone : (l.free n).1.frees n = 1 := by simp [free, hzero]
    unfold LocalSessions.onAnyClose at hfreed
    split at hfreed
    · -- the service is not told, and keeps the session
      exact (hfreed.gone n (by simp [handled, hone]) (uuid n)).2 hkept
    · -- the service frees it again, which throws
      have hagain : ∀ l' : LocalSessions, l'.service = l.service →
          l'.udpSessions = l.udpSessions → l'.frees n = 1 →
          (l'.freeSession (uuid n)).1.frees n = 2 := by
        intro l' hservice htable hfrees
        unfold LocalSessions.freeSession
        rw [if_neg (hservice ▸ hudp), htable, property_of_some hkept]
        simp [free, hservice, hudp, hfrees]
      have htwice : (LocalSessions.freeSession { (l.free n).1 with
          anyCloseWasCalled := Function.update (l.free n).1.anyCloseWasCalled n true }
          (uuid n)).1.frees n ≤ 1 := hfreed.once n
      have htwo := hagain { (l.free n).1 with
          anyCloseWasCalled := Function.update (l.free n).1.anyCloseWasCalled n true } rfl rfl hone
      omega
  · -- it was freed before
    have hsecond : (l.free n).2 = true := by simp [free, hzero, hudp]
    rw [hsecond, if_pos rfl] at hfreed
    have htwice : l.frees n + 1 ≤ 1 := by simpa [handled, free] using hfreed.once n
    omega

/-- **One event** leaves the sessions tidy if it spares them. -/
theorem Tidy.step (hl : Tidy uuid l) (huuid : Function.Injective uuid) {e : LocalEvent}
    {l' : LocalSessions} (hspares : l.Spares e) (h : l.step uuid e = some l') : Tidy uuid l' := by
  have hhandled : ∀ result : LocalSessions × Bool, Tidy uuid result.1 →
      Tidy uuid (handled result) := fun result hresult =>
    hresult.congr rfl rfl rfl le_rfl rfl rfl
  cases e with
  | createSession brokerHost token =>
    simp only [LocalSessions.step, Option.ite_none_left_eq_some, Option.some.injEq] at h
    obtain ⟨-, rfl⟩ := h
    exact hl.createSession huuid brokerHost token
  | freeSession id =>
    simp only [LocalSessions.step, Option.ite_none_left_eq_some, Option.some.injEq] at h
    obtain ⟨-, rfl⟩ := h
    exact hl.freeSession huuid id
  | freeAll =>
    simp only [LocalSessions.step, Option.ite_none_left_eq_some, Option.some.injEq] at h
    obtain ⟨-, rfl⟩ := h
    exact (hl.freeAll huuid).1
  | error n =>
    simp only [LocalSessions.step, Option.ite_none_left_eq_some] at h
    obtain ⟨-, h⟩ := h
    have htcp : l.service.socketType = "tcp" := hspares
    rw [if_pos htcp] at h
    obtain rfl := Option.some.inj h
    exact hl
  | close n =>
    simp only [LocalSessions.step, Option.ite_none_left_eq_some] at h
    obtain ⟨-, h⟩ := h
    split at h
    · obtain rfl := Option.some.inj h
      exact hl.congr rfl rfl rfl le_rfl rfl rfl
    · obtain rfl := Option.some.inj h
      exact hl
  | timeout n =>
    simp only [LocalSessions.step, Option.ite_none_left_eq_some, Option.some.injEq] at h
    obtain ⟨-, rfl⟩ := h
    have hwaiting : Tidy uuid { l with timeouts := l.timeouts.erase n } :=
      hl.congr rfl rfl rfl le_rfl rfl rfl
    exact hhandled _ (hwaiting.onAnyClose huuid n)

/-- **An event meets what is asked exactly when it spares the sessions.** -/
theorem meets_iff (hl : Tidy uuid l) (huuid : Function.Injective uuid) {e : LocalEvent}
    {l' : LocalSessions} (h : l.step uuid e = some l') : l.Meets uuid e ↔ l.Spares e := by
  have hmeets : l.Meets uuid e ↔ l'.Freed ∧ (e = .freeAll → l'.Swept) := by
    unfold Meets
    rw [h]
    simp
  rw [hmeets]
  constructor
  · rintro ⟨hfreed, hswept⟩
    cases e with
    | error n =>
      by_contra hfails
      have hudp : l.service.socketType ≠ "tcp" := hfails
      simp only [LocalSessions.step, Option.ite_none_left_eq_some, not_or, not_not] at h
      obtain ⟨⟨-, hn⟩, h⟩ := h
      rw [if_neg hudp] at h
      obtain rfl := Option.some.inj h
      exact not_freed_of_error hl hudp hn hfreed
    | freeAll =>
      simp only [LocalSessions.step, Option.ite_none_left_eq_some, Option.some.injEq] at h
      obtain ⟨-, rfl⟩ := h
      have hudp := (hl.freeAll huuid).2.mp (hswept rfl)
      exact .inr (by simp [hudp])
    | createSession brokerHost token => trivial
    | freeSession id => trivial
    | close n => trivial
    | timeout n => trivial
  · intro hspares
    refine ⟨(hl.step huuid hspares h).freed, ?_⟩
    rintro rfl
    simp only [LocalSessions.step, Option.ite_none_left_eq_some, Option.some.injEq] at h
    obtain ⟨-, rfl⟩ := h
    rw [(hl.freeAll huuid).2]
    rcases hspares with htcp | hempty
    · exact hl.tcp htcp
    · exact AList.ext (List.map_eq_nil_iff.mp hempty)

theorem tidy_start (service : LocalService) : Tidy uuid (start service) where
  fresh n hn := absurd hn List.not_mem_nil
  unmade _ _ := rfl
  once _ := Nat.zero_le 1
  listed id n := by
    refine iff_of_false ?_ fun h => absurd h.2.1 List.not_mem_nil
    show (if service.socketType = "tcp" then none else none) ≠ some n
    split <;> simp
  tcp _ := rfl
  udp _ := rfl

/-- **Sessions are freed once, exactly when every event spares them.**  Along a run of calls and
    events, each event leaves no session freed twice and none in a table that was freed, and each
    `freeAll` leaves none, if and only if the service is a TCP service or no socket of a session
    fails and `freeAll` is called only when there are no sessions. -/
theorem freed_once_iff (huuid : Function.Injective uuid) (service : LocalService)
    {events : List LocalEvent} {l : LocalSessions}
    (hrun : run (step uuid) (start service) events = some l) :
    Along (step uuid) (Meets uuid) (start service) events ↔
      Along (step uuid) Spares (start service) events :=
  along_exact (fun _ _ _ hl hspares h => Tidy.step hl huuid hspares h)
    (fun _ _ _ hl h => meets_iff hl huuid h) (tidy_start service) hrun

/-- Different ids. -/
def idOf (n : Nat) : String := String.ofList (List.replicate n 'a')

theorem idOf_injective : Function.Injective idOf := by
  intro m n h
  have hlength := congrArg String.length h
  simpa [idOf] using hlength

/-- A TCP session ends with its sockets, another one with `freeAll`; the timeout of the second and
    a further call find nothing to free. -/
theorem freed_once_tcp :
    Along (step idOf) (Meets idOf) (start (.make ⟨some "ssh", "tcp", 8022, 22, none⟩))
      [.createSession "broker" "t", .createSession "broker" "u", .error 0, .close 0, .timeout 0,
        .freeAll, .close 1, .timeout 1, .freeSession "a"] := by
  have hruns : (run (step idOf) (start (.make ⟨some "ssh", "tcp", 8022, 22, none⟩))
      [.createSession "broker" "t", .createSession "broker" "u", .error 0, .close 0, .timeout 0,
        .freeAll, .close 1, .timeout 1, .freeSession "a"]).isSome = true := by decide +kernel
  obtain ⟨l, hrun⟩ := Option.isSome_iff_exists.mp hruns
  exact (freed_once_iff idOf_injective _ hrun).mpr (by decide +kernel)

/-- A UDP session is left alone by `freeAll`; or its socket fails and is closed twice, which ends
    the process with the session still in the table. -/
theorem freed_once_udp :
    let dns := start (.make ⟨some "dns", "udp4", 53, 5353, none⟩)
    (run (step idOf) dns [.createSession "broker" "t", .freeAll]).map
        (fun l => (l.udpSessions.keys, l.frees 0)) = some ([""], 0) ∧
      (run (step idOf) dns [.createSession "broker" "t", .error 0]).map
        (fun l => (l.udpSessions.keys, l.frees 0, l.crashed)) = some ([""], 2, true) ∧
      ¬Along (step idOf) (Meets idOf) dns [.createSession "broker" "t", .freeAll] ∧
      ¬Along (step idOf) (Meets idOf) dns [.createSession "broker" "t", .error 0] := by
  intro dns
  have hkept : (run (step idOf) dns [.createSession "broker" "t", .freeAll]).map
      (fun l => (l.udpSessions.keys, l.frees 0)) = some ([""], 0) := by decide +kernel
  have hfailed : (run (step idOf) dns [.createSession "broker" "t", .error 0]).map
      (fun l => (l.udpSessions.keys, l.frees 0, l.crashed)) = some ([""], 2, true) := by
    decide +kernel
  -- what the second event would have to meet
  have hsecond : ∀ {e : LocalEvent} {l : LocalSessions},
      run (step idOf) dns [.createSession "broker" "t", e] = some l →
      Along (step idOf) (Meets idOf) dns [.createSession "broker" "t", e] →
      l.Freed ∧ (e = .freeAll → l.Swept) := by
    intro e l hrun hmeets
    obtain ⟨t, ht, hlast⟩ := Option.bind_eq_some_iff.mp hrun
    exact (hmeets.2 t ht).1 l (by simpa using hlast)
  refine ⟨hkept, hfailed, fun hmeets => ?_, fun hmeets => ?_⟩
  · obtain ⟨l, hrun, hvalues⟩ := Option.map_eq_some_iff.mp hkept
    have hempty := ((hsecond hrun hmeets).2 rfl).udp
    rw [hempty] at hvalues
    exact absurd (Prod.mk.inj hvalues).1 (by simp)
  · obtain ⟨l, hrun, hvalues⟩ := Option.map_eq_some_iff.mp hfailed
    have honce := (hsecond hrun hmeets).1.once 0
    have htwice : l.frees 0 = 2 := (Prod.mk.inj (Prod.mk.inj hvalues).2).1
    omega

end LocalSessions

end TunnelBore.TypeScript
