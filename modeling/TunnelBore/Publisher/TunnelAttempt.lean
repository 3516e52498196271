import TunnelBore.Publisher.ControlRead
import TunnelBore.Publisher.ServiceSession
import TunnelBore.Shared.PipeOperation

namespace TunnelBore.Publisher

/-!
# What becomes of a new tunnel

`onNewTunnel` ends where the token is written to the broker.  The handler of that write dials the
hidden service, puts the pair of sessions into `sessions_` and starts its pipes.  Most of the
steps on the way only log when they fail.

* `newTunnelAttempt` — the whole attempt, from the message to the end of that handler;
* `Answered` — a running pair is stored, or one `NewTunnelFailed` is queued and nothing remains;
* `answered_iff` — the outcomes of the steps with which a message is answered.

A session that no pair owns is destroyed with the last pointer to it, at the latest when the
handler ends; its socket is closed then.
-/

/-- A `ServiceSession`, by the number of the attempt that made it. -/
structure AttemptSession where
  attempt : Nat
  side : PairSide
  deriving DecidableEq, Repr

/-- A `PipeOperation` between two sessions. -/
structure SessionPipe where
  sideOriginal : AttemptSession
  sideOther : AttemptSession
  operation : PipeOperation
  deriving DecidableEq

/-- `ServiceSessionPair`. -/
structure ServiceSessionPair where
  inward : AttemptSession
  outward : AttemptSession
  inwardPipe : Option SessionPipe := none
  outwardPipe : Option SessionPipe := none
  deriving DecidableEq

/-- `sessions_` of a service; the sessions in it are of earlier attempts than the next one. -/
structure SessionTable where
  sessions : AList fun _ : String => ServiceSessionPair
  attempts : Nat
  earlier : ∀ t pair, sessions.lookup t = some pair →
    pair.inward.attempt < attempts ∧ pair.outward.attempt < attempts

namespace SessionTable

/-- No sessions yet. -/
def empty : SessionTable where
  sessions := ∅
  attempts := 0
  earlier := by simp

variable (table : SessionTable)

/-- The next attempt's session with the hidden service. -/
def inwards : AttemptSession := ⟨table.attempts, .inward⟩

/-- The next attempt's session with the broker. -/
def outwards : AttemptSession := ⟨table.attempts, .outward⟩

/-- `ServiceSession::pipeTo`, between two sessions that exist. -/
def pipeTo (session other : AttemptSession) : SessionPipe := ⟨session, other, PipeOperation.read {}⟩

/-- The element that `emplace` returns: one that is there already stays as it is. -/
def emplaced (tunnelId : String) : ServiceSessionPair :=
  (table.sessions.lookup tunnelId).getD { inward := table.inwards, outward := table.outwards }

/-- `emplace` of the pair, and the assignments of the two pipes to the element it returns. -/
def connect (tunnelId : String) : SessionTable where
  sessions := table.sessions.insert tunnelId { table.emplaced tunnelId with
    inwardPipe := some (pipeTo table.inwards table.outwards)
    outwardPipe := some (pipeTo table.outwards table.inwards) }
  attempts := table.attempts + 1
  earlier := by
    intro t pair hpair
    by_cases ht : t = tunnelId
    · subst ht
      rw [AList.lookup_insert] at hpair
      obtain rfl := Option.some.inj hpair
      show (table.emplaced t).inward.attempt < _ ∧ (table.emplaced t).outward.attempt < _
      unfold emplaced
      cases hold : table.sessions.lookup t with
      | none => exact ⟨Nat.lt_succ_self _, Nat.lt_succ_self _⟩
      | some old =>
        obtain ⟨hinward, houtward⟩ := table.earlier t old hold
        exact ⟨Nat.lt_succ_of_lt hinward, Nat.lt_succ_of_lt houtward⟩
    · rw [AList.lookup_insert_ne ht] at hpair
      obtain ⟨hinward, houtward⟩ := table.earlier t pair hpair
      exact ⟨Nat.lt_succ_of_lt hinward, Nat.lt_succ_of_lt houtward⟩

/-- The pipes that these assignments destroy; their destructors close the sessions they join. -/
def destroyedPipes (tunnelId : String) : List SessionPipe :=
  (table.emplaced tunnelId).inwardPipe.toList ++ (table.emplaced tunnelId).outwardPipe.toList

/-- Some pair of the table has a pointer to the session. -/
def Owns (x : AttemptSession) : Prop :=
  ∃ entry ∈ table.sessions.entries, entry.2.inward = x ∨ entry.2.outward = x

instance (x : AttemptSession) : Decidable (table.Owns x) :=
  inferInstanceAs (Decidable (∃ entry ∈ table.sessions.entries, _))

end SessionTable

/-! ### The attempt -/

/-- What the handler of the token's write is given and finds: the error code, the service if it
    still exists, and how the connection to the hidden service ends. -/
structure TokenWrite where
  ec : Bool
  service : Option SessionTable
  hidden : ConnectionEnd

/-- What an attempt leaves when its handlers have ended. -/
structure Attempt where
  /-- The messages given to `sendQueued`. -/
  replies : List ControlMessage := []
  /-- The sessions that were made. -/
  opened : List AttemptSession := []
  /-- The sessions that `close` was called on. -/
  closed : List AttemptSession := []
  /-- The host and port of the hidden service, if it was dialled. -/
  dialledHidden : Option (String × Int) := none
  table : SessionTable := .empty
  destroyedPipes : List SessionPipe := []
  /-- An exception has left one of the handlers. -/
  threw : Bool := false

/-- The sessions of the attempt that still exist: the local pointers and those of the handler are
    gone, what is left is what a pair owns. -/
def Attempt.remaining (a : Attempt) : List AttemptSession :=
  a.opened.filter fun x => a.table.Owns x

/-- The handler of the write of the token, in `Service::createSession`. -/
def Service.onTokenWritten (service : Service) (tunnelId : String) (write : TokenWrite) :
    Attempt :=
  match write.ec, write.service with
  | true,  none       => { opened := [SessionTable.empty.outwards] }
  | true,  some table => { opened := [table.outwards], table := table }
  | false, none       => { opened := [SessionTable.empty.outwards] }
  | false, some table =>
    let dialled := some (service.hiddenHost, service.hiddenPort)
    match write.hidden with
    | .threw     =>
      { opened := [table.outwards], dialledHidden := dialled, table := table, threw := true }
    | .failed    =>
      { opened := [table.outwards]
        closed := [table.outwards]
        dialledHidden := dialled
        table := table }
    | .connected =>
      { opened := [table.outwards, table.inwards]
        dialledHidden := dialled
        table := table.connect tunnelId
        destroyedPipes := table.destroyedPipes tunnelId }

section
variable {ε : Type} (parse : Bytes → Except ε Json) (cfg : Config)
variable (serviceId tunnelId : String) (hiddenPort publicPort : Int) (socketType : String)
variable (answers : Answers) (before : SessionTable) (write : TokenWrite)

/-- An attempt to build a tunnel: `onNewTunnel`, and the handler of the write if it comes to the
    write. -/
def newTunnelAttempt : Attempt :=
  let handled := onNewTunnel parse cfg serviceId tunnelId hiddenPort publicPort socketType answers
  match findService cfg.makeServices hiddenPort publicPort, handled.prefixedToken with
  | some service, some _ =>
    { service.onTokenWritten tunnelId write with replies := handled.replies }
  | _, _ => { replies := handled.replies, table := before, threw := handled.threw }

end

/-! ### Answers -/

/-- A pipe that waits for bytes to pass on. -/
def SessionPipe.Running (pipe : SessionPipe) : Prop :=
  pipe.operation.alive = true ∧ pipe.operation.pending = .read

namespace Attempt

variable (a : Attempt) (tunnelId : String)

/-- The sessions of the attempt are stored as a pair under the id, with both pipes running. -/
def Stored : Prop :=
  ∃ pair inwardPipe outwardPipe, a.table.sessions.lookup tunnelId = some pair ∧
    pair.inward ∈ a.remaining ∧ pair.outward ∈ a.remaining ∧
    pair.inwardPipe = some inwardPipe ∧ inwardPipe.Running ∧
    inwardPipe.sideOriginal = pair.inward ∧ inwardPipe.sideOther = pair.outward ∧
    pair.outwardPipe = some outwardPipe ∧ outwardPipe.Running ∧
    outwardPipe.sideOriginal = pair.outward ∧ outwardPipe.sideOther = pair.inward

/-- One `NewTunnelFailed` for the id is queued, and nothing of the attempt remains. -/
def Refused : Prop :=
  (∃ serviceId hiddenPort publicPort socketType reason, a.replies =
    [.newTunnelFailed serviceId tunnelId hiddenPort publicPort socketType reason]) ∧
    a.remaining = []

/-- The message is answered: by exactly one of the two. -/
def Answered : Prop := Xor (a.Stored tunnelId) (a.Refused tunnelId)

variable {a tunnelId}

/-- A pair that an earlier attempt has made is not one of this attempt. -/
theorem not_stored_of_earlier (h : ∀ x ∈ a.opened, a.table.attempts ≤ x.attempt) :
    ¬a.Stored tunnelId := by
  rintro ⟨pair, _, _, hpair, hinward, _⟩
  have hlater := h _ (List.mem_of_mem_filter hinward)
  have hearlier := (a.table.earlier tunnelId pair hpair).1
  omega

/-- Without a reply the message is answered by a pair or not at all. -/
theorem answered_iff_stored (h : a.replies = []) : a.Answered tunnelId ↔ a.Stored tunnelId := by
  have hnot : ¬a.Refused tunnelId := by
    rintro ⟨⟨_, _, _, _, _, hreplies⟩, -⟩
    rw [h] at hreplies
    cases hreplies
  constructor
  · rintro (⟨hstored, -⟩ | ⟨hrefused, -⟩)
    · exact hstored
    · exact absurd hrefused hnot
  · exact fun hstored => .inl ⟨hstored, hnot⟩

end Attempt

/-! ### The handler of the write -/

namespace SessionTable

variable {table : SessionTable} {tunnelId : String}

/-- The pair that is stored is the one that `ServiceSessions.emplace` enters. -/
theorem mem_connect {s : ServiceSessions} (h : ∀ t, t ∈ table.sessions ↔ t ∈ s.sessions)
    (t : String) : t ∈ (table.connect tunnelId).sessions ↔ t ∈ (s.emplace tunnelId).sessions := by
  show t ∈ table.sessions.insert tunnelId _ ↔ t ∈ insert tunnelId s.sessions
  rw [AList.mem_insert, Finset.mem_insert, h]

theorem lookup_connect : (table.connect tunnelId).sessions.lookup tunnelId =
    some { table.emplaced tunnelId with
      inwardPipe := some (pipeTo table.inwards table.outwards)
      outwardPipe := some (pipeTo table.outwards table.inwards) } :=
  AList.lookup_insert _

/-- Under a new id the element is the attempt's own pair. -/
theorem emplaced_of_notMem (h : tunnelId ∉ table.sessions) :
    table.emplaced tunnelId = { inward := table.inwards, outward := table.outwards } := by
  unfold emplaced
  rw [AList.lookup_eq_none.mpr h]
  rfl

/-- Under an id that is in use it is the older pair. -/
theorem emplaced_of_mem (h : tunnelId ∈ table.sessions) :
    (table.emplaced tunnelId).inward.attempt < table.attempts := by
  obtain ⟨pair, hpair⟩ := Option.isSome_iff_exists.mp (AList.lookup_isSome.mpr h)
  unfold emplaced
  rw [hpair]
  exact (table.earlier tunnelId pair hpair).1

/-- What a pair owns stays. -/
theorem owns_of_lookup {pair : ServiceSessionPair}
    (h : table.sessions.lookup tunnelId = some pair) :
    table.Owns pair.inward ∧ table.Owns pair.outward := by
  have hentry := AList.mem_lookup_iff.mp h
  exact ⟨⟨_, hentry, .inl rfl⟩, ⟨_, hentry, .inr rfl⟩⟩

end SessionTable

/-- Everything from the write on succeeds, and the id is not in use. -/
structure TokenWrite.Succeeds (write : TokenWrite) (tunnelId : String) : Prop where
  written : write.ec = false
  stored : ∃ table, write.service = some table ∧ tunnelId ∉ table.sessions
  hidden : write.hidden = .connected

/-- Unless it comes to `emplace`, the handler leaves the pairs of earlier attempts. -/
theorem onTokenWritten_not_stored {service : Service} {tunnelId : String} {write : TokenWrite}
    {replies : List ControlMessage}
    (h : write.ec = true ∨ write.service = none ∨ write.hidden ≠ .connected) :
    ¬Attempt.Stored { service.onTokenWritten tunnelId write with replies := replies } tunnelId := by
  apply Attempt.not_stored_of_earlier
  obtain ⟨ec, found, hidden⟩ := write
  cases ec with
  | true => cases found <;> simp [Service.onTokenWritten, SessionTable.outwards]
  | false =>
    cases found with
    | none => simp [Service.onTokenWritten, SessionTable.outwards]
    | some table =>
      cases hidden with
      | threw => simp [Service.onTokenWritten, SessionTable.outwards]
      | failed => simp [Service.onTokenWritten, SessionTable.outwards]
      | connected => simp at h

/-- `emplace` stores the pair of the attempt exactly when the id is new; else it returns the pair
    that is there. -/
theorem connected_stored_iff {service : Service} {tunnelId : String} {table : SessionTable}
    {replies : List ControlMessage} :
    Attempt.Stored
        { service.onTokenWritten tunnelId ⟨false, some table, .connected⟩ with replies := replies }
        tunnelId ↔
      tunnelId ∉ table.sessions := by
  constructor
  · rintro ⟨pair, _, _, hpair, hinward, _⟩ hmem
    obtain rfl := Option.some.inj (SessionTable.lookup_connect.symm.trans hpair)
    have holder := SessionTable.emplaced_of_mem hmem
    have hopened := List.mem_pair.mp (List.mem_of_mem_filter hinward)
    change (table.emplaced tunnelId).inward = _ ∨ (table.emplaced tunnelId).inward = _ at hopened
    rcases hopened with h | h
    · rw [h] at holder
      exact absurd holder (lt_irrefl _)
    · rw [h] at holder
      exact absurd holder (lt_irrefl _)
  · intro hnew
    have hpair : (table.connect tunnelId).sessions.lookup tunnelId = _ :=
      SessionTable.lookup_connect
    rw [SessionTable.emplaced_of_notMem hnew] at hpair
    obtain ⟨hinward, houtward⟩ := SessionTable.owns_of_lookup hpair
    refine ⟨_, _, _, hpair, ?_, ?_, rfl, ⟨rfl, rfl⟩, rfl, rfl, rfl, ⟨rfl, rfl⟩, rfl, rfl⟩
    · exact List.mem_filter.mpr ⟨by simp [Service.onTokenWritten], decide_eq_true hinward⟩
    · exact List.mem_filter.mpr ⟨by simp [Service.onTokenWritten], decide_eq_true houtward⟩

/-- **The handler of the write** stores a running pair exactly when all of its steps succeed. -/
theorem onTokenWritten_stored_iff {service : Service} {tunnelId : String} {write : TokenWrite}
    {replies : List ControlMessage} :
    Attempt.Stored { service.onTokenWritten tunnelId write with replies := replies } tunnelId ↔
      write.Succeeds tunnelId := by
  by_cases hfailed : write.ec = true ∨ write.service = none ∨ write.hidden ≠ .connected
  · refine iff_of_false (onTokenWritten_not_stored hfailed) fun h => ?_
    obtain ⟨table, hservice, -⟩ := h.stored
    rcases hfailed with hec | hnone | hhidden
    · rw [h.written] at hec
      cases hec
    · rw [hservice] at hnone
      cases hnone
    · exact hhidden h.hidden
  · obtain ⟨ec, found, hidden⟩ := write
    obtain ⟨hec, hfound, hhidden⟩ : ec = false ∧ found ≠ none ∧ hidden = .connected := by
      simpa [not_or] using hfailed
    obtain ⟨table, rfl⟩ := Option.ne_none_iff_exists'.mp hfound
    subst hec hhidden
    refine connected_stored_iff.trans ⟨fun hnew => ⟨rfl, ⟨table, rfl, hnew⟩, rfl⟩, fun h => ?_⟩
    obtain ⟨_, hservice, hnew⟩ := h.stored
    obtain rfl := Option.some.inj hservice
    exact hnew

/-! ### The whole attempt -/

section
variable {ε : Type} (parse : Bytes → Except ε Json) (cfg : Config)
variable (serviceId tunnelId : String) (hiddenPort publicPort : Int) (socketType : String)
variable (answers : Answers) (before : SessionTable) (write : TokenWrite)

/-- The outcomes with which a message is answered: the service is unknown, the authority refuses,
    or nothing fails from there on and the id is new. -/
def Answerable : Prop :=
  findService cfg.makeServices hiddenPort publicPort = none ∨
    answers.response.1 ≠ 200 ∨
    ((tokenOf parse answers.response.2).isSome = true ∧ answers.connection = .connected ∧
      write.Succeeds tunnelId)

/-- A failure that is reported leaves nothing behind. -/
theorem answered_of_reply (reason : String) (threw : Bool) :
    Attempt.Answered
      { replies := [.newTunnelFailed serviceId tunnelId hiddenPort publicPort socketType reason]
        table := before
        threw := threw } tunnelId :=
  .inr ⟨⟨⟨_, _, _, _, _, rfl⟩, rfl⟩, Attempt.not_stored_of_earlier (by simp)⟩

/-- A failure that is not reported is no answer. -/
theorem not_answered_of_silence (threw : Bool) :
    ¬Attempt.Answered { table := before, threw := threw } tunnelId := by
  rw [Attempt.answered_iff_stored rfl]
  exact Attempt.not_stored_of_earlier (by simp)

/-- **When a new tunnel is answered.**  The failures that are reported are an unknown service and
    a refusal of the authority; after that a message is answered only by success. -/
theorem answered_iff :
    (newTunnelAttempt parse cfg serviceId tunnelId hiddenPort publicPort socketType answers before
        write).Answered tunnelId ↔
      Answerable parse cfg tunnelId hiddenPort publicPort answers write := by
  unfold newTunnelAttempt Answerable onNewTunnel
  cases findService cfg.makeServices hiddenPort publicPort with
  | none => exact iff_of_true (answered_of_reply ..) (.inl rfl)
  | some service =>
    by_cases hcode : answers.response.1 = 200
    · -- from here on nothing is reported
      simp only [hcode, ne_eq, not_true_eq_false, if_false, reduceCtorEq, false_or]
      cases tokenOf parse answers.response.2 with
      | none =>
        exact iff_of_false (not_answered_of_silence tunnelId before true)
          fun h => absurd h.1 (by simp)
      | some token =>
        obtain ⟨response, connection⟩ := answers
        cases connection with
        | connected =>
          refine (Attempt.answered_iff_stored rfl).trans (onTokenWritten_stored_iff.trans ?_)
          simp
        | failed =>
          exact iff_of_false (not_answered_of_silence tunnelId before false)
            fun h => absurd h.2.1 (by simp)
        | threw =>
          exact iff_of_false (not_answered_of_silence tunnelId before true)
            fun h => absurd h.2.1 (by simp)
    · simp only [hcode, ne_eq, not_false_eq_true, if_true, true_or, or_true, iff_true]
      exact answered_of_reply ..

end

/-- A reply of the authority with a token, and nothing else. -/
def parseToken (text : Bytes) : Except Unit Json :=
  if text = asciiString "\x7b\"token\":\"t\"\x7d" then .ok (.object [("token", .string "t")])
  else .error ()

/-- A publisher with a web server. -/
def cfgWeb : Config := ⟨"pub", "broker", [⟨some "web", 8080, 80, none⟩]⟩

/-- The authority signs, and the broker does not accept the connection. -/
def attemptUnreachable : Attempt :=
  newTunnelAttempt parseToken cfgWeb "s" "c" 8080 80 "tcp"
    ⟨(200, asciiString "\x7b\"token\":\"t\"\x7d"), .failed⟩ .empty ⟨false, some .empty, .connected⟩

/-- Nobody is told. -/
theorem new_tunnel_unanswered : ¬attemptUnreachable.Answered "c" := by
  have hreplies : attemptUnreachable.replies = [] := by decide +kernel
  have hsessions : attemptUnreachable.table.sessions.lookup "c" = none := by decide +kernel
  rw [Attempt.answered_iff_stored hreplies]
  rintro ⟨_, _, _, hpair, _⟩
  rw [hsessions] at hpair
  cases hpair

end TunnelBore.Publisher
