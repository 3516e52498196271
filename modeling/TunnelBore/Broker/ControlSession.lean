import TunnelBore.Broker.Dispatcher
import TunnelBore.Broker.Framing
import TunnelBore.Lib.Run

namespace TunnelBore.Broker

open TunnelBore.Lib

/-!
# `ControlSession::onRead`

A read on the control connection delivers a piece of the stream of messages.  `onRead` feeds it
to the stream parser, pops one message, hands it to the dispatcher and starts the next read.

One pop a read is what this file is about.  `dispatched` records what was handed to the
dispatcher; `completed` counts, from the lengths alone, the objects that the reads so far have
completed.

* `Progress` — the invariant: the parser is in step with the objects that have not been
  dispatched;
* `read_progress` — one read dispatches the next object if it is complete, and no other;
* `dispatched_iff` — nothing is held back after any read exactly when every read completes at
  most one object.
-/

/-- The parts of `ControlSession::Implementation` that reading uses.  `world` is what the
    callbacks change, the queue of messages to send among it. -/
structure ControlSession (σ : Type) where
  textParser : StreamParser := {}
  dispatcher : Dispatcher σ := {}
  world : σ
  /-- A read is outstanding. -/
  reading : Bool := true
  /-- `endSelf` was called. -/
  ended : Bool := false
  dispatched : List (Json × String) := []

/-- `Roar::WebsocketReadResult`. -/
structure ReadResult where
  isBinary : Bool
  message : Bytes
  deriving DecidableEq, Repr

/-- The `ref` of a message, empty when it has none; `none` says that `get<std::string>()`
    throws. -/
def refOf (popped : Json) : Option String :=
  match popped.find "ref" with
  | none     => some ""
  | some ref => ref.getString

/-- The message of `ControlSession::respondWithError`. -/
def errorMessage (ref msg : String) : Json :=
  .object [("error", .string msg), ("ref", .string ref), ("type", .string "Error")]

namespace ControlSession

variable {σ ε : Type} (parse : Bytes → Except ε Json) (writeJson : Json → σ → σ)
variable (s : ControlSession σ)

/-- `readAgain`: unless reading is aborted the next read is started, also while an exception
    leaves `onRead`. -/
def doRead : ControlSession σ := { s with reading := true }

/-- `ControlSession::onJson`: the message goes to the dispatcher.  An exception ends the session
    and aborts reading. -/
def onJson (type : String) (popped : Json) (ref : String) : ControlSession σ :=
  let result := s.dispatcher.dispatch type popped ref s.world
  let s := { s with
    world := result.1
    dispatcher := result.2.1
    dispatched := s.dispatched ++ [(popped, ref)] }
  if result.2.2 then { s with ended := true } else s.doRead

/-- What `onRead` does with a message that was popped. -/
def onPopped (popped : Json) : ControlSession σ :=
  match refOf popped with
  | none     => s.doRead
  | some ref =>
    match popped.find "type" with
    | none      =>
      doRead { s with world := writeJson (errorMessage ref "Type missing in message.") s.world }
    | some type =>
      match type.getString with
      | none         => s.doRead
      | some msgType => s.onJson msgType popped ref

/-- `ControlSession::onRead`. -/
def onRead (readResult : ReadResult) : ControlSession σ :=
  let s := { s with reading := false }
  if readResult.isBinary then s.doRead
  else
    match (s.textParser.feed readResult.message).popMessage parse with
    | (none, textParser)            => doRead { s with textParser := textParser }
    | (some (.error _), textParser) => doRead { s with textParser := textParser }
    | (some (.ok popped), textParser) =>
      onPopped writeJson { s with textParser := textParser } popped

/-- A text read completes; `none` when no read is outstanding. -/
def readText (text : Bytes) : Option (ControlSession σ) :=
  if s.reading then some (s.onRead parse writeJson ⟨false, text⟩) else none

end ControlSession

/-! ### Counting objects -/

variable {ε J : Type} {parse : Bytes → Except ε J}

theorem completed_le_length (frames : List (Frame J)) (n : Nat) :
    completed frames n ≤ frames.length := by
  induction frames generalizing n with
  | nil => exact le_rfl
  | cons f fs ih =>
    simp only [completed]
    split
    · exact Nat.succ_le_succ (ih _)
    · exact Nat.zero_le _

theorem completed_mono (frames : List (Frame J)) {n m : Nat} (h : n ≤ m) :
    completed frames n ≤ completed frames m := by
  induction frames generalizing n m with
  | nil => exact le_rfl
  | cons f fs ih =>
    simp only [completed]
    split
    · rw [if_pos (by omega)]
      exact Nat.succ_le_succ (ih (by omega))
    · exact Nat.zero_le _

/-- No object is empty. -/
theorem completed_zero {frames : List (Frame J)} (hframes : ∀ f ∈ frames, f.Valid parse) :
    completed frames 0 = 0 := by
  cases frames with
  | nil => rfl
  | cons f fs =>
    have hend := (findFrom_frame (hframes f List.mem_cons_self)).1
    simp only [completed]
    split
    · next hle =>
      have hempty : f.bytes = [] := List.length_eq_zero_iff.mp (by omega)
      rw [hempty] at hend
      cases hend
    · rfl

/-- Behind `d` objects and `n` more bytes, the first `d` are completed and those among the `n`. -/
theorem completed_stream_take (frames : List (Frame J)) {d : Nat} (hd : d ≤ frames.length)
    (n : Nat) :
    completed frames ((stream (frames.take d)).length + n) = d + completed (frames.drop d) n := by
  induction d generalizing frames with
  | zero => simp
  | succ d ih =>
    cases frames with
    | nil => simp at hd
    | cons f fs =>
      have hle : f.bytes.length ≤ (f.bytes ++ stream (fs.take d)).length + n := by
        rw [List.length_append]
        omega
      have hrest : (f.bytes ++ stream (fs.take d)).length + n - f.bytes.length =
          (stream (fs.take d)).length + n := by
        rw [List.length_append]
        omega
      rw [List.take_succ_cons, stream_cons, completed, if_pos hle, hrest,
        ih fs (Nat.le_of_succ_le_succ hd), List.drop_succ_cons]
      omega

/-- In step, `popMessage` returns the first outstanding object exactly when it is complete. -/
theorem popMessage_completed {fs : List (Frame J)} (hfs : ∀ f ∈ fs, f.Valid parse)
    {p : StreamParser} (h : Synced fs p) :
    (completed fs p.buffer.length = 0 ∧ ∃ p', p.popMessage parse = (none, p') ∧
        p'.buffer = p.buffer ∧ Synced fs p') ∨
      ∃ f fs' p', fs = f :: fs' ∧ p.popMessage parse = (some (.ok f.value), p') ∧
        p.buffer = f.bytes ++ p'.buffer ∧ Synced fs' p' := by
  rcases popMessage_synced hfs h with ⟨p', hpop, hbuffer, hsync, -⟩ | hfound
  · refine .inl ⟨?_, p', hpop, hbuffer, hsync⟩
    cases fs with
    | nil => rfl
    | cons f fs =>
      simp only [completed]
      split
      · next hle =>
        -- a complete first object would have been found
        exfalso
        have hframe : f.bytes <+: p.buffer := by
          have hstream : f.bytes <+: stream (f :: fs) := List.prefix_append _ _
          exact List.prefix_of_prefix_length_le hstream h.buffer hle
        obtain ⟨rest, hrest⟩ := hframe
        have hend := (findFrom_frame (hfs f List.mem_cons_self)).1
        have hfound : p.search.2 = true := by
          rw [h.search, ← hrest, findFrom_append, if_pos hend]
          exact hend
        rw [popMessage_of_found hfound] at hpop
        cases hpop
      · rfl
  · exact .inr hfound

/-! ### Messages -/

/-- A message with a string for its type and, if it has one, for its `ref`. -/
def IsMessage (j : Json) : Prop :=
  (∃ type, j.find "type" = some (.string type)) ∧ (refOf j).isSome = true

/-- What is dispatched for a message. -/
def dispatchedFor (j : Json) : Json × String := (j, (refOf j).getD "")

namespace ControlSession

variable {σ : Type} {parse : Bytes → Except ε Json} (writeJson : Json → σ → σ)
variable {s s' : ControlSession σ} {frames : List (Frame Json)} {received : Bytes} {d : Nat}

/-- The session after the reads that delivered `received`, with `d` objects dispatched. -/
structure Progress (frames : List (Frame Json)) (received : Bytes) (d : Nat)
    (s : ControlSession σ) : Prop where
  bound : d ≤ frames.length
  reading : s.reading = true
  synced : Synced (frames.drop d) s.textParser
  received : received = stream (frames.take d) ++ s.textParser.buffer
  dispatched : s.dispatched = (frames.take d).map fun f => dispatchedFor f.value
  calm : s.dispatcher.NeverThrows

/-- A fresh session has received and dispatched nothing. -/
theorem progress_fresh (frames : List (Frame Json)) {dispatcher : Dispatcher σ}
    (hcalm : dispatcher.NeverThrows) (world : σ) :
    Progress frames [] 0 { dispatcher := dispatcher, world := world } where
  bound := Nat.zero_le _
  reading := rfl
  synced := synced_empty frames
  received := rfl
  dispatched := rfl
  calm := hcalm

/-- The objects completed so far: those dispatched and those complete in the buffer. -/
theorem Progress.completed (h : Progress frames received d s) :
    Broker.completed frames received.length =
      d + Broker.completed (frames.drop d) s.textParser.buffer.length := by
  rw [h.received, List.length_append]
  exact completed_stream_take frames h.bound _

/-- A message is dispatched, and the next read is started. -/
theorem onPopped_message {j : Json} (hj : IsMessage j) (hcalm : s.dispatcher.NeverThrows) :
    (s.onPopped writeJson j).reading = true ∧
      (s.onPopped writeJson j).textParser = s.textParser ∧
      (s.onPopped writeJson j).dispatched = s.dispatched ++ [dispatchedFor j] ∧
      (s.onPopped writeJson j).dispatcher.NeverThrows := by
  obtain ⟨⟨type, htype⟩, hrefSome⟩ := hj
  obtain ⟨ref, href⟩ := Option.isSome_iff_exists.mp hrefSome
  obtain ⟨hend, hkept⟩ := Dispatcher.dispatch_neverThrows hcalm type j ref s.world
  have hpopped : s.onPopped writeJson j = s.onJson type j ref := by
    simp only [onPopped, href, htype, Json.getString]
  rw [hpopped]
  unfold onJson
  simp only [hend, Bool.false_eq_true, if_false]
  refine ⟨rfl, rfl, ?_, hkept⟩
  show s.dispatched ++ [(j, ref)] = s.dispatched ++ [dispatchedFor j]
  rw [dispatchedFor, href]
  rfl

/-- A read after which no object is complete: its bytes stay in the buffer. -/
theorem Progress.waits (h : Progress frames received d s) {text : Bytes} {p' : StreamParser}
    (hpop : (s.textParser.feed text).popMessage parse = (none, p'))
    (hkept : p'.buffer = (s.textParser.feed text).buffer) (hsync : Synced (frames.drop d) p') :
    Progress frames (received ++ text) d (s.onRead parse writeJson ⟨false, text⟩) := by
  have hstate : s.onRead parse writeJson ⟨false, text⟩ =
      { s with textParser := p', reading := true } := by
    simp only [onRead, Bool.false_eq_true, if_false, hpop, doRead]
  rw [hstate]
  refine ⟨h.bound, rfl, hsync, ?_, h.dispatched, h.calm⟩
  show received ++ text = stream (frames.take d) ++ p'.buffer
  rw [hkept, h.received, List.append_assoc]
  rfl

/-- A read that completes an object: it is dispatched, and what is behind it stays in the buffer. -/
theorem Progress.dispatches (h : Progress frames received d s) {text : Bytes} {p' : StreamParser}
    {f : Frame Json} {fs : List (Frame Json)} (hmessage : IsMessage f.value)
    (hnext : frames.drop d = f :: fs)
    (hpop : (s.textParser.feed text).popMessage parse = (some (.ok f.value), p'))
    (hcut : (s.textParser.feed text).buffer = f.bytes ++ p'.buffer) (hsync : Synced fs p') :
    Progress frames (received ++ text) (d + 1) (s.onRead parse writeJson ⟨false, text⟩) := by
  have hlt : d < frames.length := by
    by_contra hge
    rw [List.drop_eq_nil_of_le (Nat.le_of_not_lt hge)] at hnext
    cases hnext
  have htake : frames.take (d + 1) = frames.take d ++ [f] := by
    rw [List.take_add_one, ← List.head?_drop, hnext]
    rfl
  have hrest : frames.drop (d + 1) = fs := by
    rw [← List.tail_drop, hnext]
    rfl
  have hstate : s.onRead parse writeJson ⟨false, text⟩ =
      onPopped writeJson { s with reading := false, textParser := p' } f.value := by
    simp only [onRead, Bool.false_eq_true, if_false, hpop]
  rw [hstate]
  obtain ⟨hreading, hparser, hdispatched, hcalm⟩ := onPopped_message writeJson
    (s := { s with reading := false, textParser := p' }) hmessage h.calm
  refine ⟨hlt, hreading, ?_, ?_, ?_, hcalm⟩
  · rw [hparser, hrest]
    exact hsync
  · have hfed : s.textParser.buffer ++ text = f.bytes ++ p'.buffer := hcut
    rw [hparser, htake, stream, List.flatMap_append, h.received, List.append_assoc, hfed,
      ← List.append_assoc]
    simp [stream]
  · rw [hdispatched, htake, List.map_append, h.dispatched]
    rfl

/-- **One read.**  It dispatches the next object if that is complete by then, and no other. -/
theorem read_progress (hframes : ∀ f ∈ frames, f.Valid parse)
    (hmessages : ∀ f ∈ frames, IsMessage f.value) (h : Progress frames received d s)
    {text : Bytes} (htext : received ++ text <+: stream frames) :
    ∃ s', s.readText parse writeJson text = some s' ∧
      Progress frames (received ++ text)
        (min (d + 1) (Broker.completed frames (received ++ text).length)) s' := by
  have hsplit : stream frames = stream (frames.take d) ++ stream (frames.drop d) := by
    rw [stream, stream, stream, ← List.flatMap_append, List.take_append_drop]
  have hbuffer : s.textParser.buffer ++ text <+: stream (frames.drop d) := by
    rw [h.received, List.append_assoc, hsplit] at htext
    exact (List.prefix_append_right_inj _).mp htext
  -- the session with the text fed
  have hcount : Broker.completed frames (received ++ text).length =
      d + Broker.completed (frames.drop d) (s.textParser.feed text).buffer.length := by
    rw [h.received, List.append_assoc, List.length_append]
    exact completed_stream_take frames h.bound _
  have hread : s.readText parse writeJson text =
      some (s.onRead parse writeJson ⟨false, text⟩) := by
    unfold readText
    rw [if_pos h.reading]
  refine ⟨_, hread, ?_⟩
  have hdrop : ∀ f ∈ frames.drop d, f.Valid parse :=
    fun f hf => hframes f (List.mem_of_mem_drop hf)
  rcases popMessage_completed hdrop (h.synced.feed hbuffer) with
    ⟨hzero, p', hpop, hkept, hsync⟩ | ⟨f, fs, p', hnext, hpop, hcut, hsync⟩
  · have hmin : min (d + 1) (Broker.completed frames (received ++ text).length) = d := by
      rw [hcount, hzero]
      omega
    rw [hmin]
    exact h.waits writeJson hpop hkept hsync
  · have hmem : f ∈ frames := List.mem_of_mem_drop (hnext ▸ List.mem_cons_self)
    have hmin : min (d + 1) (Broker.completed frames (received ++ text).length) = d + 1 := by
      have hle : f.bytes.length ≤ (s.textParser.feed text).buffer.length := by
        rw [hcut, List.length_append]
        exact Nat.le_add_right _ _
      rw [hcount, hnext, Broker.completed, if_pos hle]
      omega
    rw [hmin]
    exact h.dispatches writeJson (hmessages f hmem) hnext hpop hcut hsync

/-- Every read completes at most one object, the first of them behind `n` bytes. -/
def OneEach (frames : List (Frame Json)) : Nat → List Bytes → Prop
  | _, []            => True
  | n, text :: reads =>
    Broker.completed frames (n + text.length) ≤ Broker.completed frames n + 1 ∧
      OneEach frames (n + text.length) reads

/-- What has been dispatched are the objects among the first `n` bytes, each once and in
    order. -/
def Current (frames : List (Frame Json)) (n : Nat) (s : ControlSession σ) : Prop :=
  s.dispatched = (frames.take (Broker.completed frames n)).map fun f => dispatchedFor f.value

/-- With `d` objects dispatched, that is to say that no other is completed. -/
theorem Progress.current_iff (h : Progress frames received d s) :
    s.Current frames received.length ↔ d = Broker.completed frames received.length := by
  unfold Current
  rw [h.dispatched]
  constructor
  · intro heq
    have hlength := congrArg List.length heq
    have hle := completed_le_length frames received.length
    have hbound := h.bound
    simp only [List.length_map, List.length_take] at hlength
    omega
  · intro heq
    rw [← heq]

/-- The reads of a session that has dispatched `d` objects. -/
theorem current_along_iff (hframes : ∀ f ∈ frames, f.Valid parse)
    (hmessages : ∀ f ∈ frames, IsMessage f.value) (h : Progress frames received d s)
    {reads : List Bytes} (hreads : received ++ reads.flatten <+: stream frames) :
    (∃ s', run (readText parse writeJson) s reads = some s') ∧
      ((∀ k u, run (readText parse writeJson) s (reads.take k) = some u →
          u.Current frames (received ++ (reads.take k).flatten).length) ↔
        d = Broker.completed frames received.length ∧ OneEach frames received.length reads) := by
  induction reads generalizing s received d with
  | nil =>
    refine ⟨⟨s, rfl⟩, ?_⟩
    constructor
    · intro hall
      refine ⟨h.current_iff.mp ?_, trivial⟩
      simpa using hall 0 s rfl
    · rintro ⟨hd, -⟩ k u hu
      obtain rfl : s = u := by simpa using hu
      simpa using h.current_iff.mpr hd
  | cons text reads ih =>
    have hflatten : received ++ (text :: reads).flatten = (received ++ text) ++ reads.flatten := by
      rw [List.flatten_cons, List.append_assoc]
    rw [hflatten] at hreads
    obtain ⟨v, hv, hprogress⟩ := read_progress writeJson hframes hmessages h
      ((List.prefix_append _ _).trans hreads)
    obtain ⟨⟨w, hw⟩, hiff⟩ := ih hprogress hreads
    refine ⟨⟨w, by rw [run_cons, hv]; exact hw⟩, ?_⟩
    rw [List.length_append] at hiff hprogress
    constructor
    · intro hall
      have hd : d = Broker.completed frames received.length := h.current_iff.mp (by
        simpa using hall 0 s rfl)
      obtain ⟨hnext, hrest⟩ := hiff.mp fun k u hu => by
        have hu' : run (readText parse writeJson) s ((text :: reads).take (k + 1)) = some u := by
          rw [List.take_succ_cons, run_cons, hv]
          exact hu
        have hcurrent := hall (k + 1) u hu'
        rwa [List.take_succ_cons, List.flatten_cons, ← List.append_assoc] at hcurrent
      refine ⟨hd, ?_, hrest⟩
      -- at most one was dispatched, and all that were completed have been
      omega
    · rintro ⟨hd, hone, hrest⟩ k u hu
      cases k with
      | zero =>
        obtain rfl : s = u := by simpa using hu
        simpa using h.current_iff.mpr hd
      | succ k =>
        rw [List.take_succ_cons, run_cons, hv] at hu
        rw [List.take_succ_cons, List.flatten_cons, ← List.append_assoc]
        refine hiff.mpr ⟨?_, hrest⟩ k u hu
        have hmono := completed_mono frames (Nat.le_add_right received.length text.length)
        omega

/-- **When nothing is held back.**  The reads deliver, in any division, bytes of a sequence of
    objects that are messages, and no callback throws.  Then every read is followed by another,
    and after each of them exactly the objects completed so far have been dispatched, each once
    and in order, if and only if every read completes at most one object. -/
theorem dispatched_iff (hframes : ∀ f ∈ frames, f.Valid parse)
    (hmessages : ∀ f ∈ frames, IsMessage f.value) {dispatcher : Dispatcher σ}
    (hcalm : dispatcher.NeverThrows) (world : σ) {reads : List Bytes}
    (hreads : reads.flatten <+: stream frames) :
    let session : ControlSession σ := { dispatcher := dispatcher, world := world }
    (∃ s', run (readText parse writeJson) session reads = some s') ∧
      ((∀ k u, run (readText parse writeJson) session (reads.take k) = some u →
          u.Current frames (reads.take k).flatten.length) ↔ OneEach frames 0 reads) := by
  have hprefix : [] ++ reads.flatten <+: stream frames := hreads
  obtain ⟨hruns, hiff⟩ := current_along_iff writeJson hframes hmessages
    (progress_fresh frames hcalm world) hprefix
  -- nothing is completed before the first read
  have hzero : 0 = Broker.completed frames ([] : Bytes).length := (completed_zero hframes).symm
  exact ⟨hruns, hiff.trans (and_iff_right hzero)⟩

/-- A ping as the publisher sends it, and nothing else, parses. -/
def pingText : Bytes := asciiString "\x7b\"type\":\"Ping\"\x7d"

/-- The value of `pingText`. -/
def ping : Json := .object [("type", .string "Ping")]

/-- A `json::parse` that knows the text of a ping only. -/
def parsePing (t : Bytes) : Except Unit Json := if t = pingText then .ok ping else .error ()

/-- The ping as an object of the stream. -/
def pingFrame : Frame Json := ⟨[], pingText, ping⟩

theorem pingFrame_valid : pingFrame.Valid parsePing where
  space := fun c hc => absurd hc List.not_mem_nil
  text := by
    have hkey : IsString (asciiString "\"type\"") :=
      ⟨asciiString "type", isStringBody_of_plain (by decide +kernel), rfl⟩
    have hvalue : IsString (asciiString "\"Ping\"") :=
      ⟨asciiString "Ping", isStringBody_of_plain (by decide +kernel), rfl⟩
    have hnone : IsJsonSpace [] := fun c hc => absurd hc List.not_mem_nil
    exact .inr ⟨_, .member hnone hkey hnone hnone (.string hvalue) hnone, rfl⟩
  parses := if_pos rfl

theorem ping_isMessage : IsMessage ping := ⟨⟨"Ping", rfl⟩, rfl⟩

/-- Two pings, the first of them cut in two, one object a read. -/
theorem dispatched_iff_pings :
    let session : ControlSession Nat := { dispatcher := {}, world := 0 }
    let reads := [pingText.take 3, pingText.drop 3, pingText]
    (∃ s', run (readText parsePing fun _ n => n) session reads = some s') ∧
      ((∀ k u, run (readText parsePing fun _ n => n) session (reads.take k) = some u →
          u.Current [pingFrame, pingFrame] (reads.take k).flatten.length) ↔
        OneEach [pingFrame, pingFrame] 0 reads) :=
  dispatched_iff (fun _ n => n)
    (by
      intro f hf
      obtain rfl : f = pingFrame := by simpa using hf
      exact pingFrame_valid)
    (by
      intro f hf
      obtain rfl : f = pingFrame := by simpa using hf
      exact ping_isMessage)
    (fun _ hentry => absurd hentry List.not_mem_nil) 0
    (by
      show [pingText.take 3, pingText.drop 3, pingText].flatten <+: stream [pingFrame, pingFrame]
      decide)

/-- Two pings in one read: the second one stays in the parser. -/
theorem dispatched_heldBack :
    ¬∀ (frames : List (Frame Json)) (reads : List Bytes) (u : ControlSession Nat),
      (∀ f ∈ frames, f.Valid parsePing) → (∀ f ∈ frames, IsMessage f.value) →
      reads.flatten <+: stream frames →
      run (readText parsePing fun _ n => n) { dispatcher := {}, world := 0 } reads = some u →
      u.Current frames reads.flatten.length := by
  intro hall
  have hstep : ∃ u, run (readText parsePing fun _ n => n)
      ({ dispatcher := {}, world := 0 } : ControlSession Nat) [pingText ++ pingText] = some u ∧
      u.dispatched.length = 1 := ⟨_, rfl, rfl⟩
  obtain ⟨u, hu, hone⟩ := hstep
  have hcurrent := hall [pingFrame, pingFrame] [pingText ++ pingText] u
    (by
      intro f hf
      obtain rfl : f = pingFrame := by simpa using hf
      exact pingFrame_valid)
    (by
      intro f hf
      obtain rfl : f = pingFrame := by simpa using hf
      exact ping_isMessage)
    (by decide) hu
  have hlength := congrArg List.length hcurrent
  have htwo : completed [pingFrame, pingFrame] [pingText ++ pingText].flatten.length = 2 := by
    decide
  rw [hone, List.length_map, htwo] at hlength
  cases hlength

end ControlSession

end TunnelBore.Broker
