import TunnelBore.Broker.ControlSession

namespace TunnelBore.Broker

open TunnelBore.Lib

/-!
# Reads that end with a message

A read on a websocket delivers some bytes of one message, and what is left of the message is
delivered by the next reads.  The publisher sends one object a message, so that no read completes
two, which is what `dispatched_iff` asks for.

* `readSome` — a read, as far as it takes the messages that have not been read;
* `Arrived` — the invariant: what has been read whole has been dispatched, and what has been read
  in part is in the buffer of the parser;
* `Arrived.read` — every read keeps it; `Arrived.sent` — so does a message that is sent.
-/

/-- `Roar::WebsocketSession::read_some`: the first `n` bytes of the messages that have not been
    read, which are bytes of one message. -/
def readSome (n : Nat) : List Bytes → Option (Bytes × List Bytes)
  | [] => none
  | text :: unread =>
    if 0 < n ∧ n ≤ text.length then
      some (text.take n, if n = text.length then unread else text.drop n :: unread)
    else none

/-- `unread` is what is left of the messages `texts` when `begun` has been read of the first. -/
inductive Unread : Bytes → List Bytes → List Bytes → Prop
  | none : Unread [] [] []
  | first {begun rest : Bytes} (texts : List Bytes) (hrest : rest ≠ []) :
      Unread begun ((begun ++ rest) :: texts) (rest :: texts)

/-- Nothing has been read. -/
theorem unread_all {texts : List Bytes} (htexts : ∀ text ∈ texts, text ≠ []) :
    Unread [] texts texts := by
  cases texts with
  | nil => exact .none
  | cons text texts => exact .first texts (htexts text List.mem_cons_self)

theorem Unread.length_eq {begun : Bytes} {texts unread : List Bytes}
    (h : Unread begun texts unread) : unread.length = texts.length := by
  cases h with
  | none => rfl
  | first texts _ => rfl

/-- More messages are sent. -/
theorem Unread.append {begun : Bytes} {texts unread more : List Bytes}
    (h : Unread begun texts unread) (hmore : ∀ text ∈ more, text ≠ []) :
    Unread begun (texts ++ more) (unread ++ more) := by
  cases h with
  | none => exact unread_all hmore
  | first texts hrest => exact .first (texts ++ more) hrest

/-! ### The session -/

variable {ε : Type} {parse : Bytes → Except ε Json}

/-- A message that holds one object and nothing else. -/
structure Frame.Alone (parse : Bytes → Except ε Json) (f : Frame Json) : Prop where
  valid : f.Valid parse
  space : f.space = []
  message : IsMessage f.value

/-- No message is empty. -/
theorem Frame.Alone.text_ne_nil {f : Frame Json} (hf : f.Alone parse) : f.text ≠ [] := by
  have hone : ∀ g ∈ [f], g.Valid parse := fun g hg => by
    rw [List.mem_singleton.mp hg]
    exact hf.valid
  have hzero : completed [f] 0 = 0 := completed_zero hone
  intro hnil
  simp [completed, Frame.bytes, hf.space, hnil] at hzero

theorem Synced.append {J : Type} {fs : List (Frame J)} {p : StreamParser} (h : Synced fs p)
    (gs : List (Frame J)) : Synced (fs ++ gs) p := by
  refine ⟨h.memo, h.buffer.trans ?_⟩
  rw [stream, stream, List.flatMap_append]
  exact List.prefix_append _ _

namespace ControlSession

variable {σ : Type} {s : ControlSession σ} {frames : List (Frame Json)} {unread : List Bytes}
variable (writeJson : Json → σ → σ)

/-- A session to which the messages `frames` have been sent, of which `unread` is left. -/
def Arrived (frames : List (Frame Json)) (unread : List Bytes) (s : ControlSession σ) : Prop :=
  ∃ received d, Progress frames received d s ∧
    Unread s.textParser.buffer ((frames.drop d).map Frame.text) unread

/-- A session to which nothing has been sent. -/
theorem arrived_fresh {dispatcher : Dispatcher σ} (hcalm : dispatcher.NeverThrows) (world : σ) :
    Arrived [] [] { dispatcher := dispatcher, world := world } :=
  ⟨[], 0, progress_fresh [] hcalm world, .none⟩

/-- The world is not what arrives. -/
theorem Arrived.world (h : Arrived frames unread s) (w : σ) :
    Arrived frames unread { s with world := w } := by
  obtain ⟨received, d, hprogress, hunread⟩ := h
  exact ⟨received, d, ⟨hprogress.bound, hprogress.reading, hprogress.synced, hprogress.received,
    hprogress.dispatched, hprogress.calm⟩, hunread⟩

theorem Progress.append {received : Bytes} {d : Nat} (h : Progress frames received d s)
    (more : List (Frame Json)) : Progress (frames ++ more) received d s where
  bound := by
    have := h.bound
    rw [List.length_append]
    omega
  reading := h.reading
  synced := by
    rw [List.drop_append_of_le_length h.bound]
    exact h.synced.append more
  received := by
    rw [List.take_append_of_le_length h.bound]
    exact h.received
  dispatched := by
    rw [List.take_append_of_le_length h.bound]
    exact h.dispatched
  calm := h.calm

/-- **More messages are sent.** -/
theorem Arrived.sent (h : Arrived frames unread s) {more : List (Frame Json)}
    (hmore : ∀ f ∈ more, f.Alone parse) :
    Arrived (frames ++ more) (unread ++ more.map Frame.text) s := by
  obtain ⟨received, d, hprogress, hunread⟩ := h
  refine ⟨received, d, hprogress.append more, ?_⟩
  rw [List.drop_append_of_le_length hprogress.bound, List.map_append]
  refine hunread.append fun text htext => ?_
  obtain ⟨f, hf, rfl⟩ := List.mem_map.mp htext
  exact (hmore f hf).text_ne_nil

/-- Of the next message `f` the session has read `begun`, and `rest` is left. -/
structure Halfway (frames : List (Frame Json)) (received : Bytes) (d : Nat) (f : Frame Json)
    (fs : List (Frame Json)) (begun rest : Bytes) (s : ControlSession σ) : Prop where
  progress : Progress frames received d s
  next : frames.drop d = f :: fs
  bytes : f.bytes = begun ++ rest
  buffer : s.textParser.buffer = begun

section Halfway

variable {received begun rest : Bytes} {d n : Nat} {f : Frame Json} {fs : List (Frame Json)}

/-- The bytes that come next are bytes of the stream. -/
theorem Halfway.isPrefix (h : Halfway frames received d f fs begun rest s) (n : Nat) :
    received ++ rest.take n <+: stream frames := by
  have hstream : stream frames = stream (frames.take d) ++ (begun ++ rest) ++ stream fs := by
    rw [← h.bytes, List.append_assoc, ← stream_cons, ← h.next, stream, stream, stream,
      ← List.flatMap_append, List.take_append_drop]
  refine ⟨rest.drop n ++ stream fs, ?_⟩
  rw [h.progress.received, h.buffer, hstream]
  simp only [List.append_assoc]
  rw [← List.append_assoc (rest.take n), List.take_append_drop]

/-- They complete the message when it ends with them, and nothing else. -/
theorem Halfway.completed (h : Halfway frames received d f fs begun rest s)
    (hfs : ∀ g ∈ fs, g.Valid parse) (hle : n ≤ rest.length) :
    Broker.completed frames (received ++ rest.take n).length =
      if n = rest.length then d + 1 else d := by
  have hlength : f.bytes.length = begun.length + rest.length := by
    rw [h.bytes, List.length_append]
  have hcount : Broker.completed frames (received ++ rest.take n).length =
      d + Broker.completed (f :: fs) (begun.length + n) := by
    rw [h.progress.received, h.buffer, ← h.next, List.append_assoc, List.length_append,
      List.length_append, List.length_take, Nat.min_eq_left hle]
    exact completed_stream_take frames h.progress.bound _
  rw [hcount, Broker.completed]
  split
  · next hend =>
    have hwhole : n = rest.length := by omega
    rw [if_pos hwhole, hlength, hwhole, Nat.sub_self, completed_zero hfs]
  · next hend =>
    have hpart : n ≠ rest.length := by omega
    rw [if_neg hpart, Nat.add_zero]

/-- The message has been read whole: nothing is left in the buffer. -/
theorem Halfway.buffer_whole (h : Halfway frames received d f fs begun rest s)
    {s' : ControlSession σ} (hprogress : Progress frames (received ++ rest) (d + 1) s') :
    s'.textParser.buffer = [] ∧ frames.drop (d + 1) = fs := by
  have htake : stream (frames.take (d + 1)) = stream (frames.take d) ++ f.bytes := by
    rw [List.take_add_one, ← List.head?_drop, h.next, stream, stream, List.flatMap_append]
    simp
  constructor
  · have hgot := hprogress.received
    rw [htake, h.progress.received, h.buffer, h.bytes, List.append_assoc] at hgot
    exact List.self_eq_append_right.mp hgot
  · rw [← List.tail_drop, h.next]
    rfl

/-- A part of it is left: what has been read of it is in the buffer. -/
theorem Halfway.buffer_part (h : Halfway frames received d f fs begun rest s)
    {s' : ControlSession σ} {text : Bytes}
    (hprogress : Progress frames (received ++ text) d s') :
    s'.textParser.buffer = begun ++ text := by
  have hgot := hprogress.received
  rw [h.progress.received, h.buffer, List.append_assoc] at hgot
  exact (List.append_cancel_left hgot).symm

end Halfway

/-- **One read.**  Its bytes go to the parser, and an object that they complete is dispatched. -/
theorem Arrived.read (hframes : ∀ f ∈ frames, f.Alone parse) (h : Arrived frames unread s)
    {n : Nat} {text : Bytes} {unread' : List Bytes}
    (hread : readSome n unread = some (text, unread')) :
    ∃ s', s.readText parse writeJson text = some s' ∧ Arrived frames unread' s' := by
  obtain ⟨received, d, hprogress, hunread⟩ := h
  generalize htexts : (frames.drop d).map Frame.text = texts at hunread
  generalize hbegun : s.textParser.buffer = begun at hunread
  cases hunread with
  | none => cases hread
  | first texts hrest =>
    next rest =>
    simp only [readSome, Option.ite_none_right_eq_some, Option.some.injEq, Prod.mk.injEq] at hread
    obtain ⟨⟨hpos, hle⟩, rfl, rfl⟩ := hread
    obtain ⟨f, fs, hdrop, htext, hmap⟩ := List.map_eq_cons_iff.mp htexts
    have hf := hframes f (List.mem_of_mem_drop (hdrop ▸ List.mem_cons_self))
    have hfs : ∀ g ∈ fs, g.Alone parse := fun g hg =>
      hframes g (List.mem_of_mem_drop (hdrop ▸ List.mem_cons_of_mem f hg))
    have hhalf : Halfway frames received d f fs begun rest s :=
      ⟨hprogress, hdrop, by rw [Frame.bytes, hf.space, htext]; rfl, hbegun⟩
    obtain ⟨s', hs', hprogress'⟩ := read_progress writeJson (fun g hg => (hframes g hg).valid)
      (fun g hg => (hframes g hg).message) hprogress (hhalf.isPrefix n)
    rw [hhalf.completed (fun g hg => (hfs g hg).valid) hle] at hprogress'
    refine ⟨s', hs', ?_⟩
    by_cases hwhole : n = rest.length
    · rw [if_pos hwhole, Nat.min_self, hwhole, List.take_length] at hprogress'
      obtain ⟨hbuffer, hdrop'⟩ := hhalf.buffer_whole hprogress'
      rw [if_pos hwhole]
      refine ⟨_, _, hprogress', ?_⟩
      rw [hbuffer, hdrop', hmap]
      refine unread_all fun text htext => ?_
      rw [← hmap] at htext
      obtain ⟨g, hg, rfl⟩ := List.mem_map.mp htext
      exact (hfs g hg).text_ne_nil
    · rw [if_neg hwhole, Nat.min_eq_right (Nat.le_succ d)] at hprogress'
      rw [if_neg hwhole]
      refine ⟨_, _, hprogress', ?_⟩
      have hsplit : begun ++ rest = (begun ++ rest.take n) ++ rest.drop n := by
        rw [List.append_assoc, List.take_append_drop]
      rw [hhalf.buffer_part hprogress', hdrop, List.map_cons, htext, hmap, hsplit]
      refine .first texts ?_
      rw [Ne, List.drop_eq_nil_iff]
      omega

/-- **What has arrived whole has been dispatched**, each once and in order, and the session goes
    on reading. -/
theorem Arrived.dispatched (h : Arrived frames unread s) :
    s.reading = true ∧ ∃ k, k + unread.length = frames.length ∧
      s.dispatched = (frames.take k).map fun f => dispatchedFor f.value := by
  obtain ⟨received, d, hprogress, hunread⟩ := h
  refine ⟨hprogress.reading, d, ?_, hprogress.dispatched⟩
  have hbound := hprogress.bound
  rw [hunread.length_eq, List.length_map, List.length_drop]
  omega

end ControlSession

end TunnelBore.Broker
