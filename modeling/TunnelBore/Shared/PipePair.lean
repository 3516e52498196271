import TunnelBore.Lib.Run
import TunnelBore.Shared.PipeOperation

namespace TunnelBore

open TunnelBore.Lib

/-!
# The two pipes of a linked pair

Two sessions A and B are linked by two `PipeOperation`s, one from A to B and one from B to A.
When a direction has ended and its last chunk is written, its pipe closes both sessions, and
`close` shuts their sockets down in both directions.

Nothing goes wrong here but the order of completions: a read ends with a chunk or with the end
of the stream, and `async_write` completes when everything is written.

* `PipeOperation.Present` — the two sessions and the operation exist;
* `PipeOperation.Present.orderly` — what a completion does then;
* `shutdown_delivers_iff` — when a socket is shut down everything that was read has been
  accepted, exactly if no direction ends while a write of the other one is outstanding.
-/

namespace PipeOperation

/-- The sessions and the operation exist. -/
structure Present (p : PipeOperation) : Prop where
  operation : p.alive = true
  original : p.sideOriginal.alive = true
  other : p.sideOther.alive = true

/-- A completion without a transport error: the error code of a read says that the stream has
    ended, and a write is complete. -/
def orderly (p : PipeOperation) : Event → Bool
  | .doPipe | .readDone _ _ => true
  | .writeDone ec bytesWritten =>
    match p.pending with
    | .write _ amount _ _ => !ec && bytesWritten == amount
    | _ => false
  | _ => false

/-- The completion is the last one of this direction. -/
def ends (p : PipeOperation) : Event → Bool
  | .readDone _ chunk => chunk.isEmpty
  | .writeDone _ _ =>
    match p.pending with
    | .write _ _ close _ => close
    | _ => false
  | _ => false

/-- A write is outstanding. -/
def writing (p : PipeOperation) : Bool :=
  match p.pending with
  | .write _ _ _ _ => true
  | _ => false

variable {p p' : PipeOperation} {e : Event}

/-- What a completion without a transport error leaves behind. -/
structure Orderly (p : PipeOperation) (e : Event) (p' : PipeOperation) : Prop where
  present : p'.Present
  /-- The sides are closed by the last completion of the direction, and by no other. -/
  closes : p'.SomeSideClosed ↔ p.SomeSideClosed ∨ p.ends e = true
  /-- Before, another operation is started. -/
  goesOn : p'.pending = .none → p.ends e = true
  /-- By then no write is outstanding and everything read has been accepted. -/
  flushed : p.ends e = true → p'.pending = .none ∧ p'.accepted = p'.chunks.flatten

theorem Present.closeSides (h : p.Present) : p.closeSides.Present :=
  ⟨h.operation, h.original, h.other⟩

/-- Sides that exist are closed. -/
theorem Present.someSideClosed (h : p.Present) : p.closeSides.SomeSideClosed := by
  refine .inl ?_
  show (p.sideOriginal.closed || p.sideOriginal.alive) = true
  rw [h.original, Bool.or_true]

/-- A completion that starts another operation. -/
theorem Orderly.of_started (h : p'.Present) (horiginal : p'.sideOriginal = p.sideOriginal)
    (hother : p'.sideOther = p.sideOther) (hbusy : p'.pending ≠ .none)
    (hends : p.ends e = false) : Orderly p e p' where
  present := h
  closes := by
    unfold SomeSideClosed
    rw [horiginal, hother, hends]
    simp
  goesOn hnone := absurd hnone hbusy
  flushed hend := by
    rw [hends] at hend
    cases hend

/-- A completion that closes the sides when nothing is owed. -/
theorem Orderly.of_closed (h : p'.Present) (hidle : p'.pending = .none)
    (hflushed : p'.accepted = p'.chunks.flatten) (hends : p.ends e = true) :
    Orderly p e p'.closeSides where
  present := h.closeSides
  closes := iff_of_true h.someSideClosed (.inr hends)
  goesOn _ := hends
  flushed _ := ⟨hidle, hflushed⟩

/-- A chunk that was read is written; the end of the stream closes the sides. -/
theorem Present.orderly_readDone (h : p.Present) (hp : p.Piping) {ec : Bool} {chunk : Bytes}
    (hread : p.pending = .read) (hfit : chunk.length ≤ p.buffer.length) :
    Orderly p (.readDone ec chunk) (p.onRead ec chunk) := by
  have htaken : ((p.fill chunk).takeIn chunk).Present := ⟨h.operation, h.original, h.other⟩
  have hon : p.onRead ec chunk = ((p.fill chunk).takeIn chunk).write chunk.length ec := by
    unfold onRead
    rw [h.operation, h.original]
    rfl
  have hroom : ¬chunk.length > ((p.fill chunk).takeIn chunk).buffer.length := by
    show ¬chunk.length > (p.fill chunk).buffer.length
    rw [length_fill hfit]
    omega
  rw [hon]
  cases chunk with
  | nil =>
    -- the end of the stream: nothing is owed
    have hflushed : p.accepted = p.chunks.flatten := hp.forwardsExactly.reads hread
    have hwrite : ((p.fill []).takeIn []).write 0 ec = ((p.fill []).takeIn []).closeSides := by
      simp [write]
    show Orderly p (.readDone ec []) (((p.fill []).takeIn []).write 0 ec)
    rw [hwrite]
    refine .of_closed htaken rfl ?_ rfl
    show p.accepted = (p.chunks ++ [[]]).flatten
    rw [List.flatten_concat, List.append_nil]
    exact hflushed
  | cons c cs =>
    have hwrite : ((p.fill (c :: cs)).takeIn (c :: cs)).write (c :: cs).length ec =
        ((p.fill (c :: cs)).takeIn (c :: cs)).issueWrite
          ⟨((p.fill (c :: cs)).takeIn (c :: cs)).chunks.length - 1, 0, (c :: cs).length⟩
          ec 0 := by
      unfold write
      rw [if_neg (by omega), if_neg (by simpa using hroom)]
      exact if_neg (by simp [htaken.other])
    rw [hwrite]
    refine .of_started ⟨htaken.operation, htaken.original, htaken.other⟩ rfl rfl ?_ rfl
    exact fun hnone => by cases hnone

/-- A slice that was written is followed by a read, or closes the sides. -/
theorem Present.orderly_writeDone (h : p.Present) (hp : p.Piping)
    {offset amount retries : Nat} {close : Bool}
    (hpending : p.pending = .write offset amount close retries) :
    Orderly p (.writeDone false amount) (p.onWrite offset amount close retries false amount) := by
  obtain ⟨a, -, ha⟩ := hp.refines
  have hpassed : (p.passOn offset amount amount).Present := ⟨h.operation, h.original, h.other⟩
  have hends : p.ends (.writeDone false amount) = close := by
    simp only [ends, hpending]
  have hon : p.onWrite offset amount close retries false amount =
      if close then (p.passOn offset amount amount).closeSides
      else (p.passOn offset amount amount).read := by
    simp [onWrite, h.operation]
  rw [hon]
  cases close with
  | true =>
    -- this was the last chunk
    have hall := ha.all_accepted hpending (Nat.le_refl amount)
    exact .of_closed hpassed rfl hall hends
  | false =>
    have hread : (p.passOn offset amount amount).read =
        { p.passOn offset amount amount with pending := .read } := if_pos hpassed.original
    simp only [Bool.false_eq_true, if_false]
    rw [hread]
    refine .of_started ⟨h.operation, h.original, h.other⟩ rfl rfl ?_ hends
    exact fun hnone => by cases hnone

/-- **One completion** of a pipe whose sessions exist. -/
theorem Present.orderly (h : p.Present) (hp : p.Piping) (horderly : p.orderly e = true)
    (hstep : p.step e = some p') : Orderly p e p' := by
  cases e with
  | doPipe =>
    simp only [PipeOperation.step, Option.ite_none_right_eq_some, Option.some.injEq] at hstep
    obtain ⟨-, rfl⟩ := hstep
    have hread : p.read = { p with pending := .read } := if_pos h.original
    rw [hread]
    refine .of_started ⟨h.operation, h.original, h.other⟩ rfl rfl ?_ rfl
    exact fun hnone => by cases hnone
  | readDone ec chunk =>
    simp only [PipeOperation.step, Option.ite_none_right_eq_some, Option.some.injEq] at hstep
    obtain ⟨⟨hread, hfit⟩, rfl⟩ := hstep
    exact h.orderly_readDone hp hread hfit
  | writeDone ec bytesWritten =>
    simp only [PipeOperation.step] at hstep
    split at hstep
    · next offset amount close retries hpending =>
      obtain rfl := Option.some.inj hstep
      simp only [PipeOperation.orderly, hpending, Bool.and_eq_true, Bool.not_eq_true',
        beq_iff_eq] at horderly
      obtain ⟨rfl, rfl⟩ := horderly
      exact h.orderly_writeDone hp hpending
    · cases hstep
  | originalDied => cases horderly
  | otherDied => cases horderly
  | destroyed => cases horderly

/-- A pipe that is not writing owes nothing. -/
structure Settled (p : PipeOperation) : Prop where
  piping : p.Piping
  idle : p.pending = .none → p.accepted = p.chunks.flatten

theorem Settled.flushed (hp : p.Settled) (h : p.writing = false) :
    p.accepted = p.chunks.flatten := by
  cases hpending : p.pending with
  | none => exact hp.idle hpending
  | read => exact hp.piping.forwardsExactly.reads hpending
  | write => simp [writing, hpending] at h

theorem Orderly.settled (h : Orderly p e p') (hp : p.Piping) (hstep : p.step e = some p') :
    p'.Settled where
  piping := hp.step hstep
  idle hnone := (h.flushed (h.goesOn hnone)).2

end PipeOperation

/-! ### The pair -/

/-- The two directions of a tunnel. -/
inductive Way
  | aToB
  | bToA
  deriving DecidableEq, Repr

/-- The other direction. -/
def Way.opposite : Way → Way
  | .aToB => .bToA
  | .bToA => .aToB

/-- The two pipes of a linked pair; neither has been started. -/
structure PipePair where
  pipe : Way → PipeOperation := fun _ => {}

namespace PipePair

/-- `close` was called on session A, so that its socket is shut down. -/
def shutA (x : PipePair) : Bool :=
  (x.pipe .aToB).sideOriginal.closed || (x.pipe .bToA).sideOther.closed

/-- The same for session B. -/
def shutB (x : PipePair) : Bool :=
  (x.pipe .aToB).sideOther.closed || (x.pipe .bToA).sideOriginal.closed

/-- A completion of one of the pipes; `none` when it cannot happen.  The run ends with the
    shutdown, since all that completes later completes with an error. -/
def step (x : PipePair) (event : Way × PipeOperation.Event) : Option PipePair :=
  if x.shutA || x.shutB then none
  else if (x.pipe event.1).orderly event.2 then
    ((x.pipe event.1).step event.2).map fun p => ⟨Function.update x.pipe event.1 p⟩
  else none

/-- Everything the pipes have read has been accepted, and no write is outstanding. -/
structure Delivered (x : PipePair) : Prop where
  accepted : ∀ way, (x.pipe way).accepted = (x.pipe way).chunks.flatten
  idle : ∀ way, (x.pipe way).writing = false

/-- The condition: a direction ends while the other one has no write outstanding. -/
def Quiet (x : PipePair) (event : Way × PipeOperation.Event) : Prop :=
  (x.pipe event.1).ends event.2 = true → (x.pipe event.1.opposite).writing = false

instance (x : PipePair) (event : Way × PipeOperation.Event) : Decidable (x.Quiet event) :=
  inferInstanceAs (Decidable (_ → _))

variable {x y : PipePair} {event : Way × PipeOperation.Event}

/-- A socket is shut down when a pipe has closed a side. -/
theorem shut_iff (x : PipePair) :
    (x.shutA || x.shutB) = true ↔ ∃ way, (x.pipe way).SomeSideClosed := by
  unfold shutA shutB
  simp only [Bool.or_eq_true]
  constructor
  · rintro ((h | h) | (h | h))
    · exact ⟨.aToB, .inl h⟩
    · exact ⟨.bToA, .inr h⟩
    · exact ⟨.aToB, .inr h⟩
    · exact ⟨.bToA, .inl h⟩
  · rintro ⟨way, h⟩
    cases way with
    | aToB => exact h.imp .inl .inl
    | bToA => exact h.symm.imp .inr .inr

/-- What a run keeps. -/
structure Linked (x : PipePair) : Prop where
  present : ∀ way, (x.pipe way).Present
  settled : ∀ way, (x.pipe way).Settled

theorem linked_empty : Linked {} where
  present _ := ⟨rfl, rfl, rfl⟩
  settled _ := ⟨PipeOperation.piping_empty, fun _ => rfl⟩

/-- A step is a completion of one pipe of a pair that is not shut down. -/
theorem step_eq_some (h : x.step event = some y) :
    (x.shutA || x.shutB) = false ∧ (x.pipe event.1).orderly event.2 = true ∧
      ∃ p, (x.pipe event.1).step event.2 = some p ∧ y = ⟨Function.update x.pipe event.1 p⟩ := by
  unfold step at h
  split at h
  · cases h
  · next hopen =>
    split at h
    · next horderly =>
      obtain ⟨p, hp, rfl⟩ := Option.map_eq_some_iff.mp h
      exact ⟨by simpa using hopen, horderly, p, hp, rfl⟩
    · cases h

/-- **Every completion keeps both pipes**, and shuts the sockets down if it is the last one of
    its direction. -/
theorem Linked.step (hx : x.Linked) (h : x.step event = some y) :
    y.Linked ∧ ((y.shutA || y.shutB) = true ↔ (x.pipe event.1).ends event.2 = true) ∧
      ((x.pipe event.1).ends event.2 = true →
        (y.pipe event.1).accepted = (y.pipe event.1).chunks.flatten ∧
          (y.pipe event.1).writing = false) ∧
      y.pipe event.1.opposite = x.pipe event.1.opposite := by
  obtain ⟨hopen, horderly, p, hp, rfl⟩ := step_eq_some h
  obtain ⟨way, e⟩ := event
  have hdone := (hx.present way).orderly (hx.settled way).piping horderly hp
  have hclosed : ∀ w, ¬(x.pipe w).SomeSideClosed := fun w hw => by
    have hshut := (shut_iff x).mpr ⟨w, hw⟩
    rw [hopen] at hshut
    cases hshut
  have hpresent : ∀ w, (Function.update x.pipe way p w).Present := by
    rw [Function.forall_update_iff x.pipe fun _ q => q.Present]
    exact ⟨hdone.present, fun w _ => hx.present w⟩
  have hsettled : ∀ w, (Function.update x.pipe way p w).Settled := by
    rw [Function.forall_update_iff x.pipe fun _ q => q.Settled]
    exact ⟨hdone.settled (hx.settled way).piping hp, fun w _ => hx.settled w⟩
  refine ⟨⟨hpresent, hsettled⟩, ?_, fun hend => ?_, ?_⟩
  · rw [shut_iff]
    show (∃ w, (Function.update x.pipe way p w).SomeSideClosed) ↔ _
    rw [Function.exists_update_iff x.pipe fun _ q => q.SomeSideClosed, hdone.closes]
    -- no pipe had closed a side before
    constructor
    · rintro ((hclosedBefore | hend) | ⟨w, -, hw⟩)
      · exact absurd hclosedBefore (hclosed way)
      · exact hend
      · exact absurd hw (hclosed w)
    · exact fun hend => .inl (.inr hend)
  · show (Function.update x.pipe way p way).accepted =
      (Function.update x.pipe way p way).chunks.flatten ∧
      (Function.update x.pipe way p way).writing = false
    obtain ⟨hnone, hflushed⟩ := hdone.flushed hend
    rw [Function.update_self]
    refine ⟨hflushed, ?_⟩
    unfold PipeOperation.writing
    rw [hnone]
  · show Function.update x.pipe way p way.opposite = x.pipe way.opposite
    apply Function.update_of_ne
    cases way <;> decide

/-- Every way is the one of an event or its opposite. -/
theorem forall_way {P : Way → Prop} (way : Way) : (∀ w, P w) ↔ P way ∧ P way.opposite := by
  constructor
  · exact fun h => ⟨h way, h way.opposite⟩
  · rintro ⟨hself, hother⟩ w
    cases way <;> cases w <;> assumption

/-- **An orderly end drops nothing exactly when it is quiet.**  Along a run without transport
    errors, whenever a socket is shut down everything that either pipe has read has been accepted
    and no write is outstanding, if and only if no direction ends while a write of the other one
    is outstanding. -/
theorem shutdown_delivers_iff {events : List (Way × PipeOperation.Event)}
    (hrun : run step {} events = some y) :
    (∀ k u, run step {} (events.take k) = some u → (u.shutA || u.shutB) = true → u.Delivered) ↔
      Along step Quiet {} events := by
  have hexact : (∀ k u, run step {} (events.take k) = some u →
      u.Linked ∧ ((u.shutA || u.shutB) = true → u.Delivered)) ↔ Along step Quiet {} events := by
    refine run_exact (I := fun x => x.Linked ∧ ((x.shutA || x.shutB) = true → x.Delivered))
      (A := fun _ => True) ?_ ⟨linked_empty, fun h => by cases h⟩ (fun _ _ => trivial) hrun
    rintro x event y ⟨hx, -⟩ - h
    obtain ⟨hy, hshut, hself, hother⟩ := hx.step h
    rw [and_iff_right hy, hshut]
    refine imp_congr_right fun hend => ?_
    obtain ⟨haccepted, hidle⟩ := hself hend
    -- its own direction is flushed, so only the other one matters
    constructor
    · intro hdelivered
      rw [← hother]
      exact hdelivered.idle _
    · intro hquiet
      rw [← hother] at hquiet
      exact ⟨(forall_way event.1).mpr ⟨haccepted, (hy.settled _).flushed hquiet⟩,
        (forall_way event.1).mpr ⟨hidle, hquiet⟩⟩
  rw [← hexact]
  constructor
  · intro hall k u hu
    exact ⟨run_preserves (fun _ _ _ hx h => (hx.step h).1) linked_empty hu, hall k u hu⟩
  · exact fun hall k u hu => (hall k u hu).2

/-- Both pipes are started, and A's first chunk is read. -/
def eventsChunk : List (Way × PipeOperation.Event) :=
  [(.aToB, .doPipe), (.bToA, .doPipe), (.aToB, .readDone false (asciiString "x"))]

/-- B's stream ends after the chunk was written. -/
def eventsQuiet : List (Way × PipeOperation.Event) :=
  eventsChunk ++ [(.aToB, .writeDone false 1), (.bToA, .readDone true [])]

/-- B's stream ends while the chunk is written. -/
def eventsCut : List (Way × PipeOperation.Event) :=
  eventsChunk ++ [(.bToA, .readDone true [])]

/-- A quiet end: the chunk is delivered. -/
theorem shutdown_delivers_quiet :
    ∃ y, run step {} eventsQuiet = some y ∧ Along step Quiet {} eventsQuiet ∧
      ∀ k u, run step {} (eventsQuiet.take k) = some u → (u.shutA || u.shutB) = true →
        u.Delivered := by
  have hrun : ∃ y, run step {} eventsQuiet = some y :=
    ⟨_, Option.eq_some_of_isSome (by decide +kernel)⟩
  obtain ⟨y, hrun⟩ := hrun
  have hquiet : Along step Quiet {} eventsQuiet := by decide +kernel
  exact ⟨y, hrun, hquiet, (shutdown_delivers_iff hrun).mpr hquiet⟩

/-- An end that is not: both sockets are shut down, and the chunk is lost on the way to B. -/
theorem shutdown_cuts :
    ∃ y, run step {} eventsCut = some y ∧ y.shutA = true ∧ y.shutB = true ∧
      (y.pipe .aToB).writing = true ∧ (y.pipe .aToB).chunks.flatten = asciiString "x" ∧
      (y.pipe .aToB).accepted = [] :=
  ⟨_, Option.eq_some_of_isSome (by decide +kernel), by decide +kernel, by decide +kernel,
    by decide +kernel, by decide +kernel, by decide +kernel⟩

end PipePair

end TunnelBore
