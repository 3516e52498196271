import TunnelBore.Lib.Relay
import TunnelBore.Lib.Run
import TunnelBore.Shared.Bytes
import TunnelBore.Shared.MemoryUnit

namespace TunnelBore

open TunnelBore.Lib

/-!
# `PipeOperation`: one direction of a tunnel

A pipe reads a chunk from `sideOriginal` into its 4096 byte buffer and writes it to `sideOther`,
in several writes if a completion reports fewer bytes than it was asked for; then it reads
again.  The two sides and the operation itself are held by weak pointers, so that each of them
can be gone when a completion handler runs.

* `Refines.preserved`: every completion is a move of a `Relay`, so what `sideOther` accepts is a
  prefix of what was read;
* `Counted`: how often a chunk is written, and where in the chunk each write lies;
* `Closing`: when the pipe closes the sides;
* `forwards_exactly` puts these together for every run.
-/

/-- What a pipe sees of one of its sides: whether the session still exists, and whether the
    pipe (or its destructor) called `close` on it. -/
structure Side where
  alive : Bool := true
  closed : Bool := false
  deriving DecidableEq, Repr

/-- `side->close()`, if the weak pointer can be locked. -/
def Side.close (side : Side) : Side :=
  { side with closed := side.closed || side.alive }

/-- The asynchronous operation whose completion handler has not run yet. -/
inductive Pending
  | none
  | read
  | write (cumulativeOffset bytesTransferred : Nat) (close : Bool) (retries : Nat)
  deriving DecidableEq, Repr

/-- One call of `async_write`: the slice of the buffer, and which chunk the buffer held. -/
structure IssuedWrite where
  chunk : Nat
  offset : Nat
  amount : Nat
  deriving DecidableEq, Repr

/-- `PipeOperation`, its `State`, and the record of a run: the chunks that the pipe's read
    handler took in, the bytes that `sideOther` accepted, and the writes that were issued. -/
structure PipeOperation where
  buffer : Bytes := List.replicate 4096 0
  totalTransfer : MemoryUnit := .ofNat 0
  sideOriginal : Side := {}
  sideOther : Side := {}
  alive : Bool := true
  pending : Pending := .none
  chunks : List Bytes := []
  accepted : Bytes := []
  issued : List IssuedWrite := []
  deriving DecidableEq

namespace PipeOperation

/-- Both sides are closed, as far as they exist. -/
def closeSides (p : PipeOperation) : PipeOperation :=
  { p with sideOriginal := p.sideOriginal.close, sideOther := p.sideOther.close }

/-- The bytes `buffer.data() + offset .. + amount`. -/
def slice (p : PipeOperation) (offset amount : Nat) : Bytes :=
  (p.buffer.drop offset).take amount

/-- `PipeOperation::read`. -/
def read (p : PipeOperation) : PipeOperation :=
  if p.sideOriginal.alive then { p with pending := .read } else p

/-- The call of `async_write`. -/
def issueWrite (p : PipeOperation) (w : IssuedWrite) (close : Bool) (retries : Nat) :
    PipeOperation :=
  { p with pending := .write w.offset w.amount close retries, issued := w :: p.issued }

/-- `PipeOperation::write`. -/
def write (p : PipeOperation) (bytesTransferred : Nat) (close : Bool)
    (cumulativeOffset : Nat := 0) (retries : Nat := 0) : PipeOperation :=
  if retries > 10 then p.closeSides
  else if bytesTransferred > p.buffer.length || bytesTransferred == 0 then p.closeSides
  else if !p.sideOther.alive then p
  else p.issueWrite ⟨p.chunks.length - 1, cumulativeOffset, bytesTransferred⟩ close retries

/-- The socket has put a chunk into the buffer. -/
def fill (p : PipeOperation) (chunk : Bytes) : PipeOperation :=
  { p with pending := .none, buffer := chunk ++ p.buffer.drop chunk.length }

/-- The read handler counts the chunk; from here on it is read by the pipe. -/
def takeIn (p : PipeOperation) (chunk : Bytes) : PipeOperation :=
  { p with
    totalTransfer := p.totalTransfer.addAssign chunk.length
    chunks := p.chunks ++ [chunk] }

/-- The socket has accepted the first `bytesWritten` bytes of a slice. -/
def passOn (p : PipeOperation) (offset amount bytesWritten : Nat) : PipeOperation :=
  { p with
    pending := .none
    accepted := p.accepted ++ (p.slice offset amount).take bytesWritten }

/-- The completion handler of `async_read_some`.  One that finds the operation gone does
    nothing: the chunk stays in the buffer. -/
def onRead (p : PipeOperation) (ec : Bool) (chunk : Bytes) : PipeOperation :=
  if !p.alive then p.fill chunk
  else if !p.sideOriginal.alive then (p.fill chunk).takeIn chunk
  else ((p.fill chunk).takeIn chunk).write chunk.length ec

/-- The completion handler of `async_write`.  The socket has accepted bytes also if the
    operation is gone. -/
def onWrite (p : PipeOperation) (cumulativeOffset expectedWrittenAmount : Nat) (close : Bool)
    (retries : Nat) (ec : Bool) (bytesWritten : Nat) : PipeOperation :=
  if !p.alive then p.passOn cumulativeOffset expectedWrittenAmount bytesWritten
  else if bytesWritten > expectedWrittenAmount then
    (p.passOn cumulativeOffset expectedWrittenAmount bytesWritten).closeSides
  else if expectedWrittenAmount != bytesWritten then
    (p.passOn cumulativeOffset expectedWrittenAmount bytesWritten).write
      (expectedWrittenAmount - bytesWritten) close (cumulativeOffset + bytesWritten) (retries + 1)
  else if ec || close then
    (p.passOn cumulativeOffset expectedWrittenAmount bytesWritten).closeSides
  else (p.passOn cumulativeOffset expectedWrittenAmount bytesWritten).read

/-- What can happen to a pipe. -/
inductive Event
  /-- `doPipe`, called once after the construction. -/
  | doPipe
  /-- The read completes, with an error code or without. -/
  | readDone (ec : Bool) (chunk : Bytes)
  /-- The write completes, with an error code or without. -/
  | writeDone (ec : Bool) (bytesWritten : Nat)
  /-- The session the pipe reads from is destroyed. -/
  | originalDied
  /-- The session the pipe writes to is destroyed. -/
  | otherDied
  /-- The last pointer to the operation is released: its destructor closes the sides. -/
  | destroyed
  deriving DecidableEq, Repr

/-- One event; `none` when it cannot happen. -/
def step (p : PipeOperation) : Event → Option PipeOperation
  | .doPipe => if p.pending = .none ∧ p.chunks = [] ∧ p.alive = true then some p.read else none
  | .readDone ec chunk =>
    if p.pending = .read ∧ chunk.length ≤ p.buffer.length then some (p.onRead ec chunk) else none
  | .writeDone ec bytesWritten =>
    match p.pending with
    | .write offset amount close retries =>
      some (p.onWrite offset amount close retries ec bytesWritten)
    | _ => none
  | .originalDied => some { p with sideOriginal := { p.sideOriginal with alive := false } }
  | .otherDied => some { p with sideOther := { p.sideOther with alive := false } }
  | .destroyed => if p.alive then some { p.closeSides with alive := false } else none

/-- The bytes of the write that is under way. -/
def outgoing (p : PipeOperation) : Bytes :=
  match p.pending with
  | .write offset amount _ _ => p.slice offset amount
  | _ => []

/-- How many writes were issued for a chunk. -/
def writesOf (p : PipeOperation) (chunk : Nat) : Nat :=
  p.issued.countP (·.chunk == chunk)

/-- How many writes were issued for the last chunk. -/
def lastWrites (p : PipeOperation) : Nat :=
  p.writesOf (p.chunks.length - 1)

/-- Every side that still exists was closed. -/
def LiveSidesClosed (p : PipeOperation) : Prop :=
  (p.sideOriginal.alive = true → p.sideOriginal.closed = true) ∧
    (p.sideOther.alive = true → p.sideOther.closed = true)

/-- The pipe called `close` on a side. -/
def SomeSideClosed (p : PipeOperation) : Prop :=
  p.sideOriginal.closed = true ∨ p.sideOther.closed = true

/-! ### What an event can do -/

variable {p p' : PipeOperation} {e : Event}

/-- A read is started unless the session to read from is gone. -/
theorem read_cases (p : PipeOperation) : p.read = { p with pending := .read } ∨ p.read = p := by
  unfold read
  cases p.sideOriginal.alive with
  | false => exact .inr rfl
  | true => exact .inl rfl

/-- A write of what fits into the buffer closes the sides if there is nothing to write or it is
    the eleventh retry; else it is issued, unless the session to write to is gone. -/
theorem write_cases {n : Nat} (hn : n ≤ p.buffer.length) (close : Bool) (offset retries : Nat) :
    (p.write n close offset retries = p.closeSides ∧ (10 < retries ∨ n = 0)) ∨
      retries ≤ 10 ∧ (p.write n close offset retries = p ∨
        p.write n close offset retries =
          p.issueWrite ⟨p.chunks.length - 1, offset, n⟩ close retries) := by
  unfold write
  split
  · next h => exact .inl ⟨rfl, .inl h⟩
  · next h =>
    split
    · next h' =>
      simp only [Bool.or_eq_true, decide_eq_true_eq, beq_iff_eq] at h'
      exact .inl ⟨rfl, .inr (by omega)⟩
    · split
      · exact .inr ⟨by omega, .inl rfl⟩
      · exact .inr ⟨by omega, .inr rfl⟩

/-- Everything an event can do to a pipe whose buffer has its 4096 bytes and holds the slice of
    the write under way. -/
inductive Move (p : PipeOperation) : PipeOperation → Prop
  /-- `doPipe` finds the session to read from gone. -/
  | stay : Move p p
  /-- `doPipe` starts the first read. -/
  | start (hidle : p.pending = .none) (hfirst : p.chunks = []) (halive : p.alive = true) :
      Move p { p with pending := .read }
  /-- A chunk arrives when the operation is gone. -/
  | discard (chunk : Bytes) (hread : p.pending = .read) (hfit : chunk.length ≤ p.buffer.length)
      (hgone : p.alive = false) : Move p (p.fill chunk)
  /-- A chunk is taken in, but one of the sessions is gone. -/
  | strand (chunk : Bytes) (hread : p.pending = .read) (hfit : chunk.length ≤ p.buffer.length)
      (halive : p.alive = true) : Move p ((p.fill chunk).takeIn chunk)
  /-- An empty chunk is taken in: the stream has ended. -/
  | finish (hread : p.pending = .read) (halive : p.alive = true) :
      Move p ((p.fill []).takeIn []).closeSides
  /-- A chunk is taken in and its first write issued. -/
  | issue (chunk : Bytes) (close : Bool) (hread : p.pending = .read)
      (hfit : chunk.length ≤ p.buffer.length) (halive : p.alive = true) :
      Move p (((p.fill chunk).takeIn chunk).issueWrite ⟨p.chunks.length, 0, chunk.length⟩ close 0)
  /-- A write completes when the operation is gone. -/
  | late (offset amount : Nat) (close : Bool) (retries n : Nat)
      (hwrite : p.pending = .write offset amount close retries) (hgone : p.alive = false) :
      Move p (p.passOn offset amount n)
  /-- A write completes in full, and the sides are closed. -/
  | close (offset amount : Nat) (close : Bool) (retries n : Nat)
      (hwrite : p.pending = .write offset amount close retries) (hfull : amount ≤ n)
      (halive : p.alive = true) : Move p (p.passOn offset amount n).closeSides
  /-- The tenth retry completes in part: the pipe gives up. -/
  | giveUp (offset amount : Nat) (close : Bool) (n : Nat)
      (hwrite : p.pending = .write offset amount close 10) (hpart : n < amount)
      (halive : p.alive = true) : Move p (p.passOn offset amount n).closeSides
  /-- A write completes in part, and the session to write to is gone. -/
  | stall (offset amount : Nat) (close : Bool) (retries n : Nat)
      (hwrite : p.pending = .write offset amount close retries) (hpart : n < amount)
      (hleft : retries < 10) (halive : p.alive = true) : Move p (p.passOn offset amount n)
  /-- A write completes in part, and the rest is written. -/
  | retry (offset amount : Nat) (close : Bool) (retries n : Nat)
      (hwrite : p.pending = .write offset amount close retries) (hpart : n < amount)
      (hleft : retries < 10) (halive : p.alive = true) :
      Move p ((p.passOn offset amount n).issueWrite
        ⟨p.chunks.length - 1, offset + n, amount - n⟩ close (retries + 1))
  /-- A write completes in full, and the next read is started. -/
  | next (offset amount : Nat) (close : Bool) (retries : Nat)
      (hwrite : p.pending = .write offset amount close retries) (halive : p.alive = true) :
      Move p { p.passOn offset amount amount with pending := .read }
  /-- A write completes in full, and the session to read from is gone. -/
  | rest (offset amount : Nat) (close : Bool) (retries : Nat)
      (hwrite : p.pending = .write offset amount close retries) (halive : p.alive = true) :
      Move p (p.passOn offset amount amount)
  /-- The session to read from is destroyed. -/
  | originalDied : Move p { p with sideOriginal := { p.sideOriginal with alive := false } }
  /-- The session to write to is destroyed. -/
  | otherDied : Move p { p with sideOther := { p.sideOther with alive := false } }
  /-- The operation is destroyed. -/
  | destroyed : Move p { p.closeSides with alive := false }

/-- The buffer keeps its size, and a write under way is the rest of the last chunk, which the
    buffer starts with. -/
structure Located (p : PipeOperation) : Prop where
  size : p.buffer.length = 4096
  writing : ∀ offset amount close retries, p.pending = .write offset amount close retries →
    ∃ chunk, p.chunks.getLast? = some chunk ∧ p.buffer.take chunk.length = chunk ∧
      offset + amount = chunk.length ∧ retries ≤ 10

/-- The size of the buffer does not change when a chunk is put into it. -/
theorem length_fill {chunk : Bytes} (h : chunk.length ≤ p.buffer.length) :
    (p.fill chunk).buffer.length = p.buffer.length := by
  show (chunk ++ p.buffer.drop chunk.length).length = p.buffer.length
  simp only [List.length_append, List.length_drop]
  omega

/-- A write under way is part of the buffer. -/
theorem Located.amount_le (hp : Located p) {offset amount retries : Nat} {close : Bool}
    (h : p.pending = .write offset amount close retries) : offset + amount ≤ p.buffer.length := by
  obtain ⟨chunk, -, htake, hrest, -⟩ := hp.writing _ _ _ _ h
  have := congrArg List.length htake
  rw [List.length_take] at this
  omega

/-- **The read handler.** -/
theorem move_onRead {chunk : Bytes} (ec : Bool) (hread : p.pending = .read)
    (hfit : chunk.length ≤ p.buffer.length) : Move p (p.onRead ec chunk) := by
  unfold onRead
  cases halive : p.alive with
  | false => exact .discard chunk hread hfit halive
  | true =>
    cases p.sideOriginal.alive with
    | false => exact .strand chunk hread hfit halive
    | true =>
      have hfilled : chunk.length ≤ ((p.fill chunk).takeIn chunk).buffer.length := by
        show chunk.length ≤ (p.fill chunk).buffer.length
        rw [length_fill hfit]
        exact hfit
      show Move p (((p.fill chunk).takeIn chunk).write chunk.length ec)
      rcases write_cases hfilled ec 0 0 with ⟨hwrite, hnone⟩ | ⟨-, hwrite | hwrite⟩
      · -- there is nothing to write
        rw [hwrite]
        obtain rfl : chunk = [] := List.eq_nil_of_length_eq_zero (by omega)
        exact .finish hread halive
      · rw [hwrite]
        exact .strand chunk hread hfit halive
      · rw [hwrite]
        have hlast : ((p.fill chunk).takeIn chunk).chunks.length - 1 = p.chunks.length := by
          show (p.chunks ++ [chunk]).length - 1 = p.chunks.length
          simp
        rw [hlast]
        exact .issue chunk ec hread hfit halive

/-- **The write handler.** -/
theorem Located.move_onWrite (hp : Located p) {offset amount retries : Nat} {close : Bool}
    (hpending : p.pending = .write offset amount close retries) (ec : Bool) (written : Nat) :
    Move p (p.onWrite offset amount close retries ec written) := by
  unfold onWrite
  cases halive : p.alive with
  | false => exact .late offset amount close retries written hpending halive
  | true =>
    simp only [Bool.not_true, Bool.false_eq_true, if_false]
    split
    · next hmore => exact .close offset amount close retries written hpending (by omega) halive
    · next hle =>
      split
      · next hne =>
        -- the rest is to be written
        have hpart : written < amount := by
          simp only [bne_iff_ne, ne_eq] at hne
          omega
        have hfit : amount - written ≤ (p.passOn offset amount written).buffer.length := by
          have := hp.amount_le hpending
          show amount - written ≤ p.buffer.length
          omega
        obtain ⟨-, -, -, -, hretries⟩ := hp.writing _ _ _ _ hpending
        rcases write_cases hfit close (offset + written) (retries + 1) with
          ⟨hwrite, hnone⟩ | ⟨hleft, hwrite | hwrite⟩
        · rw [hwrite]
          obtain rfl : retries = 10 := by omega
          exact .giveUp offset amount close written hpending hpart halive
        · rw [hwrite]
          exact .stall offset amount close retries written hpending hpart (by omega) halive
        · rw [hwrite]
          exact .retry offset amount close retries written hpending hpart (by omega) halive
      · next heq =>
        obtain rfl : amount = written := by simpa using heq
        split
        · exact .close offset amount close retries amount hpending (Nat.le_refl _) halive
        · -- everything is written, and the next read is due
          rcases (p.passOn offset amount amount).read_cases with hread | hread
          · rw [hread]
            exact .next offset amount close retries hpending halive
          · rw [hread]
            exact .rest offset amount close retries hpending halive

/-- **The events of the source are the moves.** -/
theorem Located.move (hp : Located p) (h : p.step e = some p') : Move p p' := by
  cases e with
  | doPipe =>
    simp only [PipeOperation.step, Option.ite_none_right_eq_some, Option.some.injEq] at h
    obtain ⟨hcond, rfl⟩ := h
    rcases p.read_cases with hread | hread
    · rw [hread]
      exact .start hcond.1 hcond.2.1 hcond.2.2
    · rw [hread]
      exact .stay
  | readDone ec chunk =>
    simp only [PipeOperation.step, Option.ite_none_right_eq_some, Option.some.injEq] at h
    obtain ⟨⟨hread, hfit⟩, rfl⟩ := h
    exact move_onRead ec hread hfit
  | writeDone ec written =>
    simp only [PipeOperation.step] at h
    split at h
    · next offset amount close retries hpending =>
      obtain rfl := Option.some.inj h
      exact hp.move_onWrite hpending ec written
    · cases h
  | originalDied =>
    obtain rfl := Option.some.inj h
    exact .originalDied
  | otherDied =>
    obtain rfl := Option.some.inj h
    exact .otherDied
  | destroyed =>
    simp only [PipeOperation.step, Option.ite_none_right_eq_some, Option.some.injEq] at h
    obtain ⟨-, rfl⟩ := h
    exact .destroyed

/-! ### Where the write under way lies -/

theorem located_empty : Located {} where
  size := List.length_replicate
  writing _ _ _ _ h := by cases h

/-- **Every move keeps the write under way located.** -/
theorem Located.preserved (hp : Located p) (h : Move p p') : Located p' := by
  cases h with
  | stay => exact hp
  | start => exact ⟨hp.size, fun _ _ _ _ h => by cases h⟩
  | discard chunk _ hfit => exact ⟨(length_fill hfit).trans hp.size, fun _ _ _ _ h => by cases h⟩
  | strand chunk _ hfit => exact ⟨(length_fill hfit).trans hp.size, fun _ _ _ _ h => by cases h⟩
  | finish =>
    exact ⟨(length_fill (Nat.zero_le _)).trans hp.size, fun _ _ _ _ h => by cases h⟩
  | issue chunk close _ hfit =>
    refine ⟨(length_fill hfit).trans hp.size, fun _ _ _ _ h => ?_⟩
    obtain ⟨rfl, rfl, rfl, rfl⟩ := Pending.write.inj h
    exact ⟨chunk, List.getLast?_concat, List.take_left, Nat.zero_add _, Nat.zero_le _⟩
  | late => exact ⟨hp.size, fun _ _ _ _ h => by cases h⟩
  | close => exact ⟨hp.size, fun _ _ _ _ h => by cases h⟩
  | giveUp => exact ⟨hp.size, fun _ _ _ _ h => by cases h⟩
  | stall => exact ⟨hp.size, fun _ _ _ _ h => by cases h⟩
  | retry offset amount close retries n hwrite hpart hleft =>
    obtain ⟨chunk, hlast, hbuffer, hrest, -⟩ := hp.writing _ _ _ _ hwrite
    refine ⟨hp.size, fun _ _ _ _ h => ?_⟩
    obtain ⟨rfl, rfl, rfl, rfl⟩ := Pending.write.inj h
    refine ⟨chunk, hlast, hbuffer, ?_, by omega⟩
    show offset + n + (amount - n) = chunk.length
    omega
  | next => exact ⟨hp.size, fun _ _ _ _ h => by cases h⟩
  | rest => exact ⟨hp.size, fun _ _ _ _ h => by cases h⟩
  | originalDied => exact ⟨hp.size, hp.writing⟩
  | otherDied => exact ⟨hp.size, hp.writing⟩
  | destroyed => exact ⟨hp.size, hp.writing⟩

/-! ### A pipe is a relay -/

/-- The pipe does what the relay does: it took in the chunks, and it owes the write under way,
    or nothing while it reads. -/
structure Refines (p : PipeOperation) (a : Relay UInt8) : Prop where
  accepted : a.accepted = p.accepted
  taken : a.taken = p.chunks.flatten
  reading : p.pending = .read → a.owed = []
  writing : ∀ offset amount close retries, p.pending = .write offset amount close retries →
    a.owed = p.slice offset amount ∧ a.owed.length = amount

theorem refines_empty : Refines {} {} where
  accepted := rfl
  taken := rfl
  reading _ := rfl
  writing _ _ _ _ h := by cases h

/-- A pipe with nothing under way refines any relay with its streams. -/
theorem Refines.of_idle {a : Relay UInt8} (haccepted : a.accepted = p.accepted)
    (htaken : a.taken = p.chunks.flatten) (h : p.pending = .none) : Refines p a := by
  refine ⟨haccepted, htaken, fun hread => ?_, fun _ _ _ _ hwrite => ?_⟩
  · rw [h] at hread
    cases hread
  · rw [h] at hwrite
    cases hwrite

/-- Taking in a chunk. -/
theorem Refines.takeIn {a : Relay UInt8} (ha : Refines p a) (h : p.pending = .read)
    (chunk : Bytes) :
    Relay.Step a ⟨a.accepted, chunk⟩ ∧
      Refines ((p.fill chunk).takeIn chunk) ⟨a.accepted, chunk⟩ := by
  have howed := ha.reading h
  refine ⟨.take a chunk howed, .of_idle ha.accepted ?_ rfl⟩
  rw [Relay.taken_take howed, ha.taken]
  show p.chunks.flatten ++ chunk = (p.chunks ++ [chunk]).flatten
  rw [List.flatten_concat]

/-- Passing on the front of the slice under way. -/
theorem Refines.passOn {a : Relay UInt8} (ha : Refines p a)
    {offset amount retries : Nat} {close : Bool}
    (h : p.pending = .write offset amount close retries) (n : Nat) :
    Relay.Step a ⟨a.accepted ++ a.owed.take n, a.owed.drop n⟩ ∧
      Refines (p.passOn offset amount n) ⟨a.accepted ++ a.owed.take n, a.owed.drop n⟩ := by
  refine ⟨.accept a n, .of_idle ?_ ?_ rfl⟩
  · show a.accepted ++ a.owed.take n = p.accepted ++ (p.slice offset amount).take n
    rw [ha.accepted, (ha.writing _ _ _ _ h).1]
  · rw [Relay.taken_accept]
    exact ha.taken

/-- **Every move of a pipe is a move of the relay.** -/
theorem Refines.preserved {a : Relay UInt8} (ha : Refines p a) (h : Move p p') :
    ∃ b, Relay.Step a b ∧ Refines p' b := by
  cases h with
  | stay => exact ⟨a, .stay a, ha⟩
  | start hidle hfirst =>
    refine ⟨a, .stay a, ha.accepted, ha.taken, fun _ => ?_, fun _ _ _ _ h => by cases h⟩
    -- nothing was read yet, so nothing is owed
    have htaken := ha.taken
    rw [hfirst] at htaken
    exact (List.append_eq_nil_iff.mp htaken).2
  | discard => exact ⟨a, .stay a, .of_idle ha.accepted ha.taken rfl⟩
  | strand chunk hread => exact ⟨_, ha.takeIn hread chunk⟩
  | finish hread =>
    obtain ⟨hstep, hb⟩ := ha.takeIn hread []
    exact ⟨_, hstep, .of_idle hb.accepted hb.taken rfl⟩
  | issue chunk close hread =>
    obtain ⟨hstep, hb⟩ := ha.takeIn hread chunk
    refine ⟨_, hstep, hb.accepted, hb.taken, (fun h => by cases h), fun _ _ _ _ h => ?_⟩
    obtain ⟨rfl, rfl, rfl, rfl⟩ := Pending.write.inj h
    refine ⟨?_, rfl⟩
    show chunk = ((chunk ++ p.buffer.drop chunk.length).drop 0).take chunk.length
    rw [List.drop_zero, List.take_left]
  | late offset amount close retries n hwrite => exact ⟨_, ha.passOn hwrite n⟩
  | close offset amount close retries n hwrite =>
    obtain ⟨hstep, hb⟩ := ha.passOn hwrite n
    exact ⟨_, hstep, .of_idle hb.accepted hb.taken rfl⟩
  | giveUp offset amount close n hwrite =>
    obtain ⟨hstep, hb⟩ := ha.passOn hwrite n
    exact ⟨_, hstep, .of_idle hb.accepted hb.taken rfl⟩
  | stall offset amount close retries n hwrite => exact ⟨_, ha.passOn hwrite n⟩
  | retry offset amount close retries n hwrite =>
    obtain ⟨hstep, hb⟩ := ha.passOn hwrite n
    refine ⟨_, hstep, hb.accepted, hb.taken, (fun h => by cases h), fun _ _ _ _ h => ?_⟩
    obtain ⟨rfl, rfl, rfl, rfl⟩ := Pending.write.inj h
    obtain ⟨hslice, hlength⟩ := ha.writing _ _ _ _ hwrite
    constructor
    · -- the rest of the slice is the slice of the rest
      show a.owed.drop n = (p.buffer.drop (offset + n)).take (amount - n)
      rw [hslice]
      unfold slice
      rw [List.drop_take, List.drop_drop]
    · rw [List.length_drop, hlength]
  | next offset amount close retries hwrite =>
    obtain ⟨hstep, hb⟩ := ha.passOn hwrite amount
    refine ⟨_, hstep, hb.accepted, hb.taken, fun _ => ?_, fun _ _ _ _ h => by cases h⟩
    have hlength := (ha.writing _ _ _ _ hwrite).2
    exact List.drop_eq_nil_of_le (by omega)
  | rest offset amount close retries hwrite => exact ⟨_, ha.passOn hwrite amount⟩
  | originalDied => exact ⟨a, .stay a, ha.accepted, ha.taken, ha.reading, ha.writing⟩
  | otherDied => exact ⟨a, .stay a, ha.accepted, ha.taken, ha.reading, ha.writing⟩
  | destroyed => exact ⟨a, .stay a, ha.accepted, ha.taken, ha.reading, ha.writing⟩

/-- When a write completes in full, everything read so far is accepted. -/
theorem Refines.all_accepted {a : Relay UInt8} (ha : Refines p a)
    {offset amount retries : Nat} {close : Bool}
    (h : p.pending = .write offset amount close retries) {n : Nat} (hfull : amount ≤ n) :
    (p.passOn offset amount n).accepted = p.chunks.flatten := by
  obtain ⟨hslice, hlength⟩ := ha.writing _ _ _ _ h
  show p.accepted ++ (p.slice offset amount).take n = p.chunks.flatten
  rw [← ha.taken, ← ha.accepted, ← hslice, List.take_of_length_le (by omega)]
  rfl

/-! ### How often a chunk is written -/

/-- Every write lies in its chunk, no chunk is written more than eleven times, and the write
    under way is the `retries + 1`st of the last chunk. -/
structure Counted (p : PipeOperation) : Prop where
  slices : ∀ w ∈ p.issued, ∃ chunk, p.chunks[w.chunk]? = some chunk ∧
    w.offset + w.amount ≤ chunk.length
  bounded : ∀ k, p.writesOf k ≤ 11
  retries : ∀ offset amount close retries, p.pending = .write offset amount close retries →
    p.lastWrites = retries + 1

theorem counted_empty : Counted {} where
  slices _ h := by cases h
  bounded _ := Nat.zero_le _
  retries _ _ _ _ h := by cases h

/-- One more write is issued. -/
theorem writesOf_issueWrite (p : PipeOperation) (w : IssuedWrite) (close : Bool)
    (retries k : Nat) :
    (p.issueWrite w close retries).writesOf k = p.writesOf k + if w.chunk = k then 1 else 0 := by
  unfold writesOf
  show (w :: p.issued).countP (·.chunk == k) = _
  rw [List.countP_cons]
  simp only [beq_iff_eq]

/-- The chunk read last has not been written before. -/
theorem Counted.writesOf_length (hc : Counted p) : p.writesOf p.chunks.length = 0 := by
  unfold writesOf
  rw [List.countP_eq_zero]
  intro w hw heq
  obtain ⟨chunk, hchunk, -⟩ := hc.slices w hw
  simp only [beq_iff_eq] at heq
  rw [heq, List.getElem?_eq_none (Nat.le_refl _)] at hchunk
  cases hchunk

/-- Nothing is written in a handler that ends with nothing under way. -/
theorem Counted.of_idle (hc : Counted p) (hissued : p'.issued = p.issued)
    (hchunks : p.chunks <+: p'.chunks)
    (hidle : ∀ offset amount close retries, p'.pending ≠ .write offset amount close retries) :
    Counted p' := by
  refine ⟨fun w hw => ?_, fun k => ?_, fun _ _ _ _ h => absurd h (hidle _ _ _ _)⟩
  · rw [hissued] at hw
    obtain ⟨chunk, hchunk, hle⟩ := hc.slices w hw
    obtain ⟨later, hlater⟩ := hchunks
    refine ⟨chunk, ?_, hle⟩
    rw [← hlater, List.getElem?_append_left (List.getElem?_eq_some_iff.mp hchunk).1]
    exact hchunk
  · unfold writesOf
    rw [hissued]
    exact hc.bounded k

/-- **Every move keeps the count.** -/
theorem Counted.preserved (hc : Counted p) (hp : Located p) (h : Move p p') : Counted p' := by
  cases h with
  | stay => exact hc
  | start => exact hc.of_idle rfl List.prefix_rfl (by simp)
  | discard => exact hc.of_idle rfl List.prefix_rfl (by simp [fill])
  | strand => exact hc.of_idle rfl (List.prefix_append _ _) (by simp [fill, takeIn])
  | finish => exact hc.of_idle rfl (List.prefix_append _ _) (by simp [fill, takeIn, closeSides])
  | issue chunk close hread hfit halive =>
    have hnone := hc.writesOf_length
    refine ⟨fun w hw => ?_, fun k => ?_, fun _ _ _ _ h => ?_⟩
    · rcases List.mem_cons.mp hw with rfl | hw
      · exact ⟨chunk, List.getElem?_concat_length, Nat.le_of_eq (Nat.zero_add _)⟩
      · obtain ⟨c, hchunk, hle⟩ := hc.slices w hw
        refine ⟨c, ?_, hle⟩
        exact (List.getElem?_append_left (List.getElem?_eq_some_iff.mp hchunk).1).trans hchunk
    · rw [writesOf_issueWrite]
      have hbound : ((p.fill chunk).takeIn chunk).writesOf k ≤ 11 := hc.bounded k
      split
      · next heq =>
        have hfirst : ((p.fill chunk).takeIn chunk).writesOf k = 0 := by
          rw [← heq]
          exact hnone
        omega
      · omega
    · obtain ⟨rfl, rfl, rfl, rfl⟩ := Pending.write.inj h
      unfold lastWrites
      rw [writesOf_issueWrite]
      have hlast : (p.chunks ++ [chunk]).length - 1 = p.chunks.length := by simp
      show ((p.fill chunk).takeIn chunk).writesOf ((p.chunks ++ [chunk]).length - 1) +
        (if p.chunks.length = (p.chunks ++ [chunk]).length - 1 then 1 else 0) = 0 + 1
      rw [hlast, if_pos rfl]
      exact congrArg (· + 1) hnone
  | late => exact hc.of_idle rfl List.prefix_rfl (by simp [passOn])
  | close => exact hc.of_idle rfl List.prefix_rfl (by simp [passOn, closeSides])
  | giveUp => exact hc.of_idle rfl List.prefix_rfl (by simp [passOn, closeSides])
  | stall => exact hc.of_idle rfl List.prefix_rfl (by simp [passOn])
  | retry offset amount close retries n hwrite hpart hleft =>
    have hlast := hc.retries _ _ _ _ hwrite
    obtain ⟨chunk, hchunk, -, hrest, -⟩ := hp.writing _ _ _ _ hwrite
    rw [List.getLast?_eq_getElem?] at hchunk
    refine ⟨fun w hw => ?_, fun k => ?_, fun _ _ _ _ h => ?_⟩
    · rcases List.mem_cons.mp hw with rfl | hw
      · refine ⟨chunk, hchunk, ?_⟩
        show offset + n + (amount - n) ≤ chunk.length
        omega
      · exact hc.slices w hw
    · rw [writesOf_issueWrite]
      have hbound : (p.passOn offset amount n).writesOf k ≤ 11 := hc.bounded k
      split
      · next heq =>
        have hlastk : (p.passOn offset amount n).writesOf k = retries + 1 := by
          rw [← heq]
          exact hlast
        omega
      · omega
    · obtain ⟨rfl, rfl, rfl, rfl⟩ := Pending.write.inj h
      unfold lastWrites
      rw [writesOf_issueWrite]
      show p.lastWrites + (if p.chunks.length - 1 = p.chunks.length - 1 then 1 else 0) = _
      rw [if_pos rfl, hlast]
  | next => exact hc.of_idle rfl List.prefix_rfl (by simp)
  | rest => exact hc.of_idle rfl List.prefix_rfl (by simp [passOn])
  | originalDied => exact ⟨hc.slices, hc.bounded, hc.retries⟩
  | otherDied => exact ⟨hc.slices, hc.bounded, hc.retries⟩
  | destroyed => exact ⟨hc.slices, hc.bounded, hc.retries⟩

/-! ### When the pipe closes the sides -/

/-- A pipe that exists closes its sides only at its end, when everything read was accepted or
    the retries ran out; and it does close them when they ran out. -/
structure Closing (p : PipeOperation) : Prop where
  done : p.SomeSideClosed → p.alive = true →
    p.pending = .none ∧ p.chunks ≠ [] ∧ (p.accepted = p.chunks.flatten ∨ p.lastWrites = 11)
  gaveUp : p.pending = .none → p.lastWrites = 11 → p.accepted ≠ p.chunks.flatten →
    p.LiveSidesClosed
  destroyed : p.alive = false → p.LiveSidesClosed

theorem closing_empty : Closing {} where
  done h := by
    rcases h with h | h <;> cases h
  gaveUp _ h := by cases h
  destroyed h := by cases h

/-- After `closeSides` no side that exists is open. -/
theorem liveSidesClosed_closeSides (p : PipeOperation) : p.closeSides.LiveSidesClosed := by
  constructor
  · intro h
    show (p.sideOriginal.closed || p.sideOriginal.alive) = true
    rw [show p.sideOriginal.alive = true from h, Bool.or_true]
  · intro h
    show (p.sideOther.closed || p.sideOther.alive) = true
    rw [show p.sideOther.alive = true from h, Bool.or_true]

/-- A handler that closes the sides: it may, and it leaves no side open. -/
theorem closing_closeSides (hidle : p.pending = .none) (hchunks : p.chunks ≠ [])
    (h : p.accepted = p.chunks.flatten ∨ p.lastWrites = 11) : Closing p.closeSides where
  done _ _ := ⟨hidle, hchunks, h⟩
  gaveUp _ _ _ := liveSidesClosed_closeSides p
  destroyed _ := liveSidesClosed_closeSides p

/-- A handler of a pipe with something under way, which exists, leaves the sides as they are:
    open. -/
theorem Closing.of_open (hk : Closing p) (halive : p.alive = true) (hbusy : p.pending ≠ .none)
    (horiginal : p'.sideOriginal = p.sideOriginal) (hother : p'.sideOther = p.sideOther)
    (halive' : p'.alive = true)
    (h : p'.pending = .none → p'.lastWrites = 11 → p'.accepted = p'.chunks.flatten) :
    Closing p' := by
  have hopen : ¬p'.SomeSideClosed := by
    unfold SomeSideClosed
    rw [horiginal, hother]
    exact fun hclosed => hbusy (hk.done hclosed halive).1
  refine ⟨fun hclosed => absurd hclosed hopen, fun hidle hlast hne => ?_, fun hgone => ?_⟩
  · exact absurd (h hidle hlast) hne
  · rw [halive'] at hgone
    cases hgone

/-- A handler that finds the operation gone changes nothing about the sides. -/
theorem Closing.of_gone (hk : Closing p) (hgone : p.alive = false)
    (horiginal : p'.sideOriginal = p.sideOriginal) (hother : p'.sideOther = p.sideOther)
    (hgone' : p'.alive = false) : Closing p' := by
  have hclosed : p'.LiveSidesClosed := by
    unfold LiveSidesClosed
    rw [horiginal, hother]
    exact hk.destroyed hgone
  refine ⟨fun _ halive => ?_, fun _ _ _ => hclosed, fun _ => hclosed⟩
  rw [hgone'] at halive
  cases halive

/-- The chunk taken in last has not been written yet. -/
theorem Counted.lastWrites_takeIn (hc : Counted p) (chunk : Bytes) :
    ((p.fill chunk).takeIn chunk).lastWrites = 0 := by
  have hlast : (p.chunks ++ [chunk]).length - 1 = p.chunks.length := by simp
  show p.writesOf ((p.chunks ++ [chunk]).length - 1) = 0
  rw [hlast]
  exact hc.writesOf_length

/-- **Every move keeps the sides open until the end.** -/
theorem Closing.preserved (hk : Closing p) (hc : Counted p) (hp : Located p)
    {a : Relay UInt8} (ha : Refines p a) (h : Move p p') : Closing p' := by
  -- a write under way belongs to a chunk, and is not idle
  have hbusy : ∀ {offset amount close retries},
      p.pending = .write offset amount close retries → p.pending ≠ .none ∧ p.chunks ≠ [] := by
    intro offset amount close retries hwrite
    obtain ⟨chunk, hlast, -⟩ := hp.writing _ _ _ _ hwrite
    constructor
    · rw [hwrite]
      simp
    · intro hnil
      rw [hnil] at hlast
      cases hlast
  cases h with
  | stay => exact hk
  | start hidle hfirst halive =>
    have hopen : ¬p.SomeSideClosed := fun hclosed => (hk.done hclosed halive).2.1 hfirst
    exact ⟨fun hclosed => absurd hclosed hopen, (fun h => by cases h), hk.destroyed⟩
  | discard chunk hread hfit hgone => exact hk.of_gone hgone rfl rfl hgone
  | strand chunk hread hfit halive =>
    refine hk.of_open halive (by simp [hread]) rfl rfl halive fun _ hlast => ?_
    rw [hc.lastWrites_takeIn] at hlast
    cases hlast
  | finish hread halive =>
    refine closing_closeSides rfl (by simp [takeIn]) (.inl ?_)
    -- the empty chunk adds nothing to what was read, and nothing was owed
    have htaken := ha.taken
    unfold Relay.taken at htaken
    rw [ha.reading hread, List.append_nil, ha.accepted] at htaken
    show p.accepted = (p.chunks ++ [[]]).flatten
    rw [List.flatten_concat, List.append_nil]
    exact htaken
  | issue chunk close hread hfit halive =>
    exact hk.of_open halive (by simp [hread]) rfl rfl halive fun h => by cases h
  | late offset amount close retries n hwrite hgone => exact hk.of_gone hgone rfl rfl hgone
  | close offset amount close retries n hwrite hfull halive =>
    exact closing_closeSides rfl (hbusy hwrite).2 (.inl (ha.all_accepted hwrite hfull))
  | giveUp offset amount close n hwrite hpart halive =>
    exact closing_closeSides rfl (hbusy hwrite).2 (.inr (hc.retries _ _ _ _ hwrite))
  | stall offset amount close retries n hwrite hpart hleft halive =>
    refine hk.of_open halive (hbusy hwrite).1 rfl rfl halive fun _ hlast => ?_
    have hcount : (p.passOn offset amount n).lastWrites = retries + 1 :=
      hc.retries _ _ _ _ hwrite
    omega
  | retry offset amount close retries n hwrite hpart hleft halive =>
    exact hk.of_open halive (hbusy hwrite).1 rfl rfl halive fun h => by cases h
  | next offset amount close retries hwrite halive =>
    exact hk.of_open halive (hbusy hwrite).1 rfl rfl halive fun h => by cases h
  | rest offset amount close retries hwrite halive =>
    exact hk.of_open halive (hbusy hwrite).1 rfl rfl halive
      fun _ _ => ha.all_accepted hwrite (Nat.le_refl _)
  | originalDied =>
    exact ⟨hk.done, fun hi hl hne => ⟨(fun h => by cases h), (hk.gaveUp hi hl hne).2⟩,
      fun hgone => ⟨(fun h => by cases h), (hk.destroyed hgone).2⟩⟩
  | otherDied =>
    exact ⟨hk.done, fun hi hl hne => ⟨(hk.gaveUp hi hl hne).1, fun h => by cases h⟩,
      fun hgone => ⟨(hk.destroyed hgone).1, fun h => by cases h⟩⟩
  | destroyed =>
    exact ⟨(fun _ h => by cases h), fun _ _ _ => liveSidesClosed_closeSides p,
      fun _ => liveSidesClosed_closeSides p⟩

/-! ### Forwarding -/

/-- `totalTransfer` counts the bytes read. -/
def Totalled (p : PipeOperation) : Prop :=
  p.totalTransfer = .ofNat p.chunks.flatten.length

/-- **Every move keeps the total.** -/
theorem Totalled.preserved (ht : Totalled p) (h : Move p p') : Totalled p' := by
  have htake : ∀ chunk, Totalled ((p.fill chunk).takeIn chunk) := by
    intro chunk
    show p.totalTransfer.addAssign chunk.length = .ofNat (p.chunks ++ [chunk]).flatten.length
    rw [show p.totalTransfer = _ from ht, MemoryUnit.addAssign_ofNat, List.flatten_concat,
      List.length_append]
  cases h with
  | strand chunk => exact htake chunk
  | finish => exact htake []
  | issue chunk => exact htake chunk
  | _ => exact ht

/-- What a run keeps. -/
structure Piping (p : PipeOperation) : Prop where
  located : Located p
  counted : Counted p
  closing : Closing p
  totalled : Totalled p
  refines : ∃ a, Relation.ReflTransGen Relay.Step {} a ∧ Refines p a

theorem piping_empty : Piping {} where
  located := located_empty
  counted := counted_empty
  closing := closing_empty
  totalled := rfl
  refines := ⟨{}, .refl, refines_empty⟩

/-- **Every event keeps all of it.** -/
theorem Piping.step (hp : Piping p) (h : p.step e = some p') : Piping p' := by
  have hmove := hp.located.move h
  obtain ⟨a, hsteps, ha⟩ := hp.refines
  obtain ⟨b, hstep, hb⟩ := ha.preserved hmove
  exact
    { located := hp.located.preserved hmove
      counted := hp.counted.preserved hp.located hmove
      closing := hp.closing.preserved hp.counted hp.located ha hmove
      totalled := hp.totalled.preserved hmove
      refines := ⟨b, hsteps.tail hstep, hb⟩ }

/-- The forwarding contract of one pipe. -/
structure ForwardsExactly (p : PipeOperation) : Prop where
  /-- What `sideOther` has accepted, counting also any part of the write under way, is a prefix
      of the chunks read. -/
  isPrefix : ∀ n, p.accepted ++ p.outgoing.take n <+: p.chunks.flatten
  /-- While a read is outstanding everything read so far has been accepted. -/
  reads : p.pending = .read → p.accepted = p.chunks.flatten
  /-- Every slice handed to `async_write` lies inside the chunk that was the last one read. -/
  slices : ∀ w ∈ p.issued, ∃ chunk, p.chunks[w.chunk]? = some chunk ∧
    w.offset + w.amount ≤ chunk.length
  /-- No chunk is written more than eleven times. -/
  writes : ∀ chunk, p.writesOf chunk ≤ 11
  /-- When the eleventh write left something over, the sides that exist are closed. -/
  exhausted : p.lastWrites = 11 → p.outgoing = [] → p.accepted ≠ p.chunks.flatten →
    p.LiveSidesClosed
  /-- The pipe closes a side only when everything read, with or without an error code, has been
      accepted, or the retries ran out. -/
  closes : p.SomeSideClosed → p.alive = true →
    p.accepted = p.chunks.flatten ∨ p.lastWrites = 11
  /-- `totalTransfer` is the number of bytes read. -/
  total : p.totalTransfer = .ofNat p.chunks.flatten.length
  /-- It holds that number itself, as far as 128 bits go. -/
  exact_total : p.chunks.flatten.length < 2 ^ 128 →
    p.totalTransfer.bytes.toNat = p.chunks.flatten.length

theorem Piping.forwardsExactly (hp : Piping p) : ForwardsExactly p := by
  obtain ⟨a, -, ha⟩ := hp.refines
  have hfront : ∀ n, p.accepted ++ p.outgoing.take n <+: p.chunks.flatten := by
    intro n
    rw [← ha.taken, ← ha.accepted]
    unfold outgoing
    split
    · next offset amount close retries hwrite =>
      rw [← (ha.writing _ _ _ _ hwrite).1]
      exact a.accepted_append_prefix_taken n
    · rw [List.take_nil, List.append_nil]
      exact a.accepted_prefix_taken
  have hreads : p.pending = .read → p.accepted = p.chunks.flatten := by
    intro hread
    rw [← ha.taken, ← ha.accepted]
    show a.accepted = a.accepted ++ a.owed
    rw [ha.reading hread, List.append_nil]
  refine ⟨hfront, hreads, hp.counted.slices, hp.counted.bounded, fun hlast hidle hne => ?_,
    fun hclosed halive => (hp.closing.done hclosed halive).2.2, hp.totalled,
    fun hfits => ?_⟩
  · -- nothing is under way: a read would mean that everything was accepted, and so would an
    -- empty write
    cases hpending : p.pending with
    | none => exact hp.closing.gaveUp hpending hlast hne
    | read => exact absurd (hreads hpending) hne
    | write offset amount close retries =>
      refine absurd ?_ hne
      have hslice := (ha.writing _ _ _ _ hpending).1
      unfold outgoing at hidle
      rw [hpending] at hidle
      rw [← ha.taken, ← ha.accepted]
      show a.accepted = a.accepted ++ a.owed
      rw [hslice, show p.slice offset amount = [] from hidle, List.append_nil]
  · rw [show p.totalTransfer = _ from hp.totalled]
    exact MemoryUnit.toNat_ofNat hfits

/-- **A pipe forwards exactly**: the contract holds after every run, whatever the completions
    report and whichever of the sessions disappear. -/
theorem forwards_exactly {events : List Event} (hrun : run step {} events = some p) :
    ForwardsExactly p := by
  have hp : Piping p := run_preserves (fun _ _ _ hp h => hp.step h) piping_empty hrun
  exact hp.forwardsExactly

/-- Two bytes are read together with an error code and written one at a time. -/
def eventsRetry : List Event :=
  [.doPipe, .readDone true (asciiString "ab"), .writeDone false 1, .writeDone false 1]

/-- The contract after a chunk that came with an error code and took two writes: both bytes are
    accepted when the sides are closed. -/
theorem forwards_exactly_retry :
    ∃ p, run step {} eventsRetry = some p ∧ p.accepted = asciiString "ab" ∧
      p.sideOriginal.closed = true ∧ ForwardsExactly p := by
  have hrun : ∃ p, run step {} eventsRetry = some p ∧ p.accepted = asciiString "ab" ∧
      p.sideOriginal.closed = true :=
    ⟨_, Option.eq_some_of_isSome (by decide +kernel), by decide +kernel, by decide +kernel⟩
  obtain ⟨p, hrun, haccepted, hclosed⟩ := hrun
  exact ⟨p, hrun, haccepted, hclosed, forwards_exactly hrun⟩

end PipeOperation

end TunnelBore
