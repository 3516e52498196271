import TunnelBore.Shared.PipeOperation

namespace TunnelBore

open TunnelBore.Lib

/-!
# A pipe goes on

A pipe that has met no error waits for a read or for a write, and when that completes without an
error it waits for the other one.

* `PipeOperation.Flowing` — it has met no error;
* `PipeOperation.Writes`, `PipeOperation.Reads` — completions without an error;
* `Flowing.writes`, `Flowing.reads` — what they leave.
-/

/-- A read is outstanding, or a write after which the next read is due. -/
def Pending.goesOn : Pending → Bool
  | .none              => false
  | .read              => true
  | .write _ _ close _ => !close

namespace PipeOperation

/-- The pipe has met no error. -/
structure Flowing (p : PipeOperation) : Prop where
  alive : p.alive = true
  original : p.sideOriginal.alive = true
  other : p.sideOther.alive = true
  pending : p.pending.goesOn = true

instance (p : PipeOperation) : Decidable p.Flowing :=
  decidable_of_iff
    (p.alive = true ∧ p.sideOriginal.alive = true ∧ p.sideOther.alive = true ∧
      p.pending.goesOn = true)
    ⟨fun ⟨h₁, h₂, h₃, h₄⟩ => ⟨h₁, h₂, h₃, h₄⟩, fun h => ⟨h.alive, h.original, h.other, h.pending⟩⟩

/-- The write under way completes without an error; all bytes are written then. -/
def Writes (p : PipeOperation) (e : Event) : Prop :=
  ∃ offset amount close retries, p.pending = .write offset amount close retries ∧
    e = .writeDone false amount

/-- A read completes without an error, so that there are bytes. -/
def Reads (e : Event) : Prop := ∃ chunk, chunk ≠ [] ∧ e = .readDone false chunk

/-- One while a write is under way. -/
def busy (p : PipeOperation) : Nat :=
  match p.pending with
  | .read => 0
  | _     => 1

variable {p p' : PipeOperation} {e : Event} {chunk : Bytes}

theorem flowing_pipeTo : ({} : PipeOperation).read.Flowing := ⟨rfl, rfl, rfl, rfl⟩

theorem busy_of_read (h : p.pending = .read) : p.busy = 0 := by
  unfold busy
  rw [h]

/-- Nothing else is under way. -/
theorem Flowing.pending_cases (h : p.Flowing) : p.pending = .read ∨
    ∃ offset amount retries, p.pending = .write offset amount false retries := by
  have hgoes := h.pending
  cases hpending : p.pending with
  | none =>
    rw [hpending] at hgoes
    cases hgoes
  | read => exact .inl rfl
  | write offset amount close retries =>
    rw [hpending] at hgoes
    obtain rfl : close = false := Bool.not_eq_true' _ ▸ hgoes
    exact .inr ⟨offset, amount, retries, rfl⟩

theorem Flowing.read_of_busy (h : p.Flowing) (hbusy : p.busy = 0) : p.pending = .read := by
  rcases h.pending_cases with hread | ⟨offset, amount, retries, hwrite⟩
  · exact hread
  · unfold busy at hbusy
    rw [hwrite] at hbusy
    cases hbusy

theorem Flowing.write_of_busy (h : p.Flowing) (hbusy : p.busy ≠ 0) :
    ∃ offset amount retries, p.pending = .write offset amount false retries := by
  rcases h.pending_cases with hread | hwrite
  · exact absurd (busy_of_read hread) hbusy
  · exact hwrite

/-- A write that completes: everything is accepted, and the next read is started. -/
theorem Flowing.step_writeDone {offset amount retries : Nat} (h : p.Flowing)
    (hwrite : p.pending = .write offset amount false retries) :
    p.step (.writeDone false amount) =
      some { p.passOn offset amount amount with pending := .read } := by
  have horiginal : (p.passOn offset amount amount).sideOriginal.alive = true := h.original
  unfold PipeOperation.step
  rw [hwrite]
  simp only [onWrite, h.alive, Bool.not_true, Bool.false_eq_true, if_false, gt_iff_lt,
    Nat.lt_irrefl, bne_self_eq_false, Bool.or_self, PipeOperation.read, horiginal, if_true]

/-- What the completion of a write leaves. -/
theorem Flowing.writes (h : p.Flowing) (he : p.Writes e) (hstep : p.step e = some p') :
    p'.Flowing ∧ p'.chunks = p.chunks ∧ p'.busy < p.busy ∧
      p'.accepted ++ p'.outgoing = p.accepted ++ p.outgoing := by
  obtain ⟨offset, amount, close, retries, hwrite, rfl⟩ := he
  obtain rfl : close = false := by
    rcases h.pending_cases with hread | ⟨_, _, _, hplain⟩
    · rw [hread] at hwrite
      cases hwrite
    · rw [hplain] at hwrite
      exact (Pending.write.inj hwrite).2.2.1.symm
  rw [h.step_writeDone hwrite] at hstep
  obtain rfl := Option.some.inj hstep
  refine ⟨⟨h.alive, h.original, h.other, rfl⟩, rfl, ?_, ?_⟩
  · have hbusy : p.busy = 1 := by
      unfold busy
      rw [hwrite]
    rw [hbusy]
    exact Nat.one_pos
  · have hout : p.outgoing = p.slice offset amount := by
      unfold outgoing
      rw [hwrite]
    rw [hout]
    show p.accepted ++ (p.slice offset amount).take amount ++ [] =
      p.accepted ++ p.slice offset amount
    rw [List.append_nil, List.take_of_length_le]
    exact List.length_take_le _ _

/-- A read that completes: the chunk is written on. -/
theorem Flowing.step_readDone (h : p.Flowing) (hread : p.pending = .read) (hne : chunk ≠ [])
    (hfit : chunk.length ≤ p.buffer.length) :
    p.step (.readDone false chunk) =
      some (((p.fill chunk).takeIn chunk).issueWrite ⟨p.chunks.length, 0, chunk.length⟩
        false 0) := by
  have hlast : ((p.fill chunk).takeIn chunk).chunks.length - 1 = p.chunks.length := by
    show (p.chunks ++ [chunk]).length - 1 = p.chunks.length
    simp
  have hother : ((p.fill chunk).takeIn chunk).sideOther.alive = true := h.other
  have hfilled : ((p.fill chunk).takeIn chunk).buffer.length = p.buffer.length := length_fill hfit
  show (if p.pending = .read ∧ chunk.length ≤ p.buffer.length then some (p.onRead false chunk)
    else none) = _
  rw [if_pos ⟨hread, hfit⟩]
  simp [onRead, h.alive, h.original, write, hfilled, hother, hlast, Nat.not_lt.mpr hfit, hne]

/-- What the completion of a read leaves. -/
theorem Flowing.reads (h : p.Flowing) (hne : chunk ≠ [])
    (hstep : p.step (.readDone false chunk) = some p') :
    p'.Flowing ∧ p'.chunks = p.chunks ++ [chunk] ∧ p.busy = 0 ∧ p'.busy = 1 := by
  have hcond : p.pending = .read ∧ chunk.length ≤ p.buffer.length := by
    have hsome := hstep
    simp only [PipeOperation.step, Option.ite_none_right_eq_some] at hsome
    exact hsome.1
  obtain ⟨hread, hfit⟩ := hcond
  rw [h.step_readDone hread hne hfit] at hstep
  obtain rfl := Option.some.inj hstep
  exact ⟨⟨h.alive, h.original, h.other, rfl⟩, rfl, busy_of_read hread, rfl⟩

end PipeOperation

end TunnelBore
