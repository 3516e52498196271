import Mathlib.Data.List.Basic

namespace TunnelBore.Lib

/-!
# Queues with one send at a time

A sender keeps the messages that wait, and a flag that says whether a send is in progress.
Adding a message starts sending if no send is in progress; the completion of a send starts the
next one, or clears the flag when nothing waits.  Messages are handed to a carrier, which may
be another one each time.

* `Pumped` is the invariant: a send is outstanding exactly while the flag is set, and nothing
  waits while it is not;
* `Pumped.enqueue` and `Pumped.completed`: both operations keep it;
* `Pumped.outstanding_of_waiting`: so no message waits without a send outstanding, whose
  completion hands the first of them over (`handed_completed`);
* `Pumped.handed_enqueue`: a message added while no send is outstanding is handed over at once.
-/

/-- The waiting messages, the flag, how many sends are outstanding, and the messages that were
    handed over, each with its carrier. -/
structure SendQueue (τ α : Type*) where
  waiting : List α := []
  inProgress : Bool := false
  outstanding : Nat := 0
  handed : List (τ × α) := []

namespace SendQueue

variable {τ α : Type*} {q : SendQueue τ α}

/-- Hand over the first message, or clear the flag. -/
def sendOnce (q : SendQueue τ α) (carrier : τ) : SendQueue τ α :=
  match q.waiting with
  | [] => { q with inProgress := false }
  | m :: rest =>
    { waiting := rest
      inProgress := true
      outstanding := q.outstanding + 1
      handed := q.handed ++ [(carrier, m)] }

/-- Add a message. -/
def enqueue (q : SendQueue τ α) (carrier : τ) (m : α) : SendQueue τ α :=
  if q.inProgress then { q with waiting := q.waiting ++ [m] }
  else sendOnce { q with waiting := q.waiting ++ [m] } carrier

/-- A send has completed. -/
def completed (q : SendQueue τ α) (carrier : τ) : SendQueue τ α :=
  sendOnce { q with outstanding := q.outstanding - 1 } carrier

/-- A send has failed.  The flag stays, so that no other send is started. -/
def failed (q : SendQueue τ α) : SendQueue τ α := { q with outstanding := q.outstanding - 1 }

/-- Exactly one send is outstanding while one is in progress; else nothing waits. -/
structure Pumped (q : SendQueue τ α) : Prop where
  busy : q.inProgress = true → q.outstanding = 1
  idle : q.inProgress = false → q.waiting = [] ∧ q.outstanding = 0

/-- A pumped queue with a send outstanding has one in progress. -/
theorem Pumped.inProgress_iff (hq : q.Pumped) : q.inProgress = true ↔ 0 < q.outstanding := by
  cases hflag : q.inProgress with
  | true =>
    have := hq.busy hflag
    simp only [true_iff]
    omega
  | false =>
    have := (hq.idle hflag).2
    simp only [Bool.false_eq_true, false_iff]
    omega

/-- A queue with nothing outstanding is pumped after it has sent once. -/
theorem pumped_sendOnce (h : q.outstanding = 0) (carrier : τ) : (q.sendOnce carrier).Pumped := by
  unfold sendOnce
  split
  · next hnone => exact ⟨(fun h => by cases h), fun _ => ⟨hnone, h⟩⟩
  · exact ⟨fun _ => congrArg (· + 1) h, (fun h => by cases h)⟩

/-- Adding a message keeps the queue pumped. -/
theorem Pumped.enqueue (hq : q.Pumped) (carrier : τ) (m : α) : (q.enqueue carrier m).Pumped := by
  unfold SendQueue.enqueue
  split
  · next hbusy =>
    refine ⟨hq.busy, fun hidle => ?_⟩
    rw [show q.inProgress = false from hidle] at hbusy
    cases hbusy
  · next hidle =>
    -- nothing is outstanding, so the one that is sent now is the only one
    apply pumped_sendOnce
    exact (hq.idle (Bool.eq_false_iff.mpr hidle)).2

/-- So does the completion of the outstanding send. -/
theorem Pumped.completed (hq : q.Pumped) (h : 0 < q.outstanding) (carrier : τ) :
    (q.completed carrier).Pumped := by
  have hone := hq.busy (hq.inProgress_iff.mpr h)
  apply pumped_sendOnce
  show q.outstanding - 1 = 0
  omega

/-- **Nothing waits without a send outstanding.** -/
theorem Pumped.outstanding_of_waiting (hq : q.Pumped) (h : q.waiting ≠ []) :
    q.outstanding = 1 := by
  cases hflag : q.inProgress with
  | true => exact hq.busy hflag
  | false => exact absurd (hq.idle hflag).1 h

/-- The completion of a send hands the first waiting message over. -/
theorem handed_completed {m : α} {rest : List α} (h : q.waiting = m :: rest) (carrier : τ) :
    (q.completed carrier).handed = q.handed ++ [(carrier, m)] := by
  unfold completed sendOnce
  simp only [h]

/-- A message added while no send is outstanding is handed over at once. -/
theorem Pumped.handed_enqueue (hq : q.Pumped) (h : q.outstanding = 0) (carrier : τ) (m : α) :
    (q.enqueue carrier m).handed = q.handed ++ [(carrier, m)] := by
  have hidle : q.inProgress = false := by
    rw [← Bool.not_eq_true, hq.inProgress_iff]
    omega
  unfold SendQueue.enqueue sendOnce
  simp [hidle, (hq.idle hidle).1]

/-- What is handed over is never taken back. -/
theorem handed_prefix_sendOnce (q : SendQueue τ α) (carrier : τ) :
    q.handed <+: (q.sendOnce carrier).handed := by
  unfold sendOnce
  split
  · exact List.prefix_rfl
  · exact List.prefix_append _ _

theorem handed_prefix_enqueue (q : SendQueue τ α) (carrier : τ) (m : α) :
    q.handed <+: (q.enqueue carrier m).handed := by
  unfold enqueue
  split
  · exact List.prefix_rfl
  · exact handed_prefix_sendOnce { q with waiting := q.waiting ++ [m] } carrier

@[simp] theorem handed_failed (q : SendQueue τ α) : q.failed.handed = q.handed := rfl

theorem handed_prefix_completed (q : SendQueue τ α) (carrier : τ) :
    q.handed <+: (q.completed carrier).handed :=
  handed_prefix_sendOnce { q with outstanding := q.outstanding - 1 } carrier

/-- All messages that were added, in order. -/
def messages (q : SendQueue τ α) : List α := q.handed.map Prod.snd ++ q.waiting

theorem messages_sendOnce (q : SendQueue τ α) (carrier : τ) :
    (q.sendOnce carrier).messages = q.messages := by
  unfold sendOnce messages
  split
  · rfl
  · next m rest hwaiting =>
    rw [hwaiting, List.map_append, List.append_assoc]
    rfl

theorem messages_enqueue (q : SendQueue τ α) (carrier : τ) (m : α) :
    (q.enqueue carrier m).messages = q.messages ++ [m] := by
  have hadded : ({ q with waiting := q.waiting ++ [m] } : SendQueue τ α).messages =
      q.messages ++ [m] := (List.append_assoc _ _ _).symm
  unfold enqueue
  split
  · exact hadded
  · rw [messages_sendOnce, hadded]

theorem messages_completed (q : SendQueue τ α) (carrier : τ) :
    (q.completed carrier).messages = q.messages :=
  messages_sendOnce { q with outstanding := q.outstanding - 1 } carrier

@[simp] theorem messages_failed (q : SendQueue τ α) : q.failed.messages = q.messages := rfl

end SendQueue

end TunnelBore.Lib
