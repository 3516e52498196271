import Mathlib.Data.List.Basic
import Mathlib.Logic.Relation

namespace TunnelBore.Lib

/-!
# Relays

A relay takes in blocks of a stream and passes them on.  It may take in a new block only when
it owes nothing, and what it passes on is always the front of what it owes; so what a receiver
has accepted is at every moment a prefix of what was taken in.

* `Relay.Step` is one move of a relay;
* `Relay.accepted_append_prefix_taken`: so it is also while a block is under way;
* `Relay.taken_accept` and `Relay.taken_take`: what was taken in is never rewritten.
-/

/-- What the receiver of a relay has accepted, and what the relay still owes it. -/
structure Relay (α : Type*) where
  accepted : List α := []
  owed : List α := []

namespace Relay

variable {α : Type*} {a b c : Relay α}

/-- Everything the relay has taken in. -/
def taken (a : Relay α) : List α := a.accepted ++ a.owed

/-- One move of a relay. -/
inductive Step : Relay α → Relay α → Prop
  /-- Nothing is taken in and nothing is accepted. -/
  | stay (a : Relay α) : Step a a
  /-- A relay that owes nothing takes in a block. -/
  | take (a : Relay α) (block : List α) (h : a.owed = []) : Step a ⟨a.accepted, block⟩
  /-- The receiver accepts the first `n` elements of what is owed. -/
  | accept (a : Relay α) (n : Nat) : Step a ⟨a.accepted ++ a.owed.take n, a.owed.drop n⟩

/-- What was accepted is a prefix of what was taken in. -/
theorem accepted_prefix_taken (a : Relay α) : a.accepted <+: a.taken :=
  List.prefix_append _ _

/-- So it is while a block is on its way to the receiver. -/
theorem accepted_append_prefix_taken (a : Relay α) (n : Nat) :
    a.accepted ++ a.owed.take n <+: a.taken := by
  unfold taken
  rw [List.prefix_append_right_inj]
  exact List.take_prefix n a.owed

/-- Accepting takes nothing in. -/
theorem taken_accept (a : Relay α) (n : Nat) :
    (Relay.mk (a.accepted ++ a.owed.take n) (a.owed.drop n)).taken = a.taken := by
  unfold taken
  show a.accepted ++ a.owed.take n ++ a.owed.drop n = a.accepted ++ a.owed
  rw [List.append_assoc, List.take_append_drop]

/-- A block is taken in behind everything else. -/
theorem taken_take (h : a.owed = []) (block : List α) :
    (Relay.mk a.accepted block).taken = a.taken ++ block := by
  unfold taken
  rw [h, List.append_nil]

end Relay

end TunnelBore.Lib
