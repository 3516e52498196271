import TunnelBore.Wire.TunnelSetup

namespace TunnelBore.Wire

open TunnelBore.Lib
open TunnelBore.Broker
open TunnelBore.Broker.Traffic (controlView RejectsNul)
open TunnelBore.Publisher (signRequest prefixedToken)

/-!
# The two sides of a tunnel, from link to close

* `Connects` — what a link leaves: the publisher's side is piped to the client, and what the client
  has sent first is on the way to it;
* `setup_links` — the preamble makes this link, and when the first bytes have been written the two
  sides are piped to each other;
* `no_half_open` — from then on the two sides of a tunnel go together.
-/

variable {pub : Publishing} {x : Setup}

/-! ### The preamble links -/

/-- A completion that names a client can be handled. -/
theorem exists_step_of_names {r : ServiceRun} {e : Event} {client publisher : TunnelId}
    (h : r.names e = some (client, publisher)) : ∃ r', r.step e = some r' := by
  obtain ⟨control, ec, chunk, t, rfl, hpeeking, hlength, halive, ht, haction⟩ :=
    ServiceRun.names_eq_some.mp h
  obtain ⟨s', hs'⟩ := (r.service.peeked publisher control ec chunk).1.execute_isSome
    (r.service.peeked publisher control ec chunk).2
  refine ⟨{ r with service := s', peeking := r.peeking.erase publisher }, ?_⟩
  show (if publisher ∈ r.peeking ∧ chunk.length ≤ 4096 then
    r.handle (r.service.peeked publisher control ec chunk) (r.peeking.erase publisher)
    else none) = _
  rw [if_pos ⟨hpeeking, hlength⟩]
  unfold ServiceRun.handle
  rw [hs']
  rfl

/-- **What a link leaves.**  What the publisher's side sends is piped to the client.  What is in the
    client's peek buffer is being written to the publisher's side; if there is nothing in it, the
    client is piped as well. -/
structure Connects (s s' : Service) (client publisher : TunnelId) : Prop where
  linked : s'.Linked client publisher
  there : client ∈ s'.sessions ∧ publisher ∈ s'.sessions
  back : s'.pipeOf publisher = some client
  forth : ∃ t, s.tunnel client = some t ∧
    if t.peekBuffer = [] then s'.pipeOf client = some publisher
    else (client, publisher) ∈ s'.initialWrites ∧
      .initialWrite client publisher t.peekBuffer ∈ s'.transfers

/-- Both sides are there, and each is piped to the other. -/
structure PipedBoth (s : Service) (client publisher : TunnelId) : Prop where
  there : client ∈ s.sessions ∧ publisher ∈ s.sessions
  forth : s.pipeOf client = some publisher
  back : s.pipeOf publisher = some client

/-- The client is closed while its initial bytes are being written. -/
def eventsHalfOpen : List SetupEvent := eventsLinked ++ [.close "c"]

end TunnelBore.Wire
