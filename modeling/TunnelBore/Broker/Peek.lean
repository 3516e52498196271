import TunnelBore.Broker.PublisherToken
import TunnelBore.Broker.TunnelSession
import TunnelBore.Shared.JsonDump

namespace TunnelBore.Broker

/-!
# `TunnelSession::peek`: who has connected

The first read of a new connection decides which side of a tunnel it is.  A chunk that
begins with `publisherToBrokerPrefix` is a publisher side: the rest of it is a token that has
to verify under the identity of the control session, and its claim `tunnelId` names the
client to link.  Anything else is a client, whose chunk is kept for the link.

The handler looks at a 4096 byte buffer that the read has filled from the front, not at the
chunk, and computes the length of the token in unsigned 64 bit arithmetic.
-/

/-- What `peek` uses of the control session. -/
structure ControlView where
  identity : String
  verifyPublisherIdentity : Bytes → Option PublisherToken

/-- What the handler does in the end. -/
inductive PeekAction
  /-- `self->close()`. -/
  | close
  /-- `service->connectTunnels` with the claimed id and this session's own. -/
  | connectTunnels (idForClientTunnel : TunnelId)
  /-- `controlSession->informAboutConnection`. -/
  | informAboutConnection
  deriving DecidableEq, Repr

/-- `std::string::substr`, for a position inside the string. -/
def substr (text : Bytes) (pos count : Nat) : Bytes := (text.drop pos).take count

/-- A read of `chunk` fills the buffer from the front. -/
def TunnelSession.received (t : TunnelSession) (chunk : Bytes) : Bytes :=
  chunk ++ t.peekBuffer.drop chunk.length

/-- `bytesTransferred - publisherToBrokerPrefix.size() - 1`, of type `std::size_t`. -/
def tokenLength (bytesTransferred : Nat) : Nat :=
  (UInt64.ofNat bytesTransferred - UInt64.ofNat publisherToBrokerPrefix.length - 1).toNat

/-- The token a publisher side sent, as the handler cuts it out of the buffer. -/
def peekedToken (buffer : Bytes) (bytesTransferred : Nat) : Bytes :=
  substr buffer (publisherToBrokerPrefix.length + 1) (tokenLength bytesTransferred)

/-- `token->claims()["tunnelId"].get<std::string>()`; `none` says that it throws. -/
def PublisherToken.claimedTunnelId (token : PublisherToken) : Option TunnelId :=
  (token.otherClaims.find "tunnelId").bind Json.getString

/-- The completion handler of the first read, for a service that is alive.  `ec` says whether
    the read failed, `control` is the control session if there still is one. -/
def TunnelSession.peekHandler (t : TunnelSession) (control : Option ControlView) (ec : Bool)
    (chunk : Bytes) : TunnelSession × PeekAction :=
  let buffer := t.received chunk
  let failed : TunnelSession × PeekAction := ({ t with peekBuffer := buffer }, .close)
  if ec then failed
  else
    match control with
    | none => failed
    | some control =>
      if chunk.length = 0 then failed
      else if publisherToBrokerPrefix.isPrefixOf buffer then
        if buffer.length < publisherToBrokerPrefix.length + 1 then failed
        else
          match control.verifyPublisherIdentity (peekedToken buffer chunk.length) with
          | none => ({ t with peekBuffer := [] }, .close)
          | some token =>
            let t' := { t with peekBuffer := [], isPublisherSide := true }
            if token.identity ≠ control.identity then (t', .close)
            else
              -- the exception of a missing or mistyped claim is caught and closes
              match token.claimedTunnelId with
              | none    => (t', .close)
              | some id => (t', .connectTunnels id)
      else
        ({ t with peekBuffer := buffer.take chunk.length, isPublisherSide := false },
          .informAboutConnection)

/-- The handler leaves the flags that closing uses alone. -/
theorem peekHandler_frame (t : TunnelSession) (control : Option ControlView) (ec : Bool)
    (chunk : Bytes) :
    (t.peekHandler control ec chunk).1.wasClosed = t.wasClosed ∧
      (t.peekHandler control ec chunk).1.pipeOperation = t.pipeOperation ∧
      (t.peekHandler control ec chunk).1.owners = t.owners := by
  unfold TunnelSession.peekHandler
  cases ec with
  | true => exact ⟨rfl, rfl, rfl⟩
  | false =>
    cases control with
    | none => exact ⟨rfl, rfl, rfl⟩
    | some control =>
      simp only [Bool.false_eq_true, if_false]
      split
      · exact ⟨rfl, rfl, rfl⟩
      · split
        · split
          · exact ⟨rfl, rfl, rfl⟩
          · split
            · exact ⟨rfl, rfl, rfl⟩
            · split
              · exact ⟨rfl, rfl, rfl⟩
              · split <;> exact ⟨rfl, rfl, rfl⟩
        · exact ⟨rfl, rfl, rfl⟩

/-- **When the handler links.**  It calls `connectTunnels` exactly for a read without an error,
    on a live control session, of a chunk that fills the buffer to begin with the prefix and
    whose token verifies with the control session's identity and a string for `tunnelId`. -/
theorem peekHandler_connectTunnels {t : TunnelSession} {control : Option ControlView} {ec : Bool}
    {chunk : Bytes} {id : TunnelId} :
    (t.peekHandler control ec chunk).2 = .connectTunnels id ↔
      ∃ view token, ec = false ∧ control = some view ∧ chunk ≠ [] ∧
        publisherToBrokerPrefix <+: t.received chunk ∧
        publisherToBrokerPrefix.length < (t.received chunk).length ∧
        view.verifyPublisherIdentity (peekedToken (t.received chunk) chunk.length) =
          some token ∧
        token.identity = view.identity ∧
        token.claimedTunnelId = some id := by
  unfold TunnelSession.peekHandler
  cases ec with
  | true => simp
  | false =>
    cases control with
    | none => simp
    | some view =>
      simp only [Bool.false_eq_true, if_false, List.length_eq_zero_iff, List.isPrefixOf_iff_prefix]
      by_cases hchunk : chunk = []
      · simp [hchunk]
      by_cases hprefix : publisherToBrokerPrefix <+: t.received chunk
      · by_cases hlength : (t.received chunk).length < publisherToBrokerPrefix.length + 1
        · rw [if_neg hchunk, if_pos hprefix, if_pos hlength]
          constructor
          · intro h
            exact absurd h (by simp)
          · rintro ⟨_, _, _, _, _, _, hlt, _⟩
            omega
        · rw [if_neg hchunk, if_pos hprefix, if_neg hlength]
          cases hverify : view.verifyPublisherIdentity
              (peekedToken (t.received chunk) chunk.length) with
          | none => simp [hverify]
          | some token =>
            by_cases hidentity : token.identity = view.identity
            · have hlt : 15 < (t.received chunk).length := by
                rw [length_publisherToBrokerPrefix] at hlength
                omega
              cases hclaim : token.claimedTunnelId <;>
                simp [hverify, hidentity, hclaim, hchunk, hprefix, hlt]
            · simp [hverify, hidentity]
      · simp [hchunk, hprefix]

/-- A side that is to be linked has nothing left in its peek buffer. -/
theorem peekBuffer_of_connectTunnels {t : TunnelSession} {control : Option ControlView}
    {ec : Bool} {chunk : Bytes} {id : TunnelId}
    (h : (t.peekHandler control ec chunk).2 = .connectTunnels id) :
    (t.peekHandler control ec chunk).1.peekBuffer = [] ∧
      (t.peekHandler control ec chunk).1.isPublisherSide = true := by
  obtain ⟨view, token, rfl, rfl, hchunk, hprefix, hlength, hverify, hidentity, hclaim⟩ :=
    peekHandler_connectTunnels.mp h
  have hshort : ¬(t.received chunk).length < publisherToBrokerPrefix.length + 1 := by omega
  have hnonempty : ¬chunk.length = 0 := by simpa using hchunk
  unfold TunnelSession.peekHandler
  simp only [Bool.false_eq_true, if_false]
  rw [if_neg hnonempty, if_pos (List.isPrefixOf_iff_prefix.mpr hprefix), if_neg hshort]
  simp [hverify, hidentity, hclaim]

/-- A client that is announced keeps its whole first chunk and nothing else. -/
theorem peekBuffer_of_informAboutConnection {t : TunnelSession} {control : Option ControlView}
    {ec : Bool} {chunk : Bytes}
    (h : (t.peekHandler control ec chunk).2 = .informAboutConnection) :
    ec = false ∧ chunk ≠ [] ∧ ¬publisherToBrokerPrefix <+: t.received chunk ∧
      (t.peekHandler control ec chunk).1.peekBuffer = chunk := by
  unfold TunnelSession.peekHandler at h ⊢
  cases ec with
  | true => cases h
  | false =>
    cases control with
    | none => cases h
    | some view =>
      simp only [Bool.false_eq_true, if_false, List.length_eq_zero_iff,
        List.isPrefixOf_iff_prefix] at h ⊢
      split at h
      · cases h
      · next hchunk =>
        rw [if_neg hchunk]
        split at h
        · -- a publisher side is never announced, whatever becomes of it
          split at h
          · cases h
          · split at h
            · cases h
            · split at h
              · cases h
              · split at h <;> cases h
        · next hfront =>
          rw [if_neg hfront]
          refine ⟨trivial, hchunk, hfront, ?_⟩
          show (chunk ++ t.peekBuffer.drop chunk.length).take chunk.length = chunk
          exact List.take_left

/-! ### What the padding of the buffer cannot do -/

/-- On a fresh buffer the prefix is recognised exactly when the chunk itself begins with it:
    the zeros behind the chunk are not part of any prefix. -/
theorem prefix_received_iff {t : TunnelSession} (hbuffer : t.peekBuffer = List.replicate 4096 0)
    (chunk : Bytes) :
    publisherToBrokerPrefix <+: t.received chunk ↔ publisherToBrokerPrefix <+: chunk := by
  unfold TunnelSession.received
  constructor
  · intro h
    rcases List.prefix_or_prefix_of_prefix h (List.prefix_append chunk _) with hle | hlt
    · exact hle
    · -- a chunk shorter than the prefix would leave a zero in it
      obtain ⟨rest, hrest⟩ := hlt
      cases rest with
      | nil =>
        rw [List.append_nil] at hrest
        exact hrest ▸ List.prefix_rfl
      | cons c rest =>
        rw [← hrest, List.prefix_append_right_inj, hbuffer, List.drop_replicate] at h
        have hmem : c ∈ List.replicate (4096 - chunk.length) (0 : UInt8) :=
          h.subset List.mem_cons_self
        have hzero : (0 : UInt8) ∈ publisherToBrokerPrefix := by
          rw [← hrest, List.mem_append, ← List.eq_of_mem_replicate hmem]
          exact .inr List.mem_cons_self
        exact absurd hzero zero_notMem_publisherToBrokerPrefix
  · exact fun h => h.trans (List.prefix_append _ _)

/-- The subtraction does not wrap for a chunk longer than the prefix. -/
theorem tokenLength_of_lt {n : Nat} (h : publisherToBrokerPrefix.length < n) (hn : n ≤ 4096) :
    tokenLength n = n - publisherToBrokerPrefix.length - 1 := by
  rw [length_publisherToBrokerPrefix] at h ⊢
  unfold tokenLength
  rw [length_publisherToBrokerPrefix]
  have hfit : n < 2 ^ 64 := by omega
  rw [UInt64.toNat_sub_of_le, UInt64.toNat_sub_of_le, UInt64.toNat_ofNat_of_lt' hfit]
  · rfl
  · rw [UInt64.le_iff_toNat_le, UInt64.toNat_ofNat_of_lt' hfit]
    show 15 ≤ n
    omega
  · rw [UInt64.le_iff_toNat_le, UInt64.toNat_sub_of_le, UInt64.toNat_ofNat_of_lt' hfit]
    · show 1 ≤ n - 15
      omega
    · rw [UInt64.le_iff_toNat_le, UInt64.toNat_ofNat_of_lt' hfit]
      show 15 ≤ n
      omega

/-- The token is the chunk behind the prefix and one more byte. -/
theorem peekedToken_eq {t : TunnelSession} {separator : UInt8} {token : Bytes}
    (hlength : (publisherToBrokerPrefix ++ separator :: token).length ≤ 4096) :
    peekedToken (t.received (publisherToBrokerPrefix ++ separator :: token))
        (publisherToBrokerPrefix ++ separator :: token).length = token := by
  have hlt : publisherToBrokerPrefix.length <
      (publisherToBrokerPrefix ++ separator :: token).length := by simp
  unfold peekedToken substr TunnelSession.received
  rw [tokenLength_of_lt hlt hlength]
  simp only [List.length_append, List.length_cons, length_publisherToBrokerPrefix]
  have hsplit : publisherToBrokerPrefix ++ separator :: token =
      (publisherToBrokerPrefix ++ [separator]) ++ token := by simp
  have hprefix : (publisherToBrokerPrefix ++ [separator]).length = 15 + 1 := by simp
  rw [hsplit, List.append_assoc, ← hprefix, List.drop_left]
  have hcount : 15 + (token.length + 1) - 15 - 1 = token.length := by omega
  rw [hcount, List.take_left]

/-! ### Control sessions to try things on -/

/-- The claims of a token of `pub` that names this client. -/
def payloadNaming (client : TunnelId) : Json :=
  .object [("identity", .string "pub"), ("iss", .string "tunnelBore"),
    ("tunnelId", .string client)]

def tokenNaming (client : TunnelId) : Bytes := webToken (payloadNaming client)

/-- A control session of `pub` that accepts one token, which names this client. -/
def viewNaming (client : TunnelId) : ControlView where
  identity := "pub"
  verifyPublisherIdentity tokenData :=
    if tokenData = tokenNaming client then some ⟨"pub", payloadNaming client⟩ else none

/-- The first chunk of a publisher side that names this client. -/
def chunkNaming (client : TunnelId) : Bytes :=
  publisherToBrokerPrefix ++ asciiString ":" ++ tokenNaming client

end TunnelBore.Broker
