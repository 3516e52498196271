import TunnelBore.Broker.Peek

namespace TunnelBore.Broker

/-!
# The length of a peeked token

A first chunk that begins with `publisherToBrokerPrefix` has to hold a separator behind it.  The
handler of `peek` compares the length of the buffer with this, which is always 4096, and subtracts
from the number of bytes that have arrived.

* `PeekCourse` — how far the handler gets, and what it gives to `verifyPublisherIdentity`;
* `PeeksExactly` — the subtraction does not wrap, the token is the rest of the chunk, a chunk that
  is too short closes the tunnel, and a client keeps its chunk;
* `peeks_exactly_iff` — the one chunk on which this fails is the prefix alone.
-/

/-- How far the handler of the first read gets. -/
inductive PeekCourse
  /-- The read failed, the control session is gone, or nothing has arrived. -/
  | gaveUp
  /-- The guard closes the tunnel. -/
  | tooShort
  /-- The length is computed from `bytesTransferred`, and this token is verified. -/
  | verifies (bytesTransferred : Nat) (token : Bytes)
  /-- The chunk is not from a publisher. -/
  | client
  deriving DecidableEq, Repr

namespace TunnelSession

variable (t : TunnelSession) (control : Option ControlView) (ec : Bool) (chunk : Bytes)

/-- The branches of the handler up to the verification. -/
def peekCourse : PeekCourse :=
  if ec = true ∨ control.isNone = true ∨ chunk.length = 0 then .gaveUp
  else if publisherToBrokerPrefix.isPrefixOf (t.received chunk) then
    if (t.received chunk).length < publisherToBrokerPrefix.length + 1 then .tooShort
    else .verifies chunk.length (peekedToken (t.received chunk) chunk.length)
  else .client

/-- The handler from the verification on. -/
def peekVerified (view : ControlView) (tokenText : Bytes) : TunnelSession × PeekAction :=
  match view.verifyPublisherIdentity tokenText with
  | none       => ({ t with peekBuffer := [] }, .close)
  | some token =>
    ({ t with peekBuffer := [], isPublisherSide := true },
      if token.identity ≠ view.identity then .close
      else token.claimedTunnelId.elim .close .connectTunnels)

/-- What the handler does on its course. -/
def follow : PeekCourse → TunnelSession × PeekAction
  | .gaveUp           => ({ t with peekBuffer := t.received chunk }, .close)
  | .tooShort         => ({ t with peekBuffer := t.received chunk }, .close)
  | .verifies _ token =>
    match control with
    | none      => ({ t with peekBuffer := t.received chunk }, .close)
    | some view => t.peekVerified view token
  | .client           =>
    ({ t with peekBuffer := (t.received chunk).take chunk.length, isPublisherSide := false },
      .informAboutConnection)

/-- **The handler takes its course**: what it leaves depends on the verification of one token, or
    of none. -/
theorem peekHandler_eq_follow :
    t.peekHandler control ec chunk = t.follow control chunk (t.peekCourse control ec chunk) := by
  unfold peekCourse peekHandler
  cases ec with
  | true => simp [follow]
  | false =>
    cases control with
    | none => simp [follow]
    | some view =>
      by_cases hempty : chunk.length = 0
      · simp [hempty, follow]
      by_cases hfront : publisherToBrokerPrefix.isPrefixOf (t.received chunk) = true
      · simp only [Bool.false_eq_true, hempty, hfront, Option.isNone_some, or_self, if_false,
          if_true]
        by_cases hshort : (t.received chunk).length < publisherToBrokerPrefix.length + 1
        · rw [if_pos hshort, if_pos hshort]
          rfl
        · rw [if_neg hshort, if_neg hshort]
          show _ = t.peekVerified view (peekedToken (t.received chunk) chunk.length)
          unfold peekVerified
          cases view.verifyPublisherIdentity (peekedToken (t.received chunk) chunk.length) with
          | none => rfl
          | some token =>
            by_cases hidentity : token.identity = view.identity
            · cases hclaim : token.claimedTunnelId <;> simp [hidentity, hclaim]
            · simp [hidentity]
      · simp [hempty, hfront, follow]

end TunnelSession

/-- What the claims of the handler about lengths come to. -/
structure PeeksExactly (t : TunnelSession) (control : Option ControlView) (ec : Bool)
    (chunk : Bytes) : Prop where
  /-- The subtraction does not wrap, and the token is what the chunk holds behind the separator. -/
  token : ∀ n text, t.peekCourse control ec chunk = .verifies n text →
    publisherToBrokerPrefix.length + 1 ≤ n ∧
      text = chunk.drop (publisherToBrokerPrefix.length + 1)
  /-- A chunk with the prefix and no more is not verified but closes the tunnel. -/
  short : publisherToBrokerPrefix <+: t.received chunk →
    chunk.length < publisherToBrokerPrefix.length + 1 →
    (t.peekHandler control ec chunk).2 = .close ∧
      ∀ n text, t.peekCourse control ec chunk ≠ .verifies n text
  /-- A client keeps its chunk and nothing else. -/
  client : t.peekCourse control ec chunk = .client →
    (t.peekHandler control ec chunk).1.peekBuffer = chunk

/-! ### The one chunk that is too short -/

section
variable {t : TunnelSession} {control : Option ControlView} {ec : Bool} {chunk : Bytes}

/-- A course that ends with a verification. -/
theorem peekCourse_eq_verifies {n : Nat} {text : Bytes}
    (h : t.peekCourse control ec chunk = .verifies n text) :
    publisherToBrokerPrefix <+: t.received chunk ∧ n = chunk.length ∧
      text = peekedToken (t.received chunk) chunk.length := by
  unfold TunnelSession.peekCourse at h
  split_ifs at h with h₁ h₂ h₃
  obtain ⟨rfl, rfl⟩ := PeekCourse.verifies.inj h
  exact ⟨List.isPrefixOf_iff_prefix.mp h₂, rfl, rfl⟩

/-- A chunk that fits leaves the buffer at its size. -/
theorem length_received (hbuffer : t.peekBuffer = List.replicate 4096 0)
    (hfit : chunk.length ≤ 4096) : (t.received chunk).length = 4096 := by
  unfold TunnelSession.received
  rw [hbuffer, List.drop_replicate, List.length_append, List.length_replicate]
  omega

/-- So the guard never closes the tunnel. -/
theorem peekCourse_of_front (hbuffer : t.peekBuffer = List.replicate 4096 0)
    (hfit : chunk.length ≤ 4096) (hne : chunk ≠ []) (view : ControlView)
    (hfront : publisherToBrokerPrefix <+: t.received chunk) :
    t.peekCourse (some view) false chunk =
      .verifies chunk.length (peekedToken (t.received chunk) chunk.length) := by
  have hlong : ¬(t.received chunk).length < publisherToBrokerPrefix.length + 1 := by
    rw [length_received hbuffer hfit, length_publisherToBrokerPrefix]
    omega
  unfold TunnelSession.peekCourse
  rw [if_neg (by simpa using hne), if_pos (List.isPrefixOf_iff_prefix.mpr hfront), if_neg hlong]

/-- The prefix alone wraps the subtraction, and the padding of the buffer is taken for a token. -/
theorem peekCourse_alone (hbuffer : t.peekBuffer = List.replicate 4096 0) (view : ControlView) :
    t.peekCourse (some view) false publisherToBrokerPrefix =
      .verifies 15 (List.replicate 4080 0) := by
  have hreceived : t.received publisherToBrokerPrefix =
      publisherToBrokerPrefix ++ List.replicate 4081 0 := by
    unfold TunnelSession.received
    rw [hbuffer, List.drop_replicate, length_publisherToBrokerPrefix]
  have hwrapped : tokenLength 15 = 18446744073709551615 := by decide +kernel
  have htoken : peekedToken (t.received publisherToBrokerPrefix) 15 = List.replicate 4080 0 := by
    unfold peekedToken substr
    have hpast : publisherToBrokerPrefix.length ≤ 15 + 1 := by decide
    rw [hwrapped, hreceived, length_publisherToBrokerPrefix, List.drop_append,
      length_publisherToBrokerPrefix, List.drop_of_length_le hpast, List.drop_replicate]
    apply List.take_of_length_le
    rw [List.nil_append, List.length_replicate]
    omega
  rw [peekCourse_of_front hbuffer (by decide) (by decide) view (hreceived ▸ List.prefix_append _ _),
    length_publisherToBrokerPrefix, htoken]

/-- A handler that gives up verifies nothing. -/
theorem peeksExactly_of_gaveUp (h : t.peekCourse control ec chunk = .gaveUp) :
    PeeksExactly t control ec chunk where
  token n text hcourse := by rw [h] at hcourse; cases hcourse
  short _ _ := by
    rw [TunnelSession.peekHandler_eq_follow, h]
    exact ⟨rfl, fun _ _ hcourse => by cases hcourse⟩
  client hcourse := by rw [h] at hcourse; cases hcourse

/-- **When a live handler is right**: on every first chunk but the prefix itself, which is the one
    chunk with the prefix that is too short. -/
theorem peeksExactly_live_iff (hbuffer : t.peekBuffer = List.replicate 4096 0) (hne : chunk ≠ [])
    (hfit : chunk.length ≤ 4096) (view : ControlView) :
    PeeksExactly t (some view) false chunk ↔ chunk ≠ publisherToBrokerPrefix := by
  constructor
  · rintro h rfl
    have htoken := (h.token _ _ (peekCourse_alone hbuffer view)).1
    rw [length_publisherToBrokerPrefix] at htoken
    omega
  · intro hother
    -- a chunk with the prefix has at least one byte behind it
    have hlong : publisherToBrokerPrefix <+: t.received chunk →
        publisherToBrokerPrefix.length + 1 ≤ chunk.length := by
      intro hfront
      have hchunk := (prefix_received_iff hbuffer chunk).mp hfront
      by_contra hshort
      exact hother (hchunk.eq_of_length_le (by omega)).symm
    refine ⟨?_, ?_, ?_⟩
    · intro n text hcourse
      obtain ⟨hfront, rfl, rfl⟩ := peekCourse_eq_verifies hcourse
      refine ⟨hlong hfront, ?_⟩
      obtain ⟨rest, hrest⟩ := (prefix_received_iff hbuffer chunk).mp hfront
      have hlength := hlong hfront
      cases rest with
      | nil => exact absurd (hrest.symm.trans (List.append_nil _)) hother
      | cons separator token =>
        rw [← hrest] at hfit ⊢
        rw [peekedToken_eq hfit, List.drop_append, List.drop_of_length_le (Nat.le_succ _)]
        simp
    · intro hfront hshort
      exact absurd (hlong hfront) (by omega)
    · intro hcourse
      rw [TunnelSession.peekHandler_eq_follow, hcourse]
      show (chunk ++ t.peekBuffer.drop chunk.length).take chunk.length = chunk
      exact List.take_left

/-- **When the lengths are right**: unless the chunk is the prefix itself, and the handler gets
    to look at it. -/
theorem peeks_exactly_iff (hbuffer : t.peekBuffer = List.replicate 4096 0) (hne : chunk ≠ [])
    (hfit : chunk.length ≤ 4096) :
    PeeksExactly t control ec chunk ↔
      (chunk = publisherToBrokerPrefix → ec = true ∨ control.isNone = true) := by
  by_cases hgone : ec = true ∨ control.isNone = true
  · refine iff_of_true (peeksExactly_of_gaveUp ?_) fun _ => hgone
    unfold TunnelSession.peekCourse
    rw [if_pos (hgone.imp_right .inl)]
  · obtain ⟨hec, hcontrol⟩ := not_or.mp hgone
    obtain rfl : ec = false := by simpa using hec
    have hlive : control ≠ none := by simpa using hcontrol
    obtain ⟨view, rfl⟩ := Option.ne_none_iff_exists'.mp hlive
    rw [peeksExactly_live_iff hbuffer hne hfit view]
    exact ⟨fun hother hchunk => absurd hchunk hother, fun h hchunk => hgone (h hchunk)⟩

end

/-- A publisher side with a token. -/
theorem peeks_exactly_token :
    PeeksExactly {} (some (viewNaming "c")) false (chunkNaming "c") ↔
      (chunkNaming "c" = publisherToBrokerPrefix →
        false = true ∨ (some (viewNaming "c")).isNone = true) :=
  peeks_exactly_iff rfl (by decide +kernel) (by decide +kernel)

/-- The prefix without a separator is not closed by the guard: 4080 bytes of padding are
    verified. -/
theorem peeks_padding :
    ¬PeeksExactly {} (some (viewNaming "c")) false publisherToBrokerPrefix ∧
      TunnelSession.peekCourse {} (some (viewNaming "c")) false publisherToBrokerPrefix =
        .verifies 15 (List.replicate 4080 0) := by
  have hcourse := peekCourse_alone (t := {}) rfl (viewNaming "c")
  refine ⟨fun h => ?_, hcourse⟩
  exact absurd (h.token _ _ hcourse).1 (by decide)

end TunnelBore.Broker
