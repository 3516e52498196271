import TunnelBore.Shared.Bytes

namespace TunnelBore.Broker

/-!
# `StreamParser`: cutting a byte stream into JSON objects

The control connection delivers arbitrary pieces of a stream of JSON objects.  `feed`
appends a piece to the buffer, `popMessage` looks for the closing brace of the first
complete object, cuts the object off the buffer and hands its text to `json::parse`.  The
search remembers where it stopped: `FindMemoizer` holds the brace depth, the two string
flags and the offset, and is reset when an object is consumed.

`json::parse` belongs to a library; it is the parameter `parse`, which may throw.
-/

/-- `StreamParser::FindMemoizer`: where the search for the closing brace stopped.  The
    counter is an `int` in the source; it moves by at most one for each buffered byte
    (`findFrom_curlyCount_le`). -/
structure FindMemoizer where
  curlyCount : Int := 0
  escape : Bool := false
  insideString : Bool := false
  offset : Nat := 0
  deriving DecidableEq, Repr

/-- The `if` chain of one iteration: the new state, and whether `c` closes the object. -/
def FindMemoizer.look (m : FindMemoizer) (c : UInt8) : FindMemoizer × Bool :=
  if c = ascii '{' ∧ ¬m.insideString then
    ({ m with curlyCount := m.curlyCount + 1 }, false)
  else if c = ascii '}' ∧ ¬m.insideString then
    ({ m with curlyCount := m.curlyCount - 1 }, m.curlyCount - 1 = 0)
  else if c = ascii '"' ∧ ¬m.escape then
    ({ m with insideString := !m.insideString }, false)
  else if c = ascii '\\' then
    ({ m with escape := !m.escape }, false)
  else
    (m, false)

/-- The end of one iteration: any byte but a backslash ends an escape, then `++m_offset`. -/
def FindMemoizer.next (m : FindMemoizer) (c : UInt8) : FindMemoizer :=
  { m with
    escape := if c ≠ ascii '\\' ∧ m.escape then false else m.escape
    offset := m.offset + 1 }

/-- The loop of `findCompleteObjectEnd` over the bytes from `m_offset` on.  The early return
    on the closing brace leaves the offset on that brace. -/
def findFrom : FindMemoizer → Bytes → FindMemoizer × Bool
  | m, []        => (m, false)
  | m, c :: rest =>
    let looked := m.look c
    if looked.2 then looked else findFrom (looked.1.next c) rest

/-- `StreamParser`. -/
structure StreamParser where
  buffer : Bytes := []
  findState : FindMemoizer := {}
  deriving DecidableEq, Repr

namespace StreamParser

/-- `StreamParser::feed`. -/
def feed (p : StreamParser) (text : Bytes) : StreamParser :=
  { p with buffer := p.buffer ++ text }

/-- `StreamParser::findCompleteObjectEnd`: the index of the closing brace of the first
    complete object, `none` for `std::end(m_buffer)`. -/
def findCompleteObjectEnd (p : StreamParser) : Option Nat × StreamParser :=
  let found := findFrom p.findState (p.buffer.drop p.findState.offset)
  (if found.2 then some found.1.offset else none, { p with findState := found.1 })

/-- `StreamParser::consumeObject`: the buffer up to `end` without its leading whitespace;
    the buffer keeps the rest and the search starts afresh. -/
def consumeObject (p : StreamParser) («end» : Nat) : Bytes × StreamParser :=
  ((p.buffer.take «end»).dropWhile isspace, { buffer := p.buffer.drop «end», findState := {} })

variable {ε J : Type} (parse : Bytes → Except ε J)

/-- `StreamParser::popMessage`.  `none` is `std::nullopt`; `some (.error e)` says that
    `json::parse` threw, after the text was consumed. -/
def popMessage (p : StreamParser) : Option (Except ε J) × StreamParser :=
  match p.findCompleteObjectEnd with
  | (none, p')          => (none, p')
  | (some position, p') =>
    let consumed := p'.consumeObject (position + 1)
    (some (parse consumed.1), consumed.2)

end StreamParser

/-! ### The search over concatenated bytes -/

/-- The search over `a ++ b` is the search over `a`, continued over `b` unless an object
    already ended in `a`. -/
theorem findFrom_append (m : FindMemoizer) (a b : Bytes) :
    findFrom m (a ++ b) =
      if (findFrom m a).2 then findFrom m a else findFrom (findFrom m a).1 b := by
  induction a generalizing m with
  | nil => simp [findFrom]
  | cons c a ih =>
    simp only [List.cons_append, findFrom]
    by_cases hfound : (m.look c).2
    · simp [hfound]
    · simp only [hfound, if_false, Bool.false_eq_true]
      exact ih _

/-- Looking at a byte does not move the offset. -/
@[simp] theorem FindMemoizer.look_offset (m : FindMemoizer) (c : UInt8) :
    (m.look c).1.offset = m.offset := by
  unfold FindMemoizer.look
  split_ifs <;> rfl

/-- A search that found nothing has passed over every byte. -/
theorem findFrom_offset_of_pending (m : FindMemoizer) (a : Bytes)
    (h : (findFrom m a).2 = false) : (findFrom m a).1.offset = m.offset + a.length := by
  induction a generalizing m with
  | nil => rfl
  | cons c a ih =>
    by_cases hfound : (m.look c).2
    · simp [findFrom, hfound] at h
    · simp only [findFrom, hfound, if_false, Bool.false_eq_true] at h ⊢
      rw [ih _ h]
      simp only [FindMemoizer.next, FindMemoizer.look_offset, List.length_cons]
      omega

/-- A search that found a closing brace stops on it, before the end of the bytes. -/
theorem findFrom_offset_lt_of_found (m : FindMemoizer) (a : Bytes)
    (h : (findFrom m a).2 = true) : (findFrom m a).1.offset < m.offset + a.length := by
  induction a generalizing m with
  | nil => simp [findFrom] at h
  | cons c a ih =>
    by_cases hfound : (m.look c).2
    · simp [findFrom, hfound]
    · simp only [findFrom, hfound, if_false, Bool.false_eq_true] at h ⊢
      have := ih _ h
      simp only [FindMemoizer.next, FindMemoizer.look_offset, List.length_cons] at this ⊢
      omega

/-- One byte moves the brace counter by at most one. -/
theorem FindMemoizer.look_curlyCount_le (m : FindMemoizer) (c : UInt8) :
    (m.look c).1.curlyCount.natAbs ≤ m.curlyCount.natAbs + 1 := by
  unfold FindMemoizer.look
  split_ifs <;> simp only <;> omega

/-- The brace counter never exceeds the number of bytes the search has passed, so the `int`
    of the source cannot overflow on a buffer of fewer than `2^31` bytes. -/
theorem findFrom_curlyCount_le (m : FindMemoizer) (a : Bytes) :
    (findFrom m a).1.curlyCount.natAbs ≤ m.curlyCount.natAbs + a.length := by
  induction a generalizing m with
  | nil => simp [findFrom]
  | cons c a ih =>
    have hstep := m.look_curlyCount_le c
    by_cases hfound : (m.look c).2
    · simp only [findFrom, hfound, if_true, List.length_cons]
      omega
    · simp only [findFrom, hfound, if_false, Bool.false_eq_true, List.length_cons]
      have hrest := ih ((m.look c).1.next c)
      have hnext : ((m.look c).1.next c).curlyCount = (m.look c).1.curlyCount := rfl
      rw [hnext] at hrest
      omega

end TunnelBore.Broker
