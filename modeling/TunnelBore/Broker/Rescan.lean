import Mathlib.Data.List.TakeWhile
import TunnelBore.Broker.Framing

namespace TunnelBore.Broker

/-!
# The memo of the stream parser changes nothing

What the parser remembers between calls only saves it from scanning again.  This file compares
it with a parser that remembers nothing: `rescan` searches the whole buffer from offset 0 at
every call.  The bytes are arbitrary here, well-formed JSON or not.

* `Memoised` — the invariant: the four memo fields are those of a search over a part of the
  buffer, from its start, that has found nothing;
* `popMessage_eq_rescan` — one call, on a parser with the invariant;
* `results_eq_rescanAll` — a history of calls;
* `popMessage_memo_free` — the results of every history, what becomes of the bytes, and that
  chunks do not matter.
-/

/-- What one pop cuts off the buffer: the skipped whitespace and the text handed to
    `json::parse`. -/
structure Cut where
  space : Bytes
  text : Bytes
  deriving DecidableEq, Repr

/-- The bytes of a cut, as they were fed. -/
def Cut.bytes (c : Cut) : Bytes := c.space ++ c.text

/-- Cut a text off at the first byte that is not whitespace. -/
def cutSpace (bytes : Bytes) : Cut := ⟨bytes.takeWhile isspace, bytes.dropWhile isspace⟩

@[simp] theorem cutSpace_bytes (bytes : Bytes) : (cutSpace bytes).bytes = bytes :=
  List.takeWhile_append_dropWhile

/-- A pop without a memo: the whole buffer is searched from its start. -/
def rescan (buffer : Bytes) : Option Cut × Bytes :=
  let found := findFrom {} buffer
  if found.2 then
    (some (cutSpace (buffer.take (found.1.offset + 1))), buffer.drop (found.1.offset + 1))
  else
    (none, buffer)

variable {ε J : Type} (parse : Bytes → Except ε J)

/-- The result of every `popMessage` of a history, `none` for `std::nullopt`. -/
def results : StreamParser → List ParserCall → List (Option (Except ε J))
  | _, []                   => []
  | p, .feed text :: calls  => results (p.feed text) calls
  | p, .popMessage :: calls => (p.popMessage parse).1 :: results (p.popMessage parse).2 calls

/-- The cuts of a history of calls without a memo, one entry for each `popMessage`. -/
def rescanAll : Bytes → List ParserCall → List (Option Cut) × Bytes
  | buffer, []                   => ([], buffer)
  | buffer, .feed text :: calls  => rescanAll (buffer ++ text) calls
  | buffer, .popMessage :: calls =>
    let rest := rescanAll (rescan buffer).2 calls
    ((rescan buffer).1 :: rest.1, rest.2)

variable {parse} {p : StreamParser} {buffer : Bytes}

/-! ### One call -/

/-- The memo is the state of a search over a scanned part of the buffer. -/
def Memoised (p : StreamParser) : Prop :=
  ∃ scanned rest, p.buffer = scanned ++ rest ∧ findFrom {} scanned = (p.findState, false)

/-- A parser whose search starts afresh. -/
theorem memoised_fresh (buffer : Bytes) : Memoised { buffer := buffer } :=
  ⟨[], buffer, rfl, rfl⟩

theorem Memoised.feed (h : Memoised p) (text : Bytes) : Memoised (p.feed text) := by
  obtain ⟨scanned, rest, hbuffer, hmemo⟩ := h
  exact ⟨scanned, rest ++ text, by simp [StreamParser.feed, hbuffer], hmemo⟩

theorem rescan_of_pending (h : (findFrom {} buffer).2 = false) :
    rescan buffer = (none, buffer) := by
  simp [rescan, h]

theorem rescan_of_found (h : (findFrom {} buffer).2 = true) :
    rescan buffer =
      (some (cutSpace (buffer.take ((findFrom {} buffer).1.offset + 1))),
        buffer.drop ((findFrom {} buffer).1.offset + 1)) := by
  simp [rescan, h]

/-- **One call.**  With the invariant, `popMessage` cuts what a parser without a memo cuts, and
    keeps the invariant, whatever `json::parse` makes of the text. -/
theorem popMessage_eq_rescan (parse : Bytes → Except ε J) (h : Memoised p) :
    (p.popMessage parse).1 = (rescan p.buffer).1.map (fun c => parse c.text) ∧
      (p.popMessage parse).2.buffer = (rescan p.buffer).2 ∧
      Memoised (p.popMessage parse).2 := by
  obtain ⟨scanned, rest, hbuffer, hmemo⟩ := h
  have hsearch := search_of_scanned hbuffer hmemo
  cases hfound : p.search.2 with
  | false =>
    rw [popMessage_of_pending hfound, rescan_of_pending (hsearch ▸ hfound)]
    refine ⟨rfl, rfl, p.buffer, [], (List.append_nil _).symm, ?_⟩
    rw [← hsearch, ← hfound]
  | true =>
    rw [popMessage_of_found hfound, rescan_of_found (hsearch ▸ hfound), ← hsearch]
    exact ⟨rfl, rfl, memoised_fresh _⟩

/-- A pop neither loses nor invents bytes. -/
theorem rescan_bytes (buffer : Bytes) :
    (rescan buffer).1.elim [] Cut.bytes ++ (rescan buffer).2 = buffer := by
  cases hfound : (findFrom {} buffer).2 with
  | false =>
    rw [rescan_of_pending hfound]
    rfl
  | true =>
    rw [rescan_of_found hfound, Option.elim_some, cutSpace_bytes, List.take_append_drop]

/-- A cut is whitespace and a text that does not begin with any. -/
structure Cut.Trimmed (c : Cut) : Prop where
  space : ∀ b ∈ c.space, isspace b = true
  text : ∀ b ∈ c.text.head?, isspace b = false

theorem cutSpace_trimmed (bytes : Bytes) : (cutSpace bytes).Trimmed where
  space b hb := List.mem_takeWhile_imp hb
  text b hb := by
    have hhead := List.head?_dropWhile_not isspace bytes
    rw [show (bytes.dropWhile isspace).head? = some b from hb] at hhead
    simpa using hhead

theorem rescan_trimmed {c : Cut} (h : (rescan buffer).1 = some c) : c.Trimmed := by
  cases hfound : (findFrom {} buffer).2 with
  | false =>
    rw [rescan_of_pending hfound] at h
    cases h
  | true =>
    rw [rescan_of_found hfound] at h
    obtain rfl := Option.some.inj h
    exact cutSpace_trimmed _

/-- What a search finds it also finds when more bytes follow. -/
theorem rescan_append {c : Cut} {rest : Bytes} (h : rescan buffer = (some c, rest))
    (more : Bytes) : rescan (buffer ++ more) = (some c, rest ++ more) := by
  cases hfound : (findFrom {} buffer).2 with
  | false =>
    rw [rescan_of_pending hfound] at h
    cases h
  | true =>
    rw [rescan_of_found hfound, Prod.mk.injEq] at h
    obtain ⟨hcut, rfl⟩ := h
    have hlt := findFrom_offset_lt_of_found {} buffer hfound
    have hle : (findFrom {} buffer).1.offset + 1 ≤ buffer.length := by
      simp only at hlt
      omega
    have hsame : findFrom {} (buffer ++ more) = findFrom {} buffer := by
      rw [findFrom_append, if_pos hfound]
    rw [rescan_of_found (hsame ▸ hfound), hsame, List.take_append_of_le_length hle,
      List.drop_append_of_le_length hle, hcut]

/-! ### Histories -/

/-- What a history cuts off, in order. -/
def cuts (buffer : Bytes) (calls : List ParserCall) : List Cut :=
  (rescanAll buffer calls).1.filterMap id

/-- `exec` lists the results that are not `std::nullopt`. -/
theorem exec_eq_results (p : StreamParser) (calls : List ParserCall) :
    (exec parse p calls).1 = (results parse p calls).filterMap id := by
  induction calls generalizing p with
  | nil => rfl
  | cons call calls ih =>
    cases call with
    | feed text => exact ih _
    | popMessage =>
      show (p.popMessage parse).1.toList ++ (exec parse _ calls).1 =
        ((p.popMessage parse).1 :: results parse _ calls).filterMap id
      rw [ih]
      cases (p.popMessage parse).1 <;> rfl

/-- **Histories agree.**  With the invariant, every `popMessage` of a history gives what a parser
    without a memo gives, and leaves the same bytes. -/
theorem results_eq_rescanAll (parse : Bytes → Except ε J) (calls : List ParserCall)
    (h : Memoised p) :
    results parse p calls =
        (rescanAll p.buffer calls).1.map (Option.map fun c => parse c.text) ∧
      (exec parse p calls).2.buffer = (rescanAll p.buffer calls).2 ∧
      Memoised (exec parse p calls).2 := by
  induction calls generalizing p with
  | nil => exact ⟨rfl, rfl, h⟩
  | cons call calls ih =>
    cases call with
    | feed text => exact ih (h.feed text)
    | popMessage =>
      obtain ⟨hresult, hbuffer, hmemo⟩ := popMessage_eq_rescan parse h
      obtain ⟨hrest, hlast, hkept⟩ := ih hmemo
      rw [hbuffer] at hrest hlast
      refine ⟨?_, hlast, hkept⟩
      show (p.popMessage parse).1 :: results parse _ calls =
        Option.map _ (rescan p.buffer).1 :: (rescanAll (rescan p.buffer).2 calls).1.map _
      rw [hresult, hrest]

/-- What a history returns are the texts it cuts off, parsed. -/
theorem exec_eq_cuts (calls : List ParserCall) (h : Memoised p) :
    (exec parse p calls).1 = (cuts p.buffer calls).map fun c => parse c.text := by
  rw [exec_eq_results, (results_eq_rescanAll parse calls h).1, cuts, List.filterMap_map,
    List.map_filterMap]
  rfl

/-- The parser a history leaves does not depend on what `json::parse` does, throw or not. -/
theorem exec_state_eq {ε' J' : Type} (parse : Bytes → Except ε J)
    (parse' : Bytes → Except ε' J') (p : StreamParser) (calls : List ParserCall) :
    (exec parse p calls).2 = (exec parse' p calls).2 := by
  induction calls generalizing p with
  | nil => rfl
  | cons call calls ih =>
    cases call with
    | feed text => exact ih _
    | popMessage =>
      have hsame : (p.popMessage parse).2 = (p.popMessage parse').2 := by
        cases hfound : p.search.2 with
        | false => rw [popMessage_of_pending hfound, popMessage_of_pending hfound]
        | true => rw [popMessage_of_found hfound, popMessage_of_found hfound]
      show (exec parse (p.popMessage parse).2 calls).2 =
        (exec parse' (p.popMessage parse').2 calls).2
      rw [hsame]
      exact ih _

/-- **Conservation.**  The bytes fed are the bytes cut off, in order, and the buffer. -/
theorem cuts_bytes (buffer : Bytes) (calls : List ParserCall) :
    buffer ++ fed calls = (cuts buffer calls).flatMap Cut.bytes ++ (rescanAll buffer calls).2 := by
  induction calls generalizing buffer with
  | nil => exact List.append_nil buffer
  | cons call calls ih =>
    cases call with
    | feed text =>
      show buffer ++ (text ++ fed calls) = _
      rw [← List.append_assoc]
      exact ih (buffer ++ text)
    | popMessage =>
      have hnow := rescan_bytes buffer
      have hcuts : (cuts buffer (.popMessage :: calls)).flatMap Cut.bytes =
          (rescan buffer).1.elim [] Cut.bytes ++
            (cuts (rescan buffer).2 calls).flatMap Cut.bytes := by
        show (((rescan buffer).1 :: _).filterMap id).flatMap _ = _
        cases (rescan buffer).1 <;> rfl
      rw [hcuts, List.append_assoc]
      show buffer ++ fed calls = _ ++ (_ ++ (rescanAll (rescan buffer).2 calls).2)
      rw [← ih, ← List.append_assoc, hnow]

theorem cuts_trimmed (buffer : Bytes) (calls : List ParserCall) :
    ∀ c ∈ cuts buffer calls, c.Trimmed := by
  induction calls generalizing buffer with
  | nil => exact fun c hc => absurd hc List.not_mem_nil
  | cons call calls ih =>
    cases call with
    | feed text => exact ih (buffer ++ text)
    | popMessage =>
      intro c hc
      have hmem : some c ∈ (rescan buffer).1 :: (rescanAll (rescan buffer).2 calls).1 := by
        simpa [cuts, rescanAll] using hc
      rcases List.mem_cons.mp hmem with hnow | hlater
      · exact rescan_trimmed hnow.symm
      · exact ih _ c (List.mem_filterMap.mpr ⟨some c, hlater, rfl⟩)

/-! ### Draining -/

theorem drain_of_pending (h : Memoised p) (hpending : (rescan p.buffer).1 = none) :
    drain parse p = [] := by
  have hnone : (p.popMessage parse).1 = none := by
    rw [(popMessage_eq_rescan parse h).1, hpending]
    rfl
  rw [drain]
  split
  · rfl
  · next r p' hpop =>
    rw [hpop] at hnone
    cases hnone

theorem drain_of_found (h : Memoised p) {c : Cut} {rest : Bytes}
    (hfound : rescan p.buffer = (some c, rest)) :
    drain parse p = parse c.text :: drain parse { buffer := rest } := by
  have hpop : p.popMessage parse = (some (parse c.text), { buffer := rest }) := by
    obtain ⟨scanned, unread, hbuffer, hmemo⟩ := h
    have hsearch := search_of_scanned hbuffer hmemo
    cases hend : p.search.2 with
    | false =>
      rw [rescan_of_pending (hsearch ▸ hend)] at hfound
      cases hfound
    | true =>
      rw [rescan_of_found (hsearch ▸ hend), Prod.mk.injEq, Option.some.injEq] at hfound
      obtain ⟨rfl, rfl⟩ := hfound
      rw [popMessage_of_found hend, hsearch]
      rfl
  rw [drain]
  split
  · next hnone =>
    rw [hpop] at hnone
    cases hnone
  · next r p' hpop' =>
    rw [hpop, Prod.mk.injEq, Option.some.injEq] at hpop'
    obtain ⟨rfl, rfl⟩ := hpop'
    rfl

/-- Draining is a matter of the buffer. -/
theorem drain_eq_fresh (h : Memoised p) : drain parse p = drain parse { buffer := p.buffer } := by
  cases hcut : rescan p.buffer with
  | mk cut rest =>
    cases cut with
    | none =>
      rw [drain_of_pending h (by rw [hcut]),
        drain_of_pending (memoised_fresh p.buffer) (by rw [hcut])]
    | some c => rw [drain_of_found h hcut, drain_of_found (memoised_fresh p.buffer) hcut]

/-- **Chunks do not matter.**  What a history returns and what is left to drain is what one
    drains after feeding all its bytes at once. -/
theorem exec_append_drain (calls : List ParserCall) (h : Memoised p) :
    (exec parse p calls).1 ++ drain parse (exec parse p calls).2 =
      drain parse { buffer := p.buffer ++ fed calls } := by
  induction calls generalizing p with
  | nil =>
    show [] ++ drain parse p = drain parse { buffer := p.buffer ++ [] }
    rw [List.append_nil]
    exact drain_eq_fresh h
  | cons call calls ih =>
    cases call with
    | feed text =>
      show _ = drain parse { buffer := p.buffer ++ (text ++ fed calls) }
      rw [← List.append_assoc]
      exact ih (h.feed text)
    | popMessage =>
      obtain ⟨hresult, hbuffer, hmemo⟩ := popMessage_eq_rescan parse h
      have hrest := ih hmemo
      show ((p.popMessage parse).1.toList ++ (exec parse (p.popMessage parse).2 calls).1) ++
        drain parse (exec parse (p.popMessage parse).2 calls).2 =
          drain parse { buffer := p.buffer ++ fed calls }
      rw [List.append_assoc, hrest, hresult, hbuffer]
      cases hcut : rescan p.buffer with
      | mk cut rest =>
        cases cut with
        | none =>
          have hsame := rescan_bytes p.buffer
          rw [hcut] at hsame
          obtain rfl : rest = p.buffer := hsame
          rfl
        | some c =>
          exact (drain_of_found (memoised_fresh _) (rescan_append hcut (fed calls))).symm

/-- **The memo changes nothing.**  For every history of calls on arbitrary bytes: each pop
    returns what a parser without a memo returns; the texts handed to `json::parse` and the
    parser that is left do not depend on whether it throws; the bytes fed are the skipped
    whitespace and the texts, in order, and the buffer; and the results together with what can
    still be popped depend on the bytes fed alone. -/
theorem popMessage_memo_free (calls : List ParserCall) :
    ∃ p, Memoised p ∧ p.buffer = (rescanAll [] calls).2 ∧
      (∀ (ε J : Type) (parse : Bytes → Except ε J),
        results parse {} calls =
            (rescanAll [] calls).1.map (Option.map fun c => parse c.text) ∧
          exec parse {} calls = ((cuts [] calls).map fun c => parse c.text, p) ∧
          (exec parse {} calls).1 ++ drain parse p = drain parse { buffer := fed calls }) ∧
      (∀ c ∈ cuts [] calls, c.Trimmed) ∧
      fed calls = (cuts [] calls).flatMap Cut.bytes ++ p.buffer := by
  have hfresh : Memoised {} := memoised_fresh []
  -- the parser that is left, computed with any `parse`
  let parse₀ : Bytes → Except Unit Unit := fun _ => .ok ()
  obtain ⟨-, hbuffer, hmemo⟩ := results_eq_rescanAll parse₀ calls hfresh
  refine ⟨(exec parse₀ {} calls).2, hmemo, hbuffer, ?_, cuts_trimmed [] calls, ?_⟩
  · intro ε J parse
    have hstate := exec_state_eq parse₀ parse {} calls
    refine ⟨(results_eq_rescanAll parse calls hfresh).1, ?_, ?_⟩
    · rw [hstate]
      exact Prod.ext (exec_eq_cuts calls hfresh) rfl
    · rw [hstate]
      exact exec_append_drain calls hfresh
  · rw [hbuffer]
    exact cuts_bytes [] calls

end TunnelBore.Broker
