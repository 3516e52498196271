import TunnelBore.Broker.Rescan

namespace TunnelBore.Broker

/-!
# Objects that a stray brace hides

A closing brace that nothing has opened makes the counter of the search negative, and it stays so
until an object is consumed.  An object ends where the counter comes down from 1 to 0, so an
object is seen only if its braces are nested deeper than there are stray ones before it.

* `nesting` — how deep the braces of a text are nested outside its strings;
* `found_iff_peak` — a search that comes down to zero or below has found something exactly when
  it was above zero on the way;
* `heard_iff` — the objects that a parser hears after any history that has left it waiting.
-/

namespace FindMemoizer

variable (m : FindMemoizer)

/-- One byte, whether or not it closes an object. -/
def passByte (c : UInt8) : FindMemoizer := (m.look c).1.next c

/-- The state behind all of the bytes. -/
def scan (t : Bytes) : FindMemoizer := t.foldl passByte m

/-- The highest value of the brace counter on the way. -/
def peak (m : FindMemoizer) : Bytes → Int
  | []     => m.curlyCount
  | c :: t => max m.curlyCount (peak (m.passByte c) t)

/-- The same search with a counter that is `k` higher. -/
def raise (k : Int) : FindMemoizer := { m with curlyCount := m.curlyCount + k }

end FindMemoizer

open FindMemoizer

/-- How deep braces are nested in a text, those inside strings apart. -/
def nesting (t : Bytes) : Int := peak {} t

example : nesting (asciiString "\x7b\"a\":\x7b\"\x7b\":1\x7d\x7d") = 2 := by decide +kernel

/-! ### The counter of a search -/

variable {m : FindMemoizer} {c : UInt8} {t : Bytes}

/-- The byte that closes an object. -/
theorem look_found_iff :
    (m.look c).2 = true ↔ c = ascii '}' ∧ m.insideString = false ∧ m.curlyCount = 1 := by
  have hbrace : ascii '}' ≠ ascii '{' := by decide
  unfold look
  split_ifs with h₁ h₂ h₃ h₄
  · refine iff_of_false (by simp) ?_
    rintro ⟨rfl, -⟩
    exact hbrace h₁.1
  · simp only [decide_eq_true_eq]
    refine ⟨fun h => ⟨h₂.1, by simpa using h₂.2, by omega⟩, fun h => by omega⟩
  all_goals
    refine iff_of_false (by simp) ?_
    rintro ⟨rfl, hstring, -⟩
    exact h₂ ⟨rfl, by simp [hstring]⟩

/-- Any other byte keeps a positive counter positive. -/
theorem passByte_pos (hpos : 0 < m.curlyCount) (h : (m.look c).2 = false) :
    0 < (m.passByte c).curlyCount := by
  show 0 < (m.look c).1.curlyCount
  unfold look at h ⊢
  split_ifs at h ⊢ with h₁ h₂
  · show 0 < m.curlyCount + 1
    omega
  · simp only [decide_eq_false_iff_not] at h
    show 0 < m.curlyCount - 1
    omega
  all_goals exact hpos

theorem findFrom_cons_of_pending (h : (m.look c).2 = false) (t : Bytes) :
    findFrom m (c :: t) = findFrom (m.passByte c) t := by
  simp [findFrom, h, passByte]

/-- A search that has found nothing is behind all of the bytes. -/
theorem scan_of_pending (h : (findFrom m t).2 = false) : (findFrom m t).1 = m.scan t := by
  induction t generalizing m with
  | nil => rfl
  | cons c t ih =>
    cases hlook : (m.look c).2 with
    | true => simp [findFrom, hlook] at h
    | false =>
      rw [findFrom_cons_of_pending hlook] at h ⊢
      exact ih h

theorem le_peak (m : FindMemoizer) (t : Bytes) : m.curlyCount ≤ m.peak t := by
  cases t with
  | nil => exact Int.le_refl _
  | cons c t => exact Int.le_max_left _ _

/-- **What comes down was found.**  The counter falls by one at a time, and a search that sees it
    fall to zero has found something. -/
theorem found_iff_peak (hdown : (m.scan t).curlyCount ≤ 0) :
    (findFrom m t).2 = true ↔ 0 < m.peak t := by
  induction t generalizing m with
  | nil =>
    have hzero : ¬0 < m.curlyCount := by
      change m.curlyCount ≤ 0 at hdown
      omega
    exact iff_of_false (by simp [findFrom]) hzero
  | cons c t ih =>
    cases hlook : (m.look c).2 with
    | true =>
      refine iff_of_true (by simp [findFrom, hlook]) ?_
      have hone := (look_found_iff.mp hlook).2.2
      have hle := le_peak m (c :: t)
      omega
    | false =>
      rw [findFrom_cons_of_pending hlook, ih hdown]
      show 0 < (m.passByte c).peak t ↔ 0 < max m.curlyCount ((m.passByte c).peak t)
      by_cases hpos : 0 < m.curlyCount
      · -- a counter that is positive now is positive behind this byte, too
        have hnext := passByte_pos hpos hlook
        have hle := le_peak (m.passByte c) t
        omega
      · omega

/-! ### A search from another level -/

/-- The offset plays no part. -/
theorem passByte_skip (m : FindMemoizer) (n : Nat) (c : UInt8) :
    (m.skip n).passByte c = (m.passByte c).skip n := by
  unfold passByte look next skip
  split_ifs <;> simp [Nat.add_right_comm]

/-- Nor does the counter, but for itself. -/
theorem passByte_raise (m : FindMemoizer) (k : Int) (c : UInt8) :
    (m.raise k).passByte c = (m.passByte c).raise k := by
  unfold passByte look next raise
  split_ifs <;> simp <;> omega

theorem peak_raise_skip (m : FindMemoizer) (k : Int) (n : Nat) (t : Bytes) :
    ((m.raise k).skip n).peak t = m.peak t + k := by
  induction t generalizing m with
  | nil => rfl
  | cons c t ih =>
    show max (m.curlyCount + k) ((((m.raise k).skip n).passByte c).peak t) = _
    rw [passByte_skip, passByte_raise, ih]
    show max (m.curlyCount + k) ((m.passByte c).peak t + k) =
      max m.curlyCount ((m.passByte c).peak t) + k
    omega

theorem scan_raise_skip (m : FindMemoizer) (k : Int) (n : Nat) (t : Bytes) :
    (((m.raise k).skip n).scan t).curlyCount = (m.scan t).curlyCount + k := by
  induction t generalizing m with
  | nil => rfl
  | cons c t ih =>
    show ((((m.raise k).skip n).passByte c).scan t).curlyCount =
      ((m.passByte c).scan t).curlyCount + k
    rw [passByte_skip, passByte_raise, ih]

/-- An opening brace outside a string ends an escape, so what follows is searched as from the
    start, on another level. -/
theorem passByte_openBrace (hstring : m.insideString = false) :
    m.passByte (ascii '{') =
      ((passByte {} (ascii '{')).raise m.curlyCount).skip m.offset := by
  have hslash : ascii '{' ≠ ascii '\\' := by decide
  unfold passByte look next raise skip
  simp [hstring, hslash]
  omega

theorem objectText_openBrace (h : ObjectText t) : ∃ rest, t = ascii '{' :: rest := by
  rcases h with ⟨w, -, rfl⟩ | ⟨ms, -, rfl⟩
  · exact ⟨_, rfl⟩
  · exact ⟨_, rfl⟩

/-- The counter climbs as high above its level as the braces of the text are nested. -/
theorem peak_objectText (h : ObjectText t) (hstring : m.insideString = false) :
    m.peak t = m.curlyCount + nesting t := by
  obtain ⟨rest, rfl⟩ := objectText_openBrace h
  show max m.curlyCount ((m.passByte (ascii '{')).peak rest) =
    m.curlyCount + max 0 ((passByte {} (ascii '{')).peak rest)
  rw [passByte_openBrace hstring, peak_raise_skip]
  omega

/-- Behind the text of an object the counter is what it was. -/
theorem scan_objectText (h : ObjectText t) (hstring : m.insideString = false) :
    (m.scan t).curlyCount = m.curlyCount := by
  obtain ⟨rest, rfl⟩ := objectText_openBrace h
  have hlevel : ∀ n : FindMemoizer, n.insideString = false →
      (n.scan (ascii '{' :: rest)).curlyCount =
        ((passByte {} (ascii '{')).scan rest).curlyCount + n.curlyCount := by
    intro n hn
    show ((n.passByte (ascii '{')).scan rest).curlyCount = _
    rw [passByte_openBrace hn, scan_raise_skip]
  -- inside another object the text is passed without a trace
  have hone : (scan { curlyCount := 1 } (ascii '{' :: rest)).curlyCount = 1 := by
    have hpasses := passes_jsonText h.value (m := { curlyCount := 1 }) ⟨rfl, rfl⟩ Int.one_pos
    unfold Passes at hpasses
    rw [← scan_of_pending (by rw [hpasses]), hpasses]
    rfl
  rw [hlevel _ rfl] at hone
  rw [hlevel m hstring]
  change _ + 1 = 1 at hone
  omega

/-! ### Parsers that wait -/

section
variable {ε J : Type} {parse : Bytes → Except ε J} {p q : StreamParser}

/-- A parser that has returned nothing goes on with the bytes that are fed next. -/
theorem search_feed (hmemo : Memoised q) (hpop : q.popMessage parse = (none, p)) (t : Bytes) :
    (p.feed t).search = findFrom p.findState t := by
  obtain ⟨scanned, rest, hbuffer, hstate⟩ := hmemo
  have hsearch := search_of_scanned hbuffer hstate
  cases hfound : q.search.2 with
  | true =>
    rw [popMessage_of_found hfound] at hpop
    cases (Prod.mk.inj hpop).1
  | false =>
    rw [popMessage_of_pending hfound] at hpop
    obtain rfl := (Prod.mk.inj hpop).2
    have hoffset : q.search.1.offset = q.buffer.length := by
      rw [hsearch] at hfound ⊢
      exact (findFrom_offset_of_pending {} q.buffer hfound).trans (Nat.zero_add _)
    show findFrom q.search.1 ((q.buffer ++ t).drop q.search.1.offset) = _
    rw [hoffset, List.drop_left]

/-- A parser that waits outside a string and with no object open hears an object that is nested
    deeper than the counter is below zero. -/
theorem Memoised.hears_iff (hmemo : Memoised q) (hwaits : q.popMessage parse = (none, p))
    (hstring : p.findState.insideString = false) (hclosed : p.findState.curlyCount ≤ 0)
    {t : Bytes} (ht : ObjectText t) :
    ((p.feed t).popMessage parse).1.isSome = true ↔ -p.findState.curlyCount < nesting t := by
  have hsearch := search_feed hmemo hwaits t
  have hdown : (p.findState.scan t).curlyCount ≤ 0 := by
    rw [scan_objectText ht hstring]
    exact hclosed
  have hfound : (p.feed t).search.2 = true ↔ 0 < p.findState.curlyCount + nesting t := by
    rw [hsearch, found_iff_peak hdown, peak_objectText ht hstring]
  have hpopped : ((p.feed t).popMessage parse).1.isSome = true ↔ (p.feed t).search.2 = true := by
    cases hend : (p.feed t).search.2 with
    | true => simp [popMessage_of_found hend]
    | false => simp [popMessage_of_pending hend]
  rw [hpopped, hfound]
  omega

/-- Every history leaves a parser that knows what it has searched. -/
theorem memoised_exec (parse : Bytes → Except ε J) (calls : List ParserCall) :
    Memoised (exec parse {} calls).2 :=
  (results_eq_rescanAll parse calls (memoised_fresh [])).2.2

/-- **Which objects are heard.**  After every history that has left the parser waiting outside a
    string and with no object open, the text of an object makes it return something exactly when
    its braces are nested deeper than the counter is below zero. -/
theorem heard_iff {calls : List ParserCall}
    (hwaits : (exec parse {} calls).2.popMessage parse = (none, p))
    (hstring : p.findState.insideString = false) (hclosed : p.findState.curlyCount ≤ 0)
    {t : Bytes} (ht : ObjectText t) :
    ((p.feed t).popMessage parse).1.isSome = true ↔ -p.findState.curlyCount < nesting t :=
  (memoised_exec parse calls).hears_iff hwaits hstring hclosed ht

/-- **Deaf to no object**: a parser that waits hears every object exactly when its counter is not
    below zero. -/
theorem hears_all_iff {calls : List ParserCall}
    (hwaits : (exec parse {} calls).2.popMessage parse = (none, p))
    (hstring : p.findState.insideString = false) (hclosed : p.findState.curlyCount ≤ 0) :
    (∀ t, ObjectText t → ((p.feed t).popMessage parse).1.isSome = true) ↔
      p.findState.curlyCount = 0 := by
  have hmemo := memoised_exec parse calls
  have hshallow : ∀ t, ObjectText t → 0 < nesting t := by
    intro t ht
    obtain ⟨rest, rfl⟩ := objectText_openBrace ht
    have hle := le_peak (passByte {} (ascii '{')) rest
    change 1 ≤ _ at hle
    show 0 < max 0 _
    omega
  constructor
  · intro hall
    -- the empty object is as shallow as objects are
    have hempty : ObjectText (asciiString "\x7b\x7d") := .inl ⟨[], by simp [IsJsonSpace], rfl⟩
    have hdeep := (hmemo.hears_iff hwaits hstring hclosed hempty).mp (hall _ hempty)
    rw [show nesting (asciiString "\x7b\x7d") = 1 from by decide +kernel] at hdeep
    omega
  · intro hzero t ht
    rw [hmemo.hears_iff hwaits hstring hclosed ht, hzero]
    exact hshallow t ht

end

/-- Nothing that is parsed. -/
def parseNothing (_ : Bytes) : Except Unit Unit := .error ()

/-- One stray brace hides a flat object, and a nested one is heard. -/
theorem heard_nested :
    (((⟨asciiString "\x7d", ⟨-1, false, false, 1⟩⟩ : StreamParser).feed
        (asciiString "\x7b\"a\":\x7b\x7d\x7d")).popMessage parseNothing).1.isSome = true ↔
      -(-1 : Int) < nesting (asciiString "\x7b\"a\":\x7b\x7d\x7d") := by
  have hspace : IsJsonSpace [] := by simp [IsJsonSpace]
  have hempty : JsonText .value (asciiString "\x7b\x7d") := .emptyObject hspace
  have hkey : IsString (asciiString "\"a\"") :=
    ⟨asciiString "a", isStringBody_of_plain (by decide +kernel), rfl⟩
  have hmember : JsonText .members (asciiString "\"a\":\x7b\x7d") :=
    .member hspace hkey hspace hspace hempty hspace
  have hwaits : (exec parseNothing {} [.feed (asciiString "\x7d")]).2.popMessage parseNothing =
      (none, ⟨asciiString "\x7d", ⟨-1, false, false, 1⟩⟩) := by decide +kernel
  exact heard_iff hwaits rfl (by decide) (.inr ⟨_, hmember, rfl⟩)

/-- Behind a stray closing brace the parser waits, outside a string and with no object open, and
    the empty object is not returned. -/
theorem deaf_of_stray_brace :
    ∃ calls p t, (exec parseNothing {} calls).2.popMessage parseNothing = (none, p) ∧
      p.findState.insideString = false ∧ p.findState.curlyCount ≤ 0 ∧ ObjectText t ∧
      ((p.feed t).popMessage parseNothing).1 = none := by
  refine ⟨[.feed (asciiString "\x7d")], ⟨asciiString "\x7d", ⟨-1, false, false, 1⟩⟩,
    asciiString "\x7b\x7d", ?_, rfl, ?_, ?_, ?_⟩
  · decide +kernel
  · decide
  · exact .inl ⟨[], by simp [IsJsonSpace], rfl⟩
  · decide +kernel

end TunnelBore.Broker
