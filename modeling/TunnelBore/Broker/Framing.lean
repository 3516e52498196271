import TunnelBore.Broker.StreamParser
import TunnelBore.Shared.JsonDump
import TunnelBore.Shared.JsonText

namespace TunnelBore.Broker

/-!
# Framing: the stream parser returns exactly the objects that were fed

* `passes_jsonText` — inside an object the search passes every value, member and element
  of the grammar without ending and returns to the state it started in;
* `findFrom_frame` — hence a frame (whitespace, then an object) ends exactly at its last byte,
  wherever the bytes were cut;
* `Synced` — the invariant of a parser in the middle of a stream: the memoized state is the
  state of a search over the scanned part of the buffer, and the buffer is a prefix of the
  frames that have not been returned;
* `popMessage_synced` and `exec_synced` — one pop and a whole history of calls keep it.

The count of objects completed so far, `completed`, is defined from the lengths alone.
-/

/-! ### Lexical lemmas: what the search does on tokens -/

/-- A byte the search passes without changing its flags: no brace, quote or backslash. -/
def IsInert (c : UInt8) : Prop :=
  c ≠ ascii '{' ∧ c ≠ ascii '}' ∧ c ≠ ascii '"' ∧ c ≠ ascii '\\'

instance (c : UInt8) : Decidable (IsInert c) := inferInstanceAs (Decidable (_ ∧ _))

theorem inert_of_isspace {c : UInt8} (h : isspace c) : IsInert c := by
  refine ⟨?_, ?_, ?_, ?_⟩ <;> (rintro rfl; revert h; decide)

theorem inert_of_isJsonSpace {t : Bytes} (h : IsJsonSpace t) : ∀ c ∈ t, IsInert c := by
  intro c hc
  rcases h c hc with rfl | rfl | rfl | rfl <;> decide

theorem inert_of_isDigit {c : UInt8} (h : IsDigit c) : IsInert c := by
  obtain ⟨h₁, h₂⟩ := h
  refine ⟨?_, ?_, ?_, ?_⟩ <;> (rintro rfl; revert h₁ h₂; decide)

theorem inert_of_isNumber {t : Bytes} (h : IsNumber t) : ∀ c ∈ t, IsInert c := by
  obtain ⟨sign, int, frac, exp, hsign, hint, -, hfrac, hexp, rfl⟩ := h
  have hdigits : ∀ {ds : Bytes}, IsDigits ds → ∀ c ∈ ds, IsInert c :=
    fun h c hc => inert_of_isDigit (h.2 c hc)
  intro c hc
  simp only [List.mem_append] at hc
  rcases hc with ((hc | hc) | hc) | hc
  · rcases hsign with rfl | rfl
    · simp at hc
    · rw [List.mem_singleton] at hc; subst hc; decide
  · exact hdigits hint c hc
  · rcases hfrac with rfl | ⟨ds, hds, rfl⟩
    · simp at hc
    · rcases List.mem_cons.mp hc with rfl | hc
      · decide
      · exact hdigits hds c hc
  · rcases hexp with rfl | ⟨e, s, ds, he, hs, hds, rfl⟩
    · simp at hc
    · rcases List.mem_cons.mp hc with rfl | hc
      · rcases he with rfl | rfl <;> decide
      · rcases List.mem_append.mp hc with hc | hc
        · rcases hs with rfl | rfl | rfl
          · simp at hc
          · rw [List.mem_singleton] at hc; subst hc; decide
          · rw [List.mem_singleton] at hc; subst hc; decide
        · exact hdigits hds c hc

/-- `m` outside a string with no escape pending. -/
def FindMemoizer.Plain (m : FindMemoizer) : Prop := m.escape = false ∧ m.insideString = false

/-- `m` after `n` further bytes that changed neither the depth nor the flags. -/
def FindMemoizer.skip (m : FindMemoizer) (n : Nat) : FindMemoizer :=
  { m with offset := m.offset + n }

@[simp] theorem FindMemoizer.skip_curlyCount (m : FindMemoizer) (n : Nat) :
    (m.skip n).curlyCount = m.curlyCount := rfl
@[simp] theorem FindMemoizer.skip_offset (m : FindMemoizer) (n : Nat) :
    (m.skip n).offset = m.offset + n := rfl
@[simp] theorem FindMemoizer.skip_plain (m : FindMemoizer) (n : Nat) :
    (m.skip n).Plain ↔ m.Plain := Iff.rfl
@[simp] theorem FindMemoizer.skip_zero (m : FindMemoizer) : m.skip 0 = m := rfl
@[simp] theorem FindMemoizer.skip_skip (m : FindMemoizer) (n k : Nat) :
    (m.skip n).skip k = m.skip (n + k) := by simp [FindMemoizer.skip, Nat.add_assoc]

/-- `Passes m t`: from `m` the search passes all of `t` and is back in the same state. -/
def Passes (m : FindMemoizer) (t : Bytes) : Prop := findFrom m t = (m.skip t.length, false)

theorem Passes.nil (m : FindMemoizer) : Passes m [] := rfl

/-- Passing `a` and then `b` is passing `a ++ b`. -/
theorem Passes.append {m : FindMemoizer} {a b : Bytes} (ha : Passes m a)
    (hb : Passes (m.skip a.length) b) : Passes m (a ++ b) := by
  unfold Passes at ha hb ⊢
  rw [findFrom_append, ha]
  simp [hb]

/-- Outside a string an inert byte is passed. -/
theorem findFrom_inert {m : FindMemoizer} (hm : m.Plain) {c : UInt8} (hc : IsInert c)
    (t : Bytes) : findFrom m (c :: t) = findFrom (m.skip 1) t := by
  obtain ⟨h₁, h₂, h₃, h₄⟩ := hc
  obtain ⟨hesc, hstr⟩ := hm
  simp [findFrom, FindMemoizer.look, FindMemoizer.next, FindMemoizer.skip, h₁, h₂, h₃, h₄, hesc]

theorem passes_inert {m : FindMemoizer} (hm : m.Plain) {t : Bytes} (h : ∀ c ∈ t, IsInert c) :
    Passes m t := by
  induction t generalizing m with
  | nil => exact Passes.nil m
  | cons c t ih =>
    have hrest : Passes (m.skip 1) t := ih hm fun d hd => h d (List.mem_cons_of_mem c hd)
    unfold Passes at hrest ⊢
    rw [findFrom_inert hm (h c List.mem_cons_self), hrest]
    simp [Nat.add_comm]

/-- Inside a string with no escape pending: between the quotes of a string. -/
def FindMemoizer.Quoted (m : FindMemoizer) : Prop := m.escape = false ∧ m.insideString = true

@[simp] theorem FindMemoizer.skip_quoted (m : FindMemoizer) (n : Nat) :
    (m.skip n).Quoted ↔ m.Quoted := Iff.rfl

/-- Inside a string every byte but a quote or a backslash is passed, braces included. -/
theorem findFrom_quoted {m : FindMemoizer} (hm : m.Quoted) {c : UInt8} (hquote : c ≠ ascii '"')
    (hslash : c ≠ ascii '\\') (t : Bytes) : findFrom m (c :: t) = findFrom (m.skip 1) t := by
  obtain ⟨hesc, hstr⟩ := hm
  simp [findFrom, FindMemoizer.look, FindMemoizer.next, FindMemoizer.skip, hesc, hstr, hquote,
    hslash]

/-- A backslash sets the escape flag; the byte it protects, whatever it is, clears it. -/
theorem findFrom_escaped {m : FindMemoizer} (hm : m.Quoted) (c : UInt8) (t : Bytes) :
    findFrom m (ascii '\\' :: c :: t) = findFrom (m.skip 2) t := by
  obtain ⟨hesc, hstr⟩ := hm
  have hquote : ascii '\\' ≠ ascii '"' := by decide
  by_cases hslash : c = ascii '\\' <;>
    simp [findFrom, FindMemoizer.look, FindMemoizer.next, FindMemoizer.skip, hesc, hstr, hquote,
      hslash]

theorem ne_quote_of_isHexDigit {c : UInt8} (h : IsHexDigit c) :
    c ≠ ascii '"' ∧ c ≠ ascii '\\' := by
  unfold IsHexDigit at h
  constructor <;> (rintro rfl; revert h; decide)

/-- The body of a string is passed between its quotes. -/
theorem passes_stringBody {t : Bytes} (h : IsStringBody t) {m : FindMemoizer} (hm : m.Quoted) :
    Passes m t := by
  unfold Passes
  induction h generalizing m with
  | nil => rfl
  | @plain c t hc _ ih =>
    rw [findFrom_quoted hm hc.2.1 hc.2.2, ih (m.skip_quoted 1 |>.mpr hm)]
    simp [Nat.add_comm]
  | @escape c t _ _ ih =>
    rw [findFrom_escaped hm, ih (m.skip_quoted 2 |>.mpr hm)]
    simp only [FindMemoizer.skip_skip, List.length_cons]
    congr 2
    omega
  | @unicode a b c d t ha hb hc hd _ ih =>
    have ha := ne_quote_of_isHexDigit ha
    have hb := ne_quote_of_isHexDigit hb
    have hc := ne_quote_of_isHexDigit hc
    have hd := ne_quote_of_isHexDigit hd
    rw [findFrom_escaped hm, findFrom_quoted (by simpa) ha.1 ha.2,
      findFrom_quoted (by simpa) hb.1 hb.2, findFrom_quoted (by simpa) hc.1 hc.2,
      findFrom_quoted (by simpa) hd.1 hd.2, ih (by simpa)]
    simp only [FindMemoizer.skip_skip, List.length_cons]
    congr 2
    omega

/-- A whole string is passed: the quotes switch the string flag on and off again. -/
theorem passes_string {t : Bytes} (h : IsString t) {m : FindMemoizer} (hm : m.Plain) :
    Passes m t := by
  obtain ⟨body, hbody, rfl⟩ := h
  obtain ⟨hesc, hstr⟩ := hm
  have hbrace : ascii '"' ≠ ascii '{' ∧ ascii '"' ≠ ascii '}' ∧ ascii '"' ≠ ascii '\\' := by
    decide
  -- the state between the quotes
  let q : FindMemoizer := { m.skip 1 with insideString := true }
  have hq : q.Quoted := ⟨hesc, rfl⟩
  have hopen : ∀ t, findFrom m (ascii '"' :: t) = findFrom q t := by
    intro t
    simp [findFrom, FindMemoizer.look, FindMemoizer.next, FindMemoizer.skip, hesc, hstr, hbrace, q]
  have hclose : findFrom (q.skip body.length) [ascii '"'] =
      (m.skip (body.length + 2), false) := by
    simp only [findFrom, FindMemoizer.look, FindMemoizer.next, FindMemoizer.skip, hesc, hstr,
      hbrace, q]
    simp
    omega
  have hpass : findFrom q body = (q.skip body.length, false) := passes_stringBody hbody hq
  unfold Passes
  rw [hopen, findFrom_append, hpass]
  simpa using hclose

/-! ### Values of the grammar inside an object -/

/-- Outside a string an opening brace raises the depth. -/
theorem findFrom_openBrace {m : FindMemoizer} (hm : m.Plain) (t : Bytes) :
    findFrom m (ascii '{' :: t) =
      findFrom { m.skip 1 with curlyCount := m.curlyCount + 1 } t := by
  obtain ⟨hesc, hstr⟩ := hm
  simp [findFrom, FindMemoizer.look, FindMemoizer.next, FindMemoizer.skip, hesc, hstr]

/-- A closing brace at depth two or more lowers the depth and is passed. -/
theorem findFrom_closeBrace {m : FindMemoizer} (hm : m.Plain) (h : m.curlyCount ≠ 1)
    (t : Bytes) : findFrom m (ascii '}' :: t) =
      findFrom { m.skip 1 with curlyCount := m.curlyCount - 1 } t := by
  obtain ⟨hesc, hstr⟩ := hm
  have hbrace : ascii '}' ≠ ascii '{' := by decide
  have hopen : ¬m.curlyCount - 1 = 0 := by omega
  simp [findFrom, FindMemoizer.look, FindMemoizer.next, FindMemoizer.skip, hesc, hstr, hbrace,
    hopen]

/-- A closing brace at depth one ends the search, on the brace. -/
theorem findFrom_lastBrace {m : FindMemoizer} (hm : m.Plain) (h : m.curlyCount = 1)
    (t : Bytes) : findFrom m (ascii '}' :: t) = ({ m with curlyCount := 0 }, true) := by
  obtain ⟨hesc, hstr⟩ := hm
  have hbrace : ascii '}' ≠ ascii '{' := by decide
  simp [findFrom, FindMemoizer.look, hstr, hbrace, h]

/-- A bracketed text between two inert bytes is passed when its inside is. -/
theorem passes_enclosed {m : FindMemoizer} (hm : m.Plain) {l r : UInt8} {t : Bytes}
    (hl : IsInert l) (hr : IsInert r) (ht : Passes (m.skip 1) t) :
    Passes m (l :: (t ++ [r])) := by
  have hleft : Passes m [l] := passes_inert hm (by simpa using hl)
  have hright : Passes ((m.skip 1).skip t.length) [r] :=
    passes_inert (by simpa using hm) (by simpa using hr)
  exact hleft.append (ht.append hright)

/-- A nested object is passed when its inside is passed one level deeper. -/
theorem passes_braced {m : FindMemoizer} (hm : m.Plain) (hdepth : 0 < m.curlyCount) {t : Bytes}
    (ht : Passes { m.skip 1 with curlyCount := m.curlyCount + 1 } t) :
    Passes m (ascii '{' :: (t ++ [ascii '}'])) := by
  unfold Passes at ht ⊢
  rw [findFrom_openBrace hm, findFrom_append, ht]
  simp only [Bool.false_eq_true, if_false]
  rw [findFrom_closeBrace (by exact hm) (by simp; omega)]
  simp [findFrom, FindMemoizer.skip]
  omega

/-- **Inside an object the search passes every value, member list and element list** and is
    back in the state it came with.  The induction is on the derivation; the depth only has
    to be positive, so that no nested closing brace can bring it to zero. -/
theorem passes_jsonText {kind : JsonKind} {t : Bytes} (h : JsonText kind t) {m : FindMemoizer}
    (hm : m.Plain) (hdepth : 0 < m.curlyCount) : Passes m t := by
  have hcomma : ∀ c ∈ [ascii ','], IsInert c := by decide +kernel
  have hcolon : ∀ c ∈ [ascii ':'], IsInert c := by decide +kernel
  have hspace : ∀ {w : Bytes} {n : FindMemoizer}, IsJsonSpace w → n.Plain → Passes n w :=
    fun hw hn => passes_inert hn (inert_of_isJsonSpace hw)
  induction h generalizing m with
  | literal ht =>
    apply passes_inert hm
    revert ht
    simp only [jsonLiterals, List.mem_cons, List.not_mem_nil, or_false]
    rintro (rfl | rfl | rfl) <;> decide +kernel
  | number ht => exact passes_inert hm (inert_of_isNumber ht)
  | string ht => exact passes_string ht hm
  | emptyObject hw => exact passes_braced hm hdepth (hspace hw hm)
  | object _ ih => exact passes_braced hm hdepth (ih hm (by simp; omega))
  | emptyArray hw => exact passes_enclosed hm (by decide) (by decide) (hspace hw hm)
  | array _ ih => exact passes_enclosed hm (by decide) (by decide) (ih hm hdepth)
  | member h₁ hkey h₂ h₃ _ h₄ ih =>
    refine Passes.append (Passes.append (Passes.append (Passes.append (Passes.append
      (Passes.append ?_ ?_) ?_) ?_) ?_) ?_) ?_
    · exact hspace h₁ hm
    · exact passes_string hkey (by simpa using hm)
    · exact hspace h₂ (by simpa using hm)
    · exact passes_inert (by simpa using hm) hcolon
    · exact hspace h₃ (by simpa using hm)
    · exact ih (by simpa using hm) (by simpa using hdepth)
    · exact hspace h₄ (by simpa using hm)
  | moreMembers _ _ ih₁ ih₂ =>
    refine Passes.append (Passes.append (ih₁ hm hdepth) ?_) ?_
    · exact passes_inert (by simpa using hm) hcomma
    · exact ih₂ (by simpa using hm) (by simpa using hdepth)
  | element h₁ _ h₂ ih =>
    refine Passes.append (Passes.append (hspace h₁ hm) ?_) ?_
    · exact ih (by simpa using hm) (by simpa using hdepth)
    · exact hspace h₂ (by simpa using hm)
  | moreElements _ _ ih₁ ih₂ =>
    refine Passes.append (Passes.append (ih₁ hm hdepth) ?_) ?_
    · exact passes_inert (by simpa using hm) hcomma
    · exact ih₂ (by simpa using hm) (by simpa using hdepth)

/-! ### Frames -/

/-- One object of the stream, with the whitespace before it and what its text parses to. -/
structure Frame (J : Type) where
  space : Bytes
  text : Bytes
  value : J

variable {ε J : Type} {parse : Bytes → Except ε J}

/-- The bytes of a frame on the wire. -/
def Frame.bytes (f : Frame J) : Bytes := f.space ++ f.text

/-- A frame is whitespace and the text of an object that `json::parse` reads as its value. -/
structure Frame.Valid (parse : Bytes → Except ε J) (f : Frame J) : Prop where
  space : ∀ c ∈ f.space, isspace c
  text : ObjectText f.text
  parses : parse f.text = .ok f.value

/-- The stream of a list of frames. -/
def stream (frames : List (Frame J)) : Bytes := frames.flatMap Frame.bytes

@[simp] theorem stream_nil : stream ([] : List (Frame J)) = [] := rfl
@[simp] theorem stream_cons (f : Frame J) (fs : List (Frame J)) :
    stream (f :: fs) = f.bytes ++ stream fs := rfl

/-- How many of the frames have their last byte among the first `n` bytes of the stream. -/
def completed : List (Frame J) → Nat → Nat
  | [],      _ => 0
  | f :: fs, n => if f.bytes.length ≤ n then completed fs (n - f.bytes.length) + 1 else 0

/-- An object's text opens with a brace and its inside is passed at depth one, so the search
    over it from depth zero ends on its last byte. -/
theorem findFrom_objectText {t : Bytes} (h : ObjectText t) {m : FindMemoizer} (hm : m.Plain)
    (hdepth : m.curlyCount = 0) :
    ∃ body m', t = ascii '{' :: (body ++ [ascii '}']) ∧ findFrom m t = (m', true) ∧
      m'.offset + 1 = m.offset + t.length := by
  -- the two forms of an object differ only in what is passed between the braces
  obtain ⟨body, rfl, hbody⟩ : ∃ body, t = ascii '{' :: (body ++ [ascii '}']) ∧
      Passes { m.skip 1 with curlyCount := m.curlyCount + 1 } body := by
    rcases h with ⟨w, hw, rfl⟩ | ⟨ms, hms, rfl⟩
    · exact ⟨w, rfl, passes_inert (by exact hm) (inert_of_isJsonSpace hw)⟩
    · exact ⟨ms, rfl, passes_jsonText hms hm (by simp [hdepth])⟩
  refine ⟨body, { m.skip (body.length + 1) with curlyCount := 0 }, rfl, ?_, ?_⟩
  · unfold Passes at hbody
    rw [findFrom_openBrace hm, findFrom_append, hbody]
    simp only [Bool.false_eq_true, if_false]
    rw [findFrom_lastBrace (by exact hm) (by simp [hdepth])]
    simp [FindMemoizer.skip]
    omega
  · simp
    omega

/-- **A frame ends exactly at its last byte.** -/
theorem findFrom_frame {f : Frame J} (hf : f.Valid parse) :
    (findFrom {} f.bytes).2 = true ∧ (findFrom {} f.bytes).1.offset + 1 = f.bytes.length := by
  have hspace : Passes {} f.space :=
    passes_inert ⟨rfl, rfl⟩ fun c hc => inert_of_isspace (hf.space c hc)
  obtain ⟨body, m', -, hfind, hoff⟩ :=
    findFrom_objectText hf.text (m := FindMemoizer.skip {} f.space.length) ⟨rfl, rfl⟩ rfl
  unfold Passes at hspace
  have hall : findFrom {} f.bytes = (m', true) := by
    rw [Frame.bytes, findFrom_append, hspace]
    simpa using hfind
  rw [hall]
  refine ⟨rfl, ?_⟩
  simpa [Frame.bytes] using hoff

/-- A proper prefix of a frame does not end anywhere. -/
theorem findFrom_properPrefix {f : Frame J} (hf : f.Valid parse) {a b : Bytes}
    (h : f.bytes = a ++ b) (hb : b ≠ []) : (findFrom {} a).2 = false := by
  by_contra hfound
  rw [Bool.not_eq_false] at hfound
  have hlast := (findFrom_frame hf).2
  rw [h, findFrom_append, if_pos hfound, List.length_append] at hlast
  have hlt := findFrom_offset_lt_of_found {} a hfound
  have hpos : 0 < b.length := List.length_pos_iff.mpr hb
  simp only at hlt
  omega

/-- A frame's text is what `consumeObject` keeps of the frame: the whitespace is dropped and
    the text starts with a brace. -/
theorem dropWhile_frame {f : Frame J} (hf : f.Valid parse) :
    f.bytes.dropWhile isspace = f.text := by
  obtain ⟨body, m', htext, -, -⟩ := findFrom_objectText hf.text (m := {}) ⟨rfl, rfl⟩ rfl
  rw [Frame.bytes, List.dropWhile_append_of_pos hf.space, htext]
  rfl

/-! ### Histories of calls -/

/-- A call on a parser. -/
inductive ParserCall
  | feed (text : Bytes)
  | popMessage

/-- All bytes fed by a history. -/
def fed : List ParserCall → Bytes
  | []                  => []
  | .feed text :: calls => text ++ fed calls
  | .popMessage :: calls => fed calls

/-- Run a history; the list holds the non-empty results of `popMessage`, in order. -/
def exec (parse : Bytes → Except ε J) :
    StreamParser → List ParserCall → List (Except ε J) × StreamParser
  | p, []                  => ([], p)
  | p, .feed text :: calls => exec parse (p.feed text) calls
  | p, .popMessage :: calls =>
    let popped := p.popMessage parse
    let rest := exec parse popped.2 calls
    (popped.1.toList ++ rest.1, rest.2)

/-- The outcome of the search a pop starts with. -/
def StreamParser.search (p : StreamParser) : FindMemoizer × Bool :=
  findFrom p.findState (p.buffer.drop p.findState.offset)

/-- A pop that finds no complete object only updates the memo. -/
theorem popMessage_of_pending {p : StreamParser} (h : p.search.2 = false) :
    p.popMessage parse = (none, { p with findState := p.search.1 }) := by
  unfold StreamParser.search at h ⊢
  simp [StreamParser.popMessage, StreamParser.findCompleteObjectEnd, h]

/-- A pop that finds a closing brace cuts the buffer behind it and parses what it cut off. -/
theorem popMessage_of_found {p : StreamParser} (h : p.search.2 = true) :
    p.popMessage parse =
      (some (parse ((p.buffer.take (p.search.1.offset + 1)).dropWhile isspace)),
        { buffer := p.buffer.drop (p.search.1.offset + 1), findState := {} }) := by
  unfold StreamParser.search at h ⊢
  simp [StreamParser.popMessage, StreamParser.findCompleteObjectEnd, StreamParser.consumeObject, h]

/-- A search that found something had bytes to look at. -/
theorem buffer_ne_nil_of_found {p : StreamParser} (h : p.search.2 = true) : p.buffer ≠ [] := by
  intro hnil
  simp [StreamParser.search, hnil, findFrom] at h

/-- A non-empty pop shortens the buffer. -/
theorem popMessage_length_lt (p : StreamParser) {r : Except ε J} {p' : StreamParser}
    (h : p.popMessage parse = (some r, p')) : p'.buffer.length < p.buffer.length := by
  cases hfound : p.search.2 with
  | false => simp [popMessage_of_pending hfound] at h
  | true =>
    have hpos := List.length_pos_iff.mpr (buffer_ne_nil_of_found hfound)
    rw [popMessage_of_found hfound, Prod.mk.injEq] at h
    obtain ⟨-, rfl⟩ := h
    simp only [List.length_drop]
    omega

/-- Call `popMessage` until it returns `std::nullopt`. -/
def drain (parse : Bytes → Except ε J) (p : StreamParser) : List (Except ε J) :=
  match _h : p.popMessage parse with
  | (none, _)    => []
  | (some r, p') => r :: drain parse p'
termination_by p.buffer.length
decreasing_by exact popMessage_length_lt p _h

/-- A parser in the middle of a stream whose frames `fs` have not been returned yet: the
    memoized state is that of a search over the part of the buffer already scanned, and the
    buffer is a prefix of the outstanding frames. -/
structure Synced (fs : List (Frame J)) (p : StreamParser) : Prop where
  memo : ∃ scanned rest, p.buffer = scanned ++ rest ∧
    findFrom {} scanned = (p.findState, false)
  buffer : p.buffer <+: stream fs

/-- A fresh parser is in step with every stream. -/
theorem synced_empty (fs : List (Frame J)) : Synced fs {} :=
  ⟨⟨[], [], rfl, rfl⟩, List.nil_prefix⟩

/-- Feeding more bytes of the stream keeps the parser in step. -/
theorem Synced.feed {fs : List (Frame J)} {p : StreamParser} (h : Synced fs p) {text : Bytes}
    (htext : p.buffer ++ text <+: stream fs) : Synced fs (p.feed text) := by
  obtain ⟨⟨scanned, rest, hbuffer, hmemo⟩, -⟩ := h
  exact ⟨⟨scanned, rest ++ text, by simp [StreamParser.feed, hbuffer], hmemo⟩, htext⟩

/-- A search that resumes behind bytes it has scanned is the search over the whole buffer. -/
theorem search_of_scanned {p : StreamParser} {scanned rest : Bytes}
    (hbuffer : p.buffer = scanned ++ rest) (hmemo : findFrom {} scanned = (p.findState, false)) :
    p.search = findFrom {} p.buffer := by
  have hoffset : p.findState.offset = scanned.length := by
    have := findFrom_offset_of_pending {} scanned (by rw [hmemo])
    rw [hmemo] at this
    simpa using this
  rw [StreamParser.search, hoffset, hbuffer, List.drop_left, findFrom_append, hmemo]
  simp

/-- In step, the memoized search is the search over the whole buffer from its start. -/
theorem Synced.search {fs : List (Frame J)} {p : StreamParser} (h : Synced fs p) :
    p.search = findFrom {} p.buffer := by
  obtain ⟨⟨scanned, rest, hbuffer, hmemo⟩, -⟩ := h
  exact search_of_scanned hbuffer hmemo

/-- When the search over a prefix of the outstanding frames finds an object, that object is
    the first frame, complete. -/
theorem exists_frame_of_found {fs : List (Frame J)} (hfs : ∀ f ∈ fs, f.Valid parse) {b : Bytes}
    (hb : b <+: stream fs) (hfound : (findFrom {} b).2 = true) :
    ∃ f fs' rest, fs = f :: fs' ∧ b = f.bytes ++ rest ∧ rest <+: stream fs' := by
  cases fs with
  | nil =>
    rw [stream_nil, List.prefix_nil] at hb
    simp [hb, findFrom] at hfound
  | cons f fs' =>
    have hf : f.Valid parse := hfs f List.mem_cons_self
    rw [stream_cons] at hb
    -- the buffer cannot stop inside the first frame, or nothing would have been found
    have hframe : f.bytes <+: b := by
      rcases List.prefix_or_prefix_of_prefix hb (List.prefix_append f.bytes (stream fs')) with
        ⟨c, hc⟩ | h
      · by_cases hnil : c = []
        · rw [hnil, List.append_nil] at hc
          exact hc ▸ List.prefix_rfl
        · rw [findFrom_properPrefix hf hc.symm hnil] at hfound
          exact absurd hfound (by simp)
      · exact h
    obtain ⟨rest, rfl⟩ := hframe
    exact ⟨f, fs', rest, rfl, rfl, (List.prefix_append_right_inj f.bytes).mp hb⟩

/-- **One pop.**  In step with the frames `fs`, `popMessage` either returns nothing, because
    the first frame is not complete, or returns the value of the first frame and goes on in
    step with the others. -/
theorem popMessage_synced {fs : List (Frame J)} (hfs : ∀ f ∈ fs, f.Valid parse)
    {p : StreamParser} (h : Synced fs p) :
    (∃ p', p.popMessage parse = (none, p') ∧ p'.buffer = p.buffer ∧ Synced fs p' ∧
      (p.buffer = stream fs → fs = [])) ∨
    (∃ f fs' p', fs = f :: fs' ∧ p.popMessage parse = (some (.ok f.value), p') ∧
      p.buffer = f.bytes ++ p'.buffer ∧ Synced fs' p') := by
  have hsearch := h.search
  cases hfound : p.search.2 with
  | false =>
    refine .inl ⟨_, popMessage_of_pending hfound, rfl, ⟨⟨p.buffer, [], by simp, ?_⟩, h.buffer⟩, ?_⟩
    · rw [← hsearch, ← hfound]
    · intro hall
      cases fs with
      | nil => rfl
      | cons f fs' =>
        have hf := (findFrom_frame (hfs f List.mem_cons_self)).1
        rw [hsearch, hall, stream_cons, findFrom_append, if_pos hf, hf] at hfound
        exact absurd hfound (by simp)
  | true =>
    obtain ⟨f, fs', rest, rfl, hbuffer, hrest⟩ :=
      exists_frame_of_found hfs h.buffer (hsearch ▸ hfound)
    have hf := hfs f List.mem_cons_self
    obtain ⟨hend, hoffset⟩ := findFrom_frame hf
    have hcut : p.search.1.offset + 1 = f.bytes.length := by
      rw [hsearch, hbuffer, findFrom_append, if_pos hend, hoffset]
    refine .inr ⟨f, fs', { buffer := rest, findState := {} }, rfl, ?_, hbuffer,
      ⟨⟨[], rest, rfl, rfl⟩, hrest⟩⟩
    rw [popMessage_of_found hfound, hcut, hbuffer, List.take_left, List.drop_left,
      dropWhile_frame hf, hf.parses]

/-- **A history of calls.**  As long as what is fed continues the stream, a history returns
    the values of the first `k` outstanding frames and stays in step with the rest. -/
theorem exec_synced (calls : List ParserCall) {fs : List (Frame J)}
    (hfs : ∀ f ∈ fs, f.Valid parse) {p : StreamParser} (h : Synced fs p)
    (hfed : p.buffer ++ fed calls <+: stream fs) :
    ∃ k, (exec parse p calls).1 = (fs.take k).map (fun f => .ok f.value) ∧
      Synced (fs.drop k) (exec parse p calls).2 ∧
      p.buffer ++ fed calls = stream (fs.take k) ++ (exec parse p calls).2.buffer := by
  induction calls generalizing fs p with
  | nil => exact ⟨0, by simp [exec], by simpa [exec] using h, by simp [exec, fed]⟩
  | cons call calls ih =>
    cases call with
    | feed text =>
      have hfeed : (p.feed text).buffer ++ fed calls = p.buffer ++ fed (.feed text :: calls) := by
        simp [StreamParser.feed, fed]
      have hnow : p.buffer ++ text <+: stream fs := by
        refine List.IsPrefix.trans ?_ hfed
        exact ⟨fed calls, by simp [fed]⟩
      obtain ⟨k, hres, hsync, hbytes⟩ := ih hfs (h.feed hnow) (hfeed ▸ hfed)
      exact ⟨k, hres, hsync, hfeed ▸ hbytes⟩
    | popMessage =>
      rcases popMessage_synced hfs h with
        ⟨p', hpop, hbuffer, hsync, -⟩ | ⟨f, fs', p', rfl, hpop, hbuffer, hsync⟩
      · have hexec : exec parse p (.popMessage :: calls) = exec parse p' calls := by
          simp [exec, hpop]
        rw [fed, ← hbuffer] at hfed
        rw [hexec, fed, ← hbuffer]
        exact ih hfs hsync hfed
      · have hexec : exec parse p (.popMessage :: calls) =
            (.ok f.value :: (exec parse p' calls).1, (exec parse p' calls).2) := by
          simp [exec, hpop]
        have hrest : p'.buffer ++ fed calls <+: stream fs' := by
          rw [fed, hbuffer, stream_cons, List.append_assoc] at hfed
          exact (List.prefix_append_right_inj f.bytes).mp hfed
        obtain ⟨k, hres, hsync', hbytes⟩ :=
          ih (fun g hg => hfs g (List.mem_cons_of_mem f hg)) hsync hrest
        refine ⟨k + 1, ?_, ?_, ?_⟩
        · rw [hexec, hres]; rfl
        · rw [hexec]; exact hsync'
        · rw [hexec, fed, hbuffer, List.append_assoc, hbytes]
          simp

/-- Draining a parser whose buffer holds all outstanding frames returns them all. -/
theorem drain_synced {fs : List (Frame J)} (hfs : ∀ f ∈ fs, f.Valid parse) {p : StreamParser}
    (h : Synced fs p) (hall : p.buffer = stream fs) :
    drain parse p = fs.map fun f => .ok f.value := by
  induction fs generalizing p with
  | nil =>
    rcases popMessage_synced hfs h with ⟨p', hpop, -⟩ | ⟨_, _, _, hnil, -⟩
    · rw [drain]
      split
      · rfl
      · simp_all
    · exact absurd hnil (by simp)
  | cons f fs ih =>
    rcases popMessage_synced hfs h with ⟨p', -, -, -, hnil⟩ | ⟨g, gs, p', heq, hpop, hbuffer, hsync⟩
    · exact absurd (hnil hall) (by simp)
    · obtain ⟨rfl, rfl⟩ := List.cons.inj heq
      have hrest : p'.buffer = stream fs := by
        rw [hall, stream_cons] at hbuffer
        exact (List.append_cancel_left hbuffer).symm
      rw [drain]
      split
      · simp_all
      · rename_i r p'' hpop'
        rw [hpop, Prod.mk.injEq, Option.some.injEq] at hpop'
        obtain ⟨rfl, rfl⟩ := hpop'
        rw [ih (fun g hg => hfs g (List.mem_cons_of_mem f hg)) hsync hrest]
        rfl

/-- Frames whose bytes are among the first `n` are counted by `completed`. -/
theorem length_le_completed (fs : List (Frame J)) (k n : Nat) (hk : k ≤ fs.length)
    (h : (stream (fs.take k)).length ≤ n) : k ≤ completed fs n := by
  induction fs generalizing k n with
  | nil =>
    simp only [List.length_nil, Nat.le_zero] at hk
    exact hk ▸ Nat.zero_le _
  | cons f fs ih =>
    cases k with
    | zero => exact Nat.zero_le _
    | succ k =>
      simp only [List.take_succ_cons, stream_cons, List.length_append, List.length_cons] at h hk
      have hf : f.bytes.length ≤ n := by omega
      rw [completed, if_pos hf]
      exact Nat.succ_le_succ (ih k _ (by omega) (by omega))

/-- What a prefix of a history feeds is a prefix of what the history feeds. -/
theorem fed_append (a b : List ParserCall) : fed (a ++ b) = fed a ++ fed b := by
  induction a with
  | nil => rfl
  | cons call a ih => cases call <;> simp [fed, ih]

/-- **Framing.**  However the bytes of the frames are cut into chunks and however the pops are
    interleaved with the feeds, the results are the values of the frames, each once and in
    order, none left behind when the parser is drained; and at every point of the history no
    more results have been returned than frames whose last byte has been fed. -/
theorem popMessage_returns_fed_objects (frames : List (Frame J))
    (hframes : ∀ f ∈ frames, f.Valid parse) (calls : List ParserCall)
    (hfed : fed calls = stream frames) :
    (exec parse {} calls).1 ++ drain parse (exec parse {} calls).2 =
        frames.map (fun f => .ok f.value) ∧
      ∀ before, before <+: calls →
        (exec parse {} before).1.length ≤ completed frames (fed before).length := by
  constructor
  · obtain ⟨k, hres, hsync, hbytes⟩ := exec_synced calls hframes (synced_empty frames)
      (by simp [hfed])
    have hrest : (exec parse {} calls).2.buffer = stream (frames.drop k) := by
      rw [List.nil_append, hfed] at hbytes
      have hsplit : stream frames = stream (frames.take k) ++ stream (frames.drop k) := by
        rw [stream, stream, stream, ← List.flatMap_append, List.take_append_drop]
      exact (List.append_cancel_left (hsplit ▸ hbytes)).symm
    have hdrop : ∀ f ∈ frames.drop k, f.Valid parse :=
      fun f hf => hframes f (List.mem_of_mem_drop hf)
    rw [hres, drain_synced hdrop hsync hrest, ← List.map_append, List.take_append_drop]
  · rintro before ⟨after, rfl⟩
    have hprefix : ([] : Bytes) ++ fed before <+: stream frames := by
      rw [← hfed, fed_append]
      exact List.prefix_append _ _
    obtain ⟨k, hres, -, hbytes⟩ := exec_synced before hframes (synced_empty frames) hprefix
    rw [List.nil_append] at hbytes
    rw [hres, List.length_map, List.length_take]
    refine length_le_completed frames _ _ (Nat.min_le_right _ _) ?_
    rw [hbytes, List.length_append, Nat.min_def]
    split
    · exact Nat.le_add_right _ _
    · rw [List.take_of_length_le (by omega), List.take_of_length_le (by omega)]
      exact Nat.le_add_right _ _

/-- An object with a string that holds braces and a quote, and another one. -/
def framesBraces : List (Frame Json) :=
  let name := Json.object [("name", .string "a\x7d\"\x7bb")]
  let ping := Json.object [("type", .string "Ping")]
  [⟨asciiString " ", name.dump, name⟩, ⟨asciiString "\n", ping.dump, ping⟩]

/-- The first is cut behind the backslash of its string, the second behind its first letters. -/
def callsBraces : List ParserCall :=
  [.feed ((stream framesBraces).take 13), .popMessage,
    .feed (((stream framesBraces).drop 13).take 10), .popMessage, .popMessage,
    .feed ((stream framesBraces).drop 23), .popMessage]

/-- Both are returned, each once its last byte has been fed. -/
theorem popMessage_returns_fed_objects_braces :
    let parse := Json.readsOnly Json.dump (framesBraces.map Frame.value)
    (exec parse {} callsBraces).1 ++ drain parse (exec parse {} callsBraces).2 =
        framesBraces.map (fun f => .ok f.value) ∧
      ∀ before, before <+: callsBraces →
        (exec parse {} before).1.length ≤ completed framesBraces (fed before).length := by
  intro parse
  refine popMessage_returns_fed_objects framesBraces (fun f hf => ?_) callsBraces
    (by decide +kernel)
  rcases List.mem_cons.mp hf with rfl | hf
  · exact ⟨by decide +kernel, Json.objectText_dump _, Json.readsOnly_head _⟩
  · rw [List.mem_singleton.mp hf]
    refine ⟨by decide +kernel, Json.objectText_dump _, ?_⟩
    exact (Json.readsOnly_tail (by decide +kernel)).trans (Json.readsOnly_head _)

end TunnelBore.Broker
