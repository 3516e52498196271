import TunnelBore.Shared.Json
import TunnelBore.Shared.JsonText

namespace TunnelBore

/-!
# The texts of JSON values

`json::dump` writes a value without whitespace, and the members of an object in the order of their
keys, because `nlohmann::json` keeps them in a `std::map`.  `JSON.stringify` of the TypeScript
programs writes the members in the order in which they were added.  Both are parameters wherever a
result is about the programs; the two printers of this file are what they are on concrete values.

* `Json.print` — the text of a value, without the fraction of a floating point number: no message
  of the programs holds one;
* `Json.jsonText_print` — what is printed is a text of the grammar;
* `Json.objectText_dump` — a message is the text of an object, as a control connection carries it;
* `Json.readsOnly` — a parser that reads the texts of a few values and throws on any other;
* `base64Url` — the encoding of the parts of a web token.
-/

namespace Json

/-- A hexadecimal digit, in lower case. -/
def hexDigit (n : Nat) : UInt8 := (if n < 10 then 48 + n else 87 + n).toUInt8

/-- A character between the quotes of a string. -/
def dumpChar (c : Char) : Bytes :=
  if c = '"' then asciiString "\\\""
  else if c = '\\' then asciiString "\\\\"
  else if c = '\x08' then asciiString "\\b"
  else if c = '\t' then asciiString "\\t"
  else if c = '\n' then asciiString "\\n"
  else if c = '\x0c' then asciiString "\\f"
  else if c = '\r' then asciiString "\\r"
  else if c.toNat < 32 then
    asciiString "\\u00" ++ [hexDigit (c.toNat / 16), hexDigit (c.toNat % 16)]
  else String.utf8EncodeChar c

/-- A string with its quotes. -/
def dumpString (s : String) : Bytes :=
  ascii '"' :: (s.toList.flatMap dumpChar ++ [ascii '"'])

/-- `std::string` compares bytes from left to right. -/
def keyBefore : Bytes → Bytes → Bool
  | [], _ => true
  | _ :: _, [] => false
  | a :: as, b :: bs => a < b || (a == b && keyBefore as bs)

/-- A member goes to the place of its key. -/
def insertMember (member : Bytes × Bytes) : List (Bytes × Bytes) → List (Bytes × Bytes)
  | [] => [member]
  | other :: members =>
    if keyBefore member.1 other.1 then member :: other :: members
    else other :: insertMember member members

/-- The members in the order of their keys. -/
def sortMembers (members : List (Bytes × Bytes)) : List (Bytes × Bytes) :=
  members.foldr insertMember []

/-- The members of an object, with its braces. -/
def dumpMembers (members : List (Bytes × Bytes)) : Bytes :=
  ascii '{' :: ([ascii ','].intercalate (members.map fun m => m.1 ++ [ascii ':'] ++ m.2) ++
    [ascii '}'])

/-- The elements of an array, with its brackets. -/
def dumpElements (elements : List Bytes) : Bytes :=
  ascii '[' :: ([ascii ','].intercalate elements ++ [ascii ']'])

mutual

/-- The text of a value, with the members of an object in the order that `sort` gives them. -/
def print (sort : List (Bytes × Bytes) → List (Bytes × Bytes)) : Json → Bytes
  | null => asciiString "null"
  | boolean b => asciiString (if b then "true" else "false")
  | number n => asciiString n.repr
  | float bits => asciiString (truncateDouble bits).repr
  | string s => dumpString s
  | array elements => dumpElements (printElements sort elements)
  | object members => dumpMembers (sort (printMembers sort members))

def printElements (sort : List (Bytes × Bytes) → List (Bytes × Bytes)) : List Json → List Bytes
  | [] => []
  | element :: elements => print sort element :: printElements sort elements

def printMembers (sort : List (Bytes × Bytes) → List (Bytes × Bytes)) :
    List (String × Json) → List (Bytes × Bytes)
  | [] => []
  | (key, value) :: members => (dumpString key, print sort value) :: printMembers sort members

end

/-- `json::dump()`. -/
def dump (value : Json) : Bytes := value.print sortMembers

/-- `JSON.stringify`. -/
def stringify (value : Json) : Bytes := value.print id

/-! ### What is printed is a text of the grammar -/

theorem isHexDigit_hexDigit {n : Nat} (h : n < 16) : IsHexDigit (hexDigit n) := by
  have hall : ∀ n < 16, (48 ≤ hexDigit n ∧ hexDigit n ≤ 57) ∨ (65 ≤ hexDigit n ∧ hexDigit n ≤ 70) ∨
      (97 ≤ hexDigit n ∧ hexDigit n ≤ 102) := by decide
  exact hall n h

/-- A byte of a longer character. -/
theorem isPlain_ofNat {n : Nat} (hlow : 128 ≤ n) (hhigh : n < 256) : IsPlain (UInt8.ofNat n) := by
  have hvalue : (UInt8.ofNat n).toNat = n := by
    rw [UInt8.toNat_ofNat']
    exact Nat.mod_eq_of_lt hhigh
  refine ⟨?_, ?_, ?_⟩
  · rw [UInt8.le_iff_toNat_le, hvalue]
    show 32 ≤ n
    omega
  · intro h
    have : n = 34 := by rw [← hvalue, h]; rfl
    omega
  · intro h
    have : n = 92 := by rw [← hvalue, h]; rfl
    omega

/-- The bytes of a character that is not escaped. -/
theorem isPlain_of_mem_utf8EncodeChar {c : Char} (hlow : 32 ≤ c.toNat) (hquote : c ≠ '"')
    (hbackslash : c ≠ '\\') : ∀ b ∈ String.utf8EncodeChar c, IsPlain b := by
  have hval : c.val.toNat = c.toNat := rfl
  unfold String.utf8EncodeChar
  rw [hval]
  dsimp only
  split
  · -- one byte, which is the character
    next hshort =>
    have hone : ∀ n < 128, 32 ≤ n → n ≠ 34 → n ≠ 92 → IsPlain (UInt8.ofNat n) := by decide
    intro b hb
    obtain rfl := List.mem_singleton.mp hb
    refine hone c.toNat (by omega) hlow (fun h => hquote ?_) fun h => hbackslash ?_
    · exact Char.ext (UInt32.toNat_inj.mp h)
    · exact Char.ext (UInt32.toNat_inj.mp h)
  · -- two, three or four bytes, all of them from 128 on
    split
    · intro b hb
      simp only [List.mem_cons, List.not_mem_nil, or_false] at hb
      rcases hb with rfl | rfl
      · exact isPlain_ofNat (by omega) (by omega)
      · exact isPlain_ofNat (by omega) (by omega)
    · split
      · intro b hb
        simp only [List.mem_cons, List.not_mem_nil, or_false] at hb
        rcases hb with rfl | rfl | rfl
        · exact isPlain_ofNat (by omega) (by omega)
        · exact isPlain_ofNat (by omega) (by omega)
        · exact isPlain_ofNat (by omega) (by omega)
      · intro b hb
        simp only [List.mem_cons, List.not_mem_nil, or_false] at hb
        rcases hb with rfl | rfl | rfl | rfl
        · exact isPlain_ofNat (by omega) (by omega)
        · exact isPlain_ofNat (by omega) (by omega)
        · exact isPlain_ofNat (by omega) (by omega)
        · exact isPlain_ofNat (by omega) (by omega)

/-- Bytes that stand for themselves, before the rest of a string. -/
theorem isStringBody_append_of_plain {bytes t : Bytes} (h : ∀ c ∈ bytes, IsPlain c)
    (ht : IsStringBody t) : IsStringBody (bytes ++ t) := by
  induction bytes with
  | nil => exact ht
  | cons c bytes ih =>
    exact .plain (h c List.mem_cons_self) (ih fun d hd => h d (List.mem_cons_of_mem c hd))

/-- A character between quotes is written as a body of its own. -/
theorem isStringBody_dumpChar_append (c : Char) {t : Bytes} (ht : IsStringBody t) :
    IsStringBody (dumpChar c ++ t) := by
  unfold dumpChar
  split_ifs with hquote hbackslash hb ht' hn hf hr hcontrol
  · exact .escape (by decide) ht
  · exact .escape (by decide) ht
  · exact .escape (by decide) ht
  · exact .escape (by decide) ht
  · exact .escape (by decide) ht
  · exact .escape (by decide) ht
  · exact .escape (by decide) ht
  · -- a control character without a short form
    exact .unicode (by unfold IsHexDigit; decide) (by unfold IsHexDigit; decide)
      (isHexDigit_hexDigit (by omega)) (isHexDigit_hexDigit (by omega)) ht
  · exact isStringBody_append_of_plain
      (isPlain_of_mem_utf8EncodeChar (by omega) hquote hbackslash) ht

theorem isString_dumpString (s : String) : IsString (dumpString s) := by
  refine ⟨s.toList.flatMap dumpChar, ?_, rfl⟩
  induction s.toList with
  | nil => exact .nil
  | cons c cs ih =>
    rw [List.flatMap_cons]
    exact isStringBody_dumpChar_append c ih

/-- A number has no leading zero. -/
theorem head?_toDigits_ne {n : Nat} (h : 0 < n) : (Nat.toDigits 10 n).head? ≠ some '0' := by
  induction n using Nat.strongRecOn with
  | ind n ih =>
    rw [Nat.toDigits_eq_if (by decide)]
    split_ifs with hsmall
    · have hdigit : ∀ d < 10, 0 < d → [Nat.digitChar d].head? ≠ some '0' := by decide
      exact hdigit n hsmall h
    · -- the first digit is that of `n / 10`
      rw [List.head?_append_of_ne_nil _ Nat.toDigits_ne_nil]
      exact ih (n / 10) (by omega) (by omega)

theorem toNat_of_isDigit {c : Char} (h : c.isDigit = true) : 48 ≤ c.toNat ∧ c.toNat ≤ 57 := by
  simp only [Char.isDigit, Bool.and_eq_true, decide_eq_true_eq] at h
  exact h

theorem isDigit_ascii {c : Char} (h : c.isDigit = true) : IsDigit (ascii c) := by
  have hall : ∀ n < 58, 48 ≤ n → 48 ≤ n.toUInt8 ∧ n.toUInt8 ≤ 57 := by decide
  obtain ⟨hlow, hhigh⟩ := toNat_of_isDigit h
  exact hall c.toNat (by omega) hlow

theorem isDigits_repr (n : Nat) : IsDigits (asciiString n.repr) := by
  unfold asciiString
  rw [Nat.toList_repr]
  refine ⟨by simp, fun b hb => ?_⟩
  obtain ⟨c, hc, rfl⟩ := List.mem_map.mp hb
  exact isDigit_ascii (Nat.isDigit_of_mem_toDigits (by decide) (by decide) hc)

/-- A digit that is written as `0` is `0`. -/
theorem eq_zero_of_ascii {c : Char} (h : c.isDigit = true) (hzero : ascii c = ascii '0') :
    c = '0' := by
  have hall : ∀ n < 58, 48 ≤ n → n.toUInt8 = 48 → n = 48 := by decide
  obtain ⟨hlow, hhigh⟩ := toNat_of_isDigit h
  exact Char.toNat_inj.mp (hall c.toNat (by omega) hlow hzero)

/-- The only number that begins with a zero has one digit. -/
theorem length_repr_of_head {n : Nat} (h : (asciiString n.repr).head? = some (ascii '0')) :
    (asciiString n.repr).length = 1 := by
  unfold asciiString at h ⊢
  rw [Nat.toList_repr] at h ⊢
  rw [List.head?_map, Option.map_eq_some_iff] at h
  obtain ⟨c, hc, hzero⟩ := h
  have hdigit := Nat.isDigit_of_mem_toDigits (by decide) (by decide) (List.mem_of_head? hc)
  rw [eq_zero_of_ascii hdigit hzero] at hc
  -- a positive number does not begin with a zero
  rcases Nat.eq_zero_or_pos n with rfl | hn
  · rfl
  · exact absurd hc (head?_toDigits_ne hn)

theorem isNumber_repr (n : Int) : IsNumber (asciiString n.repr) := by
  -- the digits come after a sign or none, and neither fraction nor exponent follows
  have hnatural : ∀ m : Nat, ∀ sign : Bytes, sign = [] ∨ sign = [ascii '-'] →
      IsNumber (sign ++ asciiString m.repr) := fun m sign hsign =>
    ⟨sign, asciiString m.repr, [], [], hsign, isDigits_repr m, length_repr_of_head, .inl rfl,
      .inl rfl, by simp⟩
  rw [Int.repr_eq_if]
  split_ifs
  · exact hnatural n.toNat [] (.inl rfl)
  · have hminus : asciiString ("-" ++ (-n).toNat.repr) =
        [ascii '-'] ++ asciiString (-n).toNat.repr := by
      unfold asciiString
      rw [String.toList_append, List.map_append]
      rfl
    rw [hminus]
    exact hnatural (-n).toNat [ascii '-'] (.inr rfl)

/-! ### Objects and arrays -/

theorem isJsonSpace_nil : IsJsonSpace [] := fun _ h => absurd h List.not_mem_nil

/-- Members with commas between them. -/
theorem members_intercalate {members : List (Bytes × Bytes)} (hne : members ≠ [])
    (h : ∀ m ∈ members, IsString m.1 ∧ JsonText .value m.2) :
    JsonText .members
      ([ascii ','].intercalate (members.map fun m => m.1 ++ [ascii ':'] ++ m.2)) := by
  induction members with
  | nil => exact absurd rfl hne
  | cons m members ih =>
    obtain ⟨hkey, hvalue⟩ := h m List.mem_cons_self
    have hone := JsonText.member isJsonSpace_nil hkey isJsonSpace_nil isJsonSpace_nil hvalue
      isJsonSpace_nil
    simp only [List.nil_append, List.append_nil] at hone
    cases members with
    | nil =>
      rw [List.map_singleton, List.intercalate_singleton]
      exact hone
    | cons other members =>
      have hrest := ih (List.cons_ne_nil _ _) fun x hx => h x (List.mem_cons_of_mem m hx)
      simp only [List.map_cons, List.intercalate_cons_cons] at hrest ⊢
      exact .moreMembers hone hrest

/-- Elements with commas between them. -/
theorem elements_intercalate {elements : List Bytes} (hne : elements ≠ [])
    (h : ∀ e ∈ elements, JsonText .value e) :
    JsonText .elements ([ascii ','].intercalate elements) := by
  induction elements with
  | nil => exact absurd rfl hne
  | cons e elements ih =>
    have hone := JsonText.element isJsonSpace_nil (h e List.mem_cons_self) isJsonSpace_nil
    simp only [List.nil_append, List.append_nil] at hone
    cases elements with
    | nil =>
      rw [List.intercalate_singleton]
      exact hone
    | cons other elements =>
      have hrest := ih (List.cons_ne_nil _ _) fun x hx => h x (List.mem_cons_of_mem e hx)
      rw [List.intercalate_cons_cons]
      exact .moreElements hone hrest

theorem objectText_dumpMembers {members : List (Bytes × Bytes)}
    (h : ∀ m ∈ members, IsString m.1 ∧ JsonText .value m.2) : ObjectText (dumpMembers members) := by
  by_cases hne : members = []
  · exact .inl ⟨[], isJsonSpace_nil, by rw [hne]; rfl⟩
  · exact .inr ⟨_, members_intercalate hne h, rfl⟩

theorem jsonText_dumpElements {elements : List Bytes} (h : ∀ e ∈ elements, JsonText .value e) :
    JsonText .value (dumpElements elements) := by
  by_cases hne : elements = []
  · rw [hne]
    exact .emptyArray isJsonSpace_nil
  · exact .array (elements_intercalate hne h)

/-- Sorting moves the members, and keeps them. -/
theorem mem_insertMember {member x : Bytes × Bytes} {members : List (Bytes × Bytes)} :
    x ∈ insertMember member members ↔ x = member ∨ x ∈ members := by
  induction members with
  | nil => simp [insertMember]
  | cons other members ih =>
    unfold insertMember
    split_ifs
    · exact List.mem_cons
    · rw [List.mem_cons, ih, List.mem_cons]
      exact or_left_comm

theorem mem_sortMembers {x : Bytes × Bytes} {members : List (Bytes × Bytes)} :
    x ∈ sortMembers members ↔ x ∈ members := by
  unfold sortMembers
  induction members with
  | nil => rfl
  | cons member members ih => rw [List.foldr_cons, mem_insertMember, ih, List.mem_cons]

section
variable {sort : List (Bytes × Bytes) → List (Bytes × Bytes)}

mutual

/-- **What is printed is a text of the grammar.** -/
theorem jsonText_print (hsort : ∀ {x members}, x ∈ sort members → x ∈ members) (value : Json) :
    JsonText .value (value.print sort) := by
  cases value with
  | null => exact .literal (by simp [jsonLiterals, print])
  | boolean b => exact .literal (by cases b <;> simp [jsonLiterals, print])
  | number n => exact .number (isNumber_repr n)
  | float bits => exact .number (isNumber_repr _)
  | string s => exact .string (isString_dumpString s)
  | array elements => exact jsonText_dumpElements (jsonText_printElements hsort elements)
  | object members =>
    exact (objectText_dumpMembers fun m hm =>
      jsonText_printMembers hsort members m (hsort hm)).value

theorem jsonText_printElements (hsort : ∀ {x members}, x ∈ sort members → x ∈ members)
    (elements : List Json) : ∀ e ∈ printElements sort elements, JsonText .value e := by
  cases elements with
  | nil => exact fun e he => absurd he List.not_mem_nil
  | cons element elements =>
    intro e he
    rcases List.mem_cons.mp he with rfl | he
    · exact jsonText_print hsort element
    · exact jsonText_printElements hsort elements e he

theorem jsonText_printMembers (hsort : ∀ {x members}, x ∈ sort members → x ∈ members)
    (members : List (String × Json)) :
    ∀ m ∈ printMembers sort members, IsString m.1 ∧ JsonText .value m.2 := by
  cases members with
  | nil => exact fun m hm => absurd hm List.not_mem_nil
  | cons member members =>
    intro m hm
    rcases List.mem_cons.mp hm with rfl | hm
    · exact ⟨isString_dumpString _, jsonText_print hsort member.2⟩
    · exact jsonText_printMembers hsort members m hm

end

end

/-- **A message is the text of an object**, as a control connection carries it. -/
theorem objectText_dump (members : List (String × Json)) : ObjectText (dump (object members)) :=
  objectText_dumpMembers fun m hm =>
    jsonText_printMembers mem_sortMembers.mp members m (mem_sortMembers.mp hm)

/-! ### Reading the texts of a few values -/

/-- A parser that reads the texts of these values, as this printer writes them, and no other. -/
def readsOnly (printer : Json → Bytes) (values : List Json) (text : Bytes) : Except Unit Json :=
  match values.find? fun value => printer value = text with
  | some value => .ok value
  | none => .error ()

section
variable {printer : Json → Bytes} {values : List Json} {other : Json} {text : Bytes}

theorem readsOnly_head (value : Json) :
    readsOnly printer (value :: values) (printer value) = .ok value := by
  unfold readsOnly
  rw [List.find?_cons_of_pos (by simp)]

theorem readsOnly_tail (h : printer other ≠ text) :
    readsOnly printer (other :: values) text = readsOnly printer values text := by
  unfold readsOnly
  rw [List.find?_cons_of_neg (by simpa using h)]

/-- Every one of the values is read, when no two of them have the same text. -/
theorem readsOnly_of_mem (h : (values.map printer).Nodup) {value : Json} (hmem : value ∈ values) :
    readsOnly printer values (printer value) = .ok value := by
  induction values with
  | nil => cases hmem
  | cons head values ih =>
    obtain ⟨hhead, hvalues⟩ := List.nodup_cons.mp h
    rcases List.mem_cons.mp hmem with rfl | hmem
    · exact readsOnly_head value
    · have hother : printer head ≠ printer value := fun heq =>
        hhead (List.mem_map.mpr ⟨value, hmem, heq.symm⟩)
      rw [readsOnly_tail hother]
      exact ih hvalues hmem

end

end Json

/-! ### Web tokens -/

/-- The digit of six bits. -/
def base64UrlDigit (n : Nat) : UInt8 :=
  (if n < 26 then 65 + n else if n < 52 then 71 + n else if n < 62 then n - 4
    else if n = 62 then 45 else 95).toUInt8

/-- Three bytes are four digits; what is left at the end is not padded. -/
def base64Url : Bytes → Bytes
  | a :: b :: c :: rest =>
    base64UrlDigit (a.toNat / 4) :: base64UrlDigit (a.toNat % 4 * 16 + b.toNat / 16) ::
      base64UrlDigit (b.toNat % 16 * 4 + c.toNat / 64) :: base64UrlDigit (c.toNat % 64) ::
        base64Url rest
  | [a, b] =>
    [base64UrlDigit (a.toNat / 4), base64UrlDigit (a.toNat % 4 * 16 + b.toNat / 16),
      base64UrlDigit (b.toNat % 16 * 4)]
  | [a] => [base64UrlDigit (a.toNat / 4), base64UrlDigit (a.toNat % 4 * 16)]
  | [] => []

/-- A web token with this payload: a header, the payload and a signature. -/
def webToken (payload : Json) : Bytes :=
  base64Url (asciiString "\x7b\"alg\":\"RS256\",\"typ\":\"JWS\"\x7d") ++ ascii '.' ::
    base64Url payload.dump ++ asciiString ".c2lnbmF0dXJl"

example : webToken (.object [("tunnelId", .string "c"), ("iss", .string "tunnelBore")]) =
    asciiString ("eyJhbGciOiJSUzI1NiIsInR5cCI6IkpXUyJ9." ++
      "eyJpc3MiOiJ0dW5uZWxCb3JlIiwidHVubmVsSWQiOiJjIn0.c2lnbmF0dXJl") := by decide +kernel

end TunnelBore
