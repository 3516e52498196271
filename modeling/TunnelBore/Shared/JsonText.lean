import TunnelBore.Shared.Bytes

namespace TunnelBore

/-!
# The grammar of JSON texts

`JsonText kind t` says that the bytes `t` are a value, the members of an object or the
elements of an array, with any whitespace the grammar allows between tokens.  One indexed
predicate holds all three kinds, so that a proof over the grammar is one induction.

Strings are sequences of plain bytes and escapes (`IsStringBody`); a plain byte is anything
but a control character, a quote or a backslash, so the grammar also admits bytes that are
not UTF-8.  `ObjectText` are the texts of objects, the only texts a control connection
carries.
-/

/-- The insignificant whitespace of JSON: space, tab, line feed and carriage return. -/
def IsJsonSpace (t : Bytes) : Prop := ∀ c ∈ t, c = 32 ∨ c = 9 ∨ c = 10 ∨ c = 13

/-- A byte that stands for itself inside a string. -/
def IsPlain (c : UInt8) : Prop := 32 ≤ c ∧ c ≠ ascii '"' ∧ c ≠ ascii '\\'

instance : DecidablePred IsPlain := fun c =>
  inferInstanceAs (Decidable (32 ≤ c ∧ c ≠ ascii '"' ∧ c ≠ ascii '\\'))

/-- The bytes that may follow a backslash, other than `u`. -/
def simpleEscapes : Bytes := asciiString "\"\\/bfnrt"

/-- A hexadecimal digit. -/
def IsHexDigit (c : UInt8) : Prop :=
  (48 ≤ c ∧ c ≤ 57) ∨ (65 ≤ c ∧ c ≤ 70) ∨ (97 ≤ c ∧ c ≤ 102)

/-- What stands between the quotes of a string. -/
inductive IsStringBody : Bytes → Prop
  | nil : IsStringBody []
  | plain {c : UInt8} {t : Bytes} (hc : IsPlain c) (ht : IsStringBody t) : IsStringBody (c :: t)
  | escape {c : UInt8} {t : Bytes} (hc : c ∈ simpleEscapes) (ht : IsStringBody t) :
      IsStringBody (ascii '\\' :: c :: t)
  | unicode {a b c d : UInt8} {t : Bytes} (ha : IsHexDigit a) (hb : IsHexDigit b)
      (hc : IsHexDigit c) (hd : IsHexDigit d) (ht : IsStringBody t) :
      IsStringBody (ascii '\\' :: ascii 'u' :: a :: b :: c :: d :: t)

/-- Bytes that stand for themselves are a string's body. -/
theorem isStringBody_of_plain {t : Bytes} (h : ∀ c ∈ t, IsPlain c) : IsStringBody t := by
  induction t with
  | nil => exact .nil
  | cons c t ih =>
    exact .plain (h c List.mem_cons_self) (ih fun d hd => h d (List.mem_cons_of_mem c hd))

/-- A string with its quotes. -/
def IsString (t : Bytes) : Prop :=
  ∃ body, IsStringBody body ∧ t = ascii '"' :: (body ++ [ascii '"'])

/-- A decimal digit. -/
def IsDigit (c : UInt8) : Prop := 48 ≤ c ∧ c ≤ 57

/-- A nonempty run of decimal digits. -/
def IsDigits (t : Bytes) : Prop := t ≠ [] ∧ ∀ c ∈ t, IsDigit c

/-- The fraction of a number, or nothing. -/
def IsFraction (t : Bytes) : Prop := t = [] ∨ ∃ ds, IsDigits ds ∧ t = ascii '.' :: ds

/-- The exponent of a number, or nothing. -/
def IsExponent (t : Bytes) : Prop :=
  t = [] ∨ ∃ e sign ds, (e = ascii 'e' ∨ e = ascii 'E') ∧
    (sign = [] ∨ sign = [ascii '+'] ∨ sign = [ascii '-']) ∧ IsDigits ds ∧ t = e :: (sign ++ ds)

/-- A number: sign, integer part without a leading zero, fraction and exponent. -/
def IsNumber (t : Bytes) : Prop :=
  ∃ sign int frac exp, (sign = [] ∨ sign = [ascii '-']) ∧
    IsDigits int ∧ (int.head? = some (ascii '0') → int.length = 1) ∧
    IsFraction frac ∧ IsExponent exp ∧ t = sign ++ int ++ frac ++ exp

/-- The three literal names. -/
def jsonLiterals : List Bytes := [asciiString "true", asciiString "false", asciiString "null"]

/-- What a derivation is a derivation of. -/
inductive JsonKind
  | value
  | members
  | elements
  deriving DecidableEq

/-- The grammar of values, of the members of an object (at least one, each followed by its
    whitespace) and of the elements of an array. -/
inductive JsonText : JsonKind → Bytes → Prop
  | literal {t : Bytes} (h : t ∈ jsonLiterals) : JsonText .value t
  | number {t : Bytes} (h : IsNumber t) : JsonText .value t
  | string {t : Bytes} (h : IsString t) : JsonText .value t
  | emptyObject {w : Bytes} (hw : IsJsonSpace w) :
      JsonText .value (ascii '{' :: (w ++ [ascii '}']))
  | object {m : Bytes} (hm : JsonText .members m) :
      JsonText .value (ascii '{' :: (m ++ [ascii '}']))
  | emptyArray {w : Bytes} (hw : IsJsonSpace w) :
      JsonText .value (ascii '[' :: (w ++ [ascii ']']))
  | array {m : Bytes} (hm : JsonText .elements m) :
      JsonText .value (ascii '[' :: (m ++ [ascii ']']))
  | member {w₁ key w₂ w₃ v w₄ : Bytes} (h₁ : IsJsonSpace w₁) (hkey : IsString key)
      (h₂ : IsJsonSpace w₂) (h₃ : IsJsonSpace w₃) (hv : JsonText .value v)
      (h₄ : IsJsonSpace w₄) :
      JsonText .members (w₁ ++ key ++ w₂ ++ [ascii ':'] ++ w₃ ++ v ++ w₄)
  | moreMembers {m ms : Bytes} (hm : JsonText .members m) (hms : JsonText .members ms) :
      JsonText .members (m ++ [ascii ','] ++ ms)
  | element {w₁ v w₂ : Bytes} (h₁ : IsJsonSpace w₁) (hv : JsonText .value v)
      (h₂ : IsJsonSpace w₂) : JsonText .elements (w₁ ++ v ++ w₂)
  | moreElements {e es : Bytes} (he : JsonText .elements e) (hes : JsonText .elements es) :
      JsonText .elements (e ++ [ascii ','] ++ es)

/-- The text of a JSON object. -/
def ObjectText (t : Bytes) : Prop :=
  (∃ w, IsJsonSpace w ∧ t = ascii '{' :: (w ++ [ascii '}'])) ∨
    ∃ m, JsonText .members m ∧ t = ascii '{' :: (m ++ [ascii '}'])

/-- An object's text is a value of the grammar. -/
theorem ObjectText.value {t : Bytes} (h : ObjectText t) : JsonText .value t := by
  rcases h with ⟨w, hw, rfl⟩ | ⟨m, hm, rfl⟩
  · exact .emptyObject hw
  · exact .object hm

end TunnelBore
