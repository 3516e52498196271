import Mathlib.Data.List.AList

namespace TunnelBore

/-!
# JSON values

`json` is `nlohmann::json`.  The parts of its interface the two programs use are `items()`,
which lists the members of an object, the elements of an array under their indices and any
other value but `null` under the empty key, and `get<T>()`, which throws on everything that
cannot be read as a `T`.

A `std::map` from claim names to values is `ClaimMap`, an association list without
duplicates; `assign` is `map[key] = value`.
-/

/-- `nlohmann::json`; a floating point number is its bit pattern. -/
inductive Json
  | null
  | boolean (b : Bool)
  | number (n : Int)
  | float (bits : UInt64)
  | string (s : String)
  | array (elements : List Json)
  | object (members : List (String × Json))

namespace Json

/-- `json::items()`: the keys and values the range-based loop visits, in order. -/
def items : Json → List (String × Json)
  | null           => []
  | object members => members
  | array elements => elements.mapIdx fun i element => (toString i, element)
  | value          => [("", value)]

/-- `json::get<std::string>()`; `none` says that it throws. -/
def getString : Json → Option String
  | string s => some s
  | _        => none

/-- `json::get<bool>()`. -/
def getBool : Json → Option Bool
  | boolean b => some b
  | _         => none

/-- The `double` with these bits, cut to an integer: 52 bits of mantissa under a hidden one, 11 of
    exponent with the bias 1075, and the sign.  An infinity is cut to 0 here. -/
def truncateDouble (bits : UInt64) : Int :=
  let exponent := bits.toNat / 4503599627370496 % 2048
  let mantissa := 4503599627370496 + bits.toNat % 4503599627370496
  let magnitude : Nat :=
    if exponent = 2047 then 0
    else if 1075 ≤ exponent then mantissa <<< (exponent - 1075)
    else mantissa >>> (1075 - exponent)
  if bits.toNat < 9223372036854775808 then magnitude else -magnitude

/-- An arithmetic value before it is cast to the type asked for: `get<T>()` for an integral `T`
    reads booleans and floating point numbers too, and throws on everything else. -/
def getArithmetic : Json → Option Int
  | number n   => some n
  | boolean b  => some b.toNat
  | float bits => some (truncateDouble bits)
  | _          => none

/-- `json::get<int>()`; the cast keeps the low 32 bits. -/
def getInt (j : Json) : Option Int := j.getArithmetic.map fun n => Int.bmod n 4294967296

/-- `json::get<unsigned short>()`; the cast keeps the low 16 bits. -/
def getUnsignedShort (j : Json) : Option UInt16 := j.getArithmetic.map fun n => UInt16.ofInt n

/-- `json::find` on an object, then the value found; `none` is `end()`. -/
def find (key : String) : Json → Option Json
  | object members => members.lookup key
  | _              => none

/-- `j[key].get<std::string>()`, or `j.at(key)`: a missing key makes it throw as well. -/
def stringAt (j : Json) (key : String) : Option String := (j.find key).bind getString

/-- `j[key].get<int>()`. -/
def intAt (j : Json) (key : String) : Option Int := (j.find key).bind getInt

/-- `j[key].get<bool>()`. -/
def boolAt (j : Json) (key : String) : Option Bool := (j.find key).bind getBool

theorem getString_eq_some {j : Json} {s : String} : j.getString = some s ↔ j = .string s := by
  cases j <;> simp [getString]

/-- An `int` is read back. -/
theorem getInt_number {n : Int} (hlow : -2147483648 ≤ n) (hhigh : n < 2147483648) :
    (number n).getInt = some n := by
  show some (Int.bmod n 4294967296) = some n
  rw [Int.bmod_eq_of_le (by omega) (by omega)]

/-- The cast to `unsigned short` keeps the numbers of ports. -/
theorem toNat_ofInt_port {n : Int} (hlow : 0 ≤ n) (hhigh : n < 65536) :
    ((UInt16.ofInt n).toNat : Int) = n := by
  have hlt : n % 65536 = n := Int.emod_eq_of_lt hlow hhigh
  have hsize : n.toNat < UInt16.size := by
    show n.toNat < 65536
    omega
  have hcast : UInt16.ofInt n = UInt16.ofNat n.toNat := by
    show UInt16.ofNat (n % 65536).toNat = UInt16.ofNat n.toNat
    rw [hlt]
  rw [hcast, UInt16.toNat_ofNat_of_lt' hsize]
  exact Int.toNat_of_nonneg hlow

/-! ### Equality -/

mutual

/-- Whether two values are the same. -/
def same : Json → Json → Bool
  | null, null           => true
  | boolean a, boolean b => a = b
  | number a, number b   => a = b
  | float a, float b     => a = b
  | string a, string b   => a = b
  | array as, array bs   => sameElements as bs
  | object as, object bs => sameMembers as bs
  | _, _                 => false

def sameElements : List Json → List Json → Bool
  | [], []           => true
  | a :: as, b :: bs => same a b && sameElements as bs
  | _, _             => false

def sameMembers : List (String × Json) → List (String × Json) → Bool
  | [], []                     => true
  | (k, a) :: as, (l, b) :: bs => k = l && same a b && sameMembers as bs
  | _, _                       => false

end

mutual

theorem same_iff (a b : Json) : same a b = true ↔ a = b := by
  cases a with
  | array as => cases b <;> simp [same, sameElements_iff as]
  | object as => cases b <;> simp [same, sameMembers_iff as]
  | _ => cases b <;> simp [same]

theorem sameElements_iff (as bs : List Json) : sameElements as bs = true ↔ as = bs := by
  cases as with
  | nil => cases bs <;> simp [sameElements]
  | cons a as => cases bs <;> simp [sameElements, same_iff a, sameElements_iff as]

theorem sameMembers_iff (as bs : List (String × Json)) : sameMembers as bs = true ↔ as = bs := by
  cases as with
  | nil => cases bs <;> simp [sameMembers]
  | cons member as =>
    obtain ⟨k, a⟩ := member
    cases bs with
    | nil => simp [sameMembers]
    | cons other bs => simp [sameMembers, same_iff a, sameMembers_iff as, Prod.ext_iff]

end

instance : DecidableEq Json := fun a b => decidable_of_iff _ (same_iff a b)

end Json

/-- `std::map<std::string, json>`. -/
abbrev ClaimMap := AList fun _ : String => Json

namespace ClaimMap

/-- `map[key] = value`. -/
def assign (m : ClaimMap) (key : String) (value : Json) : ClaimMap := AList.insert key value m

/-- The map after `map[key] = value` for every pair of a list, from the first to the last. -/
def assignAll (m : ClaimMap) (items : List (String × Json)) : ClaimMap :=
  items.foldl (fun m item => m.assign item.1 item.2) m

/-- The object with the entries of the map as its members. -/
def toJson (m : ClaimMap) : Json := .object (m.entries.map fun entry => (entry.1, entry.2))

/-- The members of that object are the entries of the map. -/
theorem find_toJson (m : ClaimMap) (key : String) : m.toJson.find key = m.lookup key := by
  show (m.entries.map fun entry => (entry.1, entry.2)).lookup key = m.entries.dlookup key
  induction m.entries with
  | nil => rfl
  | cons entry entries ih =>
    obtain ⟨other, value⟩ := entry
    rw [List.map_cons, List.lookup_cons]
    by_cases hkey : key = other
    · subst hkey
      rw [beq_self_eq_true, List.dlookup_cons_eq]
    · rw [beq_eq_false_iff_ne.mpr hkey, List.dlookup_cons_ne entries ⟨other, value⟩ hkey]
      exact ih

@[simp] theorem lookup_assign_self (m : ClaimMap) (key : String) (value : Json) :
    (m.assign key value).lookup key = some value := AList.lookup_insert m

theorem lookup_assign_of_ne (m : ClaimMap) {key other : String} (h : other ≠ key)
    (value : Json) : (m.assign key value).lookup other = m.lookup other :=
  AList.lookup_insert_ne h

/-- After a list of assignments a key holds what was assigned to it last, and what it held
    before when nothing was assigned to it. -/
theorem lookup_assignAll (m : ClaimMap) (items : List (String × Json)) (key : String) :
    (m.assignAll items).lookup key = (items.reverse.lookup key).or (m.lookup key) := by
  unfold assignAll
  induction items generalizing m with
  | nil => simp
  | cons item items ih =>
    obtain ⟨last, value⟩ := item
    rw [List.foldl_cons, ih, List.reverse_cons, List.lookup_append, Option.or_assoc]
    congr 1
    by_cases hkey : key = last
    · subst hkey
      simp
    · have hne : (key == last) = false := beq_eq_false_iff_ne.mpr hkey
      rw [lookup_assign_of_ne m hkey, List.lookup_cons, hne]
      simp

end ClaimMap

end TunnelBore
