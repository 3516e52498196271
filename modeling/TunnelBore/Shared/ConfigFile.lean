import Mathlib.Logic.Function.Basic
import TunnelBore.Shared.Bytes
import TunnelBore.Shared.Json

namespace TunnelBore

/-!
# Configuration files

Both programs keep their configuration in a file under the home directory: `saveConfig` writes
`json{config}.dump()` there, and `loadConfig` reads a `Config` from what the file is parsed to.  In
braces a single value becomes an array with one element.

* `JsonLibrary.Documented` — what the two functions rely on in `nlohmann::json`;
* `ConfigFormat` — how a configuration is written and read, as an object;
* `ConfigFormat.loadConfig_saved` — what `saveConfig` has written makes `loadConfig` throw;
* `ConfigFormat.loadConfig_object` — the object itself would be read back.
-/

/-! ### `nlohmann::json` -/

namespace Json

/-- A pair of a key and a value, as an initializer list has them. -/
def IsPair : Json → Prop
  | .array [.string _, _] => True
  | _                     => False

/-- The order of the keys of an object, by their characters. -/
def KeyBefore (a b : String) : Prop :=
  List.lex (a.toList.map Char.toNat) (b.toList.map Char.toNat) Nat.blt = true

instance : DecidableRel KeyBefore := fun _ _ => inferInstanceAs (Decidable (_ = _))

/-- Values that a text can hold: integers have 64 bits, and the members of an object come in the
    order of their keys. -/
inductive Storable : Json → Prop
  | null : Storable .null
  | boolean (b : Bool) : Storable (.boolean b)
  | number {n : Int} (hlow : -9223372036854775808 ≤ n) (hhigh : n < 18446744073709551616) :
      Storable (.number n)
  | string (s : String) : Storable (.string s)
  | array {elements : List Json} (h : ∀ element ∈ elements, Storable element) :
      Storable (.array elements)
  | object {members : List (String × Json)}
      (hsorted : (members.map Prod.fst).Pairwise KeyBefore)
      (h : ∀ member ∈ members, Storable member.2) : Storable (.object members)

end Json

/-- The parts of `nlohmann::json` that configurations are kept with. -/
structure JsonLibrary (ε : Type) where
  parse : Bytes → Except ε Json
  /-- `dump()`; `none` says that it throws. -/
  dump : Json → Option Bytes
  /-- `json{value}`. -/
  braced : Json → Json

/-- A text is parsed to the value it was made of, and braces make an array of a single value. -/
structure JsonLibrary.Documented {ε : Type} (lib : JsonLibrary ε) : Prop where
  inverse : ∀ {value : Json} {text : Bytes}, value.Storable → lib.dump value = some text →
    lib.parse text = .ok value
  braced : ∀ {value : Json}, ¬value.IsPair → lib.braced value = .array [value]

/-! ### Files -/

/-- The files under the home directory. -/
structure HomeFiles where
  content : String → Option Bytes
  writable : String → Bool

namespace HomeFiles

variable (files : HomeFiles) (subpath : String)

/-- `loadHomeFile`; `none` says that it throws. -/
def loadHomeFile : Option Bytes := files.content subpath

/-- `saveHomeFile`; `none` says that it throws. -/
def saveHomeFile (data : Bytes) : Option HomeFiles :=
  if files.writable subpath then
    some { files with content := Function.update files.content subpath (some data) }
  else none

variable {files subpath}

/-- What was saved is loaded. -/
theorem loadHomeFile_saved {data : Bytes} {saved : HomeFiles}
    (h : files.saveHomeFile subpath data = some saved) :
    saved.loadHomeFile subpath = some data := by
  obtain ⟨-, heq⟩ := Option.ite_none_right_eq_some.mp h
  obtain rfl := Option.some.inj heq
  exact Function.update_self _ _ _

end HomeFiles

/-! ### Configurations -/

/-- How configurations are kept: the path, with and without `NDEBUG`, and `to_json` and `from_json`.
    A configuration is an object; `from_json` looks for its members, and an array has none. -/
structure ConfigFormat (α : Type) where
  path : Bool → String
  toJson : α → Json
  ofJson : Json → Option α
  isObject : ∀ config, ∃ members, toJson config = .object members
  storable : ∀ config, (toJson config).Storable
  ofJson_toJson : ∀ config, ofJson (toJson config) = some config
  ofJson_array : ∀ elements, ofJson (.array elements) = none

namespace ConfigFormat

variable {α ε : Type} (format : ConfigFormat α) (lib : JsonLibrary ε) (inDev : Bool)
variable (files : HomeFiles)

/-- `saveConfig`; `none` says that it throws. -/
def saveConfig (config : α) : Option HomeFiles := do
  let data ← lib.dump (lib.braced (format.toJson config))
  files.saveHomeFile (format.path inDev) data

/-- `loadConfig`; `none` says that it throws. -/
def loadConfig : Option α := do
  let configString ← files.loadHomeFile (format.path inDev)
  match lib.parse configString with
  | .error _ => none
  | .ok j    => format.ofJson j

/-- The configuration is saved, and what is loaded then is the same. -/
def RoundTrips (config : α) : Prop :=
  ∃ saved, format.saveConfig lib inDev files config = some saved ∧
    format.loadConfig lib inDev saved = some config

variable {format lib inDev files} {config : α}

/-- A file with the text of a value is read as that value is. -/
theorem loadConfig_dumped (hlib : lib.Documented) {value : Json} {text : Bytes}
    (hvalue : value.Storable) (htext : lib.dump value = some text)
    (hfile : files.loadHomeFile (format.path inDev) = some text) :
    format.loadConfig lib inDev files = format.ofJson value := by
  unfold loadConfig
  rw [hfile]
  show (match lib.parse text with
    | .error _ => none
    | .ok j => format.ofJson j) = _
  rw [hlib.inverse hvalue htext]

/-- **The object itself would be read back.** -/
theorem loadConfig_object (hlib : lib.Documented) {text : Bytes}
    (htext : lib.dump (format.toJson config) = some text)
    (hfile : files.loadHomeFile (format.path inDev) = some text) :
    format.loadConfig lib inDev files = some config := by
  rw [loadConfig_dumped hlib (format.storable config) htext hfile]
  exact format.ofJson_toJson config

/-- **What was saved is not read back**: it is an array. -/
theorem loadConfig_saved (hlib : lib.Documented) {saved : HomeFiles}
    (hsaved : format.saveConfig lib inDev files config = some saved) :
    format.loadConfig lib inDev saved = none := by
  obtain ⟨data, hdata, hsave⟩ := Option.bind_eq_some_iff.mp hsaved
  have hobject : ¬(format.toJson config).IsPair := by
    obtain ⟨members, hmembers⟩ := format.isObject config
    rw [hmembers]
    exact not_false
  rw [hlib.braced hobject] at hdata
  have hstorable : (Json.array [format.toJson config]).Storable := by
    refine .array fun element helement => ?_
    obtain rfl := List.mem_singleton.mp helement
    exact format.storable config
  rw [loadConfig_dumped hlib hstorable hdata (HomeFiles.loadHomeFile_saved hsave)]
  exact format.ofJson_array [format.toJson config]

/-- So no configuration makes the round trip. -/
theorem not_roundTrips (hlib : lib.Documented) : ¬format.RoundTrips lib inDev files config := by
  rintro ⟨saved, hsaved, hloaded⟩
  rw [loadConfig_saved hlib hsaved] at hloaded
  cases hloaded

end ConfigFormat

end TunnelBore
