import Mathlib.Data.Rat.Init
import Sentinel.Lib.Dict
import Sentinel.Lib.Prog

/-!
# Values that cross a service boundary

The services exchange JSON and read it back with the operations of the language: truth of a
value, `payload["key"]`, `str.strip`. Each operation raises what the language raises.

* `Json` — a parsed document; `null` is also the value `None`
* `Json.item` — `payload["key"]`
* `asStrList`, `asDict` — the typed readings of a value, and back
* `strip`, `isBlank` — `value.strip()` and `not value.strip()`
* `PyError` — the exceptions the modelled code raises or distinguishes
-/

namespace Sentinel

open Lib

/-- Exceptions. The code tells `httpx.HTTPError`, `ValueError` and redis' `ResponseError` from
the rest; everything a dependency may raise beyond these is `other`. -/
inductive PyError
  | httpError
  | jsonDecodeError
  | keyError (key : String)
  | typeError
  | valueError (message : String)
  | assertionError
  | multipleResultsFound
  | integrityError
  | staleDataError
  | responseError (message : String)
  | graphRecursionError
  | other (name : String)
deriving DecidableEq, Repr

inductive Json
  | null
  | bool (b : Bool)
  | int (n : Int)
  | float (q : Rat)
  /-- `NaN`, `Infinity` and `-Infinity`, which `json.loads` accepts. -/
  | nonFinite (literal : String)
  | str (s : String)
  | arr (items : List Json)
  /-- An object; with a repeated key the last field counts. -/
  | obj (fields : List (String × Json))
deriving Repr

namespace Json

/-! ## decidable equality -/

mutual

def same : Json → Json → Bool
  | .null, .null => true
  | .bool a, .bool b => a == b
  | .int a, .int b => a == b
  | .float a, .float b => a == b
  | .nonFinite a, .nonFinite b => a == b
  | .str a, .str b => a == b
  | .arr a, .arr b => sameItems a b
  | .obj a, .obj b => sameFields a b
  | _, _ => false

def sameItems : List Json → List Json → Bool
  | [], [] => true
  | a :: l, b :: m => a.same b && sameItems l m
  | _, _ => false

def sameFields : List (String × Json) → List (String × Json) → Bool
  | [], [] => true
  | (k, a) :: l, (k', b) :: m => k == k' && a.same b && sameFields l m
  | _, _ => false

end

mutual

theorem same_iff : ∀ a b : Json, a.same b = true ↔ a = b
  | a, b => by
    cases a <;> cases b <;> simp [same, sameItems_iff, sameFields_iff]

theorem sameItems_iff : ∀ l m : List Json, sameItems l m = true ↔ l = m
  | [], [] => by simp [sameItems]
  | [], _ :: _ => by simp [sameItems]
  | _ :: _, [] => by simp [sameItems]
  | a :: l, b :: m => by simp [sameItems, same_iff a b, sameItems_iff l m]

theorem sameFields_iff : ∀ l m : List (String × Json), sameFields l m = true ↔ l = m
  | [], [] => by simp [sameFields]
  | [], _ :: _ => by simp [sameFields]
  | _ :: _, [] => by simp [sameFields]
  | (k, a) :: l, (k', b) :: m => by
    simp [sameFields, same_iff a b, sameFields_iff l m, and_assoc]

end

instance : DecidableEq Json := fun a b => decidable_of_iff _ (same_iff a b)

/-! ## reading a value -/

/-- `bool(value)`. -/
def truthy : Json → Bool
  | null => false
  | bool b => b
  | int n => n != 0
  | float q => q != 0
  | nonFinite _ => true
  | str s => !s.isEmpty
  | arr items => !items.isEmpty
  | obj fields => !fields.isEmpty

/-- `value[key]` with a text `key`. -/
def item (key : String) : Json → Except PyError Json
  | obj fields =>
    match (Dict.ofList fields).get? key with
    | some v => .ok v
    | none => .error (.keyError key)
  | _ => .error .typeError

/-! ## typed values -/

def asStr : Json → Option String
  | str s => some s
  | _ => none

def asStrList : Json → Option (List String)
  | arr items => items.mapM asStr
  | _ => none

/-- A field with a text in it. -/
def asStrField (field : String × Json) : Option (String × String) :=
  field.2.asStr.map (field.1, ·)

/-- A `dict[str, str]`. -/
def asDict : Json → Option (Dict String String)
  | obj fields => (fields.mapM asStrField).map Dict.ofList
  | _ => none

/-- A `list[str]` as JSON. -/
def ofStrList (l : List String) : Json := arr (l.map str)

/-- A `dict[str, str]` as JSON. -/
def ofDict (d : Dict String String) : Json := obj (d.entries.map fun e => (e.1, str e.2))

/-- An optional text as JSON. -/
def ofOption : Option String → Json
  | none => null
  | some s => str s

@[simp] theorem asStrList_ofStrList (l : List String) : (ofStrList l).asStrList = some l := by
  show (l.map str).mapM asStr = some l
  induction l with
  | nil => rfl
  | cons s l ih =>
    rw [List.map_cons, List.mapM_cons, ih]
    rfl

@[simp] theorem asDict_ofDict (d : Dict String String) : (ofDict d).asDict = some d := by
  have h : ∀ l : List (String × String),
      (l.map fun e => (e.1, str e.2)).mapM asStrField = some l := by
    intro l
    induction l with
    | nil => rfl
    | cons e l ih =>
      rw [List.map_cons, List.mapM_cons, ih]
      rfl
  show ((d.entries.map fun e => (e.1, str e.2)).mapM asStrField).map Dict.ofList = some d
  rw [h, Option.map_some, Dict.ofList_entries]

end Json

/-! ## text -/

/-- The characters `str.strip` removes. -/
def isPySpace (c : Char) : Bool :=
  let n := c.toNat
  (0x09 ≤ n && n ≤ 0x0D) || (0x1C ≤ n && n ≤ 0x20) || n == 0x85 || n == 0xA0 || n == 0x1680 ||
    (0x2000 ≤ n && n ≤ 0x200A) || n == 0x2028 || n == 0x2029 || n == 0x202F || n == 0x205F ||
    n == 0x3000

/-- `value.strip()`. -/
def strip (s : String) : String :=
  String.ofList ((s.toList.dropWhile isPySpace).reverse.dropWhile isPySpace).reverse

/-- `not value.strip()`. -/
def isBlank (s : String) : Bool := (strip s).isEmpty

end Sentinel
