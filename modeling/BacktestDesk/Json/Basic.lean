import BacktestDesk.Decimal.Layout
import BacktestDesk.TextMap

/-!
# BacktestDesk.Json.Basic

Documents: the values of the JSON format, with whole numbers kept apart from all others.
-/

namespace BacktestDesk

/-- A document. A number written without point and exponent is `int` when it fits 64 bits, signed
or unsigned; every other number is `float`. -/
inductive Json where
  | null
  | bool (value : Bool)
  | int (value : Int)
  | float (value : Double)
  | str (value : String)
  | arr (items : List Json)
  | obj (fields : List (String × Json))

namespace Json

/-- The least and the greatest whole number that a document holds as such. -/
def minInt : Int := -0x8000000000000000

def maxInt : Int := 0xFFFFFFFFFFFFFFFF

/-- A number as a document; what is not finite has no form but `null`. -/
def ofDouble (x : Double) : Json :=
  if x.isFinite then .float x else .null

def ofNat (n : Nat) : Json :=
  .int n

def ofOption {α : Type} (f : α → Json) : Option α → Json
  | none => .null
  | some x => f x

def ofList {α : Type} (f : α → Json) (xs : List α) : Json :=
  .arr (xs.map f)

def ofTextMap {α : Type} (f : α → Json) (m : TextMap α) : Json :=
  .obj (m.entries.map fun e => (e.1, f e.2))

/-- A field that is left out when it has no value. -/
def optionalField {α : Type} (name : String) (f : α → Json) : Option α → List (String × Json)
  | none => []
  | some x => [(name, f x)]

/-- The value of a field of an object. -/
def field? (name : String) : Json → Option Json
  | .obj fields => (fields.find? fun e => e.1 == name).map Prod.snd
  | _ => none

end Json
end BacktestDesk
