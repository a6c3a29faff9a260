import BacktestDesk.Json.Shape
import BacktestDesk.Text.Form

/-!
# BacktestDesk.Parameters

The parameters of one request: an ordered mapping from keys to a text or a list of texts. A list
goes out as one pair for each element.
-/

namespace BacktestDesk

inductive Parameter where
  | scalar (text : String)
  | list (items : List String)
  deriving DecidableEq

structure Parameters where
  entries : List (String × Parameter)
  deriving DecidableEq

namespace Parameter

/-- The texts that a value sends, each under the key of the value. -/
def texts : Parameter → List String
  | scalar s => [s]
  | list items => items

def ofNat (n : Nat) : Parameter :=
  scalar (toString n)

def ofInt (z : Int) : Parameter :=
  scalar (toString z)

def ofDouble (x : Double) : Parameter :=
  scalar x.plain

end Parameter

namespace Parameters

def empty : Parameters := ⟨[]⟩

/-- Replaces the value at the first entry with a key, or adds an entry at the end. -/
def setEntry (key : String) (value : Parameter) :
    List (String × Parameter) → List (String × Parameter)
  | [] => [(key, value)]
  | (k, v) :: rest => if k = key then (k, value) :: rest else (k, v) :: setEntry key value rest

/-- A key that is present keeps its place. -/
def set (ps : Parameters) (key : String) (value : Parameter) : Parameters :=
  ⟨setEntry key value ps.entries⟩

def get? (ps : Parameters) (key : String) : Option Parameter :=
  (ps.entries.find? fun e => e.1 == key).map Prod.snd

def size (ps : Parameters) : Nat :=
  ps.entries.length

/-- The pairs that go out, lists taken apart. -/
def pairs (ps : Parameters) : List (String × String) :=
  ps.entries.flatMap fun e => e.2.texts.map fun s => (e.1, s)

def query (ps : Parameters) : String :=
  Text.Form.encode ps.pairs

end Parameters

/-! ## Documents -/

open Json

namespace Parameter

def read : Reading Parameter :=
  readFirst "ParamValue"
    [fun v =>
      match readText v with
      | .error e => .error e
      | .ok s => .ok (scalar s),
     fun v =>
      match readList readText v with
      | .error e => .error e
      | .ok items => .ok (list items)]

def toJson : Parameter → Json
  | scalar s => .str s
  | list items => .ofList .str items

end Parameter

namespace Parameters

def read : Reading Parameters :=
  readRecord .document "ScenarioParameters"
    ((Fields.none mk).and (.required "entries" (readList (readPair readText Parameter.read))))

def toJson (ps : Parameters) : Json :=
  .obj [("entries", .ofList (fun e => .arr [.str e.1, e.2.toJson]) ps.entries)]

end Parameters
end BacktestDesk
