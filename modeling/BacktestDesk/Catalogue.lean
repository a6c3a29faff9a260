import BacktestDesk.Decimal.Numeral
import BacktestDesk.Json.Shape
import BacktestDesk.Text.Split

/-!
# BacktestDesk.Catalogue

The trained models that the backend offers. An identifier is cut at underscores: coin, duration,
a part that is not used, and a text that begins with the accuracy. The catalogue lists the models
by accuracy, best first, those without one at the end and equal ones in the order they came in.
-/

namespace BacktestDesk

structure TrainedModel where
  title : String
  coin : String
  duration : String
  accuracy : Option Double
  deriving DecidableEq

namespace TrainedModel

def isNumeric (c : Char) : Bool :=
  c.isDigit || c == '.' || c == '-' || c == '+'

/-- The number that a text denotes, if it denotes one. -/
def numberOf? (cs : List Char) : Option Double :=
  match Numeral.realChars cs with
  | .ok x => some x
  | .error _ => none

/-- The beginnings of a list, the longest first, without the empty one. -/
def beginnings (cs : List Char) : List (List Char) :=
  ((List.range cs.length).map fun k => cs.take (k + 1)).reverse

/-- The longest beginning of a text that is a number, so that `0.71.json` gives 0.71; a number
that is not finite is none. -/
def leadingNumber? (cs : List Char) : Option Double :=
  ((beginnings (cs.takeWhile isNumeric)).findSome? numberOf?).filter Double.isFinite

/-- Parts that an identifier does not have are empty. -/
def ofIdentifier (id : String) : TrainedModel :=
  let parts := Text.split '_' id.toList
  { title := id
    coin := String.ofList (parts.getD 0 [])
    duration := String.ofList (parts.getD 1 [])
    accuracy := parts[3]?.bind leadingNumber? }

/-- Whether a model may stand before another in the catalogue: the other is not the more accurate
one. Accuracies that do not compare count as equal. -/
def mayPrecede (a b : TrainedModel) : Bool :=
  match a.accuracy, b.accuracy with
  | some x, some y => y.le x || !x.le y
  | some _, none => true
  | none, some _ => false
  | none, none => true

open Json

def read : Reading TrainedModel :=
  readRecord .document "ModelDescriptor"
    ((Fields.none mk).and (.required "title" readText)
      |>.and (.required "coin" readText)
      |>.and (.required "duration" readText)
      |>.and (.optional "accuracy" readReal))

def toJson (m : TrainedModel) : Json :=
  .obj [("title", .str m.title), ("coin", .str m.coin), ("duration", .str m.duration),
    ("accuracy", .ofOption .ofDouble m.accuracy)]

end TrainedModel

structure Catalogue where
  models : List TrainedModel
  deriving DecidableEq

namespace Catalogue

def ofIdentifiers (ids : List String) : Catalogue :=
  ⟨(ids.map TrainedModel.ofIdentifier).mergeSort TrainedModel.mayPrecede⟩

def forCoin (c : Catalogue) (coin : String) : List TrainedModel :=
  c.models.filter fun m => m.coin == coin

/-- Adds a model at the end of the group of its coin. -/
def addToGroup (groups : TextMap (List TrainedModel)) (m : TrainedModel) :
    TextMap (List TrainedModel) :=
  groups.insert m.coin ((groups.get? m.coin).getD [] ++ [m])

/-- The models of each coin, in the order of the catalogue. -/
def groups (c : Catalogue) : TextMap (List TrainedModel) :=
  c.models.foldl addToGroup .empty

end Catalogue
end BacktestDesk
