import BacktestDesk.Json.Basic
import BacktestDesk.Text.Quoted

/-!
# BacktestDesk.Json.Shape

Typed reading of documents. A reader takes a document to a value or to the first fault it meets:
the fields of an object are met in ascending key order and a missing field only after all that are
there; a record may also be given as an array of its fields in the order of their declaration.
-/

namespace BacktestDesk
namespace Json

/-- What stands where something else was wanted. -/
inductive Found where
  | null
  | bool (value : Bool)
  | int (value : Int)
  | float (value : Double)
  | str (value : String)
  | sequence
  | map
  deriving DecidableEq

def found : Json → Found
  | .null => .null
  | .bool b => .bool b
  | .int z => .int z
  | .float x => .float x
  | .str s => .str s
  | .arr _ => .sequence
  | .obj _ => .map

def Found.describe : Found → String
  | .null => "null"
  | .bool b => "boolean `" ++ (if b then "true" else "false") ++ "`"
  | .int z => "integer `" ++ toString z ++ "`"
  | .float x => "floating point `" ++ String.ofList x.documentChars ++ "`"
  | .str s => "string " ++ Text.quoted s
  | .sequence => "sequence"
  | .map => "map"

/-- What a reader wants. -/
inductive Wanted where
  | text
  | real
  | signed64
  | unsigned64
  | unsigned32
  | sequence
  | map
  | singleKey
  | pair
  | unit
  | choice
  | tag
  | day
  | instant
  | record (name : String)
  | recordOf (name : String) (size : Nat)
  | union (name : String)
  | fewer
  | exactly (size : Nat)
  deriving DecidableEq

def counted (n : Nat) (noun : String) : String :=
  toString n ++ " " ++ noun ++ (if n = 1 then "" else "s")

def Wanted.describe : Wanted → String
  | .text => "a string"
  | .real => "f64"
  | .signed64 => "i64"
  | .unsigned64 => "u64"
  | .unsigned32 => "u32"
  | .sequence => "a sequence"
  | .map => "a map"
  | .singleKey => "map with a single key"
  | .pair => "a tuple of size 2"
  | .unit => "unit"
  | .choice => "string or map"
  | .tag => "variant identifier"
  | .day => "a formatted date string"
  | .instant => "an RFC 3339 formatted date and time string"
  | .record name => "struct " ++ name
  | .recordOf name size => "struct " ++ name ++ " with " ++ counted size "element"
  | .union name => "internally tagged enum " ++ name
  | .fewer => "fewer elements in array"
  | .exactly size => counted size "element" ++ " in sequence"

/-- Why a document does not have the wanted shape. -/
inductive Fault where
  | missing (field : String)
  | kind (found : Found) (wanted : Wanted)
  | value (found : Found) (wanted : Wanted)
  | length (size : Nat) (wanted : Wanted)
  | unknown (variant : String) (known : List String)
  | noVariant (name : String)
  | unreadable (reason : String)
  deriving DecidableEq

/-- The names of the variants in a message. -/
def describeKnown : List String → String
  | [] => "there are no variants"
  | [a] => "expected `" ++ a ++ "`"
  | [a, b] => "expected `" ++ a ++ "` or `" ++ b ++ "`"
  | all => "expected one of " ++ ", ".intercalate (all.map fun a => "`" ++ a ++ "`")

def Fault.message : Fault → String
  | .missing field => "missing field `" ++ field ++ "`"
  | .kind f w => "invalid type: " ++ f.describe ++ ", expected " ++ w.describe
  | .value f w => "invalid value: " ++ f.describe ++ ", expected " ++ w.describe
  | .length n w => "invalid length " ++ toString n ++ ", expected " ++ w.describe
  | .unknown v known => "unknown variant `" ++ v ++ "`, " ++ describeKnown known
  | .noVariant name => "data did not match any variant of untagged enum " ++ name
  | .unreadable reason => reason

abbrev Reading (α : Type) := Json → Except Fault α

/-! ## Single values -/

def readText : Reading String
  | .str s => .ok s
  | v => .error (.kind v.found .text)

/-- Any number; a whole number is rounded to the format. -/
def readReal : Reading Double
  | .int z => .ok (Double.ofInt z)
  | .float x => .ok x
  | v => .error (.kind v.found .real)

/-- A whole number between two bounds, the upper one excluded. -/
def readWhole (wanted : Wanted) (least bound : Int) : Reading Int
  | .int z => if least ≤ z ∧ z < bound then .ok z else .error (.value (.int z) wanted)
  | v => .error (.kind v.found wanted)

def readSigned64 : Reading Int :=
  readWhole .signed64 (-0x8000000000000000) 0x8000000000000000

def readNat (wanted : Wanted) (bound : Nat) : Reading Nat := fun v =>
  match readWhole wanted 0 bound v with
  | .error e => .error e
  | .ok z => .ok z.toNat

def readUnsigned64 : Reading Nat :=
  readNat .unsigned64 0x10000000000000000

def readUnsigned32 : Reading Nat :=
  readNat .unsigned32 0x100000000

/-! ## Collections -/

def readAll {α : Type} (read : Reading α) : List Json → Except Fault (List α)
  | [] => .ok []
  | v :: vs =>
    match read v with
    | .error e => .error e
    | .ok x =>
      match readAll read vs with
      | .error e => .error e
      | .ok xs => .ok (x :: xs)

def readList {α : Type} (read : Reading α) : Reading (List α)
  | .arr items => readAll read items
  | v => .error (.kind v.found .sequence)

def readOption {α : Type} (read : Reading α) : Reading (Option α)
  | .null => .ok none
  | v =>
    match read v with
    | .error e => .error e
    | .ok x => .ok (some x)

def readTextMap {α : Type} (read : Reading α) : Reading (TextMap α)
  | .obj fields => (TextMap.ofList fields).mapM fun _ => read
  | v => .error (.kind v.found .map)

def readPair {α β : Type} (first : Reading α) (second : Reading β) : Reading (α × β)
  | .arr [] => .error (.length 0 .pair)
  | .arr (a :: rest) =>
    match first a with
    | .error e => .error e
    | .ok x =>
      match rest with
      | [] => .error (.length 1 .pair)
      | b :: more =>
        match second b with
        | .error e => .error e
        | .ok y =>
          match more with
          | [] => .ok (x, y)
          | _ => .error (.length (more.length + 2) .fewer)
  | v => .error (.kind v.found .pair)

/-- One of several names, given as text or as the only key of an object over `null`. -/
def readChoice {α : Type} (known : List (String × α)) : Reading α :=
  let named (s : String) : Except Fault α :=
    match known.find? fun e => e.1 == s with
    | some e => .ok e.2
    | none => .error (.unknown s (known.map Prod.fst))
  fun v =>
    match v with
    | .str s => named s
    | .obj [(key, content)] =>
      match named key with
      | .error e => .error e
      | .ok x =>
        match content with
        | .null => .ok x
        | c => .error (.kind c.found .unit)
    | .obj _ => .error (.value .map .singleKey)
    | v => .error (.kind v.found .choice)

/-- The first reading that takes the document; the faults of all are dropped. -/
def readFirst {α : Type} (name : String) : List (Reading α) → Reading α
  | [], _ => .error (.noVariant name)
  | read :: more, v =>
    match read v with
    | .ok x => .ok x
    | .error _ => readFirst name more v

/-! ## Records -/

/-- What goes wrong with the fields of an object. -/
inductive FieldFault where
  | bad (key : String) (fault : Fault)
  | absent (key : String)
  deriving DecidableEq

/-- The fault that is met first: bad values by ascending key, then the fields that are not there,
in the order of their declaration. -/
def FieldFault.earlier : FieldFault → FieldFault → FieldFault
  | .bad k e, .bad l f => if l < k then .bad l f else .bad k e
  | .bad k e, .absent _ => .bad k e
  | .absent _, .bad l f => .bad l f
  | .absent k, .absent _ => .absent k

def FieldFault.fault : FieldFault → Fault
  | .bad _ e => e
  | .absent k => .missing k

/-- What goes wrong with the fields in an array. -/
inductive PlaceFault where
  | bad (fault : Fault)
  | short (place : Nat)
  deriving DecidableEq

/-- How the fields of a record are read: from an object, or from the rest of an array at a place
in the order of declaration. -/
structure Fields (α : Type) where
  size : Nat
  ofObject : List (String × Json) → Except FieldFault α
  ofArray : Nat → List Json → Except PlaceFault (α × List Json)

namespace Fields

variable {α β : Type}

/-- A field; `absent` is its value in an object without it, `short` in an array that ends before. -/
def field (name : String) (read : Reading α) (absent short : Option α) : Fields α where
  size := 1
  ofObject fields :=
    match fields.find? fun e => e.1 == name with
    | some e =>
      match read e.2 with
      | .ok x => .ok x
      | .error f => .error (.bad name f)
    | none =>
      match absent with
      | some x => .ok x
      | none => .error (.absent name)
  ofArray place
    | [] =>
      match short with
      | some x => .ok (x, [])
      | none => .error (.short place)
    | v :: vs =>
      match read v with
      | .ok x => .ok (x, vs)
      | .error f => .error (.bad f)

def required (name : String) (read : Reading α) : Fields α :=
  field name read none none

/-- A field that may be missing from an object, but has its place in an array. -/
def optional (name : String) (read : Reading α) : Fields (Option α) :=
  field name (readOption read) (some none) none

/-- A field that may be missing from an object and from the end of an array. -/
def defaulted (name : String) (read : Reading α) : Fields (Option α) :=
  field name (readOption read) (some none) (some none)

/-- No field. -/
def none (x : α) : Fields α where
  size := 0
  ofObject _ := .ok x
  ofArray _ vs := .ok (x, vs)

/-- One more field behind those of a record under construction. -/
def and (fs : Fields (α → β)) (next : Fields α) : Fields β where
  size := fs.size + next.size
  ofObject fields :=
    match fs.ofObject fields, next.ofObject fields with
    | .ok f, .ok x => .ok (f x)
    | .error e, .ok _ => .error e
    | .ok _, .error e => .error e
    | .error e, .error e' => .error (e.earlier e')
  ofArray place vs :=
    match fs.ofArray place vs with
    | .error e => .error e
    | .ok (f, rest) =>
      match next.ofArray (place + fs.size) rest with
      | .error e => .error e
      | .ok (x, rest) => .ok (f x, rest)

end Fields

/-- Where a record stands: in a document, or inside a value that carries a tag. They differ in
what is said of an array with too many elements. -/
inductive Site where
  | document
  | tagged
  deriving DecidableEq

def Site.surplus (site : Site) (size : Nat) : Wanted :=
  match site with
  | .document => .fewer
  | .tagged => .exactly size

def readRecord {α : Type} (site : Site) (name : String) (fs : Fields α) : Reading α
  | .obj fields =>
    match fs.ofObject fields with
    | .ok x => .ok x
    | .error e => .error e.fault
  | .arr items =>
    match fs.ofArray 0 items with
    | .ok (x, []) => .ok x
    | .ok (_, _) => .error (.length items.length (site.surplus fs.size))
    | .error (.bad f) => .error f
    | .error (.short place) => .error (.length place (.recordOf name fs.size))
  | v => .error (.kind v.found (.record name))

end Json
end BacktestDesk
