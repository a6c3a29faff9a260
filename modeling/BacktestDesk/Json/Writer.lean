import BacktestDesk.Json.Basic

/-!
# BacktestDesk.Json.Writer

Writes a document as text, on one line without blanks (`compact`) or with one field or item a line
and two blanks per level (`pretty`). Fields keep the order they have in the document.
-/

namespace BacktestDesk
namespace Json
namespace Writer

/-- Quotes, backslashes and control characters are escaped; all others stand for themselves. -/
def escape (c : Char) : List Char :=
  if c = '"' then ['\\', '"']
  else if c = '\\' then ['\\', '\\']
  else if c = '\x08' then ['\\', 'b']
  else if c = '\x0c' then ['\\', 'f']
  else if c = '\n' then ['\\', 'n']
  else if c = '\r' then ['\\', 'r']
  else if c = '\t' then ['\\', 't']
  else if c.toNat < 0x20 then
    ['\\', 'u', '0', '0', Nat.digitChar (c.toNat / 16), Nat.digitChar (c.toNat % 16)]
  else [c]

def quoted (s : String) : List Char :=
  '"' :: (s.toList.flatMap escape ++ ['"'])

def intChars (z : Int) : List Char :=
  Double.signText (z < 0) ++ Nat.toDigits 10 z.natAbs

/-- The text of a value that holds no others. -/
def scalar : Json → List Char
  | .null => "null".toList
  | .bool true => "true".toList
  | .bool false => "false".toList
  | .int z => intChars z
  | .float x => x.documentChars
  | .str s => quoted s
  | .arr _ => "[]".toList
  | .obj _ => ['\x7b', '\x7d']

mutual
def compactChars : Json → List Char
  | .arr items => '[' :: compactItems items ++ [']']
  | .obj fields => '\x7b' :: compactFields fields ++ ['\x7d']
  | v => scalar v

def compactItems : List Json → List Char
  | [] => []
  | [v] => compactChars v
  | v :: vs => compactChars v ++ ',' :: compactItems vs

def compactFields : List (String × Json) → List Char
  | [] => []
  | [(k, v)] => quoted k ++ ':' :: compactChars v
  | (k, v) :: fs => quoted k ++ ':' :: compactChars v ++ ',' :: compactFields fs
end

/-- A new line, indented by two blanks per level. -/
def newline (level : Nat) : List Char :=
  '\n' :: List.replicate (2 * level) ' '

mutual
/-- The text of a value that starts at a level of indentation. -/
def prettyChars (level : Nat) : Json → List Char
  | .arr (v :: vs) =>
    '[' :: newline (level + 1) ++ prettyItems (level + 1) (v :: vs) ++ newline level ++ [']']
  | .obj (f :: fs) =>
    '\x7b' :: newline (level + 1) ++ prettyFields (level + 1) (f :: fs) ++ newline level ++ ['\x7d']
  | v => scalar v

def prettyItems (level : Nat) : List Json → List Char
  | [] => []
  | [v] => prettyChars level v
  | v :: vs => prettyChars level v ++ ',' :: newline level ++ prettyItems level vs

def prettyFields (level : Nat) : List (String × Json) → List Char
  | [] => []
  | [(k, v)] => quoted k ++ ':' :: ' ' :: prettyChars level v
  | (k, v) :: fs =>
    quoted k ++ ':' :: ' ' :: prettyChars level v ++ ',' :: newline level ++ prettyFields level fs
end

end Writer

def compact (v : Json) : String :=
  String.ofList (Writer.compactChars v)

def pretty (v : Json) : String :=
  String.ofList (Writer.prettyChars 0 v)

end Json
end BacktestDesk
