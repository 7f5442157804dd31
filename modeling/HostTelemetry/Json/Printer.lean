import HostTelemetry.Json.Basic
import HostTelemetry.Decimal.Shortest

namespace HostTelemetry.Json

-- How the digits of a float are laid out: between two powers of ten they stand
-- around a point, elsewhere in front of a signed exponent.
structure FloatLayout where
  least : Int
  greatest : Int

def floatLayout : FloatLayout := ⟨-5, 15⟩

def FloatLayout.show (layout : FloatLayout) (d : Decimal.Scaled) : String :=
  let digits := Nat.toDigits 10 d.digits
  let power := d.exponent + digits.length - 1
  if layout.least ≤ power ∧ power ≤ layout.greatest then
    if 0 ≤ d.exponent then
      String.ofList (digits ++ List.replicate d.exponent.toNat '0' ++ ['.', '0'])
    else if 0 ≤ power then
      let whole := power.toNat + 1
      String.ofList (digits.take whole ++ '.' :: digits.drop whole)
    else
      String.ofList ('0' :: '.' :: List.replicate (-power).toNat.pred '0' ++ digits)
  else
    let mantissa :=
      match digits with
      | [] => []
      | [d] => [d]
      | d :: ds => d :: '.' :: ds
    let sign := if power < 0 then "e-" else "e+"
    String.ofList mantissa ++ sign ++ Nat.repr power.natAbs

def showFloat (f : Float) : String :=
  if !Decimal.isFinite f then "null"
  else
    let magnitude := floatLayout.show (Decimal.Binary.ofFloat f).shortest
    if Decimal.isNegative f then "-" ++ magnitude else magnitude

def hexDigit (n : Nat) : Char :=
  if n < 10 then Char.ofNat (48 + n) else Char.ofNat (87 + n)

def escapeChar (c : Char) : List Char :=
  if c = '"' then ['\\', '"']
  else if c = '\\' then ['\\', '\\']
  else if 0x20 ≤ c.toNat then [c]
  else if c = '\x08' then ['\\', 'b']
  else if c = '\t' then ['\\', 't']
  else if c = '\n' then ['\\', 'n']
  else if c = '\x0c' then ['\\', 'f']
  else if c = '\r' then ['\\', 'r']
  else ['\\', 'u', '0', '0', hexDigit (c.toNat / 16), hexDigit (c.toNat % 16)]

def showText (s : String) : String :=
  String.ofList ('"' :: s.toList.flatMap escapeChar ++ ['"'])

def showScalar : Json → String
  | .null => "null"
  | .bool true => "true"
  | .bool false => "false"
  | .int n => Int.repr n
  | .float f => showFloat f
  | .text s => showText s
  | .list _ => "[]"
  | .object _ => "\x7b\x7d"

mutual

def render : Json → String
  | .list items => "[" ++ renderItems items ++ "]"
  | .object fields => "\x7b" ++ renderFields fields ++ "\x7d"
  | scalar => showScalar scalar

def renderItems : List Json → String
  | [] => ""
  | [v] => render v
  | v :: rest => render v ++ "," ++ renderItems rest

def renderFields : List (String × Json) → String
  | [] => ""
  | [(name, v)] => showText name ++ ":" ++ render v
  | (name, v) :: rest => showText name ++ ":" ++ render v ++ "," ++ renderFields rest

end

def newline (indent : Nat) : String :=
  String.ofList ('\n' :: List.replicate (2 * indent) ' ')

-- The indented form puts each item on a line of its own; empty containers stay on
-- one line.
mutual

def renderIndented (indent : Nat) : Json → String
  | .list (v :: rest) =>
      "[" ++ renderItemsIndented (indent + 1) (v :: rest) ++ newline indent ++ "]"
  | .object (field :: rest) =>
      "\x7b" ++ renderFieldsIndented (indent + 1) (field :: rest) ++ newline indent ++ "\x7d"
  | other => showScalar other

def renderItemsIndented (indent : Nat) : List Json → String
  | [] => ""
  | [v] => newline indent ++ renderIndented indent v
  | v :: rest =>
      newline indent ++ renderIndented indent v ++ "," ++ renderItemsIndented indent rest

def renderFieldsIndented (indent : Nat) : List (String × Json) → String
  | [] => ""
  | [(name, v)] => newline indent ++ showText name ++ ": " ++ renderIndented indent v
  | (name, v) :: rest =>
      newline indent ++ showText name ++ ": " ++ renderIndented indent v ++ "," ++
        renderFieldsIndented indent rest

end

def pretty (v : Json) : String :=
  renderIndented 0 v

end HostTelemetry.Json
