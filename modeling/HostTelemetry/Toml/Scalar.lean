import HostTelemetry.Decimal.Binary
import HostTelemetry.Decimal.Numeral
import HostTelemetry.Toml.Basic
import HostTelemetry.Toml.Lexeme

namespace HostTelemetry.Toml

open Decimal (ofDigits splitSign signed magnitude)

-- Digits with single underscores between them, without the underscores.
def ungroupFrom (isDigit : Char → Bool) (afterDigit : Bool) : List Char → Option (List Char)
  | [] => if afterDigit then some [] else none
  | c :: cs =>
      if isDigit c then (ungroupFrom isDigit true cs).map (c :: ·)
      else if c == '_' && afterDigit then ungroupFrom isDigit false cs
      else none

def digits? (cs : List Char) : Option (List Char) :=
  ungroupFrom Char.isDigit false cs

-- Digits that do not start with a needless zero.
def whole? (cs : List Char) : Option (List Char) :=
  (digits? cs).filter fun ds => ds.length == 1 || ds.head? != some '0'

def digitOf (base : Nat) (c : Char) : Option Nat :=
  (Text.hexValue? c).filter (· < base)

def valueIn (base : Nat) (ds : List Char) : Nat :=
  ds.foldl (fun n c => n * base + (digitOf base c).getD 0) 0

def based? (base : Nat) (cs : List Char) : Option Int :=
  (ungroupFrom (fun c => (digitOf base c).isSome) false cs).map fun ds => valueIn base ds

def integer? (cs : List Char) : Option Int :=
  match cs with
  | '0' :: 'x' :: ds => based? 16 ds
  | '0' :: 'o' :: ds => based? 8 ds
  | '0' :: 'b' :: ds => based? 2 ds
  | cs =>
      let (negative, body) := splitSign cs
      (whole? body).map fun ds =>
        if negative then -(ofDigits ds : Int) else ofDigits ds

def isWide (n : Int) : Bool :=
  n < -(Nat.pow 2 127 : Int) || (Nat.pow 2 128 : Int) ≤ n

def isDigitOrGap (c : Char) : Bool :=
  c.isDigit || c == '_'

def fraction? : List Char → Option (List Char × List Char)
  | '.' :: rest => (digits? (rest.takeWhile isDigitOrGap)).map (·, rest.dropWhile isDigitOrGap)
  | rest => some ([], rest)

def power? : List Char → Option Int
  | [] => some 0
  | e :: rest =>
      if e = 'e' ∨ e = 'E' then
        let (negative, body) := splitSign rest
        (digits? body).map fun ds => if negative then -(ofDigits ds : Int) else ofDigits ds
      else none

def named? : List Char → Option Float
  | ['i', 'n', 'f'] => some Decimal.infinity
  | ['n', 'a', 'n'] => some (0.0 / 0.0)
  | _ => none

-- A number too large for a float is refused.
def unsigned? (cs : List Char) : Option Float := do
  let ds ← whole? (cs.takeWhile isDigitOrGap)
  let (fraction, rest) ← fraction? (cs.dropWhile isDigitOrGap)
  let power ← power? rest
  let f := magnitude (ofDigits (ds ++ fraction)) (power - fraction.length)
  if Decimal.isFinite f then some f else none

def float? (cs : List Char) : Option Float :=
  let (negative, body) := splitSign cs
  ((named? body).or (unsigned? body)).map (signed negative)

-- Exactly `count` digits.
def fixed? (count : Nat) (cs : List Char) : Option (Nat × List Char) :=
  let ds := cs.take count
  if ds.length == count && ds.all Char.isDigit then some (ofDigits ds, cs.drop count) else none

def mark? (c : Char) : List Char → Option (List Char)
  | d :: rest => if c = d then some rest else none
  | [] => none

def daysIn (year month : Nat) : Nat :=
  if month = 2 then
    if year % 4 = 0 ∧ (year % 100 ≠ 0 ∨ year % 400 = 0) then 29 else 28
  else if month = 4 ∨ month = 6 ∨ month = 9 ∨ month = 11 then 30
  else 31

def date? (cs : List Char) : Option (List Char) := do
  let (year, cs) ← fixed? 4 cs
  let (month, cs) ← fixed? 2 (← mark? '-' cs)
  let (day, cs) ← fixed? 2 (← mark? '-' cs)
  if 1 ≤ month ∧ month ≤ 12 ∧ 1 ≤ day ∧ day ≤ daysIn year month then some cs else none

def hourMinute? (cs : List Char) : Option (List Char) := do
  let (hour, cs) ← fixed? 2 cs
  let (minute, cs) ← fixed? 2 (← mark? ':' cs)
  if hour ≤ 23 ∧ minute ≤ 59 then some cs else none

-- The seconds may be left out.
def time? (cs : List Char) : Option (List Char) :=
  (hourMinute? cs).bind fun cs =>
    match cs with
    | ':' :: cs =>
        (fixed? 2 cs).bind fun (second, cs) =>
          if 60 < second then none
          else
            match cs with
            | '.' :: d :: cs => if d.isDigit then some (cs.dropWhile Char.isDigit) else none
            | cs => some cs
    | cs => some cs

def isOffset : List Char → Bool
  | [] => true
  | ['Z'] => true
  | ['z'] => true
  | '+' :: cs => hourMinute? cs == some []
  | '-' :: cs => hourMinute? cs == some []
  | _ => false

def isTimeOfDay (cs : List Char) : Bool :=
  (time? cs).any isOffset

def isDatetime (cs : List Char) : Bool :=
  match date? cs with
  | none => time? cs == some []
  | some [] => true
  | some (t :: cs) => (t == 'T' || t == 't') && isTimeOfDay cs

def isScalarChar (c : Char) : Bool :=
  c.isAlphanum || c == '+' || c == '-' || c == '_' || c == '.' || c == ':'

def scalar? (word : List Char) : Option Toml :=
  if word = ['t', 'r', 'u', 'e'] then some (.bool true)
  else if word = ['f', 'a', 'l', 's', 'e'] then some (.bool false)
  else
    match integer? word with
    | some n => if isWide n then none else some (.int n)
    | none =>
        match float? word with
        | some f => some (.float f)
        | none => if isDatetime word then some .datetime else none

-- A date may be joined with its time by a blank.
def readScalar (s : List Char) : Option (Toml × List Char) :=
  let word := s.takeWhile isScalarChar
  let rest := s.dropWhile isScalarChar
  (scalar? word).map fun v =>
    match rest with
    | ' ' :: rest' =>
        let clock := rest'.takeWhile isScalarChar
        if date? word == some [] && isTimeOfDay clock then (v, rest'.dropWhile isScalarChar)
        else (v, rest)
    | _ => (v, rest)

end HostTelemetry.Toml
