namespace HostTelemetry.Decimal

def digitValue (c : Char) : Nat :=
  c.toNat - 48

def ofDigits (cs : List Char) : Nat :=
  cs.foldl (fun n c => n * 10 + digitValue c) 0

def infinity : Float := 1.0 / 0.0

-- The float nearest to `digits * 10 ^ exponent`. Values whose decimal point lies
-- far outside the range of floats are settled by their size alone.
def magnitude (digits : Nat) (exponent : Int) : Float :=
  let point := ((Nat.toDigits 10 digits).length : Int) + exponent
  if digits = 0 || point < -330 then 0.0
  else if 310 < point then infinity
  else Float.ofScientific digits (exponent < 0) exponent.natAbs

def signed (negative : Bool) (f : Float) : Float :=
  if negative then -f else f

def splitSign : List Char → Bool × List Char
  | '-' :: rest => (true, rest)
  | '+' :: rest => (false, rest)
  | cs => (false, cs)

def isLetterCI (lower c : Char) : Bool :=
  c.toLower == lower

def spells (word cs : List Char) : Bool :=
  cs.length == word.length && (word.zip cs).all fun (w, c) => isLetterCI w c

-- The exponent part of a numeral: nothing, or `e`, an optional sign and digits.
def readExponent : List Char → Option Int
  | [] => some 0
  | e :: rest =>
      if isLetterCI 'e' e then
        let (negative, digits) := splitSign rest
        if digits.isEmpty || !digits.all Char.isDigit then none
        else some (if negative then -(ofDigits digits : Int) else ofDigits digits)
      else none

def readMagnitude (cs : List Char) : Option Float :=
  if spells ['i', 'n', 'f'] cs || spells ['i', 'n', 'f', 'i', 'n', 'i', 't', 'y'] cs then
    some infinity
  else if spells ['n', 'a', 'n'] cs then some (0.0 / 0.0)
  else
    let whole := cs.takeWhile Char.isDigit
    let afterWhole := cs.dropWhile Char.isDigit
    let (fraction, tail) :=
      match afterWhole with
      | '.' :: rest => (rest.takeWhile Char.isDigit, rest.dropWhile Char.isDigit)
      | rest => ([], rest)
    if whole.isEmpty && fraction.isEmpty then none
    else
      (readExponent tail).map fun exponent =>
        magnitude (ofDigits (whole ++ fraction)) (exponent - fraction.length)

-- Reads a float as remote tools write them: an optional sign, digits with an
-- optional point and exponent, or a name of infinity or of no number.
def readFloat? (s : String) : Option Float :=
  let (negative, rest) := splitSign s.toList
  (readMagnitude rest).map (signed negative)

def readInt? (s : String) : Option Int :=
  let (negative, digits) := splitSign s.toList
  if digits.isEmpty || !digits.all Char.isDigit then none
  else some (if negative then -(ofDigits digits : Int) else ofDigits digits)

end HostTelemetry.Decimal
