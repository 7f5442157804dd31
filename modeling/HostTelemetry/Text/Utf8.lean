namespace HostTelemetry.Text.Utf8

def replacement : Char := Char.ofNat 0xFFFD

-- The bounds of the second byte and the number of continuation bytes that a
-- lead byte asks for. The narrowed bounds shut out overlong forms, surrogates
-- and values past the last code point.
def lead (b : UInt8) : Option (Nat × Nat × Nat) :=
  let n := b.toNat
  if n < 0xC2 then none
  else if n ≤ 0xDF then some (0x80, 0xBF, 1)
  else if n = 0xE0 then some (0xA0, 0xBF, 2)
  else if n = 0xED then some (0x80, 0x9F, 2)
  else if n ≤ 0xEF then some (0x80, 0xBF, 2)
  else if n = 0xF0 then some (0x90, 0xBF, 3)
  else if n ≤ 0xF3 then some (0x80, 0xBF, 3)
  else if n = 0xF4 then some (0x80, 0x8F, 3)
  else none

def leadBits (b : UInt8) : Nat :=
  let n := b.toNat
  if n < 0xE0 then n % 0x20 else if n < 0xF0 then n % 0x10 else n % 0x08

-- Reads up to `count` continuation bytes after the value `acc`. The answer is
-- the character, absent when a byte is missing or out of bounds, and what is
-- left; a byte out of bounds starts the next character.
def continuation (acc lo hi : Nat) : Nat → List UInt8 → Option Char × List UInt8
  | 0, bytes => (some (Char.ofNat acc), bytes)
  | _ + 1, [] => (none, [])
  | count + 1, b :: rest =>
      if lo ≤ b.toNat ∧ b.toNat ≤ hi then
        continuation (acc * 64 + b.toNat % 64) 0x80 0xBF count rest
      else (none, b :: rest)

theorem continuation_length_le (acc lo hi count : Nat) (bytes : List UInt8) :
    (continuation acc lo hi count bytes).2.length ≤ bytes.length := by
  induction count generalizing acc lo hi bytes with
  | zero => simp [continuation]
  | succ count ih =>
      cases bytes with
      | nil => simp [continuation]
      | cons b rest =>
          simp only [continuation]
          split
          · exact Nat.le_succ_of_le (ih ..)
          · simp

-- One entry per character; `none` stands for a maximal ill-formed piece.
def scan : List UInt8 → List (Option Char)
  | [] => []
  | b :: rest =>
      if b.toNat < 0x80 then some (Char.ofNat b.toNat) :: scan rest
      else
        match lead b with
        | none => none :: scan rest
        | some (lo, hi, count) =>
            let read := continuation (leadBits b) lo hi count rest
            read.1 :: scan read.2
  termination_by bytes => bytes.length
  decreasing_by
    · exact Nat.lt_succ_self _
    · exact Nat.lt_succ_self _
    · exact Nat.lt_succ_of_le (continuation_length_le ..)

def encode (s : String) : List UInt8 :=
  s.toList.flatMap String.utf8EncodeChar

def decodeLossy (bytes : List UInt8) : String :=
  String.ofList ((scan bytes).map (·.getD replacement))

def decode? (bytes : List UInt8) : Option String :=
  ((scan bytes).mapM id).map String.ofList

end HostTelemetry.Text.Utf8
