import HostTelemetry.Text.Utf8

namespace HostTelemetry.Text.Utf8

theorem toNat_ofNat_of_lt {n : Nat} (h : n < 256) : (UInt8.ofNat n).toNat = n := by
  rw [UInt8.toNat_ofNat']
  exact Nat.mod_eq_of_lt h

-- A continuation byte gives six more bits of the character.
theorem continuation_cons {acc lo hi x : Nat} (count : Nat) (rest : List UInt8) (hx : x < 64)
    (hlo : lo ≤ x + 0x80) (hhi : x + 0x80 ≤ hi) :
    continuation acc lo hi (count + 1) (UInt8.ofNat (x + 0x80) :: rest) =
      continuation (acc * 64 + x) 0x80 0xBF count rest := by
  have hbyte := toNat_ofNat_of_lt (show x + 0x80 < 256 by omega)
  have hbits : (x + 0x80) % 64 = x := by omega
  rw [continuation, hbyte, if_pos ⟨hlo, hhi⟩, hbits]

section Lead

variable {v : Nat}

theorem lead_two (hlo : 0x80 ≤ v) (hhi : v ≤ 0x7FF) :
    lead (UInt8.ofNat (v / 64 % 0x20 + 0xC0)) = some (0x80, 0xBF, 1) ∧
      leadBits (UInt8.ofNat (v / 64 % 0x20 + 0xC0)) = v / 64 := by
  have hbyte := toNat_ofNat_of_lt (show v / 64 % 0x20 + 0xC0 < 256 by omega)
  constructor
  · simp only [lead, hbyte]
    rw [if_neg (by omega), if_pos (by omega)]
  · simp only [leadBits, hbyte]
    rw [if_pos (by omega)]
    omega

-- The narrowed bounds of the second byte only leave out what is shorter otherwise, a
-- surrogate or past the last character.
theorem lead_three (hlo : 0x800 ≤ v) (hhi : v ≤ 0xFFFF) (hvalid : v < 0xD800 ∨ 0xDFFF < v) :
    (∃ lo hi, lead (UInt8.ofNat (v / 4096 % 0x10 + 0xE0)) = some (lo, hi, 2) ∧
      lo ≤ v / 64 % 0x40 + 0x80 ∧ v / 64 % 0x40 + 0x80 ≤ hi) ∧
      leadBits (UInt8.ofNat (v / 4096 % 0x10 + 0xE0)) = v / 4096 := by
  have hbyte := toNat_ofNat_of_lt (show v / 4096 % 0x10 + 0xE0 < 256 by omega)
  constructor
  · simp only [lead, hbyte]
    rw [if_neg (by omega), if_neg (by omega)]
    split
    · exact ⟨_, _, rfl, by omega, by omega⟩
    · split
      · exact ⟨_, _, rfl, by omega, by omega⟩
      · rw [if_pos (by omega)]
        exact ⟨_, _, rfl, by omega, by omega⟩
  · simp only [leadBits, hbyte]
    rw [if_neg (by omega), if_pos (by omega)]
    omega

theorem lead_four (hlo : 0x10000 ≤ v) (hhi : v < 0x110000) :
    (∃ lo hi, lead (UInt8.ofNat (v / 262144 % 0x08 + 0xF0)) = some (lo, hi, 3) ∧
      lo ≤ v / 4096 % 0x40 + 0x80 ∧ v / 4096 % 0x40 + 0x80 ≤ hi) ∧
      leadBits (UInt8.ofNat (v / 262144 % 0x08 + 0xF0)) = v / 262144 := by
  have hbyte := toNat_ofNat_of_lt (show v / 262144 % 0x08 + 0xF0 < 256 by omega)
  constructor
  · simp only [lead, hbyte]
    rw [if_neg (by omega), if_neg (by omega), if_neg (by omega), if_neg (by omega),
      if_neg (by omega)]
    split
    · exact ⟨_, _, rfl, by omega, by omega⟩
    · split
      · exact ⟨_, _, rfl, by omega, by omega⟩
      · rw [if_pos (by omega)]
        exact ⟨_, _, rfl, by omega, by omega⟩
  · simp only [leadBits, hbyte]
    rw [if_neg (by omega), if_neg (by omega)]
    omega

end Lead

theorem scan_lead {b : UInt8} {rest : List UInt8} {lo hi count : Nat} (hb : 0x80 ≤ b.toNat)
    (hlead : lead b = some (lo, hi, count)) :
    scan (b :: rest) =
      (continuation (leadBits b) lo hi count rest).1 ::
        scan (continuation (leadBits b) lo hi count rest).2 := by
  rw [scan, if_neg (by omega)]
  split
  · next h => rw [hlead] at h; cases h
  · next h => rw [hlead] at h; cases h; rfl

theorem scan_encodeChar (c : Char) (rest : List UInt8) :
    scan (String.utf8EncodeChar c ++ rest) = some c :: scan rest := by
  have hvalid : c.val.toNat < 0xD800 ∨ 0xDFFF < c.val.toNat ∧ c.val.toNat < 0x110000 := c.valid
  have hback : Char.ofNat c.val.toNat = c := c.ofNat_toNat
  unfold String.utf8EncodeChar
  dsimp only
  generalize c.val.toNat = v at hvalid hback
  split
  · next h =>
      rw [List.singleton_append, scan, toNat_ofNat_of_lt (by omega), if_pos (by omega), hback]
  · split
    · next hlo hhi =>
        obtain ⟨hlead, hbits⟩ := lead_two (v := v) (by omega) hhi
        have hhigh : 0x80 ≤ (UInt8.ofNat (v / 64 % 0x20 + 0xC0)).toNat := by
          rw [toNat_ofNat_of_lt (by omega)]
          omega
        have hvalue : v / 64 * 64 + v % 0x40 = v := by omega
        rw [List.cons_append, scan_lead hhigh hlead, hbits, List.singleton_append,
          continuation_cons _ _ (by omega) (by omega) (by omega), hvalue, continuation, hback]
    · split
      · next hlo hhi =>
          obtain ⟨⟨lo, hi, hlead, hle, hge⟩, hbits⟩ := lead_three (v := v) (by omega) hhi (by omega)
          have hhigh : 0x80 ≤ (UInt8.ofNat (v / 4096 % 0x10 + 0xE0)).toNat := by
            rw [toNat_ofNat_of_lt (by omega)]
            omega
          have hvalue : (v / 4096 * 64 + v / 64 % 0x40) * 64 + v % 0x40 = v := by omega
          rw [List.cons_append, scan_lead hhigh hlead, hbits, List.cons_append,
            continuation_cons _ _ (by omega) hle hge, List.singleton_append,
            continuation_cons _ _ (by omega) (by omega) (by omega), hvalue, continuation, hback]
      · next hlo =>
          obtain ⟨⟨lo, hi, hlead, hle, hge⟩, hbits⟩ := lead_four (v := v) (by omega) (by omega)
          have hhigh : 0x80 ≤ (UInt8.ofNat (v / 262144 % 0x08 + 0xF0)).toNat := by
            rw [toNat_ofNat_of_lt (by omega)]
            omega
          have hvalue : ((v / 262144 * 64 + v / 4096 % 0x40) * 64 + v / 64 % 0x40) * 64 +
              v % 0x40 = v := by omega
          rw [List.cons_append, scan_lead hhigh hlead, hbits, List.cons_append,
            continuation_cons _ _ (by omega) hle hge, List.cons_append,
            continuation_cons _ _ (by omega) (by omega) (by omega), List.singleton_append,
            continuation_cons _ _ (by omega) (by omega) (by omega), hvalue, continuation, hback]

theorem scan_encode (cs : List Char) :
    scan (cs.flatMap String.utf8EncodeChar) = cs.map some := by
  induction cs with
  | nil => rw [List.flatMap_nil, scan, List.map_nil]
  | cons c rest ih => rw [List.flatMap_cons, scan_encodeChar, ih, List.map_cons]

-- Every text reads back from its bytes.
theorem decode?_encode (s : String) : decode? (encode s) = some s := by
  have hall : ∀ cs : List Char, (cs.map some).mapM id = some cs := by
    intro cs
    induction cs with
    | nil => rfl
    | cons c rest ih => rw [List.map_cons, List.mapM_cons, ih]; rfl
  rw [decode?, encode, scan_encode, hall, Option.map_some, String.ofList_toList]

end HostTelemetry.Text.Utf8
