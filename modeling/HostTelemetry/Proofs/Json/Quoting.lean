import HostTelemetry.Json.Escape
import HostTelemetry.Json.Printer

namespace HostTelemetry.Json

open Text (hexNumber?)

variable {α β : Type}

-- A result that stands for `a`, with `rest` left of the text.
def Gives {p : List Char → Prop} (result : Except Fault (α × Subtype p)) (a : α)
    (rest : List Char) : Prop :=
  ∃ r, result = .ok (a, r) ∧ r.1 = rest

theorem Gives.map {reader : Reader α} {s rest : List Char} {a : α}
    (h : Gives (reader s) a rest) (f : α → β) : Gives (reader.map f s) (f a) rest := by
  obtain ⟨r, hr, hrest⟩ := h
  exact ⟨r, by rw [Reader.map, hr], hrest⟩

theorem gives_widen_iff {s t rest : List Char} {h : t.length ≤ s.length}
    {result : Except Fault (α × Shorter t)} {a : α} :
    Gives (widen h result) a rest ↔ Gives result a rest := by
  constructor
  · rintro ⟨r, hr, hrest⟩
    cases result with
    | error e => cases hr
    | ok found => cases hr; exact ⟨found.2, rfl, hrest⟩
  · rintro ⟨r, rfl, hrest⟩
    exact ⟨Shorter.weaken h r, rfl, hrest⟩

theorem hexNumber?_hexDigits :
    ∀ n < 0x20, hexNumber? ['0', '0', hexDigit (n / 16), hexDigit (n % 16)] = some n := by
  decide

-- Characters below the blank have no halves, so their four digits stand alone.
theorem readUnicode_control {n : Nat} (h : n < 0x20) (rest : List Char) :
    Gives (readUnicode true ('0' :: '0' :: hexDigit (n / 16) :: hexDigit (n % 16) :: rest))
      (Char.ofNat n) rest := by
  have hlow : isLowSurrogate n = false := by
    simp only [isLowSurrogate, Bool.and_eq_false_iff, decide_eq_false_iff_not]
    omega
  have hhigh : isHighSurrogate n = false := by
    simp only [isHighSurrogate, Bool.and_eq_false_iff, decide_eq_false_iff_not]
    omega
  refine ⟨⟨rest, by simp only [List.length_cons]; omega⟩, ?_, rfl⟩
  simp only [readUnicode, readHex4, hexNumber?_hexDigits n h, hlow, hhigh]
  rfl

theorem readPiece_short {c d : Char} (h : shortEscape? c = some d) (rest : List Char) :
    Gives (readPiece true ('\\' :: c :: rest)) (some d) rest := by
  have hu : c ≠ 'u' := by
    rintro rfl
    cases h
  refine ⟨⟨rest, by simp only [List.length_cons]; omega⟩, ?_, rfl⟩
  rw [readPiece, if_neg (by decide), if_pos rfl, readEscape]
  · rw [h]
  · exact hu

theorem readPiece_control {c : Char} (h : c.toNat < 0x20) (rest : List Char) :
    Gives
      (readPiece true
        ('\\' :: 'u' :: '0' :: '0' :: hexDigit (c.toNat / 16) :: hexDigit (c.toNat % 16) :: rest))
      (some c) rest := by
  obtain ⟨r, hr, hrest⟩ := readUnicode_control h rest
  rw [Char.ofNat_toNat] at hr
  refine ⟨⟨r.1, Nat.lt_succ_of_le (Within.le_cons r)⟩, ?_, hrest⟩
  rw [readPiece, if_neg (by decide), if_pos rfl, readEscape, hr]

-- A character is written as itself, behind a backslash or by its number.
theorem escapeChar_cases (c : Char) :
    (c ≠ '"' ∧ c ≠ '\\' ∧ ¬ c.toNat < 0x20) ∧ escapeChar c = [c] ∨
      (∃ d, shortEscape? d = some c ∧ escapeChar c = ['\\', d]) ∨
      c.toNat < 0x20 ∧ escapeChar c =
        ['\\', 'u', '0', '0', hexDigit (c.toNat / 16), hexDigit (c.toNat % 16)] := by
  unfold escapeChar
  split
  · next h => exact .inr (.inl ⟨'"', congrArg some h.symm, rfl⟩)
  next hquote =>
  split
  · next h => exact .inr (.inl ⟨'\\', congrArg some h.symm, rfl⟩)
  next hslash =>
  split
  · next h => exact .inl ⟨⟨hquote, hslash, Nat.not_lt.mpr h⟩, rfl⟩
  next hcontrol =>
  split
  · next h => exact .inr (.inl ⟨'b', congrArg some h.symm, rfl⟩)
  split
  · next h => exact .inr (.inl ⟨'t', congrArg some h.symm, rfl⟩)
  split
  · next h => exact .inr (.inl ⟨'n', congrArg some h.symm, rfl⟩)
  split
  · next h => exact .inr (.inl ⟨'f', congrArg some h.symm, rfl⟩)
  split
  · next h => exact .inr (.inl ⟨'r', congrArg some h.symm, rfl⟩)
  exact .inr (.inr ⟨Nat.not_le.mp hcontrol, rfl⟩)

-- Whatever way a character is written, it is the next one that is read.
theorem readPiece_escapeChar (c : Char) (rest : List Char) :
    Gives (readPiece true (escapeChar c ++ rest)) (some c) rest := by
  rcases escapeChar_cases c with ⟨⟨hquote, hslash, hplain⟩, h⟩ | ⟨d, hd, h⟩ | ⟨hcontrol, h⟩
  · rw [h, List.singleton_append]
    refine ⟨⟨rest, Nat.lt_succ_self _⟩, ?_, rfl⟩
    rw [readPiece, if_neg hquote, if_neg hslash, if_neg hplain]
  · rw [h]
    exact readPiece_short hd rest
  · rw [h]
    exact readPiece_control hcontrol rest

-- The rest of a quoted text reads back up to its closing quote.
theorem readText_escaped (cs rest : List Char) :
    Gives (readText true (cs.flatMap escapeChar ++ '"' :: rest)) cs rest := by
  induction cs with
  | nil =>
      refine ⟨⟨rest, Nat.lt_succ_self _⟩, ?_, rfl⟩
      change readText true ('"' :: rest) = _
      rw [readText]
      rfl
  | cons c more ih =>
      rw [List.flatMap_cons, List.append_assoc]
      obtain ⟨r, hpiece, hr⟩ := readPiece_escapeChar c (more.flatMap escapeChar ++ '"' :: rest)
      obtain ⟨r', hreads, hr'⟩ := hr ▸ ih
      refine ⟨⟨r'.1, Nat.lt_trans r'.2 r.2⟩, ?_, hr'⟩
      rw [readText, hpiece]
      dsimp only
      rw [hreads]

end HostTelemetry.Json
