import HostTelemetry.Json.Number
import HostTelemetry.Proofs.Json.Quoting
import HostTelemetry.Proofs.Json.Suffix
import Mathlib.Data.List.TakeWhile

namespace HostTelemetry.Json

-- Nothing that would go on a number.
def Stops (rest : List Char) : Prop :=
  ∀ c ∈ rest.head?, c.isDigit = false ∧ c ≠ '.' ∧ c ≠ 'e' ∧ c ≠ 'E'

section Runs

variable {p : Char → Bool} {rest : List Char}

theorem takeWhile_append_of_stop (h : ∀ c ∈ rest.head?, p c = false) (s : List Char) :
    (s ++ rest).takeWhile p = s.takeWhile p := by
  induction s with
  | nil =>
      cases rest with
      | nil => rfl
      | cons c more => rw [List.nil_append, List.takeWhile_cons, h c rfl]; rfl
  | cons c more ih =>
      rw [List.cons_append, List.takeWhile_cons, List.takeWhile_cons, ih]

theorem dropWhile_append_of_stop (h : ∀ c ∈ rest.head?, p c = false) (s : List Char) :
    (s ++ rest).dropWhile p = s.dropWhile p ++ rest := by
  induction s with
  | nil =>
      cases rest with
      | nil => rfl
      | cons c more => rw [List.nil_append, List.dropWhile_cons, h c rfl]; rfl
  | cons c more ih =>
      rw [List.cons_append, List.dropWhile_cons, List.dropWhile_cons, ih]
      split <;> rfl

end Runs

-- A number is over where the text after it stops it, so what it is read as does not
-- depend on that text.
section Locality

variable {rest left : List Char}

theorem Stops.not_digit (h : Stops rest) : ∀ c ∈ rest.head?, c.isDigit = false :=
  fun c hc => (h c hc).1

theorem readWhole_append (hrest : Stops rest) {s digits : List Char}
    (h : Gives (readWhole s) digits left) :
    Gives (readWhole (s ++ rest)) digits (left ++ rest) := by
  obtain ⟨r, hr, rfl⟩ := h
  cases s with
  | nil => cases hr
  | cons c more =>
      rw [readWhole] at hr
      rw [List.cons_append, readWhole]
      split at hr
      · next hzero =>
          split at hr
          · cases hr
          · next hhead =>
              cases hr
              have hhead' : ¬ ((more ++ rest).headD ' ').isDigit = true := by
                cases more with
                | nil =>
                    cases rest with
                    | nil => exact hhead
                    | cons d _ => simp [hrest.not_digit d rfl]
                | cons d _ => exact hhead
              rw [if_pos hzero, if_neg hhead']
              exact ⟨_, rfl, rfl⟩
      · next hzero =>
          split at hr
          · next hdigit =>
              cases hr
              rw [if_neg hzero, if_pos hdigit, takeWhile_append_of_stop hrest.not_digit]
              exact ⟨_, rfl, dropWhile_append_of_stop hrest.not_digit more⟩
          · cases hr

theorem readDigits_append (hrest : Stops rest) {s digits : List Char}
    (h : Gives (readDigits s) digits left) :
    Gives (readDigits (s ++ rest)) digits (left ++ rest) := by
  obtain ⟨r, hr, rfl⟩ := h
  cases s with
  | nil => cases hr
  | cons c more =>
      rw [readDigits, if_neg (by simp)] at hr
      rw [readDigits, if_neg (by simp)]
      split at hr
      · next hdigit =>
          cases hr
          have hdigit' : ((c :: more ++ rest).headD ' ').isDigit = true := hdigit
          rw [if_pos hdigit', takeWhile_append_of_stop hrest.not_digit]
          exact ⟨_, rfl, dropWhile_append_of_stop hrest.not_digit _⟩
      · cases hr

theorem readFraction_append (hrest : Stops rest) {s digits : List Char}
    (h : Gives (readFraction s) digits left) :
    Gives (readFraction (s ++ rest)) digits (left ++ rest) := by
  obtain ⟨r, hr, rfl⟩ := h
  unfold readFraction at hr
  split at hr
  · next more =>
      cases hdigits : readDigits more with
      | error e => rw [hdigits] at hr; cases hr
      | ok found =>
          rw [hdigits] at hr
          cases hr
          obtain ⟨r', hr', hleft⟩ := readDigits_append hrest ⟨found.2, hdigits, rfl⟩
          rw [List.cons_append, readFraction, hr']
          exact ⟨_, rfl, hleft⟩
  · next hpoint =>
      cases hr
      have hpoint' : ∀ more, s ++ rest = '.' :: more → False := by
        intro more hmore
        cases s with
        | nil => exact (hrest '.' (by rw [List.nil_append] at hmore; rw [hmore]; rfl)).2.1 rfl
        | cons c _ => exact hpoint _ (by rw [(List.cons.inj hmore).1])
      rw [readFraction]
      · exact ⟨_, rfl, rfl⟩
      · exact hpoint'

theorem splitSign_append {c : Char} {more : List Char} :
    Decimal.splitSign ((c :: more).append rest) =
      ((Decimal.splitSign (c :: more)).1, (Decimal.splitSign (c :: more)).2 ++ rest) := by
  by_cases hminus : c = '-'
  · subst hminus; rfl
  by_cases hplus : c = '+'
  · subst hplus; rfl
  change Decimal.splitSign (c :: (more ++ rest)) = _
  rw [Decimal.splitSign, Decimal.splitSign]
  · rfl
  · exact fun _ h => hminus (List.cons.inj h).1
  · exact fun _ h => hplus (List.cons.inj h).1
  · exact fun _ h => hminus (List.cons.inj h).1
  · exact fun _ h => hplus (List.cons.inj h).1

theorem readPower_letter {isZero : Bool} {c : Char} {s : List Char} {power : Option Int}
    (hletter : c = 'e' ∨ c = 'E') :
    Gives (readPower isZero (c :: s)) power left ↔
      ∃ digits, Gives (readDigits (Decimal.splitSign s).2) digits left ∧
        (if (Decimal.splitSign s).1 || isZero then none else overrun 0 digits) = none ∧
        power = some (if (Decimal.splitSign s).1 then -(Decimal.ofDigits digits : Int)
          else Decimal.ofDigits digits) := by
  rw [readPower, if_pos hletter]
  dsimp only
  cases hdigits : readDigits (Decimal.splitSign s).2 with
  | error e =>
      constructor
      · rintro ⟨r, hr, -⟩
        cases hr
      · rintro ⟨digits, ⟨r, hr, -⟩, -⟩
        cases hr
  | ok found =>
      obtain ⟨digits, r⟩ := found
      dsimp only
      constructor
      · rintro ⟨r', hr', rfl⟩
        split at hr'
        · cases hr'
        · next hrange =>
            cases hr'
            exact ⟨digits, ⟨r, rfl, rfl⟩, hrange, rfl⟩
      · rintro ⟨digits', ⟨r', hr', rfl⟩, hrange, rfl⟩
        cases hr'
        rw [hrange]
        exact ⟨_, rfl, rfl⟩

theorem readPower_append (hrest : Stops rest) {isZero : Bool} {s : List Char}
    {power : Option Int} (h : Gives (readPower isZero s) power left) :
    Gives (readPower isZero (s ++ rest)) power (left ++ rest) := by
  cases s with
  | nil =>
      obtain ⟨r, hr, rfl⟩ := h
      cases hr
      cases rest with
      | nil => exact ⟨_, rfl, rfl⟩
      | cons c more =>
          obtain ⟨-, -, he, hE⟩ := hrest c rfl
          rw [List.nil_append, readPower, if_neg (by simp [he, hE])]
          exact ⟨_, rfl, rfl⟩
  | cons c more =>
      by_cases hletter : c = 'e' ∨ c = 'E'
      · obtain ⟨digits, hdigits, hrange, rfl⟩ := (readPower_letter hletter).mp h
        cases more with
        | nil =>
            obtain ⟨r, hr, -⟩ := hdigits
            cases hr
        | cons d more =>
            refine (readPower_letter hletter).mpr ⟨digits, ?_, ?_, ?_⟩
            · rw [splitSign_append]
              exact readDigits_append hrest hdigits
            · rw [splitSign_append]
              exact hrange
            · rw [splitSign_append]
      · obtain ⟨r, hr, rfl⟩ := h
        rw [readPower, if_neg hletter] at hr
        cases hr
        rw [List.cons_append, readPower, if_neg hletter]
        exact ⟨_, rfl, rfl⟩

end Locality

-- The three parts of a number without sign.
theorem readUnsigned_gives_iff {negative : Bool} {s left : List Char} {v : Json} :
    Gives (readUnsigned true negative s) v left ↔
      ∃ whole s₁ fraction s₂ power, Gives (readWhole s) whole s₁ ∧
        Gives (readFraction s₁) fraction s₂ ∧
        Gives (readPower (decide (Decimal.ofDigits (whole ++ fraction) = 0)) s₂) power left ∧
        isInRange (numberOf negative whole fraction power) = true ∧
        v = numberOf negative whole fraction power := by
  unfold readUnsigned
  constructor
  · rintro ⟨r, hr, rfl⟩
    split at hr
    · cases hr
    next whole r₁ hwhole =>
    split at hr
    · cases hr
    next fraction r₂ hfraction =>
    split at hr
    · cases hr
    next power r₃ hpower =>
    dsimp only at hr
    split at hr
    · cases hr
    next hrange =>
    cases hr
    exact ⟨whole, r₁.1, fraction, r₂.1, power, ⟨r₁, hwhole, rfl⟩, ⟨r₂, hfraction, rfl⟩,
      ⟨r₃, hpower, rfl⟩, by simpa using hrange, rfl⟩
  · rintro ⟨whole, s₁, fraction, s₂, power, ⟨r₁, hwhole, rfl⟩, ⟨r₂, hfraction, rfl⟩,
      ⟨r₃, hpower, rfl⟩, hrange, rfl⟩
    have hpower' : readPower (!true || decide (Decimal.ofDigits (whole ++ fraction) = 0)) r₂.1 =
        .ok (power, r₃) := hpower
    rw [hwhole]
    dsimp only
    rw [hfraction]
    dsimp only
    rw [hpower']
    dsimp only
    rw [hrange]
    exact ⟨_, rfl, rfl⟩

theorem readUnsigned_append {rest left : List Char} (hrest : Stops rest) {negative : Bool}
    {s : List Char} {v : Json} (h : Gives (readUnsigned true negative s) v left) :
    Gives (readUnsigned true negative (s ++ rest)) v (left ++ rest) := by
  obtain ⟨whole, s₁, fraction, s₂, power, hwhole, hfraction, hpower, hrange, rfl⟩ :=
    readUnsigned_gives_iff.mp h
  exact readUnsigned_gives_iff.mpr ⟨whole, _, fraction, _, power, readWhole_append hrest hwhole,
    readFraction_append hrest hfraction, readPower_append hrest hpower, hrange, rfl⟩

-- What a number is read as does not depend on the text after it.
theorem readNumber_append {rest left : List Char} (hrest : Stops rest) {s : List Char} {v : Json}
    (h : Gives (readNumber true s) v left) :
    Gives (readNumber true (s ++ rest)) v (left ++ rest) := by
  cases s with
  | nil =>
      obtain ⟨r, hr, -⟩ := h
      cases hr
  | cons c more =>
      rw [List.cons_append, readNumber]
      rw [readNumber] at h
      by_cases hminus : c = '-'
      · rw [if_pos hminus] at h ⊢
        exact gives_widen_iff.mpr (readUnsigned_append hrest (gives_widen_iff.mp h))
      · rw [if_neg hminus] at h ⊢
        exact readUnsigned_append hrest h

section Integers

theorem head_toDigits_ne_zero {n : Nat} (h : 0 < n) :
    ∀ c ∈ (Nat.toDigits 10 n).head?, c ≠ '0' := by
  induction n using Nat.strongRecOn with
  | ind n ih =>
      rcases Nat.lt_or_ge n 10 with hsmall | hlarge
      · rw [Nat.toDigits_of_lt_base hsmall]
        intro c hc
        obtain rfl : n.digitChar = c := Option.some.inj hc
        exact fun hzero => Nat.ne_of_gt h (Nat.digitChar_eq_zero.mp hzero)
      · rw [Nat.toDigits_of_base_le (by decide) hlarge, List.head?_append_of_ne_nil _
          Nat.toDigits_ne_nil]
        exact ih (n / 10) (by omega) (by omega)

theorem ofDigits_toDigits (n : Nat) : Decimal.ofDigits (Nat.toDigits 10 n) = n := by
  have hsame : Decimal.ofDigits (Nat.toDigits 10 n) = Nat.ofDigitChars 10 (Nat.toDigits 10 n) 0 := by
    rw [Nat.ofDigitChars_eq_foldl, Decimal.ofDigits]
    refine List.foldl_ext _ _ _ fun m c _ => ?_
    rw [Nat.mul_comm]
    rfl
  rw [hsame, Nat.ofDigitChars_ten_toDigits]

theorem isDigit_of_mem_decimal {n : Nat} {c : Char} (h : c ∈ Nat.toDigits 10 n) :
    c.isDigit = true :=
  Nat.isDigit_of_mem_toDigits (by decide) (by decide) h

theorem toDigits_cons (n : Nat) :
    ∃ c more, Nat.toDigits 10 n = c :: more ∧ c.isDigit = true := by
  cases hn : Nat.toDigits 10 n with
  | nil => exact absurd hn Nat.toDigits_ne_nil
  | cons c more => exact ⟨c, more, rfl, isDigit_of_mem_decimal (hn ▸ List.mem_cons_self)⟩

theorem readWhole_toDigits (n : Nat) :
    Gives (readWhole (Nat.toDigits 10 n)) (Nat.toDigits 10 n) [] := by
  rcases Nat.eq_zero_or_pos n with rfl | hpos
  · exact ⟨_, rfl, rfl⟩
  · have hhead := head_toDigits_ne_zero hpos
    have hdigits : ∀ c ∈ Nat.toDigits 10 n, c.isDigit = true := fun _ => isDigit_of_mem_decimal
    obtain ⟨c, more, hn, hc⟩ := toDigits_cons n
    rw [hn] at hhead hdigits ⊢
    obtain ⟨-, hmore⟩ := List.forall_mem_cons.mp hdigits
    rw [readWhole, if_neg (hhead c rfl), if_pos hc, List.takeWhile_eq_self_iff.mpr hmore]
    exact ⟨_, rfl, List.dropWhile_eq_nil_iff.mpr hmore⟩

theorem readUnsigned_toDigits {negative : Bool} {n : Nat} {v : Int}
    (h : integerOf? negative n = some v) :
    Gives (readUnsigned true negative (Nat.toDigits 10 n)) (.int v) [] := by
  have hnumber : numberOf negative (Nat.toDigits 10 n) [] none = .int v := by
    simp [numberOf, ofDigits_toDigits, h]
  refine readUnsigned_gives_iff.mpr ⟨_, [], [], [], none, readWhole_toDigits n, ⟨_, rfl, rfl⟩,
    ⟨_, rfl, rfl⟩, ?_, hnumber.symm⟩
  rw [hnumber]
  rfl

theorem repr_ofNat (m : Nat) : (Int.repr (Int.ofNat m)).toList = Nat.toDigits 10 m :=
  Nat.toList_repr

theorem repr_negSucc (m : Nat) :
    (Int.repr (Int.negSucc m)).toList = '-' :: Nat.toDigits 10 (m + 1) := by
  change ("-" ++ Nat.repr (m + 1)).toList = _
  rw [String.toList_append, Nat.toList_repr]
  rfl

-- Integers of 64 bits read back.
theorem readNumber_repr {n : Int} (hlo : -(Nat.pow 2 63 : Int) ≤ n)
    (hhi : n < (Nat.pow 2 64 : Int)) :
    Gives (readNumber true (Int.repr n).toList) (.int n) [] := by
  cases n with
  | ofNat m =>
      have hvalue : integerOf? false m = some (m : Int) := by
        have hsmall : m < Nat.pow 2 64 := Int.ofNat_lt.mp hhi
        rw [integerOf?, if_neg (by decide), if_pos hsmall]
      have hgives := readUnsigned_toDigits hvalue
      obtain ⟨c, more, hm, hdigit⟩ := toDigits_cons m
      have hminus : c ≠ '-' := by
        rintro rfl
        exact absurd hdigit (by decide)
      rw [hm] at hgives
      rw [repr_ofNat, hm, readNumber, if_neg hminus]
      exact hgives
  | negSucc m =>
      have hvalue : integerOf? true (m + 1) = some (Int.negSucc m) := by
        have hsmall : m + 1 ≤ Nat.pow 2 63 := Int.ofNat_le.mp (Int.neg_le_neg_iff.mp hlo)
        rw [integerOf?, if_pos rfl, if_pos ⟨Nat.succ_pos m, hsmall⟩]
        rfl
      rw [repr_negSucc, readNumber, if_pos rfl]
      exact gives_widen_iff.mpr (readUnsigned_toDigits hvalue)

end Integers

end HostTelemetry.Json
