import HostTelemetry.Json.Value
import Mathlib.Data.List.Infix

namespace HostTelemetry.Json

variable {α β : Type}

-- A reader only ever takes characters off the front.
def LeavesSuffix (reader : Reader α) : Prop :=
  ∀ ⦃s a r⦄, reader s = .ok (a, r) → r.1 <:+ s

theorem skipSpace_suffix (s : List Char) : (skipSpace s).1 <:+ s :=
  List.dropWhile_suffix _

theorem suffix_of_skipSpace {s t : List Char} {ht : t.length ≤ s.length}
    (h : skipSpace s = ⟨t, ht⟩) : t <:+ s := by
  have hs := skipSpace_suffix s
  rwa [h] at hs

theorem widen_eq_ok {s t : List Char} {h : t.length ≤ s.length}
    {result : Except Fault (α × Shorter t)} {a : α} {r : Shorter s}
    (hw : widen h result = .ok (a, r)) : ∃ r', result = .ok (a, r') ∧ r'.1 = r.1 := by
  cases result with
  | error e => cases hw
  | ok found => cases hw; exact ⟨found.2, rfl, rfl⟩

theorem map_eq_ok {f : α → β} {reader : Reader α} {s : List Char} {b : β} {r : Shorter s}
    (h : reader.map f s = .ok (b, r)) : ∃ a, reader s = .ok (a, r) ∧ f a = b := by
  unfold Reader.map at h
  split at h
  · cases h
  · next a r' ha => cases h; exact ⟨a, ha, rfl⟩

theorem LeavesSuffix.map {reader : Reader α} (h : LeavesSuffix reader) (f : α → β) :
    LeavesSuffix (reader.map f) := by
  intro s b r hb
  obtain ⟨a, ha, -⟩ := map_eq_ok hb
  exact h ha

theorem expectWord_suffix {word s : List Char} {r : Within s} (h : expectWord word s = .ok r) :
    r.1 <:+ s := by
  induction word generalizing s with
  | nil => cases s <;> cases h <;> exact List.suffix_rfl
  | cons w ws ih =>
      cases s with
      | nil => cases h
      | cons c cs =>
          simp only [expectWord] at h
          split at h
          · split at h
            · cases h
            · next r' hr' => cases h; exact (ih hr').trans (List.suffix_cons c cs)
          · cases h

section Text

theorem readHex4_suffix {s : List Char} {n : Nat} {r : Within s} (h : readHex4 s = .ok (n, r)) :
    r.1 <:+ s := by
  unfold readHex4 at h
  split at h
  · next a b c d rest =>
      split at h
      · cases h; exact List.suffix_append [a, b, c, d] rest
      · cases h
  · cases h

theorem readLowSurrogate_suffix {high : Nat} {s : List Char} {c : Char} {r : Within s}
    (h : readLowSurrogate high s = .ok (c, r)) : r.1 <:+ s := by
  unfold readLowSurrogate at h
  split at h
  · cases h
  · cases h
  · next rest =>
      split at h
      · cases h
      · next low r' hlow =>
          split at h
          · obtain ⟨-, rfl⟩ := Prod.mk.inj (Except.ok.inj h)
            exact (readHex4_suffix hlow).trans (List.suffix_append ['\\', 'u'] rest)
          · cases h
  · cases h
  · cases h

theorem readUnicode_suffix {strict : Bool} {s : List Char} {c : Char} {r : Within s}
    (h : readUnicode strict s = .ok (c, r)) : r.1 <:+ s := by
  unfold readUnicode at h
  split at h
  · cases h
  · next n r' hn =>
      have hr' := readHex4_suffix hn
      split at h
      · cases h; exact hr'
      · split at h
        · cases h
        · split at h
          · split at h
            · cases h
            · next hlow => cases h; exact (readLowSurrogate_suffix hlow).trans hr'
          · cases h; exact hr'

theorem readEscape_suffix {strict : Bool} {s : List Char} {c : Char} {r : Within s}
    (h : readEscape strict s = .ok (c, r)) : r.1 <:+ s := by
  unfold readEscape at h
  split at h
  · cases h
  · next rest =>
      split at h
      · cases h
      · next hc => cases h; exact (readUnicode_suffix hc).trans (List.suffix_cons 'u' rest)
  · next c rest _ =>
      split at h
      · cases h; exact List.suffix_cons c rest
      · cases h

theorem readPiece_suffix (strict : Bool) : LeavesSuffix (readPiece strict) := by
  intro s piece r h
  cases s with
  | nil => cases h
  | cons c rest =>
      simp only [readPiece] at h
      split at h
      · cases h; exact List.suffix_cons c rest
      · split at h
        · split at h
          · cases h
          · next hd => cases h; exact (readEscape_suffix hd).trans (List.suffix_cons c rest)
        · split at h
          · cases h
          · cases h; exact List.suffix_cons c rest

theorem readText_suffix (strict : Bool) : LeavesSuffix (readText strict) := by
  intro s
  fun_induction readText strict s with
  | case1 s e he => intro cs r h; cases h
  | case2 s r hr => intro cs r' h; cases h; exact readPiece_suffix strict hr
  | case3 s c r hr e he ih => intro cs r' h; cases h
  | case4 s c r hr cs r' hr' ih =>
      intro cs' r'' h
      cases h
      exact (ih hr').trans (readPiece_suffix strict hr)

end Text

section Number

theorem readWhole_suffix : LeavesSuffix readWhole := by
  intro s digits r h
  cases s with
  | nil => cases h
  | cons c rest =>
      simp only [readWhole] at h
      split at h
      · split at h
        · cases h
        · cases h; exact List.suffix_cons c rest
      · split at h
        · cases h; exact (List.dropWhile_suffix _).trans (List.suffix_cons c rest)
        · cases h

theorem readDigits_suffix {s digits : List Char} {r : Within s}
    (h : readDigits s = .ok (digits, r)) : r.1 <:+ s := by
  unfold readDigits at h
  split at h
  · cases h
  · split at h
    · cases h; exact List.dropWhile_suffix _
    · cases h

theorem readFraction_suffix {s digits : List Char} {r : Within s}
    (h : readFraction s = .ok (digits, r)) : r.1 <:+ s := by
  unfold readFraction at h
  split at h
  · next rest =>
      split at h
      · cases h
      · next hd => cases h; exact (readDigits_suffix hd).trans (List.suffix_cons '.' rest)
  · cases h; exact List.suffix_rfl

theorem splitSign_suffix (s : List Char) : (Decimal.splitSign s).2 <:+ s := by
  unfold Decimal.splitSign
  split
  · exact List.suffix_cons _ _
  · exact List.suffix_cons _ _
  · exact List.suffix_rfl

theorem readPower_suffix {isZero : Bool} {s : List Char} {power : Option Int} {r : Within s}
    (h : readPower isZero s = .ok (power, r)) : r.1 <:+ s := by
  unfold readPower at h
  split at h
  · cases h; exact List.suffix_rfl
  · next c rest =>
      split at h
      · dsimp only at h
        split at h
        · cases h
        · next hd =>
            split at h
            · cases h
            · cases h
              exact (readDigits_suffix hd).trans
                ((splitSign_suffix rest).trans (List.suffix_cons c rest))
      · cases h; exact List.suffix_rfl

theorem numberOf_ne_object (negative : Bool) (whole fraction : List Char) (power : Option Int)
    (fields : List (String × Json)) : numberOf negative whole fraction power ≠ .object fields := by
  unfold numberOf
  dsimp only
  split <;> nofun

theorem readUnsigned_scalar {strict negative : Bool} {s : List Char} {v : Json} {r : Shorter s}
    (h : readUnsigned strict negative s = .ok (v, r)) :
    r.1 <:+ s ∧ ∀ fields, v ≠ .object fields := by
  unfold readUnsigned at h
  split at h
  · cases h
  · next hwhole =>
      split at h
      · cases h
      · next hfraction =>
          split at h
          · cases h
          · next hpower =>
              dsimp only at h
              split at h
              · cases h
              · cases h
                refine ⟨?_, numberOf_ne_object _ _ _ _⟩
                exact (readPower_suffix hpower).trans
                  ((readFraction_suffix hfraction).trans (readWhole_suffix hwhole))

theorem readNumber_scalar {strict : Bool} {s : List Char} {v : Json} {r : Shorter s}
    (h : readNumber strict s = .ok (v, r)) : r.1 <:+ s ∧ ∀ fields, v ≠ .object fields := by
  cases s with
  | nil => cases h
  | cons c rest =>
      simp only [readNumber] at h
      split at h
      · obtain ⟨r', hr', he⟩ := widen_eq_ok h
        obtain ⟨hsuffix, hscalar⟩ := readUnsigned_scalar hr'
        exact ⟨he ▸ hsuffix.trans (List.suffix_cons c rest), hscalar⟩
      · exact readUnsigned_scalar h

end Number

end HostTelemetry.Json
