import HostTelemetry.Text.Slug
import Mathlib.Tactic.Common

namespace HostTelemetry.Text

def isKeyChar (c : Char) : Bool :=
  c.isLower || c.isDigit || c == '_'

def IsPlain (s : String) : Prop :=
  ∀ c ∈ s.toList, isKeyChar c = true

instance (s : String) : Decidable (IsPlain s) :=
  List.decidableBAll _ s.toList

@[simp] theorem isPlain_append {s t : String} : IsPlain (s ++ t) ↔ IsPlain s ∧ IsPlain t := by
  simp only [IsPlain, String.toList_append, List.mem_append, or_imp, forall_and]

theorem IsPlain.not_mem {s : String} (h : IsPlain s) {c : Char} (hc : isKeyChar c = false) :
    c ∉ s.toList :=
  fun hmem => Bool.false_ne_true (hc ▸ h c hmem)

theorem isUpper_iff {c : Char} : c.isUpper ↔ 'A' ≤ c ∧ c ≤ 'Z' :=
  decide_eq_true_iff

theorem isLower_iff {c : Char} : c.isLower ↔ 'a' ≤ c ∧ c ≤ 'z' :=
  Bool.and_eq_true_iff.trans (and_congr decide_eq_true_iff decide_eq_true_iff)

theorem isDigit_iff {c : Char} : c.isDigit ↔ '0' ≤ c ∧ c ≤ '9' :=
  Bool.and_eq_true_iff.trans (and_congr decide_eq_true_iff decide_eq_true_iff)

-- The characters that are kept are those of keys and the uppercase letters.
theorem isWordChar_eq (c : Char) : isWordChar c = (c.isUpper || isKeyChar c) := by
  change (c.isUpper || c.isLower || c.isDigit || c == '_') = _
  simp only [isKeyChar, Bool.or_assoc]

theorem toLower_of_not_isUpper {c : Char} (h : ¬c.isUpper) : c.toLower = c :=
  dif_neg (mt isUpper_iff.mpr h)

theorem isLower_toLower {c : Char} (h : c.isUpper) : c.toLower.isLower := by
  have hval : c.toLower.val = c.val + 32 := congrArg Char.val (dif_pos (isUpper_iff.mp h))
  obtain ⟨hlow, hhigh⟩ := isUpper_iff.mp h
  have hlow : 65 ≤ c.val.toNat := UInt32.le_iff_toNat_le.mp hlow
  have hhigh : c.val.toNat ≤ 90 := UInt32.le_iff_toNat_le.mp hhigh
  have hnat : c.toLower.val.toNat = c.val.toNat + 32 := by
    rw [hval, UInt32.toNat_add]
    change (c.val.toNat + 32) % 2 ^ 32 = _
    omega
  rw [isLower_iff, Char.le_def, Char.le_def, UInt32.le_iff_toNat_le, UInt32.le_iff_toNat_le, hnat]
  exact ⟨Nat.add_le_add_right hlow 32, Nat.add_le_add_right hhigh 32⟩

theorem isKeyChar_toLower {c : Char} (h : isWordChar c) : isKeyChar c.toLower := by
  rw [isWordChar_eq, Bool.or_eq_true] at h
  by_cases hupper : c.isUpper
  · rw [isKeyChar, isLower_toLower hupper, Bool.true_or, Bool.true_or]
  · rw [toLower_of_not_isUpper hupper]
    exact h.resolve_left hupper

theorem slugChars_plain (inRun : Bool) (cs : List Char) :
    ∀ c ∈ slugChars inRun cs, isKeyChar c = true := by
  induction cs generalizing inRun with
  | nil => intro c hc; cases hc
  | cons first rest ih =>
      simp only [slugChars]
      split
      · next hword =>
          exact List.forall_mem_cons.mpr ⟨isKeyChar_toLower hword, ih false⟩
      · split
        · exact ih true
        · exact List.forall_mem_cons.mpr ⟨by decide, ih true⟩

-- Whatever a name is made of, its slug is made of lowercase letters, digits and
-- underscores.
theorem slug_plain (name : String) : IsPlain (slug name) := by
  rw [IsPlain, slug, String.toList_ofList]
  exact slugChars_plain false name.toList

end HostTelemetry.Text
