import HostTelemetry.Proofs.Text.Utf8
import Mathlib.Data.String.Basic

namespace HostTelemetry.Text.Utf8

theorem byte_lt {m n : Nat} (h : m < n) (hn : n < 256) : UInt8.ofNat m < UInt8.ofNat n := by
  rw [UInt8.lt_iff_toNat_lt, toNat_ofNat_of_lt (by omega), toNat_ofNat_of_lt hn]
  exact h

-- Bytes compare like the numbers that they stand for.
theorem cons_lt_cons_of_le {m n : Nat} {u v : List UInt8} (hle : m ≤ n) (hn : n < 256)
    (h : m = n → u < v) : UInt8.ofNat m :: u < UInt8.ofNat n :: v := by
  rw [List.cons_lt_cons_iff]
  rcases Nat.lt_or_eq_of_le hle with hlt | rfl
  · exact .inl (byte_lt hlt hn)
  · exact .inr ⟨rfl, h rfl⟩

-- A longer form has a larger lead byte. In forms of one length the first byte that
-- differs belongs to the highest bits that do.
theorem encodeChar_lt {c d : Char} (h : c < d) (u v : List UInt8) :
    String.utf8EncodeChar c ++ u < String.utf8EncodeChar d ++ v := by
  have hlt : c.val.toNat < d.val.toNat := UInt32.lt_iff_toNat_lt.mp h
  have hvalid : d.val.toNat < 0xD800 ∨ 0xDFFF < d.val.toNat ∧ d.val.toNat < 0x110000 := d.valid
  unfold String.utf8EncodeChar
  dsimp only
  generalize c.val.toNat = m at hlt
  generalize d.val.toNat = n at hlt hvalid
  repeat' split
  all_goals
    simp only [List.cons_append, List.nil_append]
    repeat refine cons_lt_cons_of_le (by omega) (by omega) fun _ => ?_
    omega

theorem encodeChar_ne_nil (c : Char) : String.utf8EncodeChar c ≠ [] := by
  unfold String.utf8EncodeChar
  dsimp only
  repeat' split
  all_goals exact List.cons_ne_nil _ _

-- Texts and their bytes stand in the same order.
theorem encode_lt {s t : String} (h : s < t) : encode s < encode t := by
  have hchars : ∀ cs ds : List Char, cs < ds →
      cs.flatMap String.utf8EncodeChar < ds.flatMap String.utf8EncodeChar := by
    intro cs ds hlt
    induction cs generalizing ds with
    | nil =>
        cases ds with
        | nil => cases hlt
        | cons d ds =>
            obtain ⟨b, rest, hb⟩ := List.exists_cons_of_ne_nil (encodeChar_ne_nil d)
            rw [List.flatMap_nil, List.flatMap_cons, hb]
            exact List.nil_lt_cons _ _
    | cons c cs ih =>
        cases ds with
        | nil => cases hlt
        | cons d ds =>
            rw [List.flatMap_cons, List.flatMap_cons]
            rcases List.cons_lt_cons_iff.mp hlt with hcd | ⟨rfl, hrest⟩
            · exact encodeChar_lt hcd _ _
            · exact List.append_left_lt (ih ds hrest)
  exact hchars _ _ (String.lt_iff_toList_lt.mp h)

end HostTelemetry.Text.Utf8
