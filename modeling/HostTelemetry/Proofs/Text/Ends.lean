import HostTelemetry.Text.Blank
import Mathlib.Data.List.DropRight

namespace HostTelemetry.Text

-- A text without the run of some characters at its start and of others at its end.
def dropEnds (p q : Char → Bool) (cs : List Char) : List Char :=
  ((cs.dropWhile p).reverse.dropWhile q).reverse

theorem trimChars_eq (cs : List Char) : trimChars cs = dropEnds isBlank isBlank cs := rfl

variable {p q : Char → Bool} {cs : List Char}

theorem dropEnds_split (p q : Char → Bool) (cs : List Char) :
    ∃ lead trail, cs = lead ++ dropEnds p q cs ++ trail ∧ lead.all p ∧ trail.all q := by
  let rest := cs.dropWhile p
  refine ⟨cs.takeWhile p, (rest.reverse.takeWhile q).reverse, ?_, List.all_takeWhile, ?_⟩
  · have hrest : dropEnds p q cs ++ (rest.reverse.takeWhile q).reverse = rest := by
      rw [dropEnds, ← List.reverse_append, List.takeWhile_append_dropWhile, List.reverse_reverse]
    rw [List.append_assoc, hrest, List.takeWhile_append_dropWhile]
  · rw [List.all_reverse]
    exact List.all_takeWhile

theorem head?_dropEnds {c : Char} (h : (dropEnds p q cs).head? = some c) : p c = false := by
  have hprefix : dropEnds p q cs <+: cs.dropWhile p := List.rdropWhile_prefix _ _
  obtain ⟨rest, hrest⟩ := hprefix
  have hhead := List.head?_dropWhile_not p cs
  rw [← hrest, List.head?_append, h] at hhead
  simpa using hhead

theorem getLast?_dropEnds {c : Char} (h : (dropEnds p q cs).getLast? = some c) : q c = false := by
  rw [dropEnds, List.getLast?_reverse] at h
  have hhead := List.head?_dropWhile_not q (cs.dropWhile p).reverse
  rw [h] at hhead
  simpa using hhead

-- Nothing more is dropped off what was left.
theorem eq_nil_of_dropEnds {lead core trail : List Char}
    (h : dropEnds p q cs = lead ++ core ++ trail) (hlead : lead.all p) (htrail : trail.all q) :
    lead = [] ∧ trail = [] := by
  constructor
  · cases lead with
    | nil => rfl
    | cons c rest =>
        have hc : p c = false := head?_dropEnds (by rw [h]; rfl)
        simp [hc] at hlead
  · rcases List.eq_nil_or_concat trail with rfl | ⟨rest, c, rfl⟩
    · rfl
    · have hc : q c = false := getLast?_dropEnds (by rw [h]; simp)
      simp [hc] at htrail

theorem dropEnds_append_left {lead : List Char} (h : lead.all p) (cs : List Char) :
    dropEnds p q (lead ++ cs) = dropEnds p q cs := by
  rw [dropEnds, List.dropWhile_append_of_pos (List.all_eq_true.mp h), dropEnds]

theorem dropEnds_append_right {trail : List Char} (h : trail.all q) (cs : List Char) :
    dropEnds p q (cs ++ trail) = dropEnds p q cs := by
  have hq := List.all_eq_true.mp h
  by_cases hnone : cs.dropWhile p = []
  · have hend : (trail.dropWhile p).reverse.dropWhile q = [] := by
      rw [List.dropWhile_eq_nil_iff]
      exact fun c hc => hq c ((List.dropWhile_suffix _).subset (List.mem_reverse.mp hc))
    rw [dropEnds, List.dropWhile_append, hnone, List.isEmpty_nil, if_pos rfl, hend, dropEnds, hnone]
    rfl
  · have hsome : (cs.dropWhile p).isEmpty = false := by simpa using hnone
    rw [dropEnds, List.dropWhile_append, hsome, if_neg (by decide), List.reverse_append,
      List.dropWhile_append_of_pos (fun c hc => hq c (List.mem_reverse.mp hc)), dropEnds]

theorem trim_eq_empty_iff {s : String} : trim s = "" ↔ AllBlank s := by
  have hempty : trim s = "" ↔ trimChars s.toList = [] := by
    rw [trim, String.ofList_eq_empty_iff]
  rw [hempty, AllBlank]
  constructor
  · intro h
    obtain ⟨lead, trail, hs, hlead, htrail⟩ := dropEnds_split isBlank isBlank s.toList
    rw [← trimChars_eq, h, List.append_nil] at hs
    rw [hs, List.all_append, hlead, htrail]
    rfl
  · intro h
    rw [trimChars, List.dropWhile_eq_nil_iff.mpr (List.all_eq_true.mp h)]
    rfl

end HostTelemetry.Text
