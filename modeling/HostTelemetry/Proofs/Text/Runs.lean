import HostTelemetry.Proofs.Text.Slug
import Mathlib.Data.List.Induction
import Mathlib.Data.List.SplitBy

namespace HostTelemetry.Text

theorem isWordChar_iff {c : Char} :
    isWordChar c ↔
      'A' ≤ c ∧ c ≤ 'Z' ∨ 'a' ≤ c ∧ c ≤ 'z' ∨ '0' ≤ c ∧ c ≤ '9' ∨ c = '_' := by
  simp only [isWordChar_eq, isKeyChar, Bool.or_eq_true, isUpper_iff, isLower_iff, isDigit_iff,
    beq_iff_eq, or_assoc]

section Seams

def endsReplaced (cs : List Char) : Bool :=
  cs.getLast?.any fun c => !isWordChar c

def beginsReplaced (cs : List Char) : Bool :=
  cs.head?.any fun c => !isWordChar c

-- Whatever was read before a character, that character alone decides how to go on.
theorem slugChars_cons (inRun : Bool) (c : Char) (cs : List Char) :
    slugChars inRun (c :: cs) = slugChars inRun [c] ++ slugChars (!isWordChar c) cs := by
  by_cases hword : isWordChar c
  · simp [slugChars, hword]
  · cases inRun <;> simp [slugChars, hword]

theorem slugChars_append (first second : List Char) :
    slugChars false (first ++ second) =
      slugChars false first ++ slugChars (endsReplaced first) second := by
  induction first using List.reverseRecOn generalizing second with
  | nil => rfl
  | append_singleton first c ih =>
      have hends : endsReplaced (first ++ [c]) = !isWordChar c := by simp [endsReplaced]
      rw [hends, List.append_assoc, List.singleton_append, ih, ih, slugChars_cons,
        List.append_assoc]

theorem slugChars_true_of_kept {cs : List Char} (h : beginsReplaced cs = false) :
    slugChars true cs = slugChars false cs := by
  cases cs with
  | nil => rfl
  | cons c rest =>
      have hword : isWordChar c := by simpa [beginsReplaced] using h
      simp [slugChars, hword]

theorem slugChars_false_of_replaced {cs : List Char} (h : beginsReplaced cs) :
    slugChars false cs = '_' :: slugChars true cs := by
  cases cs with
  | nil => cases h
  | cons c rest =>
      have hword : isWordChar c = false := by simpa [beginsReplaced] using h
      simp [slugChars, hword]

theorem exists_slugChars_eq_concat {cs : List Char} (h : endsReplaced cs) :
    ∃ front, slugChars false cs = front ++ ['_'] := by
  induction cs using List.reverseRecOn with
  | nil => cases h
  | append_singleton cs c ih =>
      have hword : isWordChar c = false := by simpa [endsReplaced] using h
      rw [slugChars_append]
      -- the last character adds an underscore only if it begins its run
      by_cases hends : endsReplaced cs
      · obtain ⟨front, hfront⟩ := ih hends
        exact ⟨front, by simp [hends, slugChars, hword, hfront]⟩
      · exact ⟨slugChars false cs, by simp [hends, slugChars, hword]⟩

theorem slugChars_append_apart {first second : List Char}
    (h : (endsReplaced first && beginsReplaced second) = false) :
    slugChars false (first ++ second) = slugChars false first ++ slugChars false second := by
  rw [slugChars_append]
  cases hends : endsReplaced first with
  | false => rfl
  | true => rw [slugChars_true_of_kept (by simpa [hends] using h)]

-- A run of replaced characters across the seam leaves one underscore in place of two.
theorem slug_append (first second : String) :
    if endsReplaced first.toList && beginsReplaced second.toList then
      ∃ front back, slug first = front ++ "_" ∧ slug second = "_" ++ back ∧
        slug (first ++ second) = front ++ "_" ++ back
    else slug (first ++ second) = slug first ++ slug second := by
  split
  · next h =>
      obtain ⟨hends, hbegins⟩ := Bool.and_eq_true_iff.mp h
      obtain ⟨front, hfront⟩ := exists_slugChars_eq_concat hends
      refine ⟨String.ofList front, String.ofList (slugChars true second.toList), ?_, ?_, ?_⟩
      · rw [slug, hfront, String.ofList_append]
      · rw [slug, slugChars_false_of_replaced hbegins, ← List.singleton_append,
          String.ofList_append]
      · rw [slug, String.toList_append, slugChars_append, hends, hfront, String.ofList_append,
          String.ofList_append]
  · next h =>
      rw [slug, String.toList_append, slugChars_append_apart (Bool.eq_false_iff.mpr h),
        String.ofList_append]
      rfl

end Seams

section Runs

-- A text taken apart into its longest pieces whose characters are all kept or all replaced.
structure MaximalRuns (cs : List Char) (runs : List (List Char)) : Prop where
  flatten_eq : runs.flatten = cs
  nonempty : ∀ run ∈ runs, run ≠ []
  alike : ∀ run ∈ runs, ∀ c ∈ run, ∀ d ∈ run, isWordChar c = isWordChar d
  apart : runs.IsChain fun run next => ∀ c ∈ run, ∀ d ∈ next, isWordChar c ≠ isWordChar d

-- How a slug shows such a piece.
def spelled (run : List Char) : List Char :=
  if run.all isWordChar then run.map Char.toLower else ['_']

def runsOf (cs : List Char) : List (List Char) :=
  cs.splitBy fun c d => isWordChar c == isWordChar d

theorem isChain_alike_iff {run : List Char} :
    (run.IsChain fun c d => isWordChar c == isWordChar d) ↔
      ∀ c ∈ run, ∀ d ∈ run, isWordChar c = isWordChar d := by
  have hkinds : (run.IsChain fun c d => isWordChar c == isWordChar d) ↔
      run.Pairwise fun c d => isWordChar c = isWordChar d := by
    simp only [beq_iff_eq]
    rw [← List.isChain_map (R := Eq), List.isChain_iff_pairwise, List.pairwise_map]
  rw [hkinds]
  constructor
  · intro h c hc d hd
    exact List.Pairwise.forall_of_forall_of_flip
      (R := fun c d => isWordChar c = isWordChar d) (fun _ _ => rfl) h (h.imp Eq.symm) hc hd
  · exact List.pairwise_of_forall_mem_list

-- There is one way of taking a text apart like that.
theorem maximalRuns_iff {cs : List Char} {runs : List (List Char)} :
    MaximalRuns cs runs ↔ runs = runsOf cs := by
  rw [eq_comm, runsOf, List.splitBy_eq_iff]
  constructor
  · intro h
    refine ⟨h.flatten_eq.symm, fun hnil => h.nonempty [] hnil rfl,
      fun run hrun => isChain_alike_iff.mpr (h.alike run hrun), ?_⟩
    refine h.apart.imp_of_mem_imp fun run next hrun hnext hapart => ?_
    refine ⟨h.nonempty run hrun, h.nonempty next hnext, ?_⟩
    exact beq_eq_false_iff_ne.mpr (hapart _ (List.getLast_mem _) _ (List.head_mem _))
  · rintro ⟨rfl, hnil, halike, hapart⟩
    have hkinds : ∀ run ∈ runs, ∀ c ∈ run, ∀ d ∈ run, isWordChar c = isWordChar d :=
      fun run hrun => isChain_alike_iff.mp (halike run hrun)
    refine ⟨rfl, fun run hrun he => hnil (he ▸ hrun), hkinds, ?_⟩
    refine hapart.imp_of_mem_imp fun run next hrun hnext hends c hc d hd => ?_
    obtain ⟨hlast, hhead, hdiffer⟩ := hends
    rw [hkinds run hrun c hc _ (List.getLast_mem hlast),
      hkinds next hnext d hd _ (List.head_mem hhead)]
    exact beq_eq_false_iff_ne.mp hdiffer

theorem slugChars_of_word {inRun : Bool} {cs : List Char} (h : ∀ c ∈ cs, isWordChar c) :
    slugChars inRun cs = cs.map Char.toLower := by
  induction cs generalizing inRun with
  | nil => rfl
  | cons c rest ih =>
      obtain ⟨hc, hrest⟩ := List.forall_mem_cons.mp h
      rw [slugChars, if_pos hc, ih hrest, List.map_cons]

theorem slugChars_true_of_replaced {cs : List Char} (h : ∀ c ∈ cs, isWordChar c = false) :
    slugChars true cs = [] := by
  induction cs with
  | nil => rfl
  | cons c rest ih =>
      obtain ⟨hc, hrest⟩ := List.forall_mem_cons.mp h
      simp [slugChars, hc, ih hrest]

theorem slugChars_run {run : List Char} (hne : run ≠ [])
    (halike : ∀ c ∈ run, ∀ d ∈ run, isWordChar c = isWordChar d) :
    slugChars false run = spelled run := by
  obtain ⟨first, rest, rfl⟩ := List.exists_cons_of_ne_nil hne
  cases hfirst : isWordChar first with
  | true =>
      have hall : ∀ c ∈ first :: rest, isWordChar c := fun c hc =>
        (halike c hc first List.mem_cons_self).trans hfirst
      rw [slugChars_of_word hall, spelled, if_pos (List.all_eq_true.mpr hall)]
  | false =>
      have hall : ∀ c ∈ rest, isWordChar c = false := fun c hc =>
        (halike c (List.mem_cons_of_mem _ hc) first List.mem_cons_self).trans hfirst
      simp [slugChars, spelled, hfirst, slugChars_true_of_replaced hall]

theorem MaximalRuns.tail {cs run : List Char} {rest : List (List Char)}
    (h : MaximalRuns cs (run :: rest)) : MaximalRuns rest.flatten rest where
  flatten_eq := rfl
  nonempty := (List.forall_mem_cons.mp h.nonempty).2
  alike := (List.forall_mem_cons.mp h.alike).2
  apart := h.apart.tail

-- Two neighbouring runs are never both replaced.
theorem MaximalRuns.seam {cs run : List Char} {rest : List (List Char)}
    (h : MaximalRuns cs (run :: rest)) :
    (endsReplaced run && beginsReplaced rest.flatten) = false := by
  cases rest with
  | nil => simp [beginsReplaced]
  | cons next more =>
      obtain ⟨d, tail, rfl⟩ := List.exists_cons_of_ne_nil (h.nonempty next (by simp))
      have happart := (List.isChain_cons_cons.mp h.apart).1
      cases hlast : run.getLast? with
      | none => simp [endsReplaced, hlast]
      | some c =>
          have hdiffer := happart c (List.mem_of_getLast? hlast) d List.mem_cons_self
          cases hc : isWordChar c <;> simp_all [endsReplaced, beginsReplaced]

theorem MaximalRuns.slugChars_eq {cs : List Char} {runs : List (List Char)}
    (h : MaximalRuns cs runs) : slugChars false cs = runs.flatMap spelled := by
  induction runs generalizing cs with
  | nil =>
      obtain rfl : [] = cs := h.flatten_eq
      rfl
  | cons run rest ih =>
      obtain rfl : run ++ rest.flatten = cs := h.flatten_eq
      rw [slugChars_append_apart h.seam, slugChars_run (h.nonempty run List.mem_cons_self)
        (h.alike run List.mem_cons_self), ih h.tail, List.flatMap_cons]

end Runs

section Fixed

theorem toLower_of_isKeyChar {c : Char} (h : isKeyChar c) : c.toLower = c := by
  refine toLower_of_not_isUpper fun hupper => ?_
  obtain ⟨hlow, hhigh⟩ := isUpper_iff.mp hupper
  simp only [isKeyChar, Bool.or_eq_true, isLower_iff, isDigit_iff, beq_iff_eq] at h
  rcases h with (hlower | hdigit) | rfl
  · exact absurd (Char.le_trans hlower.1 hhigh) (by decide)
  · exact absurd (Char.le_trans hlow hdigit.2) (by decide)
  · exact absurd hhigh (by decide)

theorem isWordChar_of_isKeyChar {c : Char} (h : isKeyChar c) : isWordChar c := by
  rw [isWordChar_eq, h, Bool.or_true]

-- What is made of lowercase letters, digits and underscores is its own slug.
theorem slug_eq_self_iff {s : String} : slug s = s ↔ IsPlain s := by
  constructor
  · intro h
    rw [← h]
    exact slug_plain s
  · intro h
    have hwords : ∀ c ∈ s.toList, isWordChar c := fun c hc => isWordChar_of_isKeyChar (h c hc)
    have hsame : s.toList.map Char.toLower = s.toList :=
      (List.map_congr_left fun c hc => toLower_of_isKeyChar (h c hc)).trans (List.map_id _)
    rw [slug, slugChars_of_word hwords, hsame, String.ofList_toList]

theorem slug_eq_empty_iff {s : String} : slug s = "" ↔ s = "" := by
  rw [slug, String.ofList_eq_empty_iff, ← String.toList_eq_nil_iff]
  cases hs : s.toList with
  | nil => simp [slugChars]
  | cons c rest =>
      rw [slugChars]
      split <;> simp

theorem isEmpty_slug (s : String) : (slug s).isEmpty = s.isEmpty := by
  rw [Bool.eq_iff_iff, String.isEmpty_iff, String.isEmpty_iff, slug_eq_empty_iff]

end Fixed

end HostTelemetry.Text
