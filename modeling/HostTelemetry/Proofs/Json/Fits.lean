import HostTelemetry.Proofs.Json.Braces
import HostTelemetry.Proofs.Keyed
import HostTelemetry.Reading.Coerce

namespace HostTelemetry

theorem inIntRange_iff {n : Int} : inIntRange n = true ↔ minInt ≤ n ∧ n ≤ maxInt := by
  simp [inIntRange]

namespace Json

-- What a value of a file can be without containers: integers have 64 bits.
def ScalarFits : Json → Prop
  | .int n => -(Nat.pow 2 63 : Int) ≤ n ∧ n < (Nat.pow 2 64 : Int)
  | .list _ => False
  | .object _ => False
  | _ => True

-- The same with at most `depth` containers inside one another; the fields of an object
-- stand in the order of their names.
def Fits : Nat → Json → Prop
  | depth + 1, .list items => ∀ v ∈ items, Fits depth v
  | depth + 1, .object fields => Keyed.Ascending fields ∧ ∀ f ∈ fields, Fits depth f.2
  | _, v => ScalarFits v

theorem ScalarFits.fits {v : Json} (h : v.ScalarFits) (depth : Nat) : v.Fits depth := by
  cases depth with
  | zero => exact h
  | succ depth =>
      cases v with
      | list items => exact h.elim
      | object fields => exact h.elim
      | _ => exact h

section Scalar

theorem int_fits {n : Int} (h : inIntRange n = true) : (Json.int n).ScalarFits := by
  obtain ⟨hlo, hhi⟩ : minInt ≤ n ∧ n ≤ 2 ^ 63 - 1 := inIntRange_iff.mp h
  have hsmall : n < 2 ^ 64 := by omega
  exact ⟨hlo, hsmall⟩

theorem integerOf?_fits {negative : Bool} {digits : Nat} {n : Int}
    (h : integerOf? negative digits = some n) : (Json.int n).ScalarFits := by
  unfold integerOf? at h
  split at h
  · split at h
    · next hrange =>
        cases h
        have hsmall : digits ≤ 2 ^ 63 := hrange.2
        change -2 ^ 63 ≤ -(digits : Int) ∧ -(digits : Int) < 2 ^ 64
        omega
    · cases h
  · split at h
    · next hrange =>
        cases h
        have hsmall : digits < 2 ^ 64 := hrange
        change -2 ^ 63 ≤ (digits : Int) ∧ (digits : Int) < 2 ^ 64
        omega
    · cases h

theorem numberOf_fits (negative : Bool) (whole fraction : List Char) (power : Option Int) :
    (numberOf negative whole fraction power).ScalarFits := by
  unfold numberOf
  dsimp only
  split
  · next n h =>
      split at h
      · exact integerOf?_fits h
      · cases h
  · trivial

theorem readUnsigned_fits {strict negative : Bool} {s : List Char} {v : Json} {r : Shorter s}
    (h : readUnsigned strict negative s = .ok (v, r)) : v.ScalarFits := by
  unfold readUnsigned at h
  split at h
  · cases h
  split at h
  · cases h
  split at h
  · cases h
  dsimp only at h
  split at h
  · cases h
  · cases h
    exact numberOf_fits _ _ _ _

theorem readNumber_fits {strict : Bool} {s : List Char} {v : Json} {r : Shorter s}
    (h : readNumber strict s = .ok (v, r)) : v.ScalarFits := by
  cases s with
  | nil => cases h
  | cons c rest =>
      rw [readNumber] at h
      split at h
      · obtain ⟨r', hr', -⟩ := widen_eq_ok h
        exact readUnsigned_fits hr'
      · exact readUnsigned_fits h

theorem readScalar_fits {strict : Bool} {s : List Char} {v : Json} {r : Shorter s}
    (h : readScalar strict s = .ok (v, r)) : v.ScalarFits := by
  cases s with
  | nil => cases h
  | cons c rest =>
      simp only [readScalar] at h
      split at h
      · split at h <;> cases h
        trivial
      split at h
      · split at h <;> cases h
        trivial
      split at h
      · split at h <;> cases h
        trivial
      split at h
      · split at h <;> cases h
        trivial
      split at h
      · exact readNumber_fits h
      · cases h

end Scalar

section Folds

variable {α σ : Type} {p : σ → Prop}

theorem foldList_invariant {step : σ → Reader σ}
    (hstep : ∀ ⦃acc s acc' r⦄, p acc → step acc s = .ok (acc', r) → p acc') {first : Bool} {acc : σ}
    {s : List Char} {out : σ} {r : Shorter s} (hacc : p acc)
    (h : foldList step first acc s = .ok (out, r)) : p out := by
  fun_induction foldList step first acc s generalizing out with
  | case1 first acc s e he => cases h
  | case2 first acc s r hr => cases h; exact hacc
  | case3 first acc s r hr e he => cases h
  | case4 first acc s r hr acc' r' hr' hlt e he ih => cases h
  | case5 first acc s r hr acc' r' hr' hlt acc'' r'' hr'' ih =>
      cases h
      exact ih (hstep hacc hr') hr''

theorem foldObject_invariant {strict : Bool} {step : σ → String → Reader σ}
    (hstep : ∀ ⦃acc name s acc' r⦄, p acc → step acc name s = .ok (acc', r) → p acc') {first : Bool}
    {acc : σ} {s : List Char} {out : σ} {r : Shorter s} (hacc : p acc)
    (h : foldObject strict step first acc s = .ok (out, r)) : p out := by
  fun_induction foldObject strict step first acc s generalizing out with
  | case1 first acc s e he => cases h
  | case2 first acc s r' hr' => cases h; exact hacc
  | case3 first acc s r' hr' e he => cases h
  | case4 first acc s r' hr' name r₁ hname e he => cases h
  | case5 first acc s r' hr' name r₁ hname acc' r₂ hr₂ hlt e he ih => cases h
  | case6 first acc s r' hr' name r₁ hname acc' r₂ hr₂ hlt acc'' r₃ hr₃ ih =>
      cases h
      exact ih (hstep hacc hr₂) hr₃

theorem afterColon_eq_ok {reader : Reader α} {s : List Char} {a : α} {r : Shorter s}
    (h : afterColon reader s = .ok (a, r)) : ∃ s' r', reader s' = .ok (a, r') := by
  unfold afterColon at h
  split at h
  · cases h
  · next hcolon =>
      obtain ⟨r', hr', -⟩ := widen_eq_ok h
      exact ⟨_, r', hr'⟩

variable {q : α → Prop} {item : Reader α}

theorem foldList_all (hitem : ∀ ⦃s a r⦄, item s = .ok (a, r) → q a) {s : List Char}
    {items : List α} {r : Shorter s}
    (h : foldList (fun acc => item.map (· :: acc)) true [] s = .ok (items, r)) :
    ∀ a ∈ items, q a := by
  refine foldList_invariant (p := fun items => ∀ a ∈ items, q a) ?_ (List.forall_mem_nil _) h
  intro acc s acc' r hacc hstep
  obtain ⟨a, ha, rfl⟩ := map_eq_ok hstep
  exact List.forall_mem_cons.mpr ⟨hitem ha, hacc⟩

theorem foldObject_all (hitem : ∀ ⦃s a r⦄, item s = .ok (a, r) → q a) {strict : Bool}
    {s : List Char} {fields : List (String × α)} {r : Shorter s}
    (h : foldObject strict (fun acc name => (afterColon item).map fun v => (name, v) :: acc) true []
      s = .ok (fields, r)) :
    ∀ f ∈ fields, q f.2 := by
  refine foldObject_invariant (p := fun fields => ∀ f ∈ fields, q f.2) ?_ (List.forall_mem_nil _) h
  intro acc name s acc' r hacc hstep
  obtain ⟨a, ha, rfl⟩ := map_eq_ok hstep
  obtain ⟨s', r', hr'⟩ := afterColon_eq_ok ha
  exact List.forall_mem_cons.mpr ⟨hitem hr', hacc⟩

end Folds

-- Whatever is read fits, one container for each level of the reader.
theorem readValue_fits {strict : Bool} {depth : Nat} {s : List Char} {v : Json} {r : Shorter s}
    (h : readValue strict depth s = .ok (v, r)) : v.Fits depth := by
  induction depth generalizing s v with
  | zero =>
      rw [readValue] at h
      unfold readNested at h
      split at h
      · cases h
      split at h
      · cases h
      split at h
      · cases h
      · obtain ⟨r', hr', -⟩ := widen_eq_ok h
        exact readScalar_fits hr'
  | succ depth ih =>
      rw [readValue] at h
      unfold readNested at h
      split at h
      · cases h
      split at h
      · obtain ⟨r', hr', -⟩ := widen_eq_ok h
        obtain ⟨items, hitems, rfl⟩ := map_eq_ok hr'
        have hall := foldList_all (fun _ _ _ hv => ih hv) hitems
        exact fun v hv => hall v (List.mem_reverse.mp hv)
      split at h
      · obtain ⟨r', hr', -⟩ := widen_eq_ok h
        obtain ⟨fields, hfields, rfl⟩ := map_eq_ok hr'
        have hall := foldObject_all (fun _ _ _ hv => ih hv) hfields
        exact ⟨Keyed.ascending_ofList _,
          fun f hf => hall f (List.mem_reverse.mp (Keyed.mem_of_mem_ofList hf))⟩
      · obtain ⟨r', hr', -⟩ := widen_eq_ok h
        exact (readScalar_fits hr').fits _

end Json

end HostTelemetry
