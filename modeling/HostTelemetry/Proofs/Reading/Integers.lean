import HostTelemetry.Proofs.Record.RoundTrip
import HostTelemetry.Reading.Basic

namespace HostTelemetry

namespace Text

theorem trimChars_of_no_blank {cs : List Char} (h : ∀ c ∈ cs, isBlank c = false) :
    trimChars cs = cs := by
  have hdrop : ∀ {cs : List Char}, (∀ c ∈ cs, isBlank c = false) → cs.dropWhile isBlank = cs :=
    fun hcs => List.dropWhile_eq_self_iff.mpr fun _ => by simp [hcs]
  rw [trimChars, hdrop h, hdrop fun c hc => h c (List.mem_reverse.mp hc), List.reverse_reverse]

theorem isBlank_of_isDigit {c : Char} (h : c.isDigit = true) : isBlank c = false := by
  have hbounds : 48 ≤ c.toNat ∧ c.toNat ≤ 57 := by
    simpa [Char.isDigit, UInt32.le_iff_toNat_le] using h
  simp only [isBlank, Bool.or_eq_false_iff, Bool.and_eq_false_iff, decide_eq_false_iff_not,
    beq_eq_false_iff_ne]
  omega

theorem trim_repr (n : Int) : trim (Int.repr n) = Int.repr n := by
  have hdigits : ∀ m : Nat, ∀ c ∈ Nat.toDigits 10 m, isBlank c = false :=
    fun m c hc => isBlank_of_isDigit (Json.isDigit_of_mem_decimal hc)
  have hclear : ∀ c ∈ (Int.repr n).toList, isBlank c = false := by
    cases n with
    | ofNat m => rw [Json.repr_ofNat]; exact hdigits m
    | negSucc m =>
        rw [Json.repr_negSucc]
        exact List.forall_mem_cons.mpr ⟨by decide, hdigits (m + 1)⟩
  rw [trim, trimChars_of_no_blank hclear, String.ofList_toList]

end Text

namespace Decimal

theorem splitSign_of_isDigit {c : Char} (h : c.isDigit = true) (rest : List Char) :
    splitSign (c :: rest) = (false, c :: rest) := by
  rw [splitSign]
  · rintro more heq
    cases heq
    exact absurd h (by decide)
  · rintro more heq
    cases heq
    exact absurd h (by decide)

theorem readInt?_of_digits {s : String} {negative : Bool} {m : Nat}
    (h : splitSign s.toList = (negative, Nat.toDigits 10 m)) :
    readInt? s = some (if negative then -(m : Int) else m) := by
  have hnonempty : (Nat.toDigits 10 m).isEmpty = false :=
    List.isEmpty_eq_false_iff.mpr Nat.toDigits_ne_nil
  have hdigits : (Nat.toDigits 10 m).all Char.isDigit = true :=
    List.all_eq_true.mpr fun _ => Json.isDigit_of_mem_decimal
  rw [readInt?, h]
  dsimp only
  rw [hnonempty, hdigits, Json.ofDigits_toDigits]
  rfl

-- An integer is read from its digits, however large it is.
theorem readInt?_repr (n : Int) : readInt? (Int.repr n) = some n := by
  cases n with
  | ofNat m =>
      have hsplit : splitSign (Int.repr (Int.ofNat m)).toList = (false, Nat.toDigits 10 m) := by
        obtain ⟨c, more, hm, hc⟩ := Json.toDigits_cons m
        rw [Json.repr_ofNat, hm, splitSign_of_isDigit hc]
      exact readInt?_of_digits hsplit
  | negSucc m =>
      have hsplit : splitSign (Int.repr (Int.negSucc m)).toList =
          (true, Nat.toDigits 10 (m + 1)) := by
        rw [Json.repr_negSucc]
        rfl
      exact readInt?_of_digits hsplit

end Decimal

namespace Json

variable {n : Int}

theorem parse_repr (hlo : minInt ≤ n) (hhi : n < (Nat.pow 2 64 : Int)) :
    parse (Int.repr n) = .ok (.int n) := by
  have hwritten : Written (readValue true maxDepth) (Int.repr n).toList (.int n) :=
    written_of_readNumber (head_repr n) (readNumber_repr hlo hhi)
  have hgives := hwritten.reads [] [] blank_nil (by simp [Stops])
  rw [List.nil_append, List.append_nil] at hgives
  rw [parse, parseChars, hgives.readAll]

theorem coerceInt_int (hlo : minInt ≤ n) : (int n).coerceInt = some (min n maxInt) := by
  have hends : minInt ≤ maxInt := by decide
  rw [coerceInt, clampInt, min_comm, max_eq_right (le_min hlo hends)]

theorem coerceInt_text (hlo : minInt ≤ n) :
    (text (Int.repr n)).coerceInt = if n ≤ maxInt then some n else none := by
  rw [coerceInt, Text.trim_repr, Decimal.readInt?_repr, Option.filter_some, inIntRange,
    decide_eq_true hlo, Bool.true_and]
  simp only [decide_eq_true_eq]

end Json

namespace Reading

section Inserting

variable {fields : Fields} {key : String} {v : Json}

theorem present?_insert (hv : v.isNull = false) :
    present? (Keyed.insert key v fields) key = some v := by
  rw [present?, Keyed.find?_insert, if_pos rfl, Option.filter_some, hv]
  rfl

theorem int?_insert (hv : v.isNull = false) :
    int? (Keyed.insert key v fields) key = v.coerceInt := by
  rw [int?, present?_insert hv, Option.bind_some]

theorem intDiagnostics_insert (hv : v.isNull = false) :
    intDiagnostics (Keyed.insert key v fields) key =
      if v.coerceInt.isNone then [.notInteger key v] else [] := by
  rw [intDiagnostics, present?_insert hv]

end Inserting

-- Within the range a number and its digits are read alike. Past its end the digits are
-- refused and told of, while the number turns into the end of the range in silence.
theorem wide_integers_saturate {n : Int} (hlo : minInt ≤ n) (hhi : n < (Nat.pow 2 64 : Int)) :
    Json.parse (Int.repr n) = .ok (.int n) ∧
    (Json.int n).coerceInt = some (min n maxInt) ∧
    (Json.text (Int.repr n)).coerceInt = (if n ≤ maxInt then some n else none) ∧
    ((Json.int n).coerceInt = (Json.text (Int.repr n)).coerceInt ↔ n ≤ maxInt) ∧
    ∀ fields key,
      int? (Keyed.insert key (.int n) fields) key = some (min n maxInt) ∧
      intDiagnostics (Keyed.insert key (.int n) fields) key = [] ∧
      int? (Keyed.insert key (.text (Int.repr n)) fields) key =
        (if n ≤ maxInt then some n else none) ∧
      intDiagnostics (Keyed.insert key (.text (Int.repr n)) fields) key =
        (if n ≤ maxInt then [] else [.notInteger key (.text (Int.repr n))]) := by
  have hnumber := Json.coerceInt_int hlo
  have hdigits := Json.coerceInt_text hlo
  refine ⟨Json.parse_repr hlo hhi, hnumber, hdigits, ?_, fun fields key => ⟨?_, ?_, ?_, ?_⟩⟩
  · rw [hnumber, hdigits]
    constructor
    · intro heq
      by_contra hlarge
      rw [if_neg hlarge] at heq
      cases heq
    · intro hsmall
      rw [if_pos hsmall, min_eq_left hsmall]
  · rw [int?_insert rfl, hnumber]
  · rw [intDiagnostics_insert rfl, hnumber]
    rfl
  · rw [int?_insert rfl, hdigits]
  · rw [intDiagnostics_insert rfl, hdigits]
    by_cases hsmall : n ≤ maxInt
    · rw [if_pos hsmall, if_pos hsmall]; rfl
    · rw [if_neg hsmall, if_neg hsmall]; rfl

-- The first integer past the end of the range.
theorem wide_integers_saturate_first :
    (Json.int (maxInt + 1)).coerceInt = some maxInt ∧
    (Json.text (Int.repr (maxInt + 1))).coerceInt = none ∧
    intDiagnostics (Keyed.insert "rx" (.int (maxInt + 1)) []) "rx" = [] := by
  obtain ⟨-, hnumber, hdigits, -, hfields⟩ :=
    wide_integers_saturate (n := maxInt + 1) (by decide) (by decide)
  exact ⟨hnumber, hdigits, (hfields [] "rx").2.1⟩

-- So it is not the case that both readings keep the integers of the range and refuse all
-- others.
theorem coerceInt_past_end :
    ¬ ∀ n : Int, minInt ≤ n → n < (Nat.pow 2 64 : Int) →
      (Json.int n).coerceInt = (if n ≤ maxInt then some n else none) ∧
      (Json.text (Int.repr n)).coerceInt = (if n ≤ maxInt then some n else none) := by
  intro h
  have hnone : (Json.int (maxInt + 1)).coerceInt = none :=
    (h (maxInt + 1) (by decide) (by decide)).1
  cases hnone

end Reading

end HostTelemetry
