import HostTelemetry.Proofs.Json.Fits
import HostTelemetry.Proofs.Json.Indented

namespace HostTelemetry.Json

section Floats

def isNumeral (c : Char) : Bool :=
  c.isDigit || c == '.' || c == 'e' || c == '+' || c == '-'

-- What starts with a digit and goes on like a number.
structure Numeral (cs : List Char) : Prop where
  head : cs.head?.any Char.isDigit = true
  all : ∀ c ∈ cs, isNumeral c = true

theorem Numeral.append {cs more : List Char} (h : Numeral cs)
    (hmore : ∀ c ∈ more, isNumeral c = true) : Numeral (cs ++ more) where
  head := by
    cases cs with
    | nil => cases h.head
    | cons c cs => exact h.head
  all c hc := (List.mem_append.mp hc).elim (h.all c) (hmore c)

theorem numeral_of_digits {cs : List Char} (hne : cs ≠ []) (h : ∀ c ∈ cs, c.isDigit = true) :
    Numeral cs where
  head := by
    cases cs with
    | nil => exact absurd rfl hne
    | cons c cs => exact h c List.mem_cons_self
  all c hc := by simp [isNumeral, h c hc]

theorem numeral_toDigits (n : Nat) : Numeral (Nat.toDigits 10 n) :=
  numeral_of_digits Nat.toDigits_ne_nil fun _ => isDigit_of_mem_decimal

theorem numeral_show (layout : FloatLayout) (d : Decimal.Scaled) :
    Numeral (layout.show d).toList := by
  have hdigits := numeral_toDigits d.digits
  have hzeros : ∀ n, ∀ c ∈ List.replicate n '0', isNumeral c = true := by
    intro n c hc
    rw [List.eq_of_mem_replicate hc]
    rfl
  unfold FloatLayout.show
  dsimp only
  split
  · split
    · rw [String.toList_ofList]
      exact (hdigits.append (hzeros _)).append (List.all_eq_true.mp rfl)
    split
    · rw [String.toList_ofList]
      have hwhole : Numeral ((Nat.toDigits 10 d.digits).take
          ((d.exponent + (Nat.toDigits 10 d.digits).length - 1).toNat + 1)) :=
        numeral_of_digits (by simp)
          fun c hc => isDigit_of_mem_decimal (List.mem_of_mem_take hc)
      refine hwhole.append fun c hc => ?_
      rcases List.mem_cons.mp hc with rfl | hc
      · rfl
      · exact hdigits.all c (List.mem_of_mem_drop hc)
    · rw [String.toList_ofList]
      have hzero : Numeral ['0', '.'] := ⟨rfl, List.all_eq_true.mp rfl⟩
      exact (hzero.append (hzeros _)).append hdigits.all
  · have hsign : ∀ c ∈ (if d.exponent + (Nat.toDigits 10 d.digits).length - 1 < 0 then "e-"
        else "e+").toList, isNumeral c = true := by
      split <;> exact List.all_eq_true.mp rfl
    rw [String.toList_append, String.toList_append, String.toList_ofList, Nat.toList_repr]
    refine Numeral.append (Numeral.append ?_ hsign) (numeral_toDigits _).all
    split
    · next h => exact absurd h Nat.toDigits_ne_nil
    · next c h => exact h ▸ hdigits
    · next c cs _ h =>
        rw [h] at hdigits
        refine ⟨hdigits.head, fun e he => ?_⟩
        rcases List.mem_cons.mp he with rfl | he
        · exact hdigits.all _ List.mem_cons_self
        rcases List.mem_cons.mp he with rfl | he
        · rfl
        · exact hdigits.all e (List.mem_cons_of_mem _ he)

theorem numeral_showFloat {f : Float} (h : Decimal.isFinite f = true) :
    ∃ sign digits, (showFloat f).toList = sign ++ digits ∧ (sign = [] ∨ sign = ['-']) ∧
      Numeral digits := by
  rw [showFloat, if_neg (by simp [h])]
  split
  · refine ⟨['-'], _, ?_, .inr rfl, numeral_show floatLayout (Decimal.Binary.ofFloat f).shortest⟩
    rw [String.toList_append]
    rfl
  · exact ⟨[], _, rfl, .inl rfl, numeral_show _ _⟩

theorem isSpace_of_isNumeral {c : Char} (h : isNumeral c = true) : isSpace c = false := by
  rw [← Bool.not_eq_true]
  intro hspace
  simp only [isSpace, Bool.or_eq_true, beq_iff_eq] at hspace
  rcases hspace with ((rfl | rfl) | rfl) | rfl <;> exact absurd h (by decide)

theorem readScalar_number {c : Char} (h : c = '-' ∨ c.isDigit = true) (more : List Char) :
    readScalar true (c :: more) = readNumber true (c :: more) := by
  have hn : c ≠ 'n' := by rintro rfl; exact absurd h (by decide)
  have ht : c ≠ 't' := by rintro rfl; exact absurd h (by decide)
  have hf : c ≠ 'f' := by rintro rfl; exact absurd h (by decide)
  have hq : c ≠ '"' := by rintro rfl; exact absurd h (by decide)
  rw [readScalar, if_neg hn, if_neg ht, if_neg hf, if_neg hq, if_pos h]

end Floats

theorem readValue_eq_nested (depth : Nat) :
    ∃ inner, readValue true depth = readNested true inner := by
  cases depth with
  | zero => exact ⟨_, rfl⟩
  | succ depth => exact ⟨_, rfl⟩

-- The text of the float stands for the float again.
def ReadsBack (f : Float) : Prop :=
  Decimal.isFinite f = true ∧ parse (showFloat f) = .ok (.float f)

def isFloat (f : Float) : Except String Json → Bool
  | .ok (.float g) => g = f
  | _ => false

theorem isFloat_iff {f : Float} {result : Except String Json} :
    isFloat f result = true ↔ result = .ok (.float f) := by
  unfold isFloat
  split
  · simp
  · next h => simpa using h f

instance (f : Float) : Decidable (ReadsBack f) :=
  decidable_of_iff (Decimal.isFinite f = true ∧ isFloat f (parse (showFloat f)) = true)
    (and_congr_right fun _ => isFloat_iff)

section Scalars

theorem head_showFloat {f : Float} (h : Decimal.isFinite f = true) :
    ∃ c more, (showFloat f).toList = c :: more ∧ (c = '-' ∨ c.isDigit = true) := by
  obtain ⟨sign, digits, htext, hsign, hnumeral⟩ := numeral_showFloat h
  rcases hsign with rfl | rfl
  · cases digits with
    | nil => cases hnumeral.head
    | cons c more => exact ⟨c, more, htext, .inr hnumeral.head⟩
  · exact ⟨'-', digits, htext, .inl rfl⟩

theorem not_space_of_mem_showFloat {f : Float} (h : Decimal.isFinite f = true) {c : Char}
    (hc : c ∈ (showFloat f).toList) : isSpace c = false := by
  obtain ⟨sign, digits, htext, hsign, hnumeral⟩ := numeral_showFloat h
  rw [htext] at hc
  rcases List.mem_append.mp hc with hc | hc
  · rcases hsign with rfl | rfl
    · cases hc
    · rw [List.mem_singleton.mp hc]
      rfl
  · exact isSpace_of_isNumeral (hnumeral.all c hc)

theorem number_head {c : Char} (h : c = '-' ∨ c.isDigit = true) :
    isSpace c = false ∧ c ≠ ']' ∧ c ≠ '[' ∧ c ≠ '\x7b' := by
  have hdigit : ∀ d : Char, d.isDigit = false → d ≠ '-' → c ≠ d := by
    rintro d hd hminus rfl
    exact h.elim hminus fun h => by rw [hd] at h; cases h
  have hnumeral : isNumeral c = true := by
    rcases h with rfl | h
    · rfl
    · simp [isNumeral, h]
  exact ⟨isSpace_of_isNumeral hnumeral, hdigit _ (by decide) (by decide),
    hdigit _ (by decide) (by decide), hdigit _ (by decide) (by decide)⟩

theorem ReadsBack.readNumber {f : Float} (h : ReadsBack f) :
    Gives (readNumber true (showFloat f).toList) (.float f) [] := by
  obtain ⟨hfinite, hparse⟩ := h
  have hspaces : ∀ c ∈ (showFloat f).toList, isSpace c = false :=
    fun _ => not_space_of_mem_showFloat hfinite
  obtain ⟨c, more, htext, hhead⟩ := head_showFloat hfinite
  obtain ⟨hspace, -, hlist, hobject⟩ := number_head hhead
  obtain ⟨inner, hinner⟩ := readValue_eq_nested maxDepth
  have hchars : parseChars (showFloat f).toList = .ok (.float f) := by
    unfold parse at hparse
    split at hparse
    · next hchars => rw [hchars]; cases hparse; rfl
    · cases hparse
  obtain ⟨left, hgives, hleft⟩ : ∃ left,
      Gives (readValue true maxDepth (showFloat f).toList) (.float f) left ∧ left.all isSpace := by
    obtain ⟨r, hr, hleft⟩ := readAll_eq_ok hchars
    exact ⟨r.1, ⟨r, hr, rfl⟩, hleft⟩
  rw [htext, hinner] at hgives
  have hnumber := (readNested_scalar_iff blank_nil hspace hlist hobject).mp hgives
  rw [readScalar_number hhead] at hnumber
  -- a number is read to its end, for what could be left of it is no blank
  have hnil : left = [] := by
    obtain ⟨r, hr, rfl⟩ := hnumber
    have hsuffix := (readNumber_scalar hr).1
    cases hrest : r.1 with
    | nil => rfl
    | cons d rest =>
        rw [hrest] at hsuffix hleft
        have hd := hspaces d (htext ▸ hsuffix.subset List.mem_cons_self)
        simp [hd] at hleft
  rw [hnil, ← htext] at hnumber
  exact hnumber

theorem written_of_readScalar {depth : Nat} {c : Char} {more : List Char} {v : Json}
    (hc : isSpace c = false ∧ c ≠ ']' ∧ c ≠ '[' ∧ c ≠ '\x7b')
    (h : ∀ rest, Stops rest → Gives (readScalar true (c :: (more ++ rest))) v rest) :
    Written (readValue true depth) (c :: more) v where
  starts := ⟨c, more, rfl, hc.1, hc.2.1⟩
  reads blanks rest hblank hrest := by
    obtain ⟨inner, hinner⟩ := readValue_eq_nested depth
    rw [hinner, List.cons_append]
    exact (readNested_scalar_iff hblank hc.1 hc.2.2.1 hc.2.2.2).mpr (h rest hrest)

theorem written_of_readNumber {depth : Nat} {text : List Char} {v : Json}
    (hhead : ∃ c more, text = c :: more ∧ (c = '-' ∨ c.isDigit = true))
    (h : Gives (readNumber true text) v []) : Written (readValue true depth) text v := by
  obtain ⟨c, more, rfl, hc⟩ := hhead
  refine written_of_readScalar (number_head hc) fun rest hrest => ?_
  rw [readScalar_number hc]
  exact readNumber_append hrest h

theorem expectWord_append (word rest : List Char) :
    ∃ r, expectWord word (word ++ rest) = .ok r ∧ r.1 = rest := by
  induction word with
  | nil => exact ⟨_, by cases rest <;> rfl, rfl⟩
  | cons w word ih =>
      obtain ⟨r, hr, hrest⟩ := ih
      rw [List.cons_append, expectWord, if_pos rfl, hr]
      exact ⟨_, rfl, hrest⟩

theorem written_null (depth : Nat) : Written (readValue true depth) (showScalar .null).toList .null := by
  have htext : (showScalar .null).toList = 'n' :: ['u', 'l', 'l'] := by decide
  rw [htext]
  refine written_of_readScalar (by decide) fun rest _ => ?_
  obtain ⟨r, hr, hrest⟩ := expectWord_append ['u', 'l', 'l'] rest
  rw [readScalar, if_pos rfl]
  dsimp only
  rw [hr]
  exact ⟨_, rfl, hrest⟩

theorem written_bool (depth : Nat) (b : Bool) :
    Written (readValue true depth) (showScalar (.bool b)).toList (.bool b) := by
  cases b with
  | true =>
      have htext : (showScalar (.bool true)).toList = 't' :: ['r', 'u', 'e'] := by decide
      rw [htext]
      refine written_of_readScalar (by decide) fun rest _ => ?_
      obtain ⟨r, hr, hrest⟩ := expectWord_append ['r', 'u', 'e'] rest
      rw [readScalar, if_neg (by decide), if_pos rfl]
      dsimp only
      rw [hr]
      exact ⟨_, rfl, hrest⟩
  | false =>
      have htext : (showScalar (.bool false)).toList = 'f' :: ['a', 'l', 's', 'e'] := by decide
      rw [htext]
      refine written_of_readScalar (by decide) fun rest _ => ?_
      obtain ⟨r, hr, hrest⟩ := expectWord_append ['a', 'l', 's', 'e'] rest
      rw [readScalar, if_neg (by decide), if_neg (by decide), if_pos rfl]
      dsimp only
      rw [hr]
      exact ⟨_, rfl, hrest⟩

theorem written_text (depth : Nat) (s : String) :
    Written (readValue true depth) (showText s).toList (.text s) := by
  have htext : (showText s).toList = '"' :: (s.toList.flatMap escapeChar ++ ['"']) := by
    simpa using showText_append s []
  rw [htext]
  refine written_of_readScalar (by decide) fun rest _ => ?_
  obtain ⟨r, hr, hrest⟩ := readText_escaped s.toList rest
  rw [List.append_assoc, List.singleton_append, readScalar, if_neg (by decide),
    if_neg (by decide), if_neg (by decide), if_pos rfl, hr]
  dsimp only
  rw [String.ofList_toList]
  exact ⟨_, rfl, hrest⟩

theorem head_repr (n : Int) :
    ∃ c more, (Int.repr n).toList = c :: more ∧ (c = '-' ∨ c.isDigit = true) := by
  cases n with
  | ofNat m =>
      obtain ⟨c, more, hm, hdigit⟩ := toDigits_cons m
      exact ⟨c, more, (repr_ofNat m).trans hm, .inr hdigit⟩
  | negSucc m => exact ⟨'-', _, repr_negSucc m, .inl rfl⟩

end Scalars

-- The value has the float in it, at any depth.
inductive Holds (f : Float) : Json → Prop
  | here : Holds f (.float f)
  | item {items : List Json} {v : Json} (hv : v ∈ items) (h : Holds f v) : Holds f (.list items)
  | field {fields : List (String × Json)} {name : String} {v : Json} (hv : (name, v) ∈ fields)
      (h : Holds f v) : Holds f (.object fields)

-- What a text keeps.
structure Storable (depth : Nat) (v : Json) : Prop where
  fits : v.Fits depth
  readsBack : ∀ f, v.Holds f → ReadsBack f

theorem written_scalar {v : Json} (hfits : v.ScalarFits) (hfloats : ∀ f, v.Holds f → ReadsBack f)
    (depth indent : Nat) : Written (readValue true depth) (renderIndented indent v).toList v := by
  have hscalar : renderIndented indent v = showScalar v := by
    cases v with
    | list items => exact hfits.elim
    | object fields => exact hfits.elim
    | _ => simp [renderIndented]
  rw [hscalar]
  cases v with
  | null => exact written_null depth
  | bool b => exact written_bool depth b
  | int n => exact written_of_readNumber (head_repr n) (readNumber_repr hfits.1 hfits.2)
  | float f =>
      have hback := hfloats f .here
      exact written_of_readNumber (head_showFloat hback.1) hback.readNumber
  | text s => exact written_text depth s
  | list items => exact hfits.elim
  | object fields => exact hfits.elim

-- What is written in the indented form reads back, wherever it stands. The induction
-- is on the containers that may still be opened, as in the reader.
theorem Storable.written {depth : Nat} {v : Json} (h : Storable depth v) (indent : Nat) :
    Written (readValue true depth) (renderIndented indent v).toList v := by
  induction depth generalizing v indent with
  | zero => exact written_scalar h.fits h.readsBack 0 indent
  | succ depth ih =>
      obtain ⟨hfits, hfloats⟩ := h
      cases v with
      | list items =>
          have hitems : ∀ v ∈ items, Written (readValue true depth) (renderInner indent v) v :=
            fun v hv => ih ⟨hfits v hv, fun f hf => hfloats f (.item hv hf)⟩ (indent + 1)
          have hrender := renderIndented_list indent items
          refine ⟨⟨'[', _, by simpa using hrender [], by decide⟩, fun blanks rest hblank _ => ?_⟩
          rw [hrender]
          exact readNested_list hblank (foldList_itemsText hitems indent rest)
      | object fields =>
          obtain ⟨hascending, hfields⟩ := hfits
          have hvalues : ∀ f ∈ fields,
              Written (readValue true depth) (renderInner indent f.2) f.2 := fun f hf =>
            ih ⟨hfields f hf, fun g hg => hfloats g (.field hf hg)⟩ (indent + 1)
          have hrender := renderIndented_object indent fields
          refine ⟨⟨'\x7b', _, by simpa using hrender [], by decide⟩, fun blanks rest hblank _ => ?_⟩
          have hread := readNested_object hblank (foldObject_fieldsText hvalues indent rest)
          rw [ofKeyed, Keyed.ofList_of_ascending hascending] at hread
          rw [hrender]
          exact hread
      | _ => exact written_scalar hfits hfloats _ indent

end HostTelemetry.Json
