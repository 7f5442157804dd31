import HostTelemetry.Proofs.Json.Suffix
import Mathlib.Data.List.TakeWhile

namespace HostTelemetry.Json

variable {α σ : Type}

-- What is left, together with the bracket where that was the end.
def Next.withBracket (bracket : Char) {s : List Char} : Next s → List Char
  | .done r => bracket :: r.1
  | .more r => r.1

theorem nextItem_suffix {first : Bool} {s : List Char} {next : Next s}
    (h : nextItem first s = .ok next) : next.withBracket ']' <:+ s := by
  unfold nextItem at h
  split at h
  · cases h
  · next c rest _ hskip =>
      have hs := suffix_of_skipSpace hskip
      split at h
      · next hc => cases h; exact hc ▸ hs
      · split at h
        · cases h; exact hs
        · split at h
          · split at h
            · cases h
            · next d rest' _ hskip' =>
                split at h
                · cases h
                · cases h
                  exact (suffix_of_skipSpace hskip').trans ((List.suffix_cons c rest).trans hs)
          · cases h

theorem foldList_suffix {step : σ → Reader σ} (hstep : ∀ acc, LeavesSuffix (step acc))
    (first : Bool) (acc : σ) {s : List Char} {out : σ} {r : Shorter s}
    (h : foldList step first acc s = .ok (out, r)) : ']' :: r.1 <:+ s := by
  fun_induction foldList step first acc s generalizing out with
  | case1 first acc s e he => cases h
  | case2 first acc s r hr => cases h; exact nextItem_suffix hr
  | case3 first acc s r hr e he => cases h
  | case4 first acc s r hr acc' r' hr' hlt e he ih => cases h
  | case5 first acc s r hr acc' r' hr' hlt acc'' r'' hr'' ih =>
      cases h
      exact (ih hr'').trans ((hstep _ hr').trans (nextItem_suffix hr))

theorem nextField_suffix {first : Bool} {s : List Char} {next : Next s}
    (h : nextField first s = .ok next) : next.withBracket '\x7d' <:+ s := by
  unfold nextField at h
  split at h
  · cases h
  · next c rest _ hskip =>
      have hs := suffix_of_skipSpace hskip
      have hrest := (List.suffix_cons c rest).trans hs
      split at h
      · next hc => cases h; exact hc ▸ hs
      · split at h
        · split at h
          · cases h; exact hrest
          · cases h
        · split at h
          · split at h
            · cases h
            · next d rest' _ hskip' =>
                have hrest' := (suffix_of_skipSpace hskip').trans hrest
                split at h
                · cases h; exact (List.suffix_cons d rest').trans hrest'
                · split at h <;> cases h
          · cases h

theorem readColon_suffix {s : List Char} {r : Within s} (h : readColon s = .ok r) : r.1 <:+ s := by
  unfold readColon at h
  split at h
  · cases h
  · next c rest _ hskip =>
      split at h
      · cases h; exact (List.suffix_cons c rest).trans (suffix_of_skipSpace hskip)
      · cases h

theorem LeavesSuffix.afterColon {reader : Reader α} (h : LeavesSuffix reader) :
    LeavesSuffix (afterColon reader) := by
  intro s a r ha
  unfold Json.afterColon at ha
  split at ha
  · cases ha
  · next hcolon =>
      obtain ⟨r', hr', he⟩ := widen_eq_ok ha
      exact he ▸ (h hr').trans (readColon_suffix hcolon)

theorem foldObject_suffix {strict : Bool} {step : σ → String → Reader σ}
    (hstep : ∀ acc name, LeavesSuffix (step acc name)) (first : Bool) (acc : σ)
    {s : List Char} {out : σ} {r : Shorter s}
    (h : foldObject strict step first acc s = .ok (out, r)) : '\x7d' :: r.1 <:+ s := by
  fun_induction foldObject strict step first acc s generalizing out with
  | case1 first acc s e he => cases h
  | case2 first acc s r' hr' => cases h; exact nextField_suffix hr'
  | case3 first acc s r' hr' e he => cases h
  | case4 first acc s r' hr' name r₁ hname e he => cases h
  | case5 first acc s r' hr' name r₁ hname acc' r₂ hr₂ hlt e he ih => cases h
  | case6 first acc s r' hr' name r₁ hname acc' r₂ hr₂ hlt acc'' r₃ hr₃ ih =>
      cases h
      exact (ih hr₃).trans ((hstep _ _ hr₂).trans
        ((readText_suffix strict hname).trans (nextField_suffix hr')))

theorem readScalar_scalar {strict : Bool} {s : List Char} {v : Json} {r : Shorter s}
    (h : readScalar strict s = .ok (v, r)) : r.1 <:+ s ∧ ∀ fields, v ≠ .object fields := by
  cases s with
  | nil => cases h
  | cons c rest =>
      have hword : ∀ {letters : List Char} {r' : Within rest},
          expectWord letters rest = .ok r' → r'.1 <:+ c :: rest :=
        fun hr => (expectWord_suffix hr).trans (List.suffix_cons c rest)
      simp only [readScalar] at h
      split at h
      · split at h
        · cases h
        · next hr => cases h; exact ⟨hword hr, nofun⟩
      · split at h
        · split at h
          · cases h
          · next hr => cases h; exact ⟨hword hr, nofun⟩
        · split at h
          · split at h
            · cases h
            · next hr => cases h; exact ⟨hword hr, nofun⟩
          · split at h
            · split at h
              · cases h
              · next hcs =>
                  cases h
                  exact ⟨(readText_suffix strict hcs).trans (List.suffix_cons c rest), nofun⟩
            · split at h
              · exact readNumber_scalar h
              · cases h

-- A value is a list or an object by its first character and ends with the
-- bracket that belongs to it; otherwise it is a scalar.
theorem readNested_cases {strict : Bool} {inner : Option (Reader Json)}
    (hinner : ∀ item ∈ inner, LeavesSuffix item) {s : List Char} {v : Json} {r : Shorter s}
    (h : readNested strict inner s = .ok (v, r)) :
    (∃ items inside, v = .list items ∧ (skipSpace s).1 = '[' :: inside ∧ ']' :: r.1 <:+ inside) ∨
    (∃ fields inside, v = .object fields ∧ (skipSpace s).1 = '\x7b' :: inside ∧
      '\x7d' :: r.1 <:+ inside) ∨
    ∃ r', readScalar strict (skipSpace s).1 = .ok (v, r') ∧ r'.1 = r.1 := by
  unfold readNested at h
  split at h
  · cases h
  · next c rest _ hskip =>
      rw [hskip]
      split at h
      · next hc =>
          split at h
          · cases h
          · next item =>
              obtain ⟨r', hr', he⟩ := widen_eq_ok h
              obtain ⟨items, hitems, rfl⟩ := map_eq_ok hr'
              have hend := foldList_suffix (fun _ => (hinner item rfl).map _) true [] hitems
              exact .inl ⟨_, rest, rfl, hc ▸ rfl, he ▸ hend⟩
      · split at h
        · next hc =>
            split at h
            · cases h
            · next item =>
                obtain ⟨r', hr', he⟩ := widen_eq_ok h
                obtain ⟨fields, hfields, rfl⟩ := map_eq_ok hr'
                have hend := foldObject_suffix
                  (fun _ _ => (hinner item rfl).afterColon.map _) true [] hfields
                exact .inr (.inl ⟨_, rest, rfl, hc ▸ rfl, he ▸ hend⟩)
        · obtain ⟨r', hr', he⟩ := widen_eq_ok h
          exact .inr (.inr ⟨r', hr', he⟩)

theorem LeavesSuffix.readNested {strict : Bool} {inner : Option (Reader Json)}
    (hinner : ∀ item ∈ inner, LeavesSuffix item) : LeavesSuffix (readNested strict inner) := by
  intro s v r h
  have hs := skipSpace_suffix s
  rcases readNested_cases hinner h with
    ⟨_, inside, -, hinside, hr⟩ | ⟨_, inside, -, hinside, hr⟩ | ⟨r', hr', he⟩
  · exact (List.suffix_cons _ _).trans (hr.trans ((List.suffix_cons _ _).trans (hinside ▸ hs)))
  · exact (List.suffix_cons _ _).trans (hr.trans ((List.suffix_cons _ _).trans (hinside ▸ hs)))
  · exact he ▸ (readScalar_scalar hr').1.trans hs

theorem readValue_suffix (strict : Bool) (depth : Nat) : LeavesSuffix (readValue strict depth) := by
  induction depth with
  | zero => exact .readNested fun item hitem => by cases hitem
  | succ depth ih => exact .readNested fun item hitem => by cases hitem; exact ih

theorem readValue_object {strict : Bool} {depth : Nat} {s : List Char}
    {fields : List (String × Json)} {r : Shorter s}
    (h : readValue strict depth s = .ok (.object fields, r)) :
    ∃ inside, (skipSpace s).1 = '\x7b' :: inside ∧ '\x7d' :: r.1 <:+ inside := by
  obtain ⟨inner, hinner, he⟩ : ∃ inner, (∀ item ∈ inner, LeavesSuffix item) ∧
      readValue strict depth = readNested strict inner := by
    cases depth with
    | zero => exact ⟨none, nofun, rfl⟩
    | succ depth =>
        exact ⟨some _, fun item hitem => by cases hitem; exact readValue_suffix _ _, rfl⟩
  rw [he] at h
  rcases readNested_cases hinner h with
    ⟨_, _, hv, -, -⟩ | ⟨_, inside, -, hinside, hr⟩ | ⟨_, hr, -⟩
  · cases hv
  · exact ⟨inside, hinside, hr⟩
  · exact absurd rfl ((readScalar_scalar hr).2 fields)

theorem readAll_eq_ok {reader : Reader α} {s : List Char} {a : α} (h : readAll reader s = .ok a) :
    ∃ r, reader s = .ok (a, r) ∧ r.1.all isSpace := by
  unfold readAll at h
  split at h
  · cases h
  · next a' r hr =>
      split at h
      · next hskip =>
          cases h
          have hend : r.1.dropWhile isSpace = [] := congrArg Subtype.val hskip
          exact ⟨r, hr, List.all_eq_true.mpr (List.dropWhile_eq_nil_iff.mp hend)⟩
      · cases h

-- The text of an object starts with its opening brace and ends with its closing
-- one, blanks apart.
theorem braces_of_parseChars {s : List Char} {fields : List (String × Json)}
    (h : parseChars s = .ok (.object fields)) :
    ∃ lead inside trail, s = lead ++ ('\x7b' :: inside ++ ['\x7d']) ++ trail ∧
      lead.all isSpace ∧ trail.all isSpace := by
  obtain ⟨r, hr, htrail⟩ := readAll_eq_ok h
  obtain ⟨inside, hskip, before, hbefore⟩ := readValue_object hr
  refine ⟨s.takeWhile isSpace, before, r.1, ?_, List.all_takeWhile, htrail⟩
  have hs : s.dropWhile isSpace = '\x7b' :: inside := hskip
  calc s = s.takeWhile isSpace ++ s.dropWhile isSpace := List.takeWhile_append_dropWhile.symm
    _ = s.takeWhile isSpace ++ ('\x7b' :: before ++ ['\x7d']) ++ r.1 := by
      rw [hs, ← hbefore]; simp

end HostTelemetry.Json
