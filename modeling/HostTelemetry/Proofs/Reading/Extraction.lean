import HostTelemetry.Proofs.Json.Braces
import HostTelemetry.Proofs.Text.Ends
import HostTelemetry.Reading.Extract

namespace HostTelemetry.Reading

open Text (dropEnds)

-- The text from the first opening brace to the last closing one, where the one
-- comes before the other.
def IsSpan (cs span : List Char) : Prop :=
  ∃ before inside after, cs = before ++ span ++ after ∧ span = '\x7b' :: inside ++ ['\x7d'] ∧
    '\x7b' ∉ before ∧ '\x7d' ∉ after

theorem all_ne_iff {brace : Char} {cs : List Char} :
    cs.all (fun c => decide (c ≠ brace)) ↔ brace ∉ cs := by
  simp only [List.all_eq_true, decide_eq_true_eq]
  exact ⟨fun h hc => h brace hc rfl, fun h c hc he => h (he ▸ hc)⟩

theorem objectSpan?_eq (cs : List Char) :
    objectSpan? cs = match dropEnds (· ≠ '\x7b') (· ≠ '\x7d') cs with
      | [] => none
      | span => some span := rfl

theorem objectSpan?_append {before after : List Char} (hbefore : '\x7b' ∉ before)
    (hafter : '\x7d' ∉ after) (cs : List Char) :
    objectSpan? (before ++ cs ++ after) = objectSpan? cs := by
  rw [objectSpan?_eq, Text.dropEnds_append_right (all_ne_iff.mpr hafter),
    Text.dropEnds_append_left (all_ne_iff.mpr hbefore), objectSpan?_eq]

theorem braced_of_ends {core : List Char} (hne : core ≠ [])
    (hfirst : ∀ c, core.head? = some c → c = '\x7b')
    (hlast : ∀ c, core.getLast? = some c → c = '\x7d') :
    ∃ inside, core = '\x7b' :: inside ++ ['\x7d'] := by
  obtain ⟨c, rest, rfl⟩ := List.exists_cons_of_ne_nil hne
  obtain rfl := hfirst c rfl
  rcases List.eq_nil_or_concat rest with rfl | ⟨inside, d, rfl⟩
  · exact absurd (hlast _ rfl) (by decide)
  · obtain rfl := hlast d (by
      rw [List.concat_eq_append, ← List.cons_append, List.getLast?_concat])
    exact ⟨inside, by simp⟩

theorem objectSpan?_eq_some_iff {cs span : List Char} :
    objectSpan? cs = some span ↔ IsSpan cs span := by
  constructor
  · intro h
    rw [objectSpan?_eq] at h
    split at h
    · cases h
    · next hne =>
        cases h
        obtain ⟨before, after, hcs, hbefore, hafter⟩ :=
          Text.dropEnds_split (· ≠ '\x7b') (· ≠ '\x7d') cs
        obtain ⟨inside, hinside⟩ := braced_of_ends hne
          (fun c hc => by simpa using Text.head?_dropEnds hc)
          (fun c hc => by simpa using Text.getLast?_dropEnds hc)
        exact ⟨before, inside, after, hcs, hinside, all_ne_iff.mp hbefore, all_ne_iff.mp hafter⟩
  · rintro ⟨before, inside, after, rfl, rfl, hbefore, hafter⟩
    rw [objectSpan?_append hbefore hafter]
    simp [objectSpan?]

theorem not_mem_of_all_isBlank {brace : Char} (hbrace : Text.isBlank brace = false)
    {blanks : List Char} (h : blanks.all Text.isBlank) : brace ∉ blanks := by
  intro hmem
  have hblank := List.all_eq_true.mp h brace hmem
  rw [hbrace] at hblank
  cases hblank

-- No brace is trimmed away, so trimming does not move the span.
theorem objectSpan?_trimChars (cs : List Char) :
    objectSpan? (Text.trimChars cs) = objectSpan? cs := by
  obtain ⟨lead, trail, hcs, hlead, htrail⟩ := Text.dropEnds_split Text.isBlank Text.isBlank cs
  conv_rhs => rw [hcs]
  exact (objectSpan?_append (not_mem_of_all_isBlank (by decide) hlead)
    (not_mem_of_all_isBlank (by decide) htrail) _).symm

theorem all_isBlank_of_all_isSpace {cs : List Char} (h : cs.all Json.isSpace) :
    cs.all Text.isBlank := by
  rw [List.all_eq_true] at h ⊢
  intro c hc
  have hspace := h c hc
  simp only [Json.isSpace, Bool.or_eq_true, beq_iff_eq] at hspace
  rcases hspace with ((rfl | rfl) | rfl) | rfl <;> decide

-- A trimmed text that is an object is its own span.
theorem braced_of_trimmed {cs : List Char} {fields : Fields}
    (h : Json.parseChars (Text.trimChars cs) = .ok (.object fields)) :
    ∃ inside, Text.trimChars cs = '\x7b' :: inside ++ ['\x7d'] := by
  obtain ⟨lead, inside, trail, hcs, hlead, htrail⟩ := Json.braces_of_parseChars h
  obtain ⟨rfl, rfl⟩ := Text.eq_nil_of_dropEnds hcs (all_isBlank_of_all_isSpace hlead)
    (all_isBlank_of_all_isSpace htrail)
  exact ⟨inside, by simpa using hcs⟩

theorem objectSpan?_of_trimmed {cs : List Char} {fields : Fields}
    (h : Json.parseChars (Text.trimChars cs) = .ok (.object fields)) :
    objectSpan? (Text.trimChars cs) = some (Text.trimChars cs) := by
  obtain ⟨inside, hinside⟩ := braced_of_trimmed h
  exact objectSpan?_eq_some_iff.mpr
    ⟨[], inside, [], by simp, hinside, List.not_mem_nil, List.not_mem_nil⟩

theorem parseChars_of_parse {text : String} {v : Json} (h : Json.parse text = .ok v) :
    Json.parseChars text.toList = .ok v := by
  unfold Json.parse at h
  split at h
  · next hv => cases h; exact hv
  · cases h

theorem readObject_eq_ok_iff {cs : List Char} {fields : Fields} :
    readObject cs = .ok fields ↔ Json.parseChars cs = .ok (.object fields) := by
  unfold readObject
  constructor
  · intro h
    split at h
    · next hparse => cases h; exact hparse
    · cases h
    · cases h
  · intro h
    rw [h]

-- Reading the whole text comes to the same as reading the span.
theorem extractObject_eq_ok_iff {output : String} {fields : Fields} :
    extractObject output = .ok fields ↔
      ∃ span, IsSpan output.toList span ∧ Json.parseChars span = .ok (.object fields) := by
  have hspan : ∀ {span}, IsSpan output.toList span ↔
      objectSpan? (Text.trimChars output.toList) = some span := by
    intro span
    rw [objectSpan?_trimChars, objectSpan?_eq_some_iff]
  constructor
  · intro h
    unfold extractObject at h
    dsimp only at h
    split at h
    · cases h
    · split at h
      · next hwhole =>
          cases h
          have hparse := readObject_eq_ok_iff.mp hwhole
          exact ⟨_, hspan.mpr (objectSpan?_of_trimmed hparse), hparse⟩
      · split at h
        · cases h
        · next span hsome =>
            split at h
            · next hread => cases h; exact ⟨span, hspan.mpr hsome, readObject_eq_ok_iff.mp hread⟩
            · cases h
  · rintro ⟨span, hs, hparse⟩
    have hsome := hspan.mp hs
    have hcons : (Text.trimChars output.toList).isEmpty = false := by
      cases htrim : Text.trimChars output.toList with
      | nil => rw [htrim] at hsome; cases hsome
      | cons c rest => rfl
    unfold extractObject
    simp only [hcons, Bool.false_eq_true, if_false]
    cases hwhole : readObject (Text.trimChars output.toList) with
    | ok whole =>
        have hparse' := readObject_eq_ok_iff.mp hwhole
        have hself := objectSpan?_of_trimmed hparse'
        obtain rfl : Text.trimChars output.toList = span :=
          Option.some.inj (hself.symm.trans hsome)
        have hsame := hparse'.symm.trans hparse
        cases hsame
        rfl
    | error reason => simp only [hsome, readObject_eq_ok_iff.mpr hparse]

theorem extractObject_eq_error {output : String} {e : SampleFault}
    (h : extractObject output = .error e) :
    ∃ reason, e = .malformed reason (SampleFault.excerpt output) := by
  unfold extractObject at h
  dsimp only at h
  split at h
  · cases h; exact ⟨_, rfl⟩
  · split at h
    · cases h
    · split at h
      · cases h; exact ⟨_, rfl⟩
      · split at h
        · cases h
        · cases h; exact ⟨_, rfl⟩

-- Whatever stands around the report, it is found by the first and the last brace;
-- everything else is refused with the start of what was printed.
theorem extractObject_noise (output : String) :
    (∀ fields, extractObject output = .ok fields ↔
      ∃ span, IsSpan output.toList span ∧ Json.parseChars span = .ok (.object fields)) ∧
    (∀ before text after fields, output = before ++ text ++ after →
      '\x7b' ∉ before.toList → '\x7d' ∉ after.toList → Text.trim text = text →
      Json.parse text = .ok (.object fields) → extractObject output = .ok fields) ∧
    ((¬∃ span fields, IsSpan output.toList span ∧
        Json.parseChars span = .ok (.object fields)) →
      ∃ reason, extractObject output = .error (.malformed reason (SampleFault.excerpt output))) := by
  refine ⟨fun fields => extractObject_eq_ok_iff, ?_, ?_⟩
  · rintro before text after fields rfl hbefore hafter htrim hparse
    have htext : Text.trimChars text.toList = text.toList := by
      rw [← String.toList_ofList (l := Text.trimChars text.toList)]
      exact congrArg String.toList htrim
    have hchars := parseChars_of_parse hparse
    obtain ⟨inside, hinside⟩ := braced_of_trimmed (htext.symm ▸ hchars)
    have hspan : IsSpan (before ++ text ++ after).toList text.toList :=
      ⟨before.toList, inside, after.toList, by simp only [String.toList_append],
        htext ▸ hinside, hbefore, hafter⟩
    exact extractObject_eq_ok_iff.mpr ⟨text.toList, hspan, hchars⟩
  · intro hnone
    cases h : extractObject output with
    | ok fields =>
        obtain ⟨span, hspan, hparse⟩ := extractObject_eq_ok_iff.mp h
        exact absurd ⟨span, fields, hspan, hparse⟩ hnone
    | error e =>
        obtain ⟨reason, rfl⟩ := extractObject_eq_error h
        exact ⟨reason, rfl⟩

theorem extractObject_banner : ∃ fields,
    Json.parse "\x7b\"cpu\":\"\x7d\"\x7d" = .ok (.object fields) ∧
    extractObject ("Last login: \x7d\n" ++ "\x7b\"cpu\":\"\x7d\"\x7d" ++ "\n[\x7bdone]\n") =
      .ok fields := by
  have hread : (readObject "\x7b\"cpu\":\"\x7d\"\x7d".toList).toOption.isSome := by decide +kernel
  cases h : readObject "\x7b\"cpu\":\"\x7d\"\x7d".toList with
  | error reason => rw [h] at hread; cases hread
  | ok fields =>
      have hparse : Json.parse "\x7b\"cpu\":\"\x7d\"\x7d" = .ok (.object fields) := by
        rw [Json.parse, readObject_eq_ok_iff.mp h]
      exact ⟨fields, hparse, (extractObject_noise _).2.1 _ _ _ _ rfl (by decide) (by decide)
        (by decide +kernel) hparse⟩

end HostTelemetry.Reading
