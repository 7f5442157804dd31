import HostTelemetry.Json.Printer
import HostTelemetry.Json.Value
import HostTelemetry.Proofs.Json.Numerals
import HostTelemetry.Proofs.Keyed

namespace HostTelemetry.Json

variable {α : Type}

def Blank (cs : List Char) : Prop :=
  ∀ c ∈ cs, isSpace c = true

theorem blank_nil : Blank [] :=
  fun _ h => nomatch h

theorem blank_newline (indent : Nat) : Blank (newline indent).toList := by
  intro c hc
  rw [newline, String.toList_ofList] at hc
  rcases List.mem_cons.mp hc with rfl | hc
  · rfl
  · rw [List.eq_of_mem_replicate hc]
    rfl

theorem skipSpace_blank {blanks : List Char} {c : Char} (hblank : Blank blanks)
    (hc : isSpace c = false) (rest : List Char) :
    ∃ h, skipSpace (blanks ++ c :: rest) = ⟨c :: rest, h⟩ := by
  have hstop : ∀ d ∈ (c :: rest).head?, isSpace d = false := fun d hd => by cases hd; exact hc
  have hdrop : (blanks ++ c :: rest).dropWhile isSpace = c :: rest := by
    rw [dropWhile_append_of_stop hstop, List.dropWhile_eq_nil_iff.mpr hblank, List.nil_append]
  exact ⟨by simp, Subtype.ext hdrop⟩

theorem skipSpace_cons {c : Char} (hc : isSpace c = false) (rest : List Char) :
    ∃ h, skipSpace (c :: rest) = ⟨c :: rest, h⟩ :=
  skipSpace_blank blank_nil hc rest

-- A text that the reader takes, behind blanks and in front of whatever does not go on
-- a number. It starts neither with a blank nor with the end of a list.
structure Written (reader : Reader α) (text : List Char) (a : α) : Prop where
  starts : ∃ c more, text = c :: more ∧ isSpace c = false ∧ c ≠ ']'
  reads : ∀ blanks rest, Blank blanks → Stops rest → Gives (reader (blanks ++ (text ++ rest))) a rest

theorem stops_cons {c : Char} (rest : List Char)
    (h : c.isDigit = false ∧ c ≠ '.' ∧ c ≠ 'e' ∧ c ≠ 'E' := by decide) : Stops (c :: rest) :=
  fun d hd => by cases hd; exact h

section Items

variable {blanks rest more : List Char} {c : Char}

theorem nextItem_first (hblank : Blank blanks) (hc : isSpace c = false) (hend : c ≠ ']') :
    ∃ r, nextItem true (blanks ++ c :: more) = .ok (.more r) ∧ r.1 = c :: more := by
  obtain ⟨h, hskip⟩ := skipSpace_blank hblank hc more
  rw [nextItem, hskip]
  dsimp only
  rw [if_neg hend, if_pos rfl]
  exact ⟨_, rfl, rfl⟩

theorem nextItem_comma (hblank : Blank blanks) (hc : isSpace c = false) (hend : c ≠ ']') :
    ∃ r, nextItem false (',' :: (blanks ++ c :: more)) = .ok (.more r) ∧ r.1 = c :: more := by
  obtain ⟨h, hcomma⟩ := skipSpace_cons (c := ',') rfl (blanks ++ c :: more)
  obtain ⟨h', hskip⟩ := skipSpace_blank hblank hc more
  rw [nextItem, hcomma]
  dsimp only
  rw [if_neg (by decide), if_neg (by decide), if_pos rfl, hskip]
  dsimp only
  rw [if_neg hend]
  exact ⟨_, rfl, rfl⟩

theorem nextItem_end (first : Bool) (hblank : Blank blanks) :
    ∃ r, nextItem first (blanks ++ ']' :: rest) = .ok (.done r) ∧ r.1 = rest := by
  obtain ⟨h, hskip⟩ := skipSpace_blank (c := ']') hblank rfl rest
  rw [nextItem, hskip]
  dsimp only
  rw [if_pos rfl]
  exact ⟨_, rfl, rfl⟩

end Items

section Lists

variable {σ : Type} {step : σ → Reader σ} {first : Bool} {acc acc' result : σ}
  {s s' rest left : List Char}

theorem foldList_end (h : ∃ r, nextItem first s = .ok (.done r) ∧ r.1 = rest) :
    Gives (foldList step first acc s) acc rest := by
  obtain ⟨r, hr, hrest⟩ := h
  rw [foldList, hr]
  exact ⟨r, rfl, hrest⟩

theorem foldList_more (h : ∃ r, nextItem first s = .ok (.more r) ∧ r.1 = s')
    (hstep : Gives (step acc s') acc' rest)
    (hrest : Gives (foldList step false acc' rest) result left) :
    Gives (foldList step first acc s) result left := by
  obtain ⟨r, hr, rfl⟩ := h
  obtain ⟨r', hr', rfl⟩ := hstep
  obtain ⟨r'', hr'', rfl⟩ := hrest
  rw [foldList, hr]
  dsimp only
  rw [hr']
  dsimp only
  rw [hr'']
  exact ⟨_, rfl, rfl⟩

end Lists

theorem stops_newline (indent : Nat) (rest : List Char) :
    Stops ((newline indent).toList ++ rest) := by
  rw [newline, String.toList_ofList]
  exact stops_cons _

-- What stands behind an item of a list in the indented form: the other items, each on
-- a line of its own, the end of the list and `rest`.
def itemsTail (indent : Nat) (write : α → List Char) (rest : List Char) : List α → List Char
  | [] => (newline indent).toList ++ ']' :: rest
  | x :: xs => ',' :: ((newline (indent + 1)).toList ++ (write x ++ itemsTail indent write rest xs))

-- What stands behind the bracket of a list.
def itemsText (indent : Nat) (write : α → List Char) (rest : List Char) : List α → List Char
  | [] => ']' :: rest
  | x :: xs => (newline (indent + 1)).toList ++ (write x ++ itemsTail indent write rest xs)

section ListText

variable {item : Reader α} {write : α → List Char} {xs : List α}

theorem stops_itemsTail (indent : Nat) (write : α → List Char) (rest : List Char) (xs : List α) :
    Stops (itemsTail indent write rest xs) := by
  cases xs with
  | nil => exact stops_newline indent _
  | cons x xs => exact stops_cons _

theorem foldList_itemsTail (hxs : ∀ x ∈ xs, Written item (write x) x) (indent : Nat)
    (rest : List Char) (acc : List α) :
    Gives (foldList (fun acc => item.map (· :: acc)) false acc (itemsTail indent write rest xs))
      (xs.reverse ++ acc) rest := by
  induction xs generalizing acc with
  | nil => exact foldList_end (nextItem_end false (blank_newline indent))
  | cons x xs ih =>
      obtain ⟨hx, hxs⟩ := List.forall_mem_cons.mp hxs
      obtain ⟨c, more, htext, hc, hend⟩ := hx.starts
      have hreads := (hx.reads [] _ blank_nil (stops_itemsTail indent write rest xs)).map (· :: acc)
      rw [List.reverse_cons, List.append_assoc]
      refine foldList_more ?_ hreads (ih hxs (x :: acc))
      rw [itemsTail, List.nil_append, htext]
      exact nextItem_comma (blank_newline _) hc hend

-- The items of a list are collected in reverse.
theorem foldList_itemsText (hxs : ∀ x ∈ xs, Written item (write x) x) (indent : Nat)
    (rest : List Char) :
    Gives (foldList (fun acc => item.map (· :: acc)) true [] (itemsText indent write rest xs))
      xs.reverse rest := by
  cases xs with
  | nil => exact foldList_end (nextItem_end true blank_nil)
  | cons x xs =>
      obtain ⟨hx, hxs⟩ := List.forall_mem_cons.mp hxs
      obtain ⟨c, more, htext, hc, hend⟩ := hx.starts
      have hreads := (hx.reads [] _ blank_nil (stops_itemsTail indent write rest xs)).map (· :: [])
      rw [List.reverse_cons]
      refine foldList_more ?_ hreads (foldList_itemsTail hxs indent rest [x])
      rw [itemsText, List.nil_append, htext]
      exact nextItem_first (blank_newline _) hc hend

end ListText

section Fields

variable {blanks rest more : List Char}

theorem nextField_first (hblank : Blank blanks) :
    ∃ r, nextField true (blanks ++ '"' :: more) = .ok (.more r) ∧ r.1 = more := by
  obtain ⟨h, hskip⟩ := skipSpace_blank (c := '"') hblank rfl more
  rw [nextField, hskip]
  dsimp only
  rw [if_neg (by decide), if_pos rfl, if_pos rfl]
  exact ⟨_, rfl, rfl⟩

theorem nextField_comma (hblank : Blank blanks) :
    ∃ r, nextField false (',' :: (blanks ++ '"' :: more)) = .ok (.more r) ∧ r.1 = more := by
  obtain ⟨h, hcomma⟩ := skipSpace_cons (c := ',') rfl (blanks ++ '"' :: more)
  obtain ⟨h', hskip⟩ := skipSpace_blank (c := '"') hblank rfl more
  rw [nextField, hcomma]
  dsimp only
  rw [if_neg (by decide), if_neg (by decide), if_pos rfl, hskip]
  dsimp only
  rw [if_pos rfl]
  exact ⟨_, rfl, rfl⟩

theorem nextField_end (first : Bool) (hblank : Blank blanks) :
    ∃ r, nextField first (blanks ++ '\x7d' :: rest) = .ok (.done r) ∧ r.1 = rest := by
  obtain ⟨h, hskip⟩ := skipSpace_blank (c := '\x7d') hblank rfl rest
  rw [nextField, hskip]
  dsimp only
  rw [if_pos rfl]
  exact ⟨_, rfl, rfl⟩

theorem readColon_cons (rest : List Char) : ∃ r, readColon (':' :: rest) = .ok r ∧ r.1 = rest := by
  obtain ⟨h, hskip⟩ := skipSpace_cons (c := ':') rfl rest
  rw [readColon, hskip]
  dsimp only
  rw [if_pos rfl]
  exact ⟨_, rfl, rfl⟩

theorem Written.afterColon {reader : Reader α} {text : List Char} {a : α}
    (h : Written reader text a) (hrest : Stops rest) :
    Gives (afterColon reader (':' :: ' ' :: (text ++ rest))) a rest := by
  obtain ⟨r, hr, hleft⟩ := readColon_cons (' ' :: (text ++ rest))
  have hreads := h.reads [' '] rest (by simp [Blank, isSpace]) hrest
  rw [List.singleton_append, ← hleft] at hreads
  rw [Json.afterColon, hr]
  exact gives_widen_iff.mpr hreads

variable {σ : Type} {strict first : Bool} {step : σ → String → Reader σ} {acc acc' result : σ}
  {s s' s'' left name : List Char}

theorem foldObject_end (h : ∃ r, nextField first s = .ok (.done r) ∧ r.1 = rest) :
    Gives (foldObject strict step first acc s) acc rest := by
  obtain ⟨r, hr, hrest⟩ := h
  rw [foldObject, hr]
  exact ⟨r, rfl, hrest⟩

theorem foldObject_more (h : ∃ r, nextField first s = .ok (.more r) ∧ r.1 = s')
    (hname : Gives (readText strict s') name s'')
    (hstep : Gives (step acc (String.ofList name) s'') acc' rest)
    (hrest : Gives (foldObject strict step false acc' rest) result left) :
    Gives (foldObject strict step first acc s) result left := by
  obtain ⟨r, hr, rfl⟩ := h
  obtain ⟨r₁, hr₁, rfl⟩ := hname
  obtain ⟨r₂, hr₂, rfl⟩ := hstep
  obtain ⟨r₃, hr₃, rfl⟩ := hrest
  rw [foldObject, hr]
  dsimp only
  rw [hr₁]
  dsimp only
  rw [hr₂]
  dsimp only
  rw [hr₃]
  exact ⟨_, rfl, rfl⟩

end Fields

-- A field of an object, from behind the quote of its name.
def fieldText (write : α → List Char) (field : String × α) (rest : List Char) : List Char :=
  field.1.toList.flatMap escapeChar ++ '"' :: ':' :: ' ' :: (write field.2 ++ rest)

-- What stands behind a field of an object in the indented form.
def fieldsTail (indent : Nat) (write : α → List Char) (rest : List Char) :
    List (String × α) → List Char
  | [] => (newline indent).toList ++ '\x7d' :: rest
  | field :: fields =>
      ',' :: ((newline (indent + 1)).toList ++
        '"' :: fieldText write field (fieldsTail indent write rest fields))

-- What stands behind the brace of an object.
def fieldsText (indent : Nat) (write : α → List Char) (rest : List Char) :
    List (String × α) → List Char
  | [] => '\x7d' :: rest
  | field :: fields =>
      (newline (indent + 1)).toList ++
        '"' :: fieldText write field (fieldsTail indent write rest fields)

section ObjectText

variable {value : Reader α} {write : α → List Char} {fields : List (String × α)}

theorem stops_fieldsTail (indent : Nat) (write : α → List Char) (rest : List Char)
    (fields : List (String × α)) : Stops (fieldsTail indent write rest fields) := by
  cases fields with
  | nil => exact stops_newline indent _
  | cons field fields => exact stops_cons _

theorem foldObject_fieldsTail (hfields : ∀ f ∈ fields, Written value (write f.2) f.2)
    (indent : Nat) (rest : List Char) (acc : List (String × α)) :
    Gives (foldObject true (fun acc name => (afterColon value).map fun v => (name, v) :: acc)
      false acc (fieldsTail indent write rest fields)) (fields.reverse ++ acc) rest := by
  induction fields generalizing acc with
  | nil => exact foldObject_end (nextField_end false (blank_newline indent))
  | cons field fields ih =>
      obtain ⟨hfield, hfields⟩ := List.forall_mem_cons.mp hfields
      have hvalue := hfield.afterColon (stops_fieldsTail indent write rest fields)
      have hstep := hvalue.map fun v => (String.ofList field.1.toList, v) :: acc
      rw [List.reverse_cons, List.append_assoc]
      refine foldObject_more (nextField_comma (blank_newline _)) (readText_escaped _ _) hstep ?_
      rw [String.ofList_toList]
      exact ih hfields _

-- The fields of an object are collected in reverse.
theorem foldObject_fieldsText (hfields : ∀ f ∈ fields, Written value (write f.2) f.2)
    (indent : Nat) (rest : List Char) :
    Gives (foldObject true (fun acc name => (afterColon value).map fun v => (name, v) :: acc)
      true [] (fieldsText indent write rest fields)) fields.reverse rest := by
  cases fields with
  | nil => exact foldObject_end (nextField_end true blank_nil)
  | cons field fields =>
      obtain ⟨hfield, hfields⟩ := List.forall_mem_cons.mp hfields
      have hvalue := hfield.afterColon (stops_fieldsTail indent write rest fields)
      have hstep := hvalue.map fun v => [(String.ofList field.1.toList, v)]
      rw [List.reverse_cons]
      refine foldObject_more (nextField_first (blank_newline _)) (readText_escaped _ _) hstep ?_
      rw [String.ofList_toList]
      exact foldObject_fieldsTail hfields indent rest [field]

end ObjectText

section Rendering

-- How an item or a field that stands one level deeper is written.
def renderInner (indent : Nat) (v : Json) : List Char :=
  (renderIndented (indent + 1) v).toList

theorem renderItemsIndented_text (indent : Nat) (v : Json) (items : List Json) (rest : List Char) :
    (renderItemsIndented (indent + 1) (v :: items)).toList ++ ((newline indent).toList ++ ']' :: rest) =
      itemsText indent (renderInner indent) rest (v :: items) := by
  induction items generalizing v with
  | nil =>
      rw [renderItemsIndented, String.toList_append, List.append_assoc]
      rfl
  | cons w items ih =>
      have htail : itemsTail indent (renderInner indent) rest (w :: items) =
          ',' :: itemsText indent (renderInner indent) rest (w :: items) := rfl
      rw [itemsText, htail, ← ih w, renderItemsIndented]
      · simp only [String.toList_append, List.append_assoc]
        rfl
      · exact List.cons_ne_nil w items

theorem showText_append (name : String) (rest : List Char) :
    (showText name).toList ++ rest = '"' :: (name.toList.flatMap escapeChar ++ '"' :: rest) := by
  rw [showText, String.toList_ofList, List.append_assoc]
  rfl

theorem renderFieldsIndented_text (indent : Nat) (field : String × Json)
    (fields : List (String × Json)) (rest : List Char) :
    (renderFieldsIndented (indent + 1) (field :: fields)).toList ++
        ((newline indent).toList ++ '\x7d' :: rest) =
      fieldsText indent (renderInner indent) rest (field :: fields) := by
  induction fields generalizing field with
  | nil =>
      obtain ⟨name, v⟩ := field
      rw [renderFieldsIndented]
      simp only [String.toList_append, List.append_assoc]
      rw [showText_append]
      rfl
  | cons next fields ih =>
      obtain ⟨name, v⟩ := field
      have htail : fieldsTail indent (renderInner indent) rest (next :: fields) =
          ',' :: fieldsText indent (renderInner indent) rest (next :: fields) := rfl
      rw [fieldsText, fieldText, htail, ← ih next, renderFieldsIndented]
      · simp only [String.toList_append, List.append_assoc]
        rw [showText_append]
        rfl
      · exact List.cons_ne_nil next fields

theorem renderIndented_list (indent : Nat) (items : List Json) (rest : List Char) :
    (renderIndented indent (.list items)).toList ++ rest =
      '[' :: itemsText indent (renderInner indent) rest items := by
  cases items with
  | nil =>
      rw [renderIndented]
      · rfl
      · nofun
      · nofun
  | cons v items =>
      rw [← renderItemsIndented_text, renderIndented]
      simp only [String.toList_append, List.append_assoc]
      rfl

theorem renderIndented_object (indent : Nat) (fields : List (String × Json)) (rest : List Char) :
    (renderIndented indent (.object fields)).toList ++ rest =
      '\x7b' :: fieldsText indent (renderInner indent) rest fields := by
  cases fields with
  | nil =>
      rw [renderIndented]
      · rfl
      · nofun
      · nofun
  | cons field fields =>
      rw [← renderFieldsIndented_text, renderIndented]
      simp only [String.toList_append, List.append_assoc]
      rfl

end Rendering

section Nested

variable {blanks more rest : List Char} {inner : Option (Reader Json)} {item : Reader Json}

theorem readNested_scalar_iff {c : Char} {v : Json} (hblank : Blank blanks) (hc : isSpace c = false)
    (hlist : c ≠ '[') (hobject : c ≠ '\x7b') :
    Gives (readNested true inner (blanks ++ c :: more)) v rest ↔
      Gives (readScalar true (c :: more)) v rest := by
  obtain ⟨h, hskip⟩ := skipSpace_blank hblank hc more
  rw [readNested, hskip]
  dsimp only
  rw [if_neg hlist, if_neg hobject, gives_widen_iff]

theorem readNested_list {items : List Json} (hblank : Blank blanks)
    (h : Gives (foldList (fun acc => item.map (· :: acc)) true [] more) items.reverse rest) :
    Gives (readNested true (some item) (blanks ++ '[' :: more)) (.list items) rest := by
  obtain ⟨hle, hskip⟩ := skipSpace_blank (c := '[') hblank rfl more
  have hlist := h.map fun items => Json.list items.reverse
  rw [List.reverse_reverse] at hlist
  rw [readNested, hskip]
  dsimp only
  rw [if_pos rfl]
  exact gives_widen_iff.mpr hlist

theorem readNested_object {fields : List (String × Json)} (hblank : Blank blanks)
    (h : Gives (foldObject true (fun acc name => (afterColon item).map fun v => (name, v) :: acc)
      true [] more) fields.reverse rest) :
    Gives (readNested true (some item) (blanks ++ '\x7b' :: more)) (.ofKeyed fields) rest := by
  obtain ⟨hle, hskip⟩ := skipSpace_blank (c := '\x7b') hblank rfl more
  have hobject := h.map fun fields => Json.ofKeyed fields.reverse
  rw [List.reverse_reverse] at hobject
  rw [readNested, hskip]
  dsimp only
  rw [if_neg (by decide), if_pos rfl]
  exact gives_widen_iff.mpr hobject

end Nested

end HostTelemetry.Json
