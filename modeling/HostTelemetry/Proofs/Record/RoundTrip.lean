import HostTelemetry.Proofs.Json.RoundTrip
import HostTelemetry.Record.Reader

namespace HostTelemetry

namespace Json

variable {α β : Type}

theorem Gives.expect {reader : Reader α} {decode : α → Option β} {s rest : List Char} {a : α} {b : β}
    (h : Gives (reader s) a rest) (hdecode : decode a = some b) :
    Gives (expect decode reader s) b rest := by
  obtain ⟨r, hr, hrest⟩ := h
  rw [Json.expect, hr]
  dsimp only
  rw [hdecode]
  exact ⟨r, rfl, hrest⟩

theorem Gives.opened {inside : Reader α} {bracket : Char} {blanks more rest : List Char} {a : α}
    (h : Gives (inside more) a rest) (hblank : Blank blanks) (hbracket : isSpace bracket = false) :
    Gives (opened bracket inside (blanks ++ bracket :: more)) a rest := by
  obtain ⟨hle, hskip⟩ := skipSpace_blank hblank hbracket more
  rw [Json.opened, hskip]
  dsimp only
  rw [if_pos rfl, gives_widen_iff]
  exact h

theorem Gives.readAll {reader : Reader α} {s : List Char} {a : α} (h : Gives (reader s) a []) :
    readAll reader s = .ok a := by
  obtain ⟨r, hr, hrest⟩ := h
  have hskip : (skipSpace r.1).1 = [] := by rw [hrest]; rfl
  rw [Json.readAll, hr]
  dsimp only
  split
  · rfl
  · next heq => rw [heq] at hskip; cases hskip

theorem expect_eq_ok {decode : α → Option β} {reader : Reader α} {s : List Char} {b : β}
    {r : Shorter s} (h : expect decode reader s = .ok (b, r)) :
    ∃ a r', reader s = .ok (a, r') ∧ decode a = some b := by
  unfold expect at h
  split at h
  · cases h
  · next a r' ha =>
      split at h
      · next hb => cases h; exact ⟨a, r, ha, hb⟩
      · cases h

theorem opened_eq_ok {inside : Reader α} {bracket : Char} {s : List Char} {a : α} {r : Shorter s}
    (h : opened bracket inside s = .ok (a, r)) : ∃ s' r', inside s' = .ok (a, r') := by
  unfold opened at h
  split at h
  · cases h
  · split at h
    · obtain ⟨r', hr', -⟩ := widen_eq_ok h
      exact ⟨_, r', hr'⟩
    · cases h

theorem itemsTail_map (indent : Nat) (write : β → List Char) (f : α → β) (rest : List Char)
    (xs : List α) :
    itemsTail indent write rest (xs.map f) = itemsTail indent (fun x => write (f x)) rest xs := by
  induction xs with
  | nil => rfl
  | cons x xs ih => rw [List.map_cons, itemsTail, itemsTail, ih]

theorem itemsText_map (indent : Nat) (write : β → List Char) (f : α → β) (rest : List Char)
    (xs : List α) :
    itemsText indent write rest (xs.map f) = itemsText indent (fun x => write (f x)) rest xs := by
  cases xs with
  | nil => rfl
  | cons x xs => rw [List.map_cons, itemsText, itemsText, itemsTail_map]

end Json

namespace Record

open Json (Written Gives Stops renderIndented renderInner readValue maxDepth)

-- A record as a file can hold it. Its own fields share an object with the values, so no
-- value may be named like one of them.
structure Fits (r : Record) : Prop where
  clear : ∀ own ∈ ownNames, own ∉ r.values.keys
  ascending : Keyed.Ascending r.values
  timestamp : inIntRange r.timestamp = true
  values : ∀ f ∈ r.values, f.2.Fits (maxDepth - 2)

-- Every float among the values is read as itself.
def ReadsBack (r : Record) : Prop :=
  ∀ field ∈ r.values, ∀ f, field.2.Holds f → Json.ReadsBack f

variable {r : Record}

theorem Fits.nodup_keys (h : r.Fits) : (r.fields.map Prod.fst).Nodup := by
  have hvalues : (r.values.map Prod.fst).Nodup := h.ascending.nodup_keys
  have hclear : ∀ own ∈ ownNames, own ∉ r.values.map Prod.fst := h.clear
  simp only [ownNames, List.forall_mem_cons] at hclear
  obtain ⟨hname, havailable, herror, htimestamp, -⟩ := hclear
  cases he : r.error with
  | none => simp_all [fields, errorField]
  | some e => simp_all [fields, errorField]

theorem Fits.given_once (h : r.Fits) (own : String) :
    (r.fields.filter fun f => f.1 = own).length ≤ 1 := by
  have hcount := List.nodup_iff_count_le_one.mp h.nodup_keys own
  rw [List.count, List.countP_map, List.countP_eq_length_filter] at hcount
  refine Nat.le_trans (Nat.le_of_eq ?_) hcount
  congr 1

theorem Fits.find?_error (h : r.Fits) :
    error? (Keyed.find? "error" r.fields) = some r.error := by
  cases he : r.error with
  | none =>
      have hnone : "error" ∉ r.fields.map Prod.fst := by
        have hclear : "error" ∉ r.values.map Prod.fst := h.clear "error" (by decide)
        simp_all [fields, errorField]
      have hfind : Keyed.find? "error" r.fields = none := by
        rw [← Option.not_isSome_iff_eq_none, Keyed.find?_isSome_iff]
        exact hnone
      rw [hfind]
      rfl
  | some e =>
      have hmem : ("error", Json.text e) ∈ r.fields := by simp [fields, errorField, he]
      rw [Keyed.find?_eq_some_of_mem h.nodup_keys hmem]
      rfl

theorem Fits.filter_values (h : r.Fits) :
    (r.fields.filter fun f => f.1 ∉ ownNames) = r.values := by
  have hown : ((([("name", Json.text r.name), ("available", .bool r.available)] ++
      errorField r.error ++ [("timestamp", .int r.timestamp)]) : List (String × Json)).filter
        fun f => f.1 ∉ ownNames) = [] := by
    cases r.error <;> simp [errorField, ownNames]
  have hvalues : r.values.filter (fun f => f.1 ∉ ownNames) = r.values := by
    refine List.filter_eq_self.mpr fun f hf => decide_eq_true fun hown => ?_
    exact h.clear f.1 hown (List.mem_map.mpr ⟨f, hf, rfl⟩)
  rw [fields, List.filter_append, hown, hvalues, List.nil_append]

-- The record is found again in its own fields.
theorem Fits.ofFields?_fields (h : r.Fits) : ofFields? r.fields = some r := by
  have hmem : ∀ key v, (key, v) ∈ r.fields → Keyed.find? key r.fields = some v :=
    fun key v => Keyed.find?_eq_some_of_mem h.nodup_keys
  have hname := hmem "name" (.text r.name) (by simp [fields])
  have havailable := hmem "available" (.bool r.available) (by simp [fields])
  have htimestamp := hmem "timestamp" (.int r.timestamp) (by simp [fields])
  have honce : ownNames.any (fun own => 1 < (r.fields.filter fun f => f.1 = own).length) = false := by
    rw [List.any_eq_false]
    intro own _
    simpa using h.given_once own
  rw [ofFields?, honce, hname, havailable, h.find?_error, htimestamp, h.filter_values,
    Keyed.ofList_of_ascending h.ascending]
  simp [texts?, flag?, integer?, h.timestamp]

theorem Fits.fields_storable (h : r.Fits) (hfloats : r.ReadsBack) :
    ∀ f ∈ r.fields, f.2.Storable (maxDepth - 2) := by
  intro f hf
  rcases List.mem_append.mp hf with hf | hf
  · rcases List.mem_append.mp hf with hf | hf
    · rcases List.mem_append.mp hf with hf | hf
      · simp only [List.mem_cons, List.not_mem_nil, or_false] at hf
        rcases hf with rfl | rfl <;> exact ⟨trivial, nofun⟩
      · cases he : r.error with
        | none => rw [he] at hf; cases hf
        | some e =>
            rw [he] at hf
            obtain rfl := List.mem_singleton.mp hf
            exact ⟨trivial, nofun⟩
    · obtain rfl := List.mem_singleton.mp hf
      exact ⟨(Json.int_fits h.timestamp).fits _, nofun⟩
  · exact ⟨h.values f hf, hfloats f hf⟩

-- A record reads back from where it stands in a list.
theorem Fits.written (h : r.Fits) (hfloats : r.ReadsBack) (indent : Nat) :
    Written (reader (maxDepth - 2)) (renderIndented indent r.toJson).toList r := by
  have hvalues : ∀ f ∈ r.fields,
      Written (readValue true (maxDepth - 2)) (renderInner indent f.2) f.2 :=
    fun f hf => (h.fields_storable hfloats f hf).written (indent + 1)
  have hrender := Json.renderIndented_object indent r.fields
  refine ⟨⟨'\x7b', _, by simpa [toJson] using hrender [], by decide⟩, ?_⟩
  intro blanks rest hblank _
  have hfields := Json.foldObject_fieldsText hvalues indent rest
  have hread : ofFields? r.fields.reverse.reverse = some r := by
    rw [List.reverse_reverse, h.ofFields?_fields]
  rw [toJson, hrender]
  exact (hfields.expect hread).opened hblank rfl

-- A list of records reads back from its text.
theorem readList?_pretty {rs : List Record} (hfits : ∀ r ∈ rs, r.Fits)
    (hfloats : ∀ r ∈ rs, r.ReadsBack) :
    readList? (Json.pretty (.list (rs.map toJson))) = some rs := by
  have hrecords : ∀ r ∈ rs, Written (reader (maxDepth - 2)) (renderInner 0 r.toJson) r :=
    fun r hr => (hfits r hr).written (hfloats r hr) 1
  have hitems := (Json.foldList_itemsText hrecords 0 []).map List.reverse
  rw [List.reverse_reverse, ← Json.itemsText_map] at hitems
  have hlist : Gives (listReader (maxDepth - 2) ([] ++ '[' ::
      Json.itemsText 0 (renderInner 0) [] (rs.map toJson))) rs [] :=
    hitems.opened Json.blank_nil rfl
  have htext : (Json.pretty (.list (rs.map toJson))).toList =
      '[' :: Json.itemsText 0 (renderInner 0) [] (rs.map toJson) := by
    simpa [Json.pretty] using Json.renderIndented_list 0 (rs.map toJson) []
  rw [readList?, htext, ← List.nil_append ('[' :: _), hlist.readAll]
  rfl

section Reading

theorem ofFields?_fits {fields : List (String × Json)}
    (hfields : ∀ f ∈ fields, f.2.Fits (maxDepth - 2)) (h : ofFields? fields = some r) : r.Fits := by
  unfold ofFields? at h
  split at h
  · cases h
  obtain ⟨name, -, h⟩ := Option.bind_eq_some_iff.mp h
  obtain ⟨available, -, h⟩ := Option.bind_eq_some_iff.mp h
  obtain ⟨error, -, h⟩ := Option.bind_eq_some_iff.mp h
  obtain ⟨timestamp, htimestamp, h⟩ := Option.bind_eq_some_iff.mp h
  cases h
  have hrange : inIntRange timestamp = true := by
    obtain ⟨v, -, hv⟩ := Option.bind_eq_some_iff.mp htimestamp
    unfold integer? at hv
    split at hv
    · split at hv
      · next hrange => cases hv; exact hrange
      · cases hv
    · cases hv
  refine ⟨fun own hown hmem => ?_, Keyed.ascending_ofList _, hrange, fun f hf => ?_⟩
  · obtain ⟨f, hf, rfl⟩ := List.mem_map.mp (Keyed.mem_keys_ofList.mp hmem)
    exact of_decide_eq_true (List.mem_filter.mp hf).2 hown
  · exact hfields f (List.mem_filter.mp (Keyed.mem_of_mem_ofList hf)).1

theorem reader_fits {s : List Char} {left : Json.Shorter s}
    (h : reader (maxDepth - 2) s = .ok (r, left)) : r.Fits := by
  obtain ⟨s', left', h⟩ := Json.opened_eq_ok h
  obtain ⟨fields, left'', hfields, h⟩ := Json.expect_eq_ok h
  have hall := Json.foldObject_all (fun _ _ _ hv => Json.readValue_fits hv) hfields
  exact ofFields?_fits (fun f hf => hall f (List.mem_reverse.mp hf)) h

-- Whatever a file holds, the records that are read from it fit.
theorem readList?_fits {s : String} {rs : List Record} (h : readList? s = some rs) :
    ∀ r ∈ rs, r.Fits := by
  unfold readList? at h
  cases hread : Json.readAll (listReader (maxDepth - 2)) s.toList with
  | error e => rw [hread] at h; cases h
  | ok found =>
      rw [hread] at h
      cases h
      obtain ⟨left, hlist, -⟩ := Json.readAll_eq_ok hread
      obtain ⟨s', left', hlist⟩ := Json.opened_eq_ok hlist
      obtain ⟨items, hitems, rfl⟩ := Json.map_eq_ok hlist
      have hall := Json.foldList_all (fun _ _ _ hr => reader_fits hr) hitems
      exact fun r hr => hall r (List.mem_reverse.mp hr)

end Reading

end Record

end HostTelemetry
