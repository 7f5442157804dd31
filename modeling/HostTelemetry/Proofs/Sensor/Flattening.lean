import HostTelemetry.Proofs.Json.Nodes
import HostTelemetry.Sensor

namespace HostTelemetry.Sensor

open Text (slug)
open Json (At Ordered Precedes nodes nodesOfFields)

-- What a leaf measures. Texts that spell a number count, and so do flags.
inductive Reads : Json → Float → Prop where
  | number {v : Json} {f : Float} : v.toFloat? = some f → Decimal.isFinite f = true → Reads v f
  | text {s : String} {f : Float} :
      Decimal.readFloat? (Text.trim s) = some f → Decimal.isFinite f = true → Reads (.text s) f
  | flag (b : Bool) : Reads (.bool b) (if b then 1.0 else 0.0)

-- The slugs of the names from the root on; those that are empty before any other are
-- left out.
def pathOf (names : List String) : String :=
  "_".intercalate ((names.map slug).dropWhile (·.isEmpty))

theorem leafValue?_text (s : String) :
    leafValue? (.text s) = (Decimal.readFloat? (Text.trim s)).filter Decimal.isFinite := rfl

theorem leafValue?_number {v : Json} (h : v.toFloat?.isSome) :
    leafValue? v = v.toFloat?.filter Decimal.isFinite := by
  cases v with
  | int n => rfl
  | float g => rfl
  | null | bool b | text s | list items | object fields => cases h

theorem reads_iff {v : Json} {f : Float} : Reads v f ↔ leafValue? v = some f := by
  constructor
  · rintro (⟨hnumber, hfinite⟩ | ⟨htext, hfinite⟩ | b)
    · rw [leafValue?_number (Option.isSome_of_eq_some hnumber)]
      exact Option.filter_eq_some_iff.mpr ⟨hnumber, hfinite⟩
    · rw [leafValue?_text]
      exact Option.filter_eq_some_iff.mpr ⟨htext, hfinite⟩
    · rfl
  · intro h
    cases v with
    | bool b => cases h; exact .flag b
    | text s =>
        rw [leafValue?_text] at h
        obtain ⟨htext, hfinite⟩ := Option.filter_eq_some_iff.mp h
        exact .text htext hfinite
    | int _ | float _ =>
        rw [leafValue?_number rfl] at h
        obtain ⟨hnumber, hfinite⟩ := Option.filter_eq_some_iff.mp h
        exact .number hnumber hfinite
    | null | list items | object fields => cases h

theorem Reads.finite {v : Json} {f : Float} (h : Reads v f) : Decimal.isFinite f = true := by
  cases h with
  | number _ hfinite => exact hfinite
  | text _ hfinite => exact hfinite
  | flag b => cases b <;> decide

theorem Reads.isLeaf {v : Json} {f : Float} (h : Reads v f) : v.IsLeaf := by
  rintro fields rfl
  rw [reads_iff] at h
  cases h

-- Once the path has begun, every further name is put behind it.
theorem foldl_extend (path : String) (hpath : path.isEmpty = false) (segments : List String) :
    segments.foldl extend path = "_".intercalate (path :: segments) := by
  induction segments generalizing path with
  | nil => simp
  | cons segment rest ih =>
      have hnext : extend path segment = path ++ "_" ++ segment := by simp [extend, hpath]
      have hbegun : (path ++ "_" ++ segment).isEmpty = false := by simp
      rw [List.foldl_cons, hnext, ih _ hbegun]
      cases rest with
      | nil => simp
      | cons other rest => simp [String.append_assoc]

theorem foldl_extend_empty (segments : List String) :
    segments.foldl extend "" = "_".intercalate (segments.dropWhile (·.isEmpty)) := by
  induction segments with
  | nil => rfl
  | cons segment rest ih =>
      have hnext : extend "" segment = segment := by simp [extend]
      rw [List.foldl_cons, hnext]
      cases hsegment : segment.isEmpty with
      | true =>
          obtain rfl : segment = "" := by simpa using hsegment
          rw [List.dropWhile_cons_of_pos hsegment, ih]
      | false =>
          rw [List.dropWhile_cons_of_neg (by simp [hsegment])]
          exact foldl_extend segment hsegment rest

mutual

theorem leaves_eq (path : String) :
    (v : Json) → leaves path v =
      (nodes v).map fun node => ((node.1.map slug).foldl extend path, node.2)
  | .object fields => by
      rw [leaves, nodes]
      exact leavesOfFields_eq path fields
  | .null | .bool _ | .int _ | .float _ | .text _ | .list _ => rfl

theorem leavesOfFields_eq (path : String) :
    (fields : List (String × Json)) → leavesOfFields path fields =
      (nodesOfFields fields).map fun node => ((node.1.map slug).foldl extend path, node.2)
  | [] => rfl
  | (name, v) :: rest => by
      rw [leavesOfFields, nodesOfFields, List.map_append, List.map_map,
        leaves_eq (extend path (slug name)) v, leavesOfFields_eq path rest]
      rfl

end

theorem leaves_root (tree : Json) :
    leaves "" tree = (nodes tree).map fun node => (pathOf node.1, node.2) := by
  rw [leaves_eq]
  exact List.map_congr_left fun node _ => Prod.ext (foldl_extend_empty _) rfl

-- The entry that a node comes to.
def entry? (node : List String × Json) : Option (String × Float) :=
  (leafValue? node.2).map fun v => (key (pathOf node.1), v)

theorem flatten_eq (tree : Json) : flatten tree = Keyed.ofList ((nodes tree).filterMap entry?) := by
  rw [flatten, leaves_root, List.filterMap_map]
  rfl

theorem entry?_eq_some_iff {node : List String × Json} {name : String} {value : Float} :
    entry? node = some (name, value) ↔ Reads node.2 value ∧ name = key (pathOf node.1) := by
  rw [reads_iff, entry?, Option.map_eq_some_iff]
  constructor
  · rintro ⟨v, hv, heq⟩
    cases heq
    exact ⟨hv, rfl⟩
  · rintro ⟨hv, rfl⟩
    exact ⟨value, hv, rfl⟩

theorem key_injective : Function.Injective key :=
  fun _ _ h => (String.append_right_inj _).mp h

-- The node is the last one with its path that measures anything.
structure LastOfPath (tree : Json) (names : List String) (leaf : Json) (value : Float) : Prop where
  at_names : tree.At names leaf
  reads : Reads leaf value
  last : ∀ ⦃names' leaf' value'⦄, tree.At names' leaf' → Reads leaf' value' →
    pathOf names' = pathOf names → names' = names ∨ Precedes names' names

theorem mem_flatten_keys {tree : Json} {name : String} :
    name ∈ (flatten tree).keys ↔
      ∃ names leaf value, tree.At names leaf ∧ Reads leaf value ∧ name = key (pathOf names) := by
  rw [flatten_eq, Keyed.mem_keys_ofList]
  constructor
  · intro h
    obtain ⟨entry, hentry, rfl⟩ := List.mem_map.mp h
    obtain ⟨node, hnode, hvalue⟩ := List.mem_filterMap.mp hentry
    obtain ⟨hreads, hname⟩ := entry?_eq_some_iff.mp hvalue
    exact ⟨node.1, node.2, entry.2, (Json.mem_nodes_iff.mp hnode).1, hreads, hname⟩
  · rintro ⟨names, leaf, value, hat, hreads, rfl⟩
    have hnode := Json.mem_nodes_iff.mpr ⟨hat, hreads.isLeaf⟩
    have hentry : entry? (names, leaf) = some (key (pathOf names), value) :=
      entry?_eq_some_iff.mpr ⟨hreads, rfl⟩
    exact List.mem_map_of_mem (f := Prod.fst) (List.mem_filterMap.mpr ⟨_, hnode, hentry⟩)

theorem find?_flatten_of_last {tree : Json} (h : tree.Ordered) {names : List String} {leaf : Json}
    {value : Float} (hlast : LastOfPath tree names leaf value) :
    (flatten tree).find? (key (pathOf names)) = some value := by
  obtain ⟨before, after, hsplit⟩ :=
    List.append_of_mem (Json.mem_nodes_iff.mpr ⟨hlast.at_names, hlast.reads.isLeaf⟩)
  have hentry : entry? (names, leaf) = some (key (pathOf names), value) :=
    entry?_eq_some_iff.mpr ⟨hlast.reads, rfl⟩
  rw [flatten_eq, Keyed.find?_ofList_eq_some_iff]
  refine ⟨before.filterMap entry?, after.filterMap entry?, ?_, fun hmem => ?_⟩
  · rw [hsplit, List.filterMap_append, List.filterMap_cons_some hentry]
  · obtain ⟨other, hother, hname⟩ := List.mem_map.mp hmem
    obtain ⟨node, hnode, hvalue⟩ := List.mem_filterMap.mp hother
    obtain ⟨hreads, hkey⟩ := entry?_eq_some_iff.mp hvalue
    have hpath : pathOf node.1 = pathOf names := key_injective (hkey.symm.trans hname)
    have hmem : node ∈ nodes tree := by
      rw [hsplit]
      exact List.mem_append_right _ (List.mem_cons_of_mem _ hnode)
    have hpairwise := Json.nodes_pairwise tree h
    rw [hsplit] at hpairwise
    have hlater : Precedes names node.1 :=
      (List.pairwise_cons.mp (List.pairwise_append.mp hpairwise).2.1).1 node hnode
    rcases hlast.last (Json.mem_nodes_iff.mp hmem).1 hreads hpath with heq | hearlier
    · exact Precedes.irrefl names (heq ▸ hlater)
    · exact hlater.asymm hearlier

theorem last_of_find?_flatten {tree : Json} (h : tree.Ordered) {name : String} {value : Float}
    (hfind : (flatten tree).find? name = some value) :
    ∃ names leaf, LastOfPath tree names leaf value ∧ name = key (pathOf names) := by
  rw [flatten_eq, Keyed.find?_ofList_eq_some_iff] at hfind
  obtain ⟨before, after, hentries, hafter⟩ := hfind
  obtain ⟨skipped, rest, hnodes, -, hrest⟩ := List.filterMap_eq_append_iff.mp hentries
  obtain ⟨silent, node, later, hsplit, -, hentry, hlater⟩ := List.filterMap_eq_cons_iff.mp hrest
  obtain ⟨hreads, hname⟩ := entry?_eq_some_iff.mp hentry
  have hall : nodes tree = (skipped ++ silent) ++ node :: later := by
    rw [hnodes, hsplit, List.append_assoc]
  have hpairwise := Json.nodes_pairwise tree h
  have hnode : node ∈ nodes tree := by
    rw [hall]
    exact List.mem_append_right _ List.mem_cons_self
  refine ⟨node.1, node.2, ⟨(Json.mem_nodes_iff.mp hnode).1, hreads, ?_⟩, hname⟩
  intro names' leaf' value' hat' hreads' hpath
  have hother := Json.mem_nodes_iff.mpr ⟨hat', hreads'.isLeaf⟩
  rw [hall] at hpairwise hother
  rcases List.mem_append.mp hother with hbefore | hrest
  · exact .inr ((List.pairwise_append.mp hpairwise).2.2 _ hbefore node List.mem_cons_self)
  · rcases List.mem_cons.mp hrest with rfl | hlast
    · exact .inl rfl
    · have hentry' : entry? (names', leaf') = some (name, value') :=
        entry?_eq_some_iff.mpr ⟨hreads', by rw [hname, hpath]⟩
      have hmem : (name, value') ∈ after := hlater ▸ List.mem_filterMap.mpr ⟨_, hlast, hentry'⟩
      exact absurd (List.mem_map_of_mem (f := Prod.fst) hmem) hafter

-- Two ways down meet in one path, a name leaves nothing behind, and a list and a text
-- that is no finite number are left out.
def meetingTree : Json :=
  .object [("", .object [("a", .int 1)]), ("A", .text " 2.5 "), ("a b", .object [("", .bool true)]),
    ("list", .list [.int 3]), ("nan", .text "nan")]

theorem meetingTree_fits : meetingTree.Fits 2 := by
  refine ⟨by unfold Keyed.Ascending; decide, ?_⟩
  simp only [List.forall_mem_cons]
  refine ⟨⟨List.pairwise_singleton _ _, ?_⟩, trivial, ⟨List.pairwise_singleton _ _, ?_⟩, ?_, trivial,
    List.forall_mem_nil _⟩
  · exact List.forall_mem_singleton.mpr (Json.int_fits (by decide))
  · exact List.forall_mem_singleton.mpr trivial
  · exact List.forall_mem_singleton.mpr (Json.int_fits (by decide))

theorem last_meetingTree {value : Float} (h : Reads (.text " 2.5 ") value) :
    LastOfPath meetingTree ["A"] (.text " 2.5 ") value := by
  refine ⟨.field (by simp) (.here _), h, ?_⟩
  intro names leaf v hat hreads hpath
  have hnodes : nodes meetingTree = [(["", "a"], .int 1), (["A"], .text " 2.5 "),
      (["a b", ""], .bool true), (["list"], .list [.int 3]), (["nan"], .text "nan")] := rfl
  have hmem := Json.mem_nodes_iff.mpr ⟨hat, hreads.isLeaf⟩
  simp only [hnodes, List.mem_cons, Prod.mk.injEq, List.not_mem_nil, or_false] at hmem
  rcases hmem with ⟨rfl, -⟩ | ⟨rfl, -⟩ | ⟨rfl, -⟩ | ⟨rfl, -⟩ | ⟨rfl, -⟩
  · exact .inr (Json.precedes_of_lt (by decide) _ _)
  · exact .inl rfl
  all_goals exact absurd hpath (by decide)

end HostTelemetry.Sensor
