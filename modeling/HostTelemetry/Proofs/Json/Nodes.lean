import HostTelemetry.Proofs.Json.Fits
import HostTelemetry.Proofs.Text.ByteOrder
import Mathlib.Tactic.Common

namespace HostTelemetry.Json

open Text.Utf8 (encode)

-- A value below another one, with the names of the fields on the way down. Lists are
-- not entered.
inductive At : Json → List String → Json → Prop where
  | here (v : Json) : At v [] v
  | field {fields : List (String × Json)} {name : String} {names : List String} {child v : Json} :
      (name, child) ∈ fields → At child names v → At (.object fields) (name :: names) v

-- The fields of every object stand in the order of the bytes of their names.
def Ordered (tree : Json) : Prop :=
  ∀ names fields, tree.At names (.object fields) →
    fields.Pairwise fun a b => encode a.1 < encode b.1

-- Depth first, fields in the order of the bytes of their names.
def Precedes (names later : List String) : Prop :=
  names.map encode < later.map encode

def IsLeaf (v : Json) : Prop :=
  ∀ fields, v ≠ .object fields

theorem Precedes.irrefl (names : List String) : ¬Precedes names names :=
  List.lt_irrefl _

theorem Precedes.asymm {names later : List String} (h : Precedes names later) :
    ¬Precedes later names :=
  List.lt_asymm h

theorem precedes_cons {name : String} {names later : List String} (h : Precedes names later) :
    Precedes (name :: names) (name :: later) :=
  List.cons_lt_cons_iff.mpr (.inr ⟨rfl, h⟩)

theorem precedes_of_lt {name other : String} (h : encode name < encode other)
    (names later : List String) : Precedes (name :: names) (other :: later) :=
  List.cons_lt_cons_iff.mpr (.inl h)

theorem Ordered.fields {fields : List (String × Json)} (h : (object fields).Ordered) :
    fields.Pairwise fun a b => encode a.1 < encode b.1 :=
  h [] fields (.here _)

theorem Ordered.child {fields : List (String × Json)} (h : (object fields).Ordered)
    {name : String} {child : Json} (hmem : (name, child) ∈ fields) : child.Ordered :=
  fun names inner hat => h (name :: names) inner (.field hmem hat)

-- Whatever was read from a text is in order.
theorem Fits.ordered {depth : Nat} {tree : Json} (h : tree.Fits depth) : tree.Ordered := by
  intro names fields hat
  generalize hv : Json.object fields = v at hat
  induction hat generalizing depth with
  | here _ =>
      subst hv
      cases depth with
      | zero => exact h.elim
      | succ depth => exact h.1.imp Text.Utf8.encode_lt
  | field hmem _ ih =>
      cases depth with
      | zero => exact h.elim
      | succ depth => exact ih (h.2 _ hmem) hv

-- The leaves of a tree with the names above them, in the order of the fields.
mutual

def nodes : Json → List (List String × Json)
  | .object fields => nodesOfFields fields
  | leaf => [([], leaf)]

def nodesOfFields : List (String × Json) → List (List String × Json)
  | [] => []
  | (name, v) :: rest =>
      (nodes v).map (fun node => (name :: node.1, node.2)) ++ nodesOfFields rest

end

theorem nodes_of_isLeaf {v : Json} (h : v.IsLeaf) : nodes v = [([], v)] := by
  cases v with
  | object fields => exact absurd rfl (h fields)
  | _ => rfl

theorem mem_nodesOfFields {fields : List (String × Json)} {node : List String × Json} :
    node ∈ nodesOfFields fields ↔
      ∃ name child names, (name, child) ∈ fields ∧ (names, node.2) ∈ nodes child ∧
        node.1 = name :: names := by
  induction fields with
  | nil => simp [nodesOfFields]
  | cons field rest ih =>
      obtain ⟨name, child⟩ := field
      rw [nodesOfFields, List.mem_append, ih]
      constructor
      · rintro (hfirst | ⟨name', child', names, hmem, hnode, hnames⟩)
        · obtain ⟨inner, hinner, rfl⟩ := List.mem_map.mp hfirst
          exact ⟨name, child, inner.1, List.mem_cons_self, hinner, rfl⟩
        · exact ⟨name', child', names, List.mem_cons_of_mem _ hmem, hnode, hnames⟩
      · rintro ⟨name', child', names, hmem, hnode, hnames⟩
        rcases List.mem_cons.mp hmem with heq | hrest
        · cases heq
          exact .inl (List.mem_map.mpr ⟨(names, node.2), hnode, Prod.ext hnames.symm rfl⟩)
        · exact .inr ⟨name', child', names, hrest, hnode, hnames⟩

theorem mem_nodes_of_at {tree v : Json} {names : List String} (h : tree.At names v)
    (hleaf : v.IsLeaf) : (names, v) ∈ nodes tree := by
  induction h with
  | here v => rw [nodes_of_isLeaf hleaf]; exact List.mem_singleton_self _
  | field hmem _ ih =>
      rw [nodes]
      exact mem_nodesOfFields.mpr ⟨_, _, _, hmem, ih hleaf, rfl⟩

mutual

theorem at_of_mem_nodes :
    (tree : Json) → ∀ node ∈ nodes tree, tree.At node.1 node.2 ∧ node.2.IsLeaf
  | .object fields => by
      intro node hnode
      rw [nodes] at hnode
      obtain ⟨name, child, names, hmem, hinner, hnames⟩ := mem_nodesOfFields.mp hnode
      obtain ⟨hat, hleaf⟩ := at_of_mem_field fields (name, child) hmem (names, node.2) hinner
      exact ⟨hnames ▸ .field hmem hat, hleaf⟩
  | .null | .bool _ | .int _ | .float _ | .text _ | .list _ => by
      intro node hnode
      simp only [nodes, List.mem_singleton] at hnode
      subst hnode
      exact ⟨.here _, fun fields h => by cases h⟩

theorem at_of_mem_field :
    (fields : List (String × Json)) → ∀ field ∈ fields, ∀ node ∈ nodes field.2,
      At field.2 node.1 node.2 ∧ node.2.IsLeaf
  | [] => fun _ hfield => absurd hfield List.not_mem_nil
  | (_, child) :: rest => by
      intro field hfield
      rcases List.mem_cons.mp hfield with rfl | hrest
      · exact at_of_mem_nodes child
      · exact at_of_mem_field rest field hrest

end

theorem mem_nodes_iff {tree v : Json} {names : List String} :
    (names, v) ∈ nodes tree ↔ tree.At names v ∧ v.IsLeaf :=
  ⟨at_of_mem_nodes tree _, fun h => mem_nodes_of_at h.1 h.2⟩

-- No leaf stands above another one, so comparing the names of the fields is enough.
mutual

theorem nodes_pairwise :
    (tree : Json) → tree.Ordered → (nodes tree).Pairwise fun a b => Precedes a.1 b.1
  | .object fields => by
      intro h
      rw [nodes]
      exact nodesOfFields_pairwise fields h.fields fun _ hmem => h.child hmem
  | .null | .bool _ | .int _ | .float _ | .text _ | .list _ => by
      intro _
      exact List.pairwise_singleton _ _

theorem nodesOfFields_pairwise :
    (fields : List (String × Json)) → (fields.Pairwise fun a b => encode a.1 < encode b.1) →
      (∀ field ∈ fields, field.2.Ordered) →
      (nodesOfFields fields).Pairwise fun a b => Precedes a.1 b.1
  | [] => fun _ _ => List.Pairwise.nil
  | (name, child) :: rest => by
      intro hfields hordered
      obtain ⟨hfirst, hrest⟩ := List.pairwise_cons.mp hfields
      obtain ⟨hchild, hchildren⟩ := List.forall_mem_cons.mp hordered
      rw [nodesOfFields]
      refine List.pairwise_append.mpr ⟨?_, nodesOfFields_pairwise rest hrest hchildren, ?_⟩
      · exact List.pairwise_map.mpr ((nodes_pairwise child hchild).imp precedes_cons)
      · intro a ha b hb
        obtain ⟨inner, -, rfl⟩ := List.mem_map.mp ha
        obtain ⟨other, _, names, hmem, -, hnames⟩ := mem_nodesOfFields.mp hb
        rw [hnames]
        exact precedes_of_lt (hfirst _ hmem) _ _

end

end HostTelemetry.Json
