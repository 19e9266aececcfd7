import ColumnSim.Proofs.Arrival
import ColumnSim.Proofs.Match
import ColumnSim.Store.Column

namespace ColumnSim

variable {R : Type} {V : AssetKind → Type} {s u : Store R V} {c : ComponentId} {inputs : List Schema}

lemma Table.column?_outline (table : Table R) (c : ComponentId) :
    table.outline.column? c = (table.column? c).map fun column => .empty column.schema := by
  rw [column?, column?]
  cases h : table.index[c]? <;> simp [outline, h]

lemma ColumnArray.entities_foldl_extend (tables : List (Table R)) (a : ColumnArray R) :
    (tables.foldl (·.extend c) a).entities =
      a.entities ++ tables.flatMap fun table => if (table.column? c).isSome then table.entities.toList else [] := by
  induction tables generalizing a with
  | nil => simp
  | cons table tables ih =>
    rw [List.foldl_cons, ih, extend]
    cases h : table.column? c <;> simp [h]

structure Shape where
  entities : Allocator
  archetypeNames : List ArchetypeName
  archetypeSchemas? : ArchetypeName → Option (List Schema)
  schema? : ComponentId → Option Schema
  nameOf? : EntityId → Option String
  find? : String → Option EntityId
  holds : EntityId → ComponentId → Prop
  columns : ComponentId → Except Error (List EntityId)
  queries : List Schema → Except Error (List EntityId)
  stamp? : EntityId → ComponentId → Option Nat

namespace Store

def shape (s : Store R V) : Shape where
  entities := s.entities
  archetypeNames := s.archetypeNames
  archetypeSchemas? := s.archetypeSchemas?
  schema? := s.schema?
  nameOf? := s.nameOf?
  find? := s.find?
  holds := s.Holds
  columns c := (s.columnArray c).map (·.entities)
  queries inputs := (s.query inputs).map Query.entities
  stamp? := s.stamp?

section Outline

lemma archetypeNames_outline (s : Store R V) : s.outline.archetypeNames = s.archetypeNames := by
  simp [archetypeNames, outline, Table.outline]

lemma archetypeSchemas?_outline (s : Store R V) (name : ArchetypeName) :
    s.outline.archetypeSchemas? name = s.archetypeSchemas? name := by
  have hindex : s.outline.archetypes = s.archetypes := rfl
  simp only [archetypeSchemas?, hindex, tables_outline]
  cases s.archetypes[name]? with
  | none => rfl
  | some i => cases h : s.tables[i]? <;> simp [h, Table.outline, Table.schemas, Column.empty, Function.comp_def]

lemma entities_columnArray_outline (s : Store R V) (c : ComponentId) :
    (s.outline.columnArray c).map (·.entities) = (s.columnArray c).map (·.entities) := by
  have hregistry : s.outline.schema? c = s.schema? c := rfl
  have hholders : s.outline.holdersOf c = s.holdersOf c := rfl
  have htables : (s.outline.holdersOf c).filterMap (s.outline.tables[·]?) =
      ((s.holdersOf c).filterMap (s.tables[·]?)).map Table.outline := by
    simp only [hholders, tables_outline, List.map_filterMap]
  rw [columnArray, columnArray, hregistry]
  cases s.schema? c with
  | none => rfl
  | some schema =>
    simp only [Except.map, ColumnArray.entities_foldl_extend, htables, List.flatMap_map, Table.column?_outline,
      Option.isSome_map]
    rfl

end Outline

section Queries

lemma Valid.mem_map_join_iff (hs : s.Valid) (ha : ∀ schema ∈ inputs, s.Agrees schema) {e : EntityId} :
    e ∈ (s.join inputs).map (·.1) ↔ inputs ≠ [] ∧ ∀ schema ∈ inputs, s.Holds e schema.id := by
  simp only [List.mem_map, Prod.exists, exists_and_right, exists_eq_right, hs.mem_join_iff_matched? ha,
    matched?_eq_some_iff ha, exists_and_left, hs.exists_reads_iff ha]

lemma Refills.entities_query (h : s.Refills u) (hs : s.Valid) (inputs : List Schema) :
    (u.query inputs).map Query.entities = (s.query inputs).map Query.entities := by
  apply query_map_congr Query.entities (schema?_of_outline h.outline)
  intro hau ha
  have hleft : ((u.join inputs).map (·.1)).Pairwise (·.raw < ·.raw) :=
    List.pairwise_map.2 (h.valid.join_ascending hau)
  have hright : ((s.join inputs).map (·.1)).Pairwise (·.raw < ·.raw) := List.pairwise_map.2 (hs.join_ascending ha)
  apply eq_of_strict hleft hright
  intro e
  rw [h.valid.mem_map_join_iff hau, hs.mem_map_join_iff ha]
  simp only [h.holds_iff hs]

end Queries

lemma Refills.shape_eq (h : s.Refills u) (hs : s.Valid) : u.shape = s.shape := by
  have harchetypes : u.archetypeSchemas? = s.archetypeSchemas? := funext fun name => by
    rw [← archetypeSchemas?_outline, h.outline, archetypeSchemas?_outline]
  have hnames : u.archetypeNames = s.archetypeNames := by
    rw [← archetypeNames_outline, h.outline, archetypeNames_outline]
  have hcolumns : ∀ c, (u.columnArray c).map (·.entities) = (s.columnArray c).map (·.entities) := fun c => by
    rw [← entities_columnArray_outline, h.outline, entities_columnArray_outline]
  have hschema : u.schema? = s.schema? := funext (schema?_of_outline h.outline)
  have hstamp : u.stamp? = s.stamp? := funext₂ fun _ _ => stamp?_of_outline h.outline
  have hholds : u.Holds = s.Holds := funext₂ fun e c => propext (h.holds_iff hs e c)
  simp only [shape, harchetypes, hnames, hcolumns, hschema, hstamp, hholds, h.entities_query hs]
  obtain ⟨_, rfl⟩ := eq_of_outline h.outline
  rfl

end Store

end ColumnSim
