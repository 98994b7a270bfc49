/-
Columns and values of records that hold records.

A leaf is a field with a column, below any number of fields that flatten records, and its path says which field to take
in each record. `flattening_aligned` says that in a family without cycles every type has a column and a value for each
leaf, both in the order of declaration, and that a column and the value at its place come from one leaf.
-/
import Sql.Declaration.Family

namespace Sql

namespace Declaration

/-- The type whose records a field holds. -/
def ShapeField.type? : ShapeField → Option String
  | .column _ _ => none
  | .flatten _ type => some type

/-- The types whose records the records of a shape hold. -/
def Shape.flattened (shape : Shape) : List String := shape.fields.filterMap (·.type?)

namespace Family

/-! ## Families -/

/-- All types of records that records hold are in the family. -/
def Closed (family : Family) : Prop :=
  ∀ shape ∈ family, ∀ inner ∈ shape.flattened, (family.shape? inner).isSome = true

instance (family : Family) : Decidable family.Closed :=
  inferInstanceAs (Decidable (∀ shape ∈ family, ∀ inner ∈ shape.flattened, (family.shape? inner).isSome = true))

/-- Records of a type hold records of another type. -/
def Flattens (family : Family) (outer inner : String) : Prop :=
  ∃ shape, family.shape? outer = some shape ∧ inner ∈ shape.flattened

/-- No record holds records of its own type, however deep. -/
def Acyclic (family : Family) : Prop := ∀ type, ¬ Relation.TransGen family.Flattens type type

/-- The leaf at a path through the fields of a shape: its name and its markers. -/
def leaf? (family : Family) : List ShapeField → List Nat → Option (String × Markers)
  | _, [] => none
  | fields, place :: path =>
    match fields[place]? with
    | none => none
    | some (.column name markers) => if path.isEmpty then some (name, markers) else none
    | some (.flatten _ type) => (family.shape? type).bind fun shape => family.leaf? shape.fields path

/-- The paths of all leaves in the order of declaration, those within a record at the place of its field. -/
structure ListsLeaves (family : Family) (fields : List ShapeField) (paths : List (List Nat)) : Prop where
  ordered : paths.Pairwise (List.Lex (· < ·))
  mem_iff : ∀ path, path ∈ paths ↔ (family.leaf? fields path).isSome = true

/-- How many leaves fields have, given how many those of other types have. -/
def countFields (count : String → Nat) : List ShapeField → Nat
  | [] => 0
  | .column _ _ :: rest => 1 + countFields count rest
  | .flatten _ type :: rest => count type + countFields count rest

/-- The numbers of leaves of all types, counted by recursion. -/
def CountsLeaves (family : Family) (count : String → Nat) : Prop :=
  ∀ type shape, family.shape? type = some shape → count type = countFields count shape.fields

end Family

end Declaration

namespace Fields

/-! ## Paths through fields -/

/-- The same path, behind one more field. -/
def behind : List Nat → List Nat
  | [] => []
  | place :: path => (place + 1) :: path

/-- The paths of all columns in their order. -/
def paths : Fields → List (List Nat)
  | none => []
  | column _ _ rest => [0] :: rest.paths.map behind
  | nested _ inner rest => inner.paths.map (0 :: ·) ++ rest.paths.map behind

/-- The name and the markers of the field at a path. -/
def leaf? : Fields → List Nat → Option (String × Markers)
  | none, _ | column _ _ _, [] | nested _ _ _, [] => .none
  | column name markers _, 0 :: path => if path.isEmpty then some (name, markers) else .none
  | nested _ inner _, 0 :: path => inner.leaf? path
  | column _ _ rest, (place + 1) :: path | nested _ _ rest, (place + 1) :: path => rest.leaf? (place :: path)

/-- The value of the field at a path. -/
def valueAt? : (fields : Fields) → fields.Content → List Nat → Option Value
  | none, _, _ | column _ _ _, _, [] | nested _ _ _, _, [] => .none
  | column _ _ _, (value, _), 0 :: path => if path.isEmpty then some value else .none
  | nested _ inner _, (record, _), 0 :: path => inner.valueAt? record path
  | column _ _ rest, (_, content), (place + 1) :: path | nested _ _ rest, (_, content), (place + 1) :: path =>
    rest.valueAt? content (place :: path)

@[simp] theorem leaf?_nil (fields : Fields) : fields.leaf? [] = .none := by
  cases fields <;> rfl

@[simp] theorem valueAt?_nil (fields : Fields) (content : fields.Content) : fields.valueAt? content [] = .none := by
  cases fields <;> rfl

@[simp] theorem leaf?_column_behind (name : String) (markers : Markers) (rest : Fields) (path : List Nat) :
    (column name markers rest).leaf? (behind path) = rest.leaf? path := by
  cases path with
  | nil => exact (leaf?_nil rest).symm
  | cons place path => rfl

@[simp] theorem leaf?_nested_behind (name : String) (inner rest : Fields) (path : List Nat) :
    (nested name inner rest).leaf? (behind path) = rest.leaf? path := by
  cases path with
  | nil => exact (leaf?_nil rest).symm
  | cons place path => rfl

@[simp] theorem valueAt?_column_behind (name : String) (markers : Markers) (rest : Fields) (value : Value)
    (content : rest.Content) (path : List Nat) :
    (column name markers rest).valueAt? (value, content) (behind path) = rest.valueAt? content path := by
  cases path with
  | nil => exact (valueAt?_nil rest content).symm
  | cons place path => rfl

@[simp] theorem valueAt?_nested_behind (name : String) (inner rest : Fields) (record : inner.Content)
    (content : rest.Content) (path : List Nat) :
    (nested name inner rest).valueAt? (record, content) (behind path) = rest.valueAt? content path := by
  cases path with
  | nil => exact (valueAt?_nil rest content).symm
  | cons place path => rfl

@[simp] theorem nil_mem_behind {ps : List (List Nat)} : [] ∈ ps.map behind ↔ [] ∈ ps := by
  rw [List.mem_map]
  constructor
  · rintro ⟨_ | ⟨place, path⟩, hmem, heq⟩
    · exact hmem
    · cases heq
  · exact fun hmem => ⟨[], hmem, rfl⟩

@[simp] theorem zero_not_mem_behind {ps : List (List Nat)} {path : List Nat} : 0 :: path ∉ ps.map behind := by
  rw [List.mem_map]
  rintro ⟨_ | ⟨place, path⟩, hmem, heq⟩ <;> cases heq

@[simp] theorem succ_mem_behind {ps : List (List Nat)} {place : Nat} {path : List Nat} :
    (place + 1) :: path ∈ ps.map behind ↔ place :: path ∈ ps := by
  rw [List.mem_map]
  constructor
  · rintro ⟨_ | ⟨place', path'⟩, hmem, heq⟩ <;> cases heq
    exact hmem
  · exact fun hmem => ⟨place :: path, hmem, rfl⟩

theorem mem_paths {fields : Fields} {path : List Nat} :
    path ∈ fields.paths ↔ (fields.leaf? path).isSome = true := by
  induction fields generalizing path with
  | none => simp [paths, leaf?]
  | column name markers rest ih =>
    rw [paths, List.mem_cons]
    rcases path with _ | ⟨_ | place, path⟩
    · simp [ih]
    · cases path <;> simp [leaf?]
    · simp [leaf?, ih]
  | nested name inner rest ihInner ihRest =>
    rw [paths, List.mem_append]
    rcases path with _ | ⟨_ | place, path⟩
    · simp [ihRest]
    · simp [leaf?, ihInner]
    · simp [leaf?, ihRest]

theorem nil_not_mem_paths (fields : Fields) : [] ∉ fields.paths := by
  simp [mem_paths]

theorem lex_behind {path path' : List Nat} (h : List.Lex (· < ·) path path') :
    List.Lex (· < ·) (behind path) (behind path') := by
  cases h with
  | nil => exact .nil
  | cons hrest => exact .cons hrest
  | rel hlt => exact .rel (Nat.succ_lt_succ hlt)

/-- What stands in the field at the front comes before what stands behind it. -/
theorem zero_lex_behind (rest : List Nat) {fields : Fields} {path : List Nat} (h : path ∈ fields.paths) :
    List.Lex (· < ·) (0 :: rest) (behind path) := by
  cases path with
  | nil => exact absurd h fields.nil_not_mem_paths
  | cons place path => exact .rel (Nat.succ_pos place)

theorem paths_ordered (fields : Fields) : fields.paths.Pairwise (List.Lex (· < ·)) := by
  induction fields with
  | none => exact .nil
  | column name markers rest ih =>
    refine List.pairwise_cons.2 ⟨List.forall_mem_map.2 fun path hpath => zero_lex_behind [] hpath, ?_⟩
    exact List.pairwise_map.2 (ih.imp lex_behind)
  | nested name inner rest ihInner ihRest =>
    have hinner : (inner.paths.map (0 :: ·)).Pairwise (List.Lex (· < ·)) := List.pairwise_map.2 (ihInner.imp .cons)
    have hrest : (rest.paths.map behind).Pairwise (List.Lex (· < ·)) := List.pairwise_map.2 (ihRest.imp lex_behind)
    refine List.pairwise_append.2 ⟨hinner, hrest, List.forall_mem_map.2 fun path _ => ?_⟩
    exact List.forall_mem_map.2 fun path' hpath' => zero_lex_behind path hpath'

/-! ## Columns and values -/

theorem columns_eq (fields : Fields) : fields.columns.map some =
    fields.paths.map fun path => (fields.leaf? path).map fun leaf => Column.ofField leaf.1 leaf.2 := by
  induction fields with
  | none => rfl
  | column name markers rest ih =>
    simp only [columns, paths, List.map_cons, ih, List.map_map, Function.comp_def, leaf?_column_behind]
    rfl
  | nested name inner rest ihInner ihRest =>
    simp only [columns, paths, List.map_append, ihInner, ihRest, List.map_map, Function.comp_def, leaf?_nested_behind]
    rfl

theorem values_eq (fields : Fields) (content : fields.Content) : (fields.values content).map some =
    fields.paths.map fun path => (fields.leaf? path).bind fun leaf =>
      if leaf.2.ignored then some .null else fields.valueAt? content path := by
  induction fields with
  | none => rfl
  | column name markers rest ih =>
    obtain ⟨value, content⟩ := content
    simp only [values, paths, List.map_cons, ih, List.map_map, Function.comp_def, leaf?_column_behind,
      valueAt?_column_behind]
    cases hignored : markers.ignored <;> simp [leaf?, valueAt?, hignored]
  | nested name inner rest ihInner ihRest =>
    obtain ⟨record, content⟩ := content
    simp only [values, paths, List.map_append, ihInner, ihRest, List.map_map, Function.comp_def, leaf?_nested_behind,
      valueAt?_nested_behind]
    rfl

theorem length_values (fields : Fields) (content : fields.Content) :
    (fields.values content).length = fields.columns.length := by
  have hcolumns := congrArg List.length fields.columns_eq
  have hvalues := congrArg List.length (fields.values_eq content)
  rw [List.length_map, List.length_map] at hcolumns hvalues
  rw [hvalues, hcolumns]

end Fields

namespace Declaration.Family

variable {family : Family} {type inner outer : String} {shape : Shape} {fields : List ShapeField} {fs : Fields}
  {depth : Nat} {flattened? flattened'? : String → Option Fields}

/-! ## Fields of shapes -/

theorem fieldsOf?_column (name : String) (markers : Markers) (rest : List ShapeField) :
    fieldsOf? flattened? (.column name markers :: rest) = (fieldsOf? flattened? rest).map (.column name markers) := by
  rw [fieldsOf?]
  cases fieldsOf? flattened? rest <;> rfl

theorem fieldsOf?_flatten_eq_some {name type : String} {rest : List ShapeField} :
    fieldsOf? flattened? (.flatten name type :: rest) = some fs ↔
      ∃ inner fs', flattened? type = some inner ∧ fieldsOf? flattened? rest = some fs' ∧
        .nested name inner fs' = fs := by
  rw [fieldsOf?]
  cases flattened? type <;> cases fieldsOf? flattened? rest <;> simp [bind, pure]

/-- Fields are there if all that they flatten is there. -/
theorem exists_fieldsOf? (h : ∀ type ∈ fields.filterMap (·.type?), ∃ inner, flattened? type = some inner) :
    ∃ fs, fieldsOf? flattened? fields = some fs := by
  induction fields with
  | nil => exact ⟨.none, rfl⟩
  | cons field rest ih =>
    cases field with
    | column name markers =>
      obtain ⟨fs, hrest⟩ := ih h
      exact ⟨.column name markers fs, by rw [fieldsOf?_column, hrest, Option.map_some]⟩
    | flatten name type =>
      obtain ⟨⟨inner, hinner⟩, hrest⟩ := List.forall_mem_cons.1 h
      obtain ⟨fs, hrest⟩ := ih hrest
      exact ⟨.nested name inner fs, fieldsOf?_flatten_eq_some.2 ⟨inner, fs, hinner, hrest, rfl⟩⟩

theorem fieldsOf?_mono (h : ∀ type inner, flattened? type = some inner → flattened'? type = some inner)
    (hfields : fieldsOf? flattened? fields = some fs) : fieldsOf? flattened'? fields = some fs := by
  induction fields generalizing fs with
  | nil => exact hfields
  | cons field rest ih =>
    cases field with
    | column name markers =>
      rw [fieldsOf?_column, Option.map_eq_some_iff] at hfields ⊢
      obtain ⟨fs', hrest, rfl⟩ := hfields
      exact ⟨fs', ih hrest, rfl⟩
    | flatten name type =>
      rw [fieldsOf?_flatten_eq_some] at hfields ⊢
      obtain ⟨inner, fs', hinner, hrest, rfl⟩ := hfields
      exact ⟨inner, fs', h type inner hinner, ih hrest, rfl⟩

/-- Fields lead on from what stands behind the one at the front as if it were not there. -/
theorem leaf?_cons_succ (field : ShapeField) (rest : List ShapeField) (place : Nat) (path : List Nat) :
    family.leaf? (field :: rest) ((place + 1) :: path) = family.leaf? rest (place :: path) := by
  simp only [leaf?, List.getElem?_cons_succ]

/-- The leaves of fields are those of their shape, if this is so for what they flatten. -/
theorem leaf?_fieldsOf? (h : ∀ type inner, flattened? type = some inner →
      ∃ shape, family.shape? type = some shape ∧ ∀ path, inner.leaf? path = family.leaf? shape.fields path)
    (hfields : fieldsOf? flattened? fields = some fs) (path : List Nat) :
    fs.leaf? path = family.leaf? fields path := by
  induction fields generalizing fs path with
  | nil =>
    obtain rfl : Fields.none = fs := Option.some.inj hfields
    cases path <;> rfl
  | cons field rest ih =>
    cases field with
    | column name markers =>
      rw [fieldsOf?_column, Option.map_eq_some_iff] at hfields
      obtain ⟨fs', hrest, rfl⟩ := hfields
      rcases path with _ | ⟨_ | place, path⟩
      · rfl
      · rfl
      · rw [leaf?_cons_succ, ← ih hrest, Fields.leaf?]
    | flatten name type =>
      obtain ⟨inner, fs', hinner, hrest, rfl⟩ := fieldsOf?_flatten_eq_some.1 hfields
      rcases path with _ | ⟨_ | place, path⟩
      · rfl
      · obtain ⟨shape, hshape, hleaf⟩ := h type inner hinner
        rw [Fields.leaf?, hleaf, leaf?, List.getElem?_cons_zero]
        simp only [hshape, Option.bind_some]
      · rw [leaf?_cons_succ, ← ih hrest, Fields.leaf?]

/-- The fields of a type have the leaves of its shape. -/
theorem leaf?_fieldsBelow? (h : family.fieldsBelow? depth type = some fs) :
    ∃ shape, family.shape? type = some shape ∧ ∀ path, fs.leaf? path = family.leaf? shape.fields path := by
  induction depth generalizing type fs with
  | zero => cases h
  | succ depth ih =>
    obtain ⟨shape, hshape, hfields⟩ := Option.bind_eq_some_iff.1 h
    exact ⟨shape, hshape, leaf?_fieldsOf? (fun _ _ => ih) hfields⟩

/-- What is found within a bound is found within a greater one. -/
theorem fieldsBelow?_mono (h : family.fieldsBelow? depth type = some fs) :
    family.fieldsBelow? (depth + 1) type = some fs := by
  induction depth generalizing type fs with
  | zero => cases h
  | succ depth ih =>
    obtain ⟨shape, hshape, hfields⟩ := Option.bind_eq_some_iff.1 h
    exact Option.bind_eq_some_iff.2 ⟨shape, hshape, fieldsOf?_mono (fun _ _ => ih) hfields⟩

/-! ## Depth -/

theorem mem_names_of_shape? (h : family.shape? type = some shape) : type ∈ family.map (·.name) := by
  have hname : shape.name = type := by simpa using List.find?_some h
  exact hname ▸ List.mem_map_of_mem (List.mem_of_find?_eq_some h)

/-- Types whose records hold those of one type, and this type itself: all of them in the family, and each once. -/
structure Above (family : Family) (above : List String) (type : String) : Prop where
  flattens : ∀ outer ∈ above, Relation.TransGen family.Flattens outer type
  distinct : (type :: above).Nodup
  known : type :: above ⊆ family.map (·.name)

theorem Above.nil (hshape : family.shape? type = some shape) : family.Above [] type where
  flattens := List.forall_mem_nil _
  distinct := by simp
  known := List.cons_subset.2 ⟨mem_names_of_shape? hshape, List.nil_subset _⟩

theorem Above.cons {above : List String} (h : family.Above above type) (hacyclic : family.Acyclic)
    (hflattens : family.Flattens type inner) (hshape : family.shape? inner = some shape) :
    family.Above (type :: above) inner := by
  have habove : ∀ outer ∈ type :: above, Relation.TransGen family.Flattens outer inner :=
    List.forall_mem_cons.2 ⟨.single hflattens, fun outer houter => (h.flattens outer houter).tail hflattens⟩
  have hnew : inner ∉ type :: above := fun hmem => hacyclic inner (habove inner hmem)
  exact ⟨habove, List.nodup_cons.2 ⟨hnew, h.distinct⟩, List.cons_subset.2 ⟨mem_names_of_shape? hshape, h.known⟩⟩

/-- There are no more types above one than in the family, so a search that begins with as much depth as there are types
ends before its depth does. -/
theorem exists_fieldsBelow? (hclosed : family.Closed) (hacyclic : family.Acyclic) {above : List String}
    (habove : family.Above above type) (hdepth : family.length ≤ depth + above.length)
    (hshape : family.shape? type = some shape) : ∃ fs, family.fieldsBelow? depth type = some fs := by
  induction depth generalizing type above shape with
  | zero =>
    -- All types of the family would stand above this one.
    have hlength := habove.distinct.length_le_of_subset habove.known
    rw [List.length_cons, List.length_map] at hlength
    omega
  | succ depth ih =>
    have hinner : ∀ inner ∈ shape.flattened, ∃ fs, family.fieldsBelow? depth inner = some fs := by
      intro inner hmem
      have hflattens : family.Flattens type inner := ⟨shape, hshape, hmem⟩
      have hknown : shape ∈ family := List.mem_of_find?_eq_some hshape
      obtain ⟨shape', hshape'⟩ := Option.isSome_iff_exists.1 (hclosed shape hknown inner hmem)
      refine ih (habove.cons hacyclic hflattens hshape') ?_ hshape'
      rw [List.length_cons]
      omega
    obtain ⟨fs, hfields⟩ := exists_fieldsOf? hinner
    exact ⟨fs, Option.bind_eq_some_iff.2 ⟨shape, hshape, hfields⟩⟩

/-- **The fields of a type are those of its shape**, whatever it flattens. -/
theorem fields?_eq (hclosed : family.Closed) (hacyclic : family.Acyclic) (hshape : family.shape? type = some shape) :
    ∃ fs, family.fields? type = some fs ∧ fieldsOf? family.fields? shape.fields = some fs := by
  obtain ⟨fs, hfields⟩ := exists_fieldsBelow? hclosed hacyclic (.nil hshape) (Nat.le_add_right _ _) hshape
  -- With one more level of depth the same is found, now from what the flattened types are within the old depth.
  obtain ⟨shape', hshape', hflattened⟩ := Option.bind_eq_some_iff.1 (fieldsBelow?_mono hfields)
  obtain rfl : shape = shape' := Option.some.inj (hshape.symm.trans hshape')
  exact ⟨fs, hfields, hflattened⟩

/-! ## Numbers of leaves -/

/-- How many leaves a type has; none if it is not there. -/
def leafCount (family : Family) (type : String) : Nat :=
  match family.fields? type with
  | none => 0
  | some fs => fs.columns.length

theorem length_fieldsOf? {count : String → Nat}
    (h : ∀ type inner, flattened? type = some inner → count type = inner.columns.length)
    (hfields : fieldsOf? flattened? fields = some fs) : fs.columns.length = countFields count fields := by
  induction fields generalizing fs with
  | nil =>
    obtain rfl : Fields.none = fs := Option.some.inj hfields
    rfl
  | cons field rest ih =>
    cases field with
    | column name markers =>
      rw [fieldsOf?_column, Option.map_eq_some_iff] at hfields
      obtain ⟨fs', hrest, rfl⟩ := hfields
      rw [Fields.columns, List.length_cons, ih hrest, countFields, Nat.add_comm]
    | flatten name type =>
      obtain ⟨inner, fs', hinner, hrest, rfl⟩ := fieldsOf?_flatten_eq_some.1 hfields
      rw [Fields.columns, List.length_append, ih hrest, countFields, h type inner hinner]

theorem leafCount_eq (h : family.fields? type = some fs) : family.leafCount type = fs.columns.length := by
  rw [leafCount, h]

theorem countsLeaves_leafCount (hclosed : family.Closed) (hacyclic : family.Acyclic) :
    family.CountsLeaves family.leafCount := by
  intro type shape hshape
  obtain ⟨fs, htype, hfields⟩ := fields?_eq hclosed hacyclic hshape
  rw [leafCount_eq htype]
  exact length_fieldsOf? (fun _ _ => leafCount_eq) hfields

/-! ## Records -/

theorem listsLeaves_paths (h : ∀ path, fs.leaf? path = family.leaf? fields path) :
    family.ListsLeaves fields fs.paths where
  ordered := fs.paths_ordered
  mem_iff path := by rw [Fields.mem_paths, h]

/-- **Columns and values stay aligned through any flattening.** Each type of a family without cycles has one column and
one value for each leaf, in the order of declaration: the column is that of the leaf, and the value what a record holds
there, or null if the leaf is ignored. -/
theorem flattening_aligned (hclosed : family.Closed) (hacyclic : family.Acyclic) :
    ∃ count, family.CountsLeaves count ∧ ∀ type shape, family.shape? type = some shape →
      ∃ t paths, family.recordType? type = some t ∧ family.ListsLeaves shape.fields paths ∧
        t.entity.columns.length = count type ∧
        (t.entity.columns.map some = paths.map fun path =>
          (family.leaf? shape.fields path).map fun leaf => Column.ofField leaf.1 leaf.2) ∧
        ∀ record : PlainRecord t, (Record.values record).length = count type ∧
          (Record.values record).map some = paths.map fun path => (family.leaf? shape.fields path).bind fun leaf =>
            if leaf.2.ignored then some .null else t.fields.valueAt? record.content path := by
  refine ⟨family.leafCount, countsLeaves_leafCount hclosed hacyclic, fun type shape hshape => ?_⟩
  obtain ⟨fs, htype, -⟩ := fields?_eq hclosed hacyclic hshape
  have hrecord : family.recordType? type = some { name := shape.name, table := shape.table, fields := fs } := by
    rw [recordType?, hshape, htype]
    rfl
  obtain ⟨shape', hshape', hleaf⟩ := leaf?_fieldsBelow? htype
  obtain rfl : shape = shape' := Option.some.inj (hshape.symm.trans hshape')
  have hcolumns := fs.columns_eq
  simp only [hleaf] at hcolumns
  refine ⟨_, fs.paths, hrecord, listsLeaves_paths hleaf, (leafCount_eq htype).symm, hcolumns, fun record => ⟨?_, ?_⟩⟩
  · exact (fs.length_values record.content).trans (leafCount_eq htype).symm
  · have hvalues := fs.values_eq record.content
    simp only [hleaf] at hvalues
    exact hvalues

/-- Types with ranks that fall from records to the records in them are in no cycle. -/
theorem acyclic_of_rank (rank : String → Nat)
    (h : ∀ shape ∈ family, ∀ inner ∈ shape.flattened, rank inner < rank shape.name) : family.Acyclic := by
  have hfall {outer inner : String} (hflattens : family.Flattens outer inner) : rank inner < rank outer := by
    obtain ⟨shape, hshape, hmem⟩ := hflattens
    have hname : shape.name = outer := by simpa using List.find?_some hshape
    exact hname ▸ h shape (List.mem_of_find?_eq_some hshape) inner hmem
  have hfalls {outer inner : String} (hpath : Relation.TransGen family.Flattens outer inner) :
      rank inner < rank outer := by
    induction hpath with
    | single hflattens => exact hfall hflattens
    | tail _ hflattens ih => exact Nat.lt_trans (hfall hflattens) ih
  exact fun type hcycle => Nat.lt_irrefl _ (hfalls hcycle)

/-- Users with a stamp, which has an audit before its version. -/
def stampedUsers : Family :=
  [⟨"User", "user", false, [.column "id" {}, .flatten "stamp" "Stamp", .column "name" { column := some "user_name" }]⟩,
    ⟨"Stamp", "stamp", false, [.flatten "audit" "Audit", .column "version" {}]⟩,
    ⟨"Audit", "audit", false, [.column "createdBy" {}, .column "reviewer" { ignored := true }]⟩]

theorem flattening_aligned_stampedUsers :
    ∃ (t : RecordType) (paths : List (List Nat)), stampedUsers.recordType? "User" = some t ∧
      t.entity.columns.map (·.name) = ["id", "created_by", "reviewer", "version", "user_name"] ∧
      [1, 0, 1] ∈ paths ∧ ∀ record : PlainRecord t, (Record.values record).length = 5 := by
  have hacyclic : stampedUsers.Acyclic :=
    acyclic_of_rank (fun type => if type = "User" then 2 else if type = "Stamp" then 1 else 0) (by decide)
  obtain ⟨count, hcount, haligned⟩ := flattening_aligned (by decide) hacyclic
  obtain ⟨t, paths, ht, hleaves, -, -, hvalues⟩ := haligned "User" _ rfl
  have huser : count "User" = 5 := by
    rw [hcount "User" _ rfl]
    simp only [countFields]
    rw [hcount "Stamp" _ rfl]
    simp only [countFields]
    rw [hcount "Audit" _ rfl]
    rfl
  refine ⟨t, paths, ht, ?_, (hleaves.mem_iff _).2 (by decide), fun record => (hvalues record).1.trans huser⟩
  obtain rfl := Option.some.inj (ht.symm.trans rfl)
  decide

end Declaration.Family

end Sql
