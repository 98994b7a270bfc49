/-
Lists of markers, read for a column and read in the attributes of a declared field.

`EntriesOf` says what the entries of such a list are. A marker that is added sets its flag and no other (`withWords_add`),
so by induction over the entries a list sets the flags of the markers in it, or it is refused for its first entry that
is none. `markers_mean_alike` puts this together for both readings.
-/
import Mathlib.Data.List.Forall2
import Sql.Declaration.Shape
import Sql.Proofs.TextParts

namespace Sql

open Declaration

/-! ## Entries -/

/-- What stands between the commas of a list, without the blanks around it, unless nothing is left. -/
def EntriesOf (tag : String) (words : List String) : Prop :=
  ∃ parts trimmed, Text.Parts ',' tag.toList parts ∧ List.Forall₂ Text.TrimsTo parts trimmed ∧
    words = (trimmed.filter (!·.isEmpty)).map String.ofList

theorem entriesOf_iff {tag : String} {words : List String} : EntriesOf tag words ↔ words = markerWords tag := by
  have htrimmed (parts trimmed : List (List Char)) :
      List.Forall₂ Text.TrimsTo parts trimmed ↔ trimmed = parts.map Text.trimChars := by
    have hrel : Text.TrimsTo = fun part middle => Eq (Text.trimChars part) middle := by
      funext part middle
      exact propext (Text.trimsTo_iff.trans eq_comm)
    rw [hrel, ← List.forall₂_map_left_iff (f := Text.trimChars), List.forall₂_eq_eq_eq, eq_comm]
  have hwords : markerWords tag =
      (((Text.segments (· == ',') tag.toList).map Text.trimChars).filter (!·.isEmpty)).map String.ofList := by
    have hempty (cs : List Char) : (String.ofList cs).isEmpty = cs.isEmpty := by
      rw [Bool.eq_iff_iff, String.isEmpty_iff, List.isEmpty_iff]
      simp
    simp only [markerWords, List.filter_map, List.map_map, Function.comp_def, hempty]
  constructor
  · rintro ⟨parts, trimmed, hparts, htrims, rfl⟩
    rw [hwords, (htrimmed parts trimmed).1 htrims, Text.parts_iff.1 hparts]
  · rintro rfl
    exact ⟨_, _, Text.parts_segments ',' tag.toList, (htrimmed _ _).2 rfl, hwords⟩

/-- A marker as it is written. -/
def Marker.word : Marker → String
  | primaryKey => "primaryKey"
  | tenantKey => "tenantKey"
  | softDelete => "softDelete"
  | ignored => "_"

theorem Marker.ofWord?_eq_some_iff {word : String} {marker : Marker} :
    ofWord? word = some marker ↔ word = marker.word := by
  unfold ofWord?
  split <;> cases marker <;> simp_all [Marker.word]

def IsMarker (word : String) : Prop := ∃ marker : Marker, word = marker.word

theorem ofWord?_eq_none_iff {word : String} : Marker.ofWord? word = none ↔ ¬ IsMarker word := by
  constructor
  · rintro hnone ⟨marker, hword⟩
    rw [Marker.ofWord?_eq_some_iff.2 hword] at hnone
    cases hnone
  · intro hnot
    cases hmarker : Marker.ofWord? word with
    | none => rfl
    | some marker => exact absurd ⟨marker, Marker.ofWord?_eq_some_iff.1 hmarker⟩ hnot

/-! ## Flags -/

namespace Markers

/-- Flags that are set by the markers among some words, and by nothing else. -/
structure Says (m : Markers) (words : List String) : Prop where
  primaryKey : m.primaryKey = if "primaryKey" ∈ words then some true else none
  tenantKey : m.tenantKey = if "tenantKey" ∈ words then some true else none
  softDelete : m.softDelete = if "softDelete" ∈ words then some true else none
  ignored : m.ignored = true ↔ "_" ∈ words
  column : m.column = none

/-- Markers with the flags that some words set. -/
def withWords (m : Markers) (words : List String) : Markers where
  primaryKey := if "primaryKey" ∈ words then some true else m.primaryKey
  tenantKey := if "tenantKey" ∈ words then some true else m.tenantKey
  softDelete := if "softDelete" ∈ words then some true else m.softDelete
  ignored := m.ignored || decide ("_" ∈ words)
  column := m.column

/-- A marker sets the flag that its word sets. -/
theorem withWords_add (m : Markers) (marker : Marker) (words : List String) :
    (m.add marker).withWords words = m.withWords (marker.word :: words) := by
  cases marker <;> simp [withWords, add, Marker.word]

theorem withWords_congr (m : Markers) {words words' : List String} (h : ∀ word, word ∈ words ↔ word ∈ words') :
    m.withWords words = m.withWords words' := by
  simp only [withWords, h]

theorem says_withWords (words : List String) : (({} : Markers).withWords words).Says words where
  primaryKey := rfl
  tenantKey := rfl
  softDelete := rfl
  ignored := by simp [withWords]
  column := rfl

theorem addWords_of_all {m : Markers} {words : List String} (h : ∀ word ∈ words, IsMarker word) :
    m.addWords words = .ok (m.withWords words) := by
  induction words generalizing m with
  | nil => simp [addWords, withWords]
  | cons word words ih =>
    obtain ⟨⟨marker, rfl⟩, hwords⟩ := List.forall_mem_cons.1 h
    rw [addWords, Marker.ofWord?_eq_some_iff.2 rfl, ← withWords_add]
    exact ih hwords

theorem addWords_of_firstUnknown {m : Markers} {words : List String} {unknown : String}
    (h : Text.FirstUnknown IsMarker words unknown) : m.addWords words = .error unknown := by
  induction words generalizing m with
  | nil => exact absurd h.mem.1 List.not_mem_nil
  | cons word words ih =>
    rcases Text.firstUnknown_cons.1 h with ⟨hword, rfl⟩ | ⟨⟨marker, rfl⟩, hrest⟩
    · rw [addWords, ofWord?_eq_none_iff.2 hword]
    · rw [addWords, Marker.ofWord?_eq_some_iff.2 rfl]
      exact ih hrest

end Markers

/-! ## Both readings -/

/-- A word means the same marker in an attribute as for a column. -/
theorem FieldMeaning.applyMarker_eq (m : FieldMeaning) (word : String) :
    m.applyMarker word =
      match Marker.ofWord? word with
      | some marker => .ok { m with markers := m.markers.add marker }
      | none => .error (.unknownMarker word) := by
  unfold FieldMeaning.applyMarker Marker.ofWord?
  split <;> simp_all [Markers.add]

/-- Both loops over the words of a list do the same. -/
theorem FieldMeaning.foldlM_applyMarker (m : FieldMeaning) (words : List String) :
    words.foldlM FieldMeaning.applyMarker m =
      ((m.markers.addWords words).mapError Fault.unknownMarker).map fun markers => { m with markers } := by
  induction words generalizing m with
  | nil => rfl
  | cons word words ih =>
    rw [List.foldlM_cons, FieldMeaning.applyMarker_eq, Markers.addWords]
    cases Marker.ofWord? word with
    | some marker => exact ih { m with markers := m.markers.add marker }
    | none => rfl

/-- The meaning of a field with markers and nothing else. -/
theorem FieldMeaning.ofEntries_markers (tag : String) :
    FieldMeaning.ofEntries [⟨"markers", some (.text tag)⟩] =
      ((({} : Markers).addWords (markerWords tag)).mapError Fault.unknownMarker).map fun m => ⟨m, false⟩ := by
  have hadd : FieldMeaning.add {} ⟨"markers", some (.text tag)⟩ =
      ((({} : Markers).addWords (markerWords tag)).mapError Fault.unknownMarker).map fun m => ⟨m, false⟩ :=
    FieldMeaning.foldlM_applyMarker {} (markerWords tag)
  rw [FieldMeaning.ofEntries, List.foldlM_cons, hadd]
  cases ({} : Markers).addWords (markerWords tag) <;> rfl

/-- The column of a field with the markers among some words. What they do not say, the name of the column decides. -/
def Column.tagged (field : String) (words : List String) : Column where
  field := field
  name := Text.snake field
  isPrimaryKey := decide ("primaryKey" ∈ words) || Text.snake field == "id"
  isTenantKey := decide ("tenantKey" ∈ words) || Text.snake field == "tenant_id"
  isSoftDelete := decide ("softDelete" ∈ words) || Text.snake field == "is_deleted"
  ignored := decide ("_" ∈ words)

theorem Markers.Says.ofField_eq {m : Markers} {words : List String} (h : m.Says words) (field : String) :
    Column.ofField field m = Column.tagged field words := by
  have hflag (p : Prop) [Decidable p] (b : Bool) : (if p then some true else none).getD b = (decide p || b) := by
    by_cases hp : p <;> simp [hp]
  have hignored : m.ignored = decide ("_" ∈ words) := by
    rw [Bool.eq_iff_iff, h.ignored, decide_eq_true_iff]
  simp only [Column.ofField, Column.tagged, h.primaryKey, h.tenantKey, h.softDelete, h.column, hignored, hflag,
    Option.getD_none]

/-- **Lists of markers mean the same for columns and for declared fields.** Both readings refuse a list that has an entry which
is no marker, for the first of them; any other list sets the flags of the markers in it for both, whatever their order, their
number and the blanks around them. -/
theorem markers_mean_alike {tag : String} {attributes : List Attribute}
    (h : Entry.ofAttributes attributes = .ok [⟨"markers", some (.text tag)⟩]) :
    ∃ words, EntriesOf tag words ∧
      ((∃ word, Text.FirstUnknown IsMarker words word ∧ Markers.parse tag = .error (.unknownMarker word) ∧
          FieldMeaning.ofAttributes attributes = .error (.unknownMarker word)) ∨
        (∀ word ∈ words, IsMarker word) ∧
          ∃ m : Markers, m.Says words ∧ Markers.parse tag = .ok m ∧
            FieldMeaning.ofAttributes attributes = .ok { markers := m, flatten := false } ∧
            (∀ field, Column.ofField field m = Column.tagged field words) ∧
            (∀ field type, DeclaredField.shape ⟨field, type, attributes⟩ = .ok (.column field m)) ∧
            ∀ tag' words', EntriesOf tag' words' → (∀ word, word ∈ words' ↔ word ∈ words) →
              Markers.parse tag' = .ok m) := by
  refine ⟨markerWords tag, entriesOf_iff.2 rfl, ?_⟩
  have hmeaning : FieldMeaning.ofAttributes attributes =
      ((({} : Markers).addWords (markerWords tag)).mapError Fault.unknownMarker).map fun m => ⟨m, false⟩ := by
    rw [FieldMeaning.ofAttributes, h]
    exact FieldMeaning.ofEntries_markers tag
  rcases Text.all_or_firstUnknown IsMarker (markerWords tag) with hall | ⟨word, hunknown⟩
  · refine .inr ⟨hall, ({} : Markers).withWords (markerWords tag), Markers.says_withWords _, ?_, ?_,
      (Markers.says_withWords _).ofField_eq, ?_, ?_⟩
    · rw [Markers.parse, Markers.addWords_of_all hall]
      rfl
    · rw [hmeaning, Markers.addWords_of_all hall]
      rfl
    · intro field type
      rw [DeclaredField.shape, hmeaning, Markers.addWords_of_all hall]
      rfl
    · intro tag' words' hwords' hsame
      obtain rfl := entriesOf_iff.1 hwords'
      have hall' : ∀ word ∈ markerWords tag', IsMarker word := fun word hword => hall word ((hsame word).1 hword)
      rw [Markers.parse, Markers.addWords_of_all hall', Markers.withWords_congr _ hsame]
      rfl
  · refine .inl ⟨word, hunknown, ?_, ?_⟩
    · rw [Markers.parse, Markers.addWords_of_firstUnknown hunknown]
      rfl
    · rw [hmeaning, Markers.addWords_of_firstUnknown hunknown]
      rfl

/-- A soft-delete flag that is said twice, and an ignored column, with a comma at the end. -/
def repeatedMarkers : Attribute := ⟨"dbx", some [.word "markers", .equals, .literal (.text " softDelete ,_,, softDelete,")]⟩

theorem markers_mean_alike_repeated :
    Entry.ofAttributes [repeatedMarkers] = .ok [⟨"markers", some (.text " softDelete ,_,, softDelete,")⟩] ∧
      ∃ m : Markers, Markers.parse " softDelete ,_,, softDelete," = .ok m ∧
        FieldMeaning.ofAttributes [repeatedMarkers] = .ok ⟨m, false⟩ ∧
        m.softDelete = some true ∧ m.primaryKey = none ∧ m.ignored = true := by
  have h : Entry.ofAttributes [repeatedMarkers] = .ok [⟨"markers", some (.text " softDelete ,_,, softDelete,")⟩] := rfl
  refine ⟨h, ?_⟩
  obtain ⟨words, hwords, hread⟩ := markers_mean_alike h
  obtain rfl := entriesOf_iff.1 hwords
  have hentries : markerWords " softDelete ,_,, softDelete," = ["softDelete", "_", "softDelete"] := by decide
  rw [hentries] at hread
  rcases hread with ⟨word, hfirst, -⟩ | ⟨-, m, hsays, hparse, hmeaning, -⟩
  · have hmarkers : ∀ word ∈ ["softDelete", "_", "softDelete"], IsMarker word :=
      List.forall_mem_cons.2 ⟨⟨.softDelete, rfl⟩, List.forall_mem_cons.2 ⟨⟨.ignored, rfl⟩,
        List.forall_mem_singleton.2 ⟨.softDelete, rfl⟩⟩⟩
    exact absurd (hmarkers word hfirst.mem.1) hfirst.mem.2
  · exact ⟨m, hparse, hmeaning, hsays.softDelete, hsays.primaryKey, hsays.ignored.2 (by decide)⟩

end Sql
