/-
Labels of a reply lead back to the fields that were selected.

A database may return a column's label as it was rendered or as it is configured, with the letters
`A` to `Z` in another case.  The columns of a sound mapping differ in upper and in lower case, the
id column included, so such a label matches the column of its own field or no column at all, and
without a match its position decides.
-/
import Mathlib
import ObjectQuery.Db.Result
import ObjectQuery.Proofs.Query.Meaning
import ObjectQuery.Proofs.Schema.Serving
import ObjectQuery.Proofs.Sql.Columns
import ObjectQuery.Proofs.Text.LetterCase

namespace ObjectQuery

/-- Up to the case of `A` to `Z`, a label is a selected column's identifier or the column that is
configured for its field. -/
def Mapping.MayLabel (mapping : Mapping) (label : String) (column : Sql.Column) : Prop :=
  Text.sameIgnoringAsciiCase label column.name = true ∨
    ∃ configured, mapping.fieldColumn? column.field = some configured ∧
      Text.sameIgnoringAsciiCase label configured = true

section

variable {type : ObjectType} {mapping : Mapping}

theorem ObjectType.Sound.ne_id_of_declared (sound : type.Sound) {name : String}
    (declared : (type.property? name).isSome) : name ≠ idField := by
  obtain ⟨property, found⟩ := Option.isSome_iff_exists.mp declared
  have named : property.name = name := by simpa using List.find?_some found
  rw [← named]
  exact sound.properties_ne_id property (List.mem_of_find?_eq_some found)

theorem ObjectType.Sound.fieldColumn?_of_propertyWith? (sound : type.Sound)
    (source : type.dataSource = some mapping) {test : String → Bool} {property : String}
    (found : mapping.propertyWith? test = some property) :
    ∃ column, mapping.fieldColumn? property = some column ∧ test column = true := by
  rw [Mapping.propertyWith?, Option.map_eq_some_iff] at found
  obtain ⟨entry, first, rfl⟩ := found
  have mem := List.mem_of_find?_eq_some first
  have passes : test entry.2 = true := by simpa using List.find?_some first
  have ne_id := sound.ne_id_of_declared ((sound.mapping mapping source).declared entry mem)
  refine ⟨entry.2, ?_, passes⟩
  rw [Mapping.fieldColumn?, if_neg ne_id, Mapping.column?, Dict.get?_eq_some_iff]
  exact mem

theorem ObjectType.columnsCollide_comm (a b : String) :
    ObjectType.columnsCollide a b = ObjectType.columnsCollide b a := by
  simp only [ObjectType.columnsCollide, Bool.beq_comm]

/-- Fields whose columns cannot be told apart are one field. -/
theorem ObjectType.SoundMapping.eq_of_collide (sound : type.SoundMapping mapping)
    (named : mapping.idColumn ≠ "") {field other column another : String}
    (carried : mapping.fieldColumn? field = some column)
    (carries : mapping.fieldColumn? other = some another)
    (collide : ObjectType.columnsCollide column another = true) : field = other := by
  have entry {name column : String} (ne_id : name ≠ idField)
      (found : mapping.fieldColumn? name = some column) :
      (name, column) ∈ mapping.columns.entries := by
    rwa [Mapping.fieldColumn?, if_neg ne_id, Mapping.column?, Dict.get?_eq_some_iff] at found
  have id_column {column : String} (found : mapping.fieldColumn? idField = some column) :
      mapping.idColumn = column := by
    simpa [Mapping.fieldColumn?] using found
  by_cases left : field = idField
  · by_cases right : other = idField
    · rw [left, right]
    · have apart := sound.apart_id named _ (entry right carries)
      rw [id_column (left ▸ carried), columnsCollide_comm, collide] at apart
      contradiction
  · by_cases right : other = idField
    · have apart := sound.apart_id named _ (entry left carried)
      rw [id_column (right ▸ carries), collide] at apart
      contradiction
    · by_contra different
      have : Std.Symm fun a b : String × String => columnsCollide b.2 a.2 = false :=
        ⟨fun a b apart => (columnsCollide_comm a.2 b.2).trans apart⟩
      have apart := sound.apart.forall (entry right carries) (entry left carried)
        fun same => different (Prod.mk.inj same).1.symm
      rw [collide] at apart
      contradiction

/-- A label that differs from a column, or from its identifier, in the case of `A` to `Z` alone and
matches another column shows that the two columns cannot be told apart. -/
theorem IdentifierCase.collide_of_label (identifierCase : IdentifierCase)
    {label column another : String}
    (labels : Text.sameIgnoringAsciiCase label (identifierCase.apply column) = true ∨
      Text.sameIgnoringAsciiCase label column = true)
    (hits : Text.sameIgnoringAsciiCase label another = true) :
    ObjectType.columnsCollide column another = true := by
  rw [ObjectType.columnsCollide, Bool.or_eq_true, beq_iff_eq, beq_iff_eq]
  rcases labels with rendered | configured
  · cases identifierCase with
    | upper =>
      left
      rw [← Text.upper_eq_of_same hits, Text.upper_eq_of_same rendered]
      exact (Text.upper_upper column).symm
    | lower =>
      right
      rw [← Text.lower_eq_of_same hits, Text.lower_eq_of_same rendered]
      exact (Text.lower_lower column).symm
    | preserve =>
      left
      rw [← Text.upper_eq_of_same hits, Text.upper_eq_of_same rendered]
      rfl
  · left
    rw [← Text.upper_eq_of_same hits, Text.upper_eq_of_same configured]

variable {select : Sql.Select} {position : Nat} {label : String} {column : Sql.Column}
  {configured : String}

/-- A label of a selected column leads to the column's field, by a match or by its position. -/
theorem logicalColumn_eq (identifierCase : IdentifierCase) (sound : type.Sound)
    (source : type.dataSource = some mapping)
    (named : mapping.idColumn ≠ "") (selected : select.columns[position]? = some column)
    (carried : mapping.fieldColumn? column.field = some configured)
    (labels : Text.sameIgnoringAsciiCase label (identifierCase.apply configured) = true ∨
      Text.sameIgnoringAsciiCase label configured = true) :
    logicalColumn mapping select position label = column.field := by
  have own {field another : String} (carries : mapping.fieldColumn? field = some another)
      (hits : Text.sameIgnoringAsciiCase label another = true) : column.field = field :=
    (sound.mapping mapping source).eq_of_collide named carried carries
      (identifierCase.collide_of_label labels hits)
  rw [logicalColumn]
  split
  · next hits => exact (own (by simp [Mapping.fieldColumn?]) hits).symm
  · rw [Mapping.propertyIgnoringCase?]
    cases exact : mapping.property? label with
    | some property =>
      obtain ⟨another, carries, same⟩ := sound.fieldColumn?_of_propertyWith? source exact
      rw [beq_iff_eq] at same
      exact (own carries (by simp [same, Text.sameIgnoringAsciiCase])).symm
    | none =>
      cases folded : mapping.propertyWith? fun column =>
          Text.sameIgnoringAsciiCase column label with
      | some property =>
        obtain ⟨another, carries, same⟩ := sound.fieldColumn?_of_propertyWith? source folded
        exact (own carries ((Text.sameIgnoringAsciiCase_comm label another).trans same)).symm
      | none => simp [selected]

end

/-- The labels of a reply become the fields of the selected columns, one by one, when each is its
column as rendered or as configured, up to the case of `A` to `Z`. -/
theorem logicalColumns_eq_fields {config : SchemaConfig} {schema : Schema} {resolver : Resolver}
    {identifierCase : IdentifierCase} {plan : Plan} {select : Sql.Select} {mapping : Mapping}
    {labels : List String} (verified : Schema.ofConfig config = .ok schema)
    (serves : schema.Serves resolver)
    (lowered : Sql.lower resolver (.physical identifierCase) plan = .ok select)
    (mapped : resolver.mapping? plan.objectType.name = some mapping)
    (reply : List.Forall₂ mapping.MayLabel labels select.columns) :
    logicalColumns mapping select labels = select.columns.map Sql.Column.field := by
  obtain ⟨type, serving, typed, mapping_eq, selected⟩ := Sql.lower_eq_ok lowered
  rw [mapped, Option.some.injEq] at mapping_eq
  subst mapping_eq
  rw [serves.objectType?] at typed
  obtain ⟨sound, _⟩ := Schema.sound_of_objectType? verified typed
  obtain ⟨source, configured⟩ :=
    Option.filter_eq_some_iff.mp (serves.mapping? verified typed mapped)
  have named : mapping.idColumn ≠ "" := by
    simp only [Mapping.isConfigured, Bool.and_eq_true, decide_eq_true_eq] at configured
    exact configured.2
  rw [logicalColumns]
  refine List.ext_getElem (by simp [reply.length_eq]) fun position left right => ?_
  simp only [List.getElem_map, List.getElem_zipIdx, Nat.zero_add]
  rw [List.length_map] at right
  rw [List.length_map, List.length_zipIdx] at left
  obtain ⟨at_column, found⟩ := Sql.Lowering.column?_of_mem_columns selected
    _ (List.getElem_mem right)
  obtain ⟨column, carried, rendered⟩ := Sql.Lowering.fieldColumn?_of_column? sound found
  refine logicalColumn_eq identifierCase sound source named
    (List.getElem?_eq_getElem right) carried ?_
  have labels_here : mapping.MayLabel labels[position] select.columns[position] :=
    reply.get left right
  rcases labels_here with as_rendered | ⟨configured, carries, as_configured⟩
  · left
    rwa [rendered] at as_rendered
  · right
    have same : column = configured := Option.some.inj (carried.symm.trans carries)
    rwa [same]

namespace Cars

def everything : Sql.Select :=
  ⟨[⟨"vid", "id"⟩, ⟨"plate_no", "plate"⟩, ⟨"yr", "year"⟩], "cars", none, [], none⟩

/-- A reply to a statement in lower case, with a label in capitals, one as it is rendered and one as
it is configured. -/
theorem logicalColumns_everything :
    Sql.lower schema.toResolver (.physical .lower) (.scan car) = .ok everything ∧
      logicalColumns mapping everything ["VID", "plate_no", "Yr"] = ["id", "plate", "year"] := by
  have lowered : Sql.lower schema.toResolver (.physical .lower) (.scan car) = .ok everything := by
    cbv
  have mapped : schema.toResolver.mapping? (Plan.scan car).objectType.name = some mapping := by
    decide +kernel
  have reply : List.Forall₂ mapping.MayLabel ["VID", "plate_no", "Yr"] everything.columns :=
    .cons (.inl (by decide +kernel)) (.cons (.inl (by decide +kernel))
      (.cons (.inr ⟨"Yr", by decide +kernel, by decide +kernel⟩) .nil))
  exact ⟨lowered, logicalColumns_eq_fields ofConfig_config .itself lowered mapped reply⟩

end Cars
end ObjectQuery
