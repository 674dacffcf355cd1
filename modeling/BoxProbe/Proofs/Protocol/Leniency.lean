/-
Module: BoxProbe.Proofs.Protocol.Leniency
Purpose: Changes to the objects of a message that make no difference to what is read.
Trusted boundary: none
Main exports: Lenient.Edit, Lenient.Edit.alike, Message.Edit, Message.ofJson?_eq_of_edits
-/
import BoxProbe.Proofs.Protocol.Message
import Mathlib.Data.List.Nodup
import Mathlib.Data.List.ProdSigma
import Mathlib.Logic.Relation

namespace BoxProbe

/-!
A reader asks an object for its fields one by one, each by its two names.  So keys that are no name
of a field are not looked at, and neither is a plain name beside the wire name; and where no key is
there twice their order does not matter.  One change at one place is an `Edit`; what it leaves is
that the same value, or a changed object in its place, is found for every field.  An object that
limits and entities are read from may be changed in the same ways.
-/

namespace Json.Fields

variable {f g before behind : Fields} {key other : Text}

theorem lookup_eq_some_iff_mem {v : Json} (distinct : (f.map Prod.fst).Nodup) :
    f.lookup key = some v ↔ (key, v) ∈ f := by
  induction f with
  | nil => simp
  | cons first rest ih =>
    obtain ⟨k, w⟩ := first
    obtain ⟨fresh, distinct⟩ := List.nodup_cons.mp distinct
    by_cases same : key = k
    · subst same
      have absent : (key, v) ∉ rest := fun inside => fresh (List.mem_map.mpr ⟨_, inside, rfl⟩)
      simp [absent, eq_comm]
    · rw [List.lookup_cons, beq_false_of_ne same, List.mem_cons]
      simp [ih distinct, same]

/-- The order of fields does not matter if no two have the same key. -/
theorem lookup_perm (distinct : (f.map Prod.fst).Nodup) (same : f.Perm g) (key : Text) :
    f.lookup key = g.lookup key := by
  have distinct' : (g.map Prod.fst).Nodup := (same.map Prod.fst).nodup_iff.mp distinct
  refine Option.ext fun v => ?_
  rw [lookup_eq_some_iff_mem distinct, lookup_eq_some_iff_mem distinct', same.mem_iff]

theorem lookup_insert_of_ne (h : other ≠ key) (v : Json) :
    (before ++ (key, v) :: behind).lookup other = (before ++ behind).lookup other := by
  rw [List.lookup_append, List.lookup_append, List.lookup_cons, beq_false_of_ne h]

theorem lookup_insert_self (v : Json) :
    (before ++ (key, v) :: behind).lookup key = (before.lookup key).or (some v) := by
  rw [List.lookup_append, List.lookup_cons_self]

end Json.Fields

namespace Lenient

open Json Json.Fields

/-! ### One object -/

/-- One change to an object whose fields have some names, where some values of fields may be changed
into others: a field under a key that is no name, another order, a field under the plain name beside
one under the wire name, or another value. -/
inductive Edit (names : List FieldName) (Nested : FieldName → Json → Json → Prop) :
    Fields → Fields → Prop where
  | insert (before behind : Fields) {key : Text} (v : Json)
      (unknown : ∀ name ∈ names, key ≠ name.key .wire ∧ key ≠ name.key .plain) :
      Edit names Nested (before ++ behind) (before ++ (key, v) :: behind)
  | permute {f g : Fields} (distinct : (f.map Prod.fst).Nodup) (same : f.Perm g) :
      Edit names Nested f g
  | shadow (before behind : Fields) (name : FieldName) (v : Json) (known : name ∈ names)
      (wire : name.key .wire ∈ (before ++ behind).map Prod.fst) :
      Edit names Nested (before ++ behind) (before ++ (name.key .plain, v) :: behind)
  | below (before behind : Fields) (name : FieldName) (style : NameStyle) {v w : Json}
      (known : name ∈ names) (nested : Nested name v w) :
      Edit names Nested (before ++ (name.key style, v) :: behind)
        (before ++ (name.key style, w) :: behind)

/-- Fields no two of which have a name in common. -/
def Distinct (names : List FieldName) : Prop :=
  ((names.product [NameStyle.wire, NameStyle.plain]).map fun p => p.1.key p.2).Nodup

instance (names : List FieldName) : Decidable (Distinct names) :=
  inferInstanceAs (Decidable (List.Nodup _))

theorem Distinct.inj {names : List FieldName} (distinct : Distinct names) {name other : FieldName}
    (known : name ∈ names) (known' : other ∈ names) {style style' : NameStyle}
    (same : name.key style = other.key style') : name = other ∧ style = style' := by
  have inside (style : NameStyle) : style ∈ [NameStyle.wire, NameStyle.plain] := by
    cases style <;> simp
  have pairs : (name, style) = (other, style') :=
    List.inj_on_of_nodup_map distinct (List.mem_product.mpr ⟨known, inside style⟩)
      (List.mem_product.mpr ⟨known', inside style'⟩) same
  exact Prod.mk.inj pairs

variable {names : List FieldName} {Nested : FieldName → Json → Json → Prop} {f g : Fields}
  {name : FieldName}

/-- What two look-ups find: nothing both times, the same value, or a value and one that it is
changed into. -/
abbrev Found (Nested : FieldName → Json → Json → Prop) (name : FieldName) :
    Option Json → Option Json → Prop :=
  Option.Rel fun v w => v = w ∨ Nested name v w

theorem found_refl (v? : Option Json) : Found Nested name v? v? := by
  cases v? with
  | none => exact .none
  | some v => exact .some (.inl rfl)

theorem found_or {v? w? v'? w'? : Option Json} (first : Found Nested name v? w?)
    (second : Found Nested name v'? w'?) : Found Nested name (v?.or v'?) (w?.or w'?) := by
  cases first with
  | none => exact second
  | some same => exact .some same

/-- For a field of two objects the same is found, up to changes in its value. -/
def Alike (Nested : FieldName → Json → Json → Prop) (name : FieldName) (f g : Fields) : Prop :=
  Found Nested name (present? name f) (present? name g)

theorem present?_eq (name : FieldName) (fields : Fields) :
    present? name fields =
      (fields.lookup (name.key .wire)).or (fields.lookup (name.key .plain)) := by
  have wire : fields.get? name.wire = fields.lookup (name.key .wire) := rfl
  have plain : fields.get? name.plain = fields.lookup (name.key .plain) := rfl
  rw [present?, wire, plain]
  cases fields.lookup (name.key .wire) <;> rfl

theorem alike_of_lookup (each : ∀ style,
    Found Nested name (f.lookup (name.key style)) (g.lookup (name.key style))) :
    Alike Nested name f g := by
  rw [Alike, present?_eq, present?_eq]
  exact found_or (each .wire) (each .plain)

/-- Whatever is changed, for every field the same is found, up to changes in its value. -/
theorem Edit.alike (distinct : Distinct names) (known : name ∈ names)
    (edit : Edit names Nested f g) : Alike Nested name f g := by
  cases edit with
  | @insert before behind key v unknown =>
    obtain ⟨wire, plain⟩ := unknown name known
    refine alike_of_lookup fun style => ?_
    have other : name.key style ≠ key := by
      cases style with
      | wire => exact wire.symm
      | plain => exact plain.symm
    rw [lookup_insert_of_ne other]
    exact found_refl _
  | permute keys same =>
    refine alike_of_lookup fun style => ?_
    rw [lookup_perm keys same]
    exact found_refl _
  | shadow before behind other v known' wire =>
    have untouched {style : NameStyle} (ne : ¬ (name = other ∧ style = .plain)) :
        (before ++ (other.key .plain, v) :: behind).lookup (name.key style) =
          (before ++ behind).lookup (name.key style) :=
      lookup_insert_of_ne (fun same => ne (distinct.inj known known' same)) v
    by_cases same : name = other
    · -- The wire name is there in both, so the plain one is not looked at.
      subst same
      obtain ⟨field, inside, key⟩ := List.mem_map.mp wire
      obtain ⟨u, found⟩ := Option.isSome_iff_exists.mp
        (List.lookup_isSome_iff.mpr ⟨field, inside, beq_iff_eq.mpr key.symm⟩)
      rw [Alike, present?_eq, present?_eq, untouched (by simp), found]
      exact .some (.inl rfl)
    · refine alike_of_lookup fun style => ?_
      rw [untouched fun both => same both.1]
      exact found_refl _
  | @below before behind other style v w known' nested =>
    refine alike_of_lookup fun style' => ?_
    by_cases same : name.key style' = other.key style
    · obtain ⟨rfl, rfl⟩ := distinct.inj known known' same
      rw [lookup_insert_self, lookup_insert_self]
      exact found_or (found_refl _) (.some (.inr nested))
    · rw [lookup_insert_of_ne same, lookup_insert_of_ne same]
      exact found_refl _

section

variable {α : Type} {read? : Json → Option α}

/-- A field is read alike if the changes in its value make no difference. -/
theorem required?_eq_of_alike (reads : ∀ v w, Nested name v w → read? v = read? w)
    (alike : Alike Nested name f g) : required? name read? f = required? name read? g := by
  unfold Alike Found at alike
  unfold required?
  generalize present? name f = found, present? name g = found' at alike
  cases alike with
  | none => rfl
  | some same =>
    rcases same with rfl | nested
    · rfl
    · exact reads _ _ nested

theorem field?_eq_of_alike (reads : ∀ v w, Nested name v w → read? v = read? w)
    (alike : Alike Nested name f g) (absent : α) :
    field? name absent read? f = field? name absent read? g := by
  unfold Alike Found at alike
  unfold field?
  generalize present? name f = found, present? name g = found' at alike
  cases alike with
  | none => rfl
  | some same =>
    rcases same with rfl | nested
    · rfl
    · exact reads _ _ nested

end

end Lenient

/-! ### The objects of a message -/

namespace LoadLimit

/-- The fields of a limit. -/
def names : List Lenient.FieldName := [durationName, isChangeableName, isActiveName, valueName]

/-- One change to the object of a limit. -/
abbrev Edit := Lenient.Edit names fun _ _ _ => False

theorem ofFields?_eq_of_edit {f g : Json.Fields} (edit : Edit f g) :
    ofFields? f = ofFields? g := by
  have same {name : Lenient.FieldName} (known : name ∈ names) {α : Type} (absent : α)
      (read? : Json → Option α) :
      Lenient.field? name absent read? f = Lenient.field? name absent read? g :=
    Lenient.field?_eq_of_alike (fun _ _ => False.elim) (edit.alike (by decide) known) absent
  unfold ofFields?
  rw [same (by simp [names]), same (by simp [names]), same (by simp [names]),
    same (by simp [names])]

end LoadLimit

namespace Entity

/-- The fields of an entity. -/
def names : List Lenient.FieldName := [nameName, skiName, useCasesName]

/-- One change to the object of an entity. -/
abbrev Edit := Lenient.Edit names fun _ _ _ => False

theorem ofFields?_eq_of_edit {f g : Json.Fields} (edit : Edit f g) :
    ofFields? f = ofFields? g := by
  have same {name : Lenient.FieldName} (known : name ∈ names) {α : Type} (absent : α)
      (read? : Json → Option α) :
      Lenient.field? name absent read? f = Lenient.field? name absent read? g :=
    Lenient.field?_eq_of_alike (fun _ _ => False.elim) (edit.alike (by decide) known) absent
  unfold ofFields?
  rw [same (by simp [names]), same (by simp [names]), same (by simp [names])]

end Entity

namespace Message

/-- The fields of a message. -/
def names : List Lenient.FieldName :=
  [typeName, textName, limitName, valueName, entitiesName, useCaseName]

/-- One change to a value of a message: to the object of its limit, or to one of its entities. -/
inductive Nested : Lenient.FieldName → Json → Json → Prop where
  | limit {f g : Json.Fields} (edit : LoadLimit.Edit f g) : Nested limitName (.obj f) (.obj g)
  | entity (before behind : List Json) {f g : Json.Fields} (edit : Entity.Edit f g) :
      Nested entitiesName (.arr (before ++ .obj f :: behind)) (.arr (before ++ .obj g :: behind))

/-- One change to the object of a message, at any of its levels. -/
abbrev Edit := Lenient.Edit names Nested

theorem limit_eq_of_nested (v w : Json) (nested : Nested limitName v w) :
    LoadLimit.ofJson? v = LoadLimit.ofJson? w := by
  generalize field : limitName = name at nested
  cases nested with
  | limit edit => exact LoadLimit.ofFields?_eq_of_edit edit
  | entity => exact absurd field (by decide)

theorem entities_eq_of_nested (v w : Json) (nested : Nested entitiesName v w) :
    entities? v = entities? w := by
  generalize field : entitiesName = name at nested
  cases nested with
  | limit => exact absurd field (by decide)
  | entity before behind edit =>
    have item : Entity.ofJson? (.obj _) = Entity.ofJson? (.obj _) :=
      Entity.ofFields?_eq_of_edit edit
    simp only [entities?, Lenient.list?, List.mapM_append, List.mapM_cons, item]

/-- Only two fields have values in which something may be changed. -/
theorem Nested.name_eq {name : Lenient.FieldName} {v w : Json} (nested : Nested name v w) :
    name = limitName ∨ name = entitiesName := by
  cases nested with
  | limit => exact .inl rfl
  | entity => exact .inr rfl

theorem ofFields?_eq_of_edit {f g : Json.Fields} (edit : Edit f g) :
    ofFields? f = ofFields? g := by
  have alike {name : Lenient.FieldName} (known : name ∈ names) : Lenient.Alike Nested name f g :=
    edit.alike (by decide) known
  have same {name : Lenient.FieldName} (known : name ∈ names)
      (whole : ¬ (name = limitName ∨ name = entitiesName)) {α : Type} (absent : α)
      (read? : Json → Option α) :
      Lenient.field? name absent read? f = Lenient.field? name absent read? g :=
    Lenient.field?_eq_of_alike (fun _ _ nested => absurd nested.name_eq whole) (alike known) absent
  have type : Lenient.required? typeName Lenient.int? f =
      Lenient.required? typeName Lenient.int? g :=
    Lenient.required?_eq_of_alike (fun _ _ nested => absurd nested.name_eq (by decide))
      (alike (by simp [names]))
  have limit := Lenient.field?_eq_of_alike limit_eq_of_nested (alike (by simp [names])) {}
  have entities := Lenient.field?_eq_of_alike entities_eq_of_nested (alike (by simp [names])) none
  unfold ofFields?
  rw [type, limit, entities, same (by simp [names]) (by decide),
    same (by simp [names]) (by decide), same (by simp [names]) (by decide)]

/-- What no change makes a difference to, any number of changes make no difference to. -/
theorem ofFields?_eq_of_edits {f g : Json.Fields} (edits : Relation.EqvGen Edit f g) :
    ofFields? f = ofFields? g := by
  induction edits with
  | rel f g edit => exact ofFields?_eq_of_edit edit
  | refl f => rfl
  | symm f g _ ih => exact ih.symm
  | trans f g h _ _ one two => exact one.trans two

/-- Any number of changes, made or taken back, at any levels and in any order, leave a message the
message that it is, and no message none.  So a message that was written in full is read back,
whatever was changed in this way. -/
theorem ofJson?_eq_of_edits {f g : Json.Fields} (edits : Relation.EqvGen Edit f g) :
    ofJson? (.obj f) = ofJson? (.obj g) ∧
      ∀ (m : Message) (style : NameStyle), m.toJson style = .obj f →
        ofJson? (.obj g) = some m := by
  have same : ofJson? (.obj f) = ofJson? (.obj g) := ofFields?_eq_of_edits edits
  refine ⟨same, fun m style written => ?_⟩
  rw [← same, ← written, ofJson?_toJson]

/-- At every level something is added, and the fields of the message are turned around. -/
theorem ofJson?_eq_of_edits_everywhere :
    let f : Json.Fields := [("Type", .int 6), ("Limit", .obj [("Duration", .int 60)]),
      ("EntityList", .arr [.obj [("Name", .str "A")]])]
    let g : Json.Fields := [("EntityList", .arr [.obj [("Name", .str "A"), ("name", .null)]]),
      ("Limit", .obj [("unit", .str "W"), ("Duration", .int 60)]), ("Type", .int 6),
      ("type", .bool false), ("seen", .arr [])]
    Relation.EqvGen Edit f g ∧
      ofJson? (.obj g) =
        some { type := 6, limit := { duration := 60 }, entities := some [{ name := "A" }] } := by
  intro f g
  let limit : Json.Fields := [("unit", .str "W"), ("Duration", .int 60)]
  let entity : Json.Fields := [("Name", .str "A"), ("name", .null)]
  let f₁ : Json.Fields := [("Type", .int 6), ("Limit", .obj limit),
    ("EntityList", .arr [.obj [("Name", .str "A")]])]
  let f₂ : Json.Fields := [("Type", .int 6), ("Limit", .obj limit),
    ("EntityList", .arr [.obj entity])]
  let f₃ : Json.Fields := ("type", .bool false) :: f₂
  have unit : LoadLimit.Edit [("Duration", .int 60)] limit :=
    .insert [] [("Duration", .int 60)] (.str "W") (by decide)
  have name : Entity.Edit [("Name", .str "A")] entity :=
    .shadow [("Name", .str "A")] [] Entity.nameName .null (by decide) (by decide)
  have one : Edit f f₁ := .below [("Type", .int 6)] _ limitName .wire (by decide) (.limit unit)
  have two : Edit f₁ f₂ := .below [("Type", .int 6), ("Limit", .obj limit)] [] entitiesName .wire
    (by decide) (.entity [] [] name)
  have three : Edit f₂ f₃ := .shadow [] f₂ typeName (.bool false) (by decide) (by decide)
  have four : Edit f₃ (("seen", .arr []) :: f₃) := .insert [] f₃ (.arr []) (by decide)
  have five : Edit (("seen", .arr []) :: f₃) g := .permute (by decide) (List.reverse_perm _).symm
  have edits : Relation.EqvGen Edit f g :=
    .trans _ _ _ (.rel _ _ one) <| .trans _ _ _ (.rel _ _ two) <|
      .trans _ _ _ (.rel _ _ three) <| .trans _ _ _ (.rel _ _ four) (.rel _ _ five)
  exact ⟨edits, (ofJson?_eq_of_edits edits).1.symm.trans (by decide +kernel)⟩

end Message

end BoxProbe
