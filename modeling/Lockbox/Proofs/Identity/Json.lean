import Lockbox.Identity.Json
import Lockbox.Proofs.Json.Values
import Lockbox.Proofs.Uuid

/-!
# Identities through JSON

An identity is described by some JSON values: each of its records lists its two fields, or is an
object that has each of them once, in any place among other members, and each identifier is in one
of its spellings. A text is read as the identity exactly when the value it spells describes the
identity, and the written form spells such a value, so nothing else about a text decides what is
read from it (`parse?_exact`).
-/

namespace Lockbox

open Json (Value)

/-! ## Records -/

namespace Identity

variable {name first second : Text} {one two value : Value}
  {members others : List (Option Text × Value)}

/-- The values of a record with two named fields: the fields in order, or an object in which each
name occurs once, in any place among members of other names. -/
inductive IsRecord (first second : Text) (one two : Value) : Value → Prop
  | array : IsRecord first second one two (.array [one, two])
  | object {members others : List (Option Text × Value)}
      (fields : members.Perm ((some first, one) :: (some second, two) :: others))
      (unknown : ∀ member ∈ others, ∃ name, member.1 = some name ∧ name ≠ first ∧ name ≠ second) :
      IsRecord first second one two (.object members)

theorem isRecord_pair :
    IsRecord first second one two (.object [(some first, one), (some second, two)]) :=
  .object (List.Perm.refl _) (List.forall_mem_nil _)

theorem field?_eq_some_iff :
    field? name members = some value ↔
      (members.filter fun member => member.1 == some name) = [(some name, value)] := by
  unfold field?
  constructor
  · intro found
    split at found
    next member only =>
      obtain rfl := Option.some.inj found
      have inside : member ∈ members.filter fun member => member.1 == some name := by
        rw [only]
        exact List.mem_singleton_self member
      have named : member.1 = some name := by simpa using (List.mem_filter.mp inside).2
      rw [only, ← named]
    next => cases found
  · intro only
    rw [only]

/-- A field is found wherever it stands. -/
theorem field?_of_perm
    (same : members.Perm others) :
    field? name members = field? name others := by
  apply Option.ext
  intro value
  have filtered := same.filter fun member => member.1 == some name
  rw [field?_eq_some_iff, field?_eq_some_iff, ← List.perm_singleton, ← List.perm_singleton]
  exact ⟨filtered.symm.trans, filtered.trans⟩

theorem field?_cons_of_ne
    {member : Option Text × Value}
    (other : member.1 ≠ some name) :
    field? name (member :: members) = field? name members := by
  simp [field?, other]

/-- A field is found in front of members of other names. -/
theorem field?_cons_self
    (unknown : ∀ member ∈ others, member.1 ≠ some name) :
    field? name ((some name, value) :: others) = some value := by
  rw [field?_eq_some_iff, List.filter_cons_of_pos (by simp),
    List.filter_eq_nil_iff.mpr (by simpa using unknown)]

/-- A field that is found can be put first. -/
theorem perm_cons_of_field?
    (found : field? name members = some value) :
    members.Perm ((some name, value) :: members.filter fun member => member.1 != some name) := by
  have parted := List.filter_append_perm (fun member => member.1 == some name) members
  rw [field?_eq_some_iff.mp found] at parted
  exact parted.symm

/-- The fields of a record are found exactly where it has them. -/
theorem fields?_eq_some_iff
    (different : first ≠ second) :
    fields? first second value = some (one, two) ↔ IsRecord first second one two value := by
  constructor
  · intro found
    unfold fields? at found
    split at found
    next =>
      obtain ⟨rfl, rfl⟩ := Prod.mk.inj (Option.some.inj found)
      exact .array
    next members =>
      split at found
      next named =>
        split at found
        next foundFirst foundSecond =>
          obtain ⟨rfl, rfl⟩ := Prod.mk.inj (Option.some.inj found)
          have front := perm_cons_of_field? foundFirst
          rw [field?_of_perm front, field?_cons_of_ne (by simpa using different)] at foundSecond
          apply IsRecord.object (front.trans ((perm_cons_of_field? foundSecond).cons _))
          intro member inside
          obtain ⟨inFront, notSecond⟩ := List.mem_filter.mp inside
          obtain ⟨inMembers, notFirst⟩ := List.mem_filter.mp inFront
          have isText := List.all_eq_true.mp named member inMembers
          obtain ⟨name, isName⟩ := Option.isSome_iff_exists.mp isText
          rw [isName] at notFirst notSecond
          exact ⟨name, isName, by simpa using notFirst, by simpa using notSecond⟩
        next => cases found
      next => cases found
    next => cases found
  · intro record
    cases record with
    | array => rfl
    | @object members others fields unknown =>
        have other : ∀ member ∈ others, member.1 ≠ some first ∧ member.1 ≠ some second := by
          intro member inside
          obtain ⟨name, isName, notFirst, notSecond⟩ := unknown member inside
          simp [isName, notFirst, notSecond]
        have named : members.all (fun member => member.1.isSome) = true := by
          rw [fields.all_eq, List.all_cons, List.all_cons, List.all_eq_true.mpr]
          · rfl
          · intro member inside
            obtain ⟨name, isName, -⟩ := unknown member inside
            rw [isName]
            rfl
        have foundFirst : field? first members = some one := by
          rw [field?_of_perm fields]
          apply field?_cons_self
          rw [List.forall_mem_cons]
          exact ⟨by simpa using different.symm, fun member inside => (other member inside).1⟩
        have foundSecond : field? second members = some two := by
          rw [field?_of_perm fields, field?_cons_of_ne (by simpa using different)]
          exact field?_cons_self fun member inside => (other member inside).2
        simp only [fields?, named, if_true, foundFirst, foundSecond]

end Identity

/-! ## Tags and identities -/

/-- A value gives the identifier of a tag in one of its spellings, and its label. -/
def OwnerTag.IsDescribedBy (tag : OwnerTag) (value : Value) : Prop :=
  ∃ id, tag.id.Spells id ∧
    Identity.IsRecord "id".toList "label".toList (.string (some id)) (.string (some tag.label))
      value

namespace Identity

/-- A value gives both tags of an identity. -/
def IsDescribedBy (identity : Identity) (value : Value) : Prop :=
  ∃ service name, identity.service.IsDescribedBy service ∧ identity.name.IsDescribedBy name ∧
    IsRecord "service".toList "name".toList service name value

theorem text?_eq_some_iff
    {value : Value}
    {text : Text} :
    value.text? = some text ↔ value = .string (some text) := by
  cases value <;> simp [Value.text?]

theorem tagOfJson?_eq_some_iff
    {value : Value}
    {tag : OwnerTag} :
    tagOfJson? value = some tag ↔ tag.IsDescribedBy value := by
  have different : "id".toList ≠ "label".toList := by decide
  simp only [tagOfJson?, Option.bind_eq_bind, Option.bind_eq_some_iff, Prod.exists,
    fields?_eq_some_iff different, text?_eq_some_iff, Uuid.parse?_eq_some_iff, Option.pure_def,
    Option.some.injEq]
  constructor
  · rintro ⟨_, _, record, id, ⟨_, rfl, spells⟩, label, rfl, rfl⟩
    exact ⟨_, spells, record⟩
  · rintro ⟨text, spells, record⟩
    exact ⟨_, _, record, tag.id, ⟨text, rfl, spells⟩, tag.label, rfl, rfl⟩

theorem ofJson?_eq_some_iff
    {value : Value}
    {identity : Identity} :
    ofJson? value = some identity ↔ identity.IsDescribedBy value := by
  have different : "service".toList ≠ "name".toList := by decide
  simp only [ofJson?, Option.bind_eq_bind, Option.bind_eq_some_iff, Prod.exists,
    fields?_eq_some_iff different, tagOfJson?_eq_some_iff, Option.pure_def, Option.some.injEq]
  constructor
  · rintro ⟨one, two, record, service, isService, name, isName, rfl⟩
    exact ⟨one, two, isService, isName, record⟩
  · rintro ⟨one, two, isService, isName, record⟩
    exact ⟨one, two, record, _, isService, _, isName, rfl⟩

/-! ## Written and read -/

/-- The written form of a tag spells a value that describes it. -/
theorem exists_spells_tagToJson (tag : OwnerTag) :
    ∃ value : Value, value.Spells (tagToJson tag) ∧ tag.IsDescribedBy value :=
  ⟨_, Value.spells_writtenObject (Value.spells_quoted _) (Value.spells_quoted _) _ _,
    tag.id.toText, Uuid.spells_toText tag.id, isRecord_pair⟩

/-- The written form of an identity spells a value that describes it. -/
theorem exists_spells_toJson (identity : Identity) :
    ∃ value : Value, value.Spells identity.toJson ∧ identity.IsDescribedBy value := by
  obtain ⟨service, writtenService, isService⟩ := exists_spells_tagToJson identity.service
  obtain ⟨name, writtenName, isName⟩ := exists_spells_tagToJson identity.name
  exact ⟨_, Value.spells_writtenObject writtenService writtenName _ _, service, name, isService,
    isName, isRecord_pair⟩

/-- A text that spells a value is read as an identity exactly when the value describes it. -/
theorem parse?_eq_some_iff_of_spells
    {identity : Identity}
    {value : Value}
    {text : Text}
    (spells : value.Spells text) :
    parse? text = some identity ↔ identity.IsDescribedBy value := by
  rw [parse?, Value.parse?_of_spells spells, Option.bind_some, ofJson?_eq_some_iff]

/-- The written form of an identity is read back as the identity and so gives its file name. Of any
other text that spells a JSON value, only this value decides whether it is read as the identity:
not the white space or the escapes in the text, and of the value neither the order of the members
of its objects, nor members of other names, nor whether it lists the fields alone, nor the spelling
of the identifiers. -/
theorem json_round_trip (identity : Identity) :
    parse? identity.toJson = some identity ∧
      (parse? identity.toJson).map fileName = some identity.fileName ∧
      ∀ (value : Value) (text : Text), value.Spells text →
        (parse? text = some identity ↔ identity.IsDescribedBy value) := by
  have readBack : parse? identity.toJson = some identity := by
    obtain ⟨value, spells, described⟩ := exists_spells_toJson identity
    exact (parse?_eq_some_iff_of_spells spells).mpr described
  refine ⟨readBack, ?_, ?_⟩
  · rw [readBack]
    rfl
  · intro value text spells
    exact parse?_eq_some_iff_of_spells spells

/-- Members in the other order, white space before the text, an identifier in braces and another
one in capitals: the text is read as the identity. -/
theorem json_round_trip_reordered :
    let id : Uuid := ⟨List.replicate 16 0xAB, rfl⟩
    let identity : Identity := ⟨⟨id, "a\n\"b".toList⟩, ⟨id, "😀".toList⟩⟩
    let plain := "ABABABABABABABABABABABABABABABAB".toList
    let braced := "{abababab-abab-abab-abab-abababababab}".toList
    let service := Value.object [(some "label".toList, .string (some identity.service.label)),
      (some "id".toList, .string (some braced))]
    let name := Value.object [(some "id".toList, .string (some plain)),
      (some "label".toList, .string (some identity.name.label))]
    let value := Value.object [(some "name".toList, name), (some "service".toList, service)]
    let text := ' ' :: Json.writtenObject
      [("name".toList, Json.writtenObject [("id".toList, Json.quoted plain),
          ("label".toList, Json.quoted identity.name.label)]),
        ("service".toList, Json.writtenObject [("label".toList, Json.quoted identity.service.label),
          ("id".toList, Json.quoted braced)])]
    value.Spells text ∧ parse? text = some identity := by
  intro id identity plain braced service name value text
  have swapped {first second : Text} {one two : Value} :
      IsRecord first second one two (.object [(some second, two), (some first, one)]) :=
    .object (List.Perm.swap _ _ []) (List.forall_mem_nil _)
  have spells : value.Spells text := by
    have blank : ∀ char ∈ [' '], Json.isSpace char = true :=
      List.forall_mem_singleton.mpr rfl
    apply Json.Layout.append_spaces blank
    exact Value.spells_writtenObject
      (Value.spells_writtenObject (Value.spells_quoted _) (Value.spells_quoted _) _ _)
      (Value.spells_writtenObject (Value.spells_quoted _) (Value.spells_quoted _) _ _) _ _
  have described : identity.IsDescribedBy value :=
    ⟨service, name, ⟨braced, Uuid.parse?_eq_some_iff.mp (by decide +kernel), swapped⟩,
      ⟨plain, Uuid.parse?_eq_some_iff.mp (by decide +kernel), isRecord_pair⟩, swapped⟩
  exact ⟨spells, ((json_round_trip identity).2.2 value text spells).mpr described⟩

end Identity
end Lockbox
