/-
**Records: known fields in any order, among others.**

A record is an object in which every known key stands once, wherever and among whatever members of
other names, or the array of the values in the order of the keys. `Holds` says which values a record
has, and `Flawed` in which ways a value fails to be a record of fields of given kinds. Neither says
how a field is searched for.

* `membersNamed_eq_singleton_iff`: a key stands once if and only if the members are its own and
  others of different names.
* `record?_eq_some_iff`: **the values of a record are found**, whatever stands between its members.
* `flawed_iff`: **what has no flaw is a record**, and nothing else is.
* `Spells.of_record?`: the values of a record are spelled inside the text of the record.
-/

import ExportManifest.Manifest.Reading
import ExportManifest.Proofs.Json.Spelling
import Mathlib.Data.List.Forall2

namespace ExportManifest.Json

/-- The value is a record of the given fields: an object that has each of them once, among members
of other names, or the array of their values. -/
inductive Holds (fields : List (Text × Json)) : Json → Prop
  | object {members others : List (Option Text × Json)}
    (arranged : members.Perm (fields.map (Prod.map some id) ++ others))
    (unknown : ∀ member ∈ others, ∃ key, member.1 = some key ∧ key ∉ fields.map Prod.fst) :
    Holds fields (.object members)
  | array : Holds fields (.array (fields.map Prod.snd))

/-- The ways in which a value fails to be a record of fields of the given kinds. -/
inductive Flawed (fields : List (Text × (Json → Prop))) : Json → Prop
  | missing {members : List (Option Text × Json)} {key : Text} {kind : Json → Prop}
    (known : (key, kind) ∈ fields) (absent : ∀ value, (some key, value) ∉ members) :
    Flawed fields (.object members)
  | repeated {members : List (Option Text × Json)} {key : Text} {kind : Json → Prop}
    {first second : Json} (known : (key, kind) ∈ fields)
    (twice : [(some key, first), (some key, second)].Sublist members) :
    Flawed fields (.object members)
  | misfit {members : List (Option Text × Json)} {key : Text} {kind : Json → Prop} {value : Json}
    (known : (key, kind) ∈ fields) (given : (some key, value) ∈ members) (unfit : ¬ kind value) :
    Flawed fields (.object members)
  | unnamed {members : List (Option Text × Json)} {value : Json} (given : (none, value) ∈ members) :
    Flawed fields (.object members)
  | miscounted {items : List Json} (count : items.length ≠ fields.length) :
    Flawed fields (.array items)
  | misplaced {items : List Json} {key : Text} {kind : Json → Prop} {value : Json}
    (placed : ((key, kind), value) ∈ fields.zip items) (unfit : ¬ kind value) :
    Flawed fields (.array items)
  | unstructured {json : Json} (noObject : ∀ members, json ≠ .object members)
    (noArray : ∀ items, json ≠ .array items) : Flawed fields json

/-! ### The members of one key -/

/-- The members of a key are that key with each of its values. -/
theorem filter_named (key : Text) (members : List (Option Text × Json)) :
    (members.filter fun member => member.1 = some key) =
      (membersNamed key members).map fun value => (some key, value) := by
  induction members with
  | nil => rfl
  | cons member later ih =>
    obtain ⟨name, value⟩ := member
    unfold membersNamed at ih ⊢
    by_cases named : name = some key
    · simp [named, ih]
    · simp [named, ih]

theorem mem_membersNamed {key : Text} {value : Json} {members : List (Option Text × Json)} :
    value ∈ membersNamed key members ↔ (some key, value) ∈ members := by
  simp [membersNamed]

theorem only?_eq_some_iff {key : Text} {value : Json} {members : List (Option Text × Json)} :
    only? key members = some value ↔ membersNamed key members = [value] := by
  unfold only?
  split
  · rename_i found same
    rw [same]
    simp
  · rename_i several
    constructor
    · intro found
      cases found
    · intro same
      exact absurd same (several value)

/-- A key that stands once stands in front of the others, up to the order. -/
theorem perm_of_membersNamed {key : Text} {value : Json} {members : List (Option Text × Json)}
    (once : membersNamed key members = [value]) :
    members.Perm ((some key, value) :: members.filter fun member => !(member.1 = some key)) := by
  have parts := List.filter_append_perm (fun member => decide (member.1 = some key)) members
  rw [filter_named, once] at parts
  exact parts.symm

theorem membersNamed_filter_other {key other : Text} (different : key ≠ other)
    (members : List (Option Text × Json)) :
    membersNamed key (members.filter fun member => !(member.1 = some other)) =
      membersNamed key members := by
  rw [membersNamed, membersNamed, List.filterMap_filter]
  refine List.filterMap_congr fun member _ => ?_
  by_cases named : member.1 = some key
  · simp [named, different]
  · simp [named]

/-- The field of a key is the one member of its name in a record of distinct keys. -/
theorem membersNamed_fields {fields : List (Text × Json)} (distinct : (fields.map Prod.fst).Nodup)
    {key : Text} {value : Json} (field : (key, value) ∈ fields) :
    membersNamed key (fields.map (Prod.map some id)) = [value] := by
  induction fields with
  | nil => cases field
  | cons first later ih =>
    obtain ⟨fresh, distinct⟩ := List.nodup_cons.mp distinct
    rcases List.mem_cons.mp field with rfl | field
    · have gone : membersNamed key (later.map (Prod.map some id)) = [] := by
        refine List.eq_nil_iff_forall_not_mem.mpr fun other found => fresh ?_
        obtain ⟨member, listed, same⟩ := List.mem_map.mp (mem_membersNamed.mp found)
        cases same
        exact List.mem_map.mpr ⟨member, listed, rfl⟩
      simpa [membersNamed] using gone
    · have different : first.1 ≠ key := by
        rintro rfl
        exact fresh (List.mem_map.mpr ⟨_, field, rfl⟩)
      have skipped := ih distinct field
      simpa [membersNamed, different] using skipped

/-- **Each key stands once if and only if the members are the fields and others**, in any order and
with other names. -/
theorem membersNamed_eq_singleton_iff {fields : List (Text × Json)}
    (distinct : (fields.map Prod.fst).Nodup) {members : List (Option Text × Json)} :
    (∀ field ∈ fields, membersNamed field.1 members = [field.2]) ↔
      ∃ others, members.Perm (fields.map (Prod.map some id) ++ others) ∧
        ∀ member ∈ others, ∀ field ∈ fields, member.1 ≠ some field.1 := by
  constructor
  · intro once
    induction fields generalizing members with
    | nil => exact ⟨members, List.Perm.refl _, fun _ _ _ none => nomatch none⟩
    | cons first later ih =>
      obtain ⟨fresh, distinct⟩ := List.nodup_cons.mp distinct
      -- The first field is taken out, and the others are looked for in what remains.
      have front := perm_of_membersNamed (once first List.mem_cons_self)
      have remaining : ∀ field ∈ later, membersNamed field.1
          (members.filter fun member => !(member.1 = some first.1)) = [field.2] := by
        intro field member
        have different : field.1 ≠ first.1 := by
          intro same
          exact fresh (List.mem_map.mpr ⟨field, member, same⟩)
        rw [membersNamed_filter_other different]
        exact once field (List.mem_cons_of_mem _ member)
      obtain ⟨others, arranged, unknown⟩ := ih distinct remaining
      refine ⟨others, front.trans (arranged.cons _), fun member other field listed => ?_⟩
      rcases List.mem_cons.mp listed with rfl | listed
      · have kept := arranged.mem_iff.mpr (List.mem_append_right _ other)
        simpa using (List.mem_filter.mp kept).2
      · exact unknown member other field listed
  · rintro ⟨others, arranged, unknown⟩ field listed
    have own := membersNamed_fields distinct (show (field.1, field.2) ∈ fields from listed)
    have none : membersNamed field.1 others = [] := by
      refine List.eq_nil_iff_forall_not_mem.mpr fun value found => ?_
      exact unknown _ (mem_membersNamed.mp found) field listed rfl
    refine List.perm_singleton.mp ?_
    calc (membersNamed field.1 members).Perm
          (membersNamed field.1 (fields.map (Prod.map some id) ++ others)) :=
          arranged.filterMap _
      _ = membersNamed field.1 (fields.map (Prod.map some id)) ++ membersNamed field.1 others :=
          List.filterMap_append
      _ = [field.2] := by rw [own, none, List.append_nil]

/-! ### The values of a record -/

theorem mapM_eq_some_iff_forall₂ {α β : Type} {f : α → Option β} {list : List α}
    {values : List β} :
    list.mapM f = some values ↔ List.Forall₂ (fun a b => f a = some b) list values := by
  induction list generalizing values with
  | nil => simp [eq_comm]
  | cons first later ih =>
    rw [List.mapM_cons, List.forall₂_cons_left_iff]
    simp only [bind, Option.bind_eq_some_iff, ih]
    constructor
    · rintro ⟨value, found, others, foundOthers, same⟩
      cases same
      exact ⟨value, others, found, foundOthers, rfl⟩
    · rintro ⟨value, others, found, foundOthers, rfl⟩
      exact ⟨value, found, others, foundOthers, rfl⟩

/-- Every element is related to some value if and only if the list is related to some values. -/
theorem exists_forall₂_iff {α β : Type} {relation : α → β → Prop} {list : List α} :
    (∃ values, List.Forall₂ relation list values) ↔ ∀ a ∈ list, ∃ b, relation a b := by
  induction list with
  | nil => simp
  | cons first later ih =>
    simp only [List.forall₂_cons_left_iff, List.forall_mem_cons, ← ih]
    constructor
    · rintro ⟨_, value, others, related, relatedOthers, rfl⟩
      exact ⟨⟨value, related⟩, others, relatedOthers⟩
    · rintro ⟨⟨value, related⟩, others, relatedOthers⟩
      exact ⟨_, value, others, related, relatedOthers, rfl⟩

/-- When an object gives values for keys. -/
theorem record?_object_iff {keys : List Text} {members : List (Option Text × Json)}
    {values : List Json} :
    record? keys (.object members) = some values ↔
      (∀ value, (none, value) ∉ members) ∧
        List.Forall₂ (fun key value => membersNamed key members = [value]) keys values := by
  have named : (members.all fun member => member.1.isSome) = true ↔
      ∀ value, (none, value) ∉ members := by
    rw [List.all_eq_true]
    constructor
    · intro all value given
      exact absurd (all _ given) (by simp)
    · rintro noneUnnamed ⟨_ | key, value⟩ given
      · exact absurd given (noneUnnamed value)
      · rfl
  rw [record?, ← named]
  split
  · rename_i all
    simp [all, mapM_eq_some_iff_forall₂, only?_eq_some_iff]
  · rename_i unnamed
    simp [unnamed]

theorem record?_array_iff {keys : List Text} {items values : List Json} :
    record? keys (.array items) = some values ↔ items.length = keys.length ∧ values = items := by
  rw [record?]
  split <;> simp_all [eq_comm]

/-- **The values of a record are found**, in whichever order and among whatever they stand. -/
theorem record?_eq_some_iff {fields : List (Text × Json)} (distinct : (fields.map Prod.fst).Nodup)
    {json : Json} :
    record? (fields.map Prod.fst) json = some (fields.map Prod.snd) ↔ Holds fields json := by
  cases json with
  | object members =>
    rw [record?_object_iff, List.forall₂_map_left_iff, List.forall₂_map_right_iff,
      List.forall₂_same, membersNamed_eq_singleton_iff distinct]
    constructor
    · rintro ⟨named, others, arranged, unknown⟩
      refine .object arranged fun member other => ?_
      obtain ⟨_ | key, value⟩ := member
      · exact absurd (arranged.mem_iff.mpr (List.mem_append_right _ other)) (named value)
      · refine ⟨key, rfl, fun known => ?_⟩
        obtain ⟨field, listed, rfl⟩ := List.mem_map.mp known
        exact unknown _ other field listed rfl
    · intro holds
      obtain ⟨arranged, unknown⟩ := holds
      refine ⟨fun value given => ?_, _, arranged, fun member other field listed same => ?_⟩
      · rcases List.mem_append.mp (arranged.mem_iff.mp given) with own | other
        · simp at own
        · obtain ⟨key, same, _⟩ := unknown _ other
          cases same
      · obtain ⟨key, named, fresh⟩ := unknown member other
        rw [named] at same
        cases same
        exact fresh (List.mem_map.mpr ⟨field, listed, rfl⟩)
  | array items =>
    rw [record?_array_iff]
    constructor
    · rintro ⟨_, rfl⟩
      exact .array
    · intro holds
      cases holds
      simp
  | _ =>
    refine ⟨fun found => ?_, fun holds => ?_⟩
    · cases found
    · cases holds

/-! ### Flaws -/

/-- An object is a record of fitting values if each known key stands once, with a value of its
kind. -/
theorem object_fits_iff {fields : List (Text × (Json → Prop))}
    {members : List (Option Text × Json)} :
    (∃ values, record? (fields.map Prod.fst) (.object members) = some values ∧
        List.Forall₂ (fun field value => field.2 value) fields values) ↔
      (∀ value, (none, value) ∉ members) ∧
        ∀ field ∈ fields, ∃ value, membersNamed field.1 members = [value] ∧ field.2 value := by
  simp only [record?_object_iff, List.forall₂_map_left_iff]
  rw [← exists_forall₂_iff]
  constructor
  · rintro ⟨values, ⟨named, once⟩, fit⟩
    exact ⟨named, values, once.mp (fun _ _ found fits => ⟨found, fits⟩) fit⟩
  · rintro ⟨named, values, both⟩
    exact ⟨values, ⟨named, both.imp fun _ _ found => found.1⟩, both.imp fun _ _ found => found.2⟩

/-- **The flaws of an object** are all that keeps it from being a record. -/
theorem flawed_object_iff {fields : List (Text × (Json → Prop))}
    {members : List (Option Text × Json)} :
    Flawed fields (.object members) ↔ ¬ ((∀ value, (none, value) ∉ members) ∧
      ∀ field ∈ fields, ∃ value, membersNamed field.1 members = [value] ∧ field.2 value) := by
  constructor
  · rintro flaw ⟨named, fits⟩
    cases flaw with
    | missing known absent =>
      obtain ⟨value, once, _⟩ := fits _ known
      exact absent value (mem_membersNamed.mp (once ▸ List.mem_singleton_self value))
    | @repeated _ key _ first second known twice =>
      obtain ⟨value, once, _⟩ := fits _ known
      have both : (membersNamed key [(some key, first), (some key, second)]).Sublist
          (membersNamed key members) := twice.filterMap _
      rw [once] at both
      simpa [membersNamed] using both.length_le
    | misfit known given unfit =>
      obtain ⟨value, once, fit⟩ := fits _ known
      have found := mem_membersNamed.mpr given
      rw [once, List.mem_singleton] at found
      exact unfit (found ▸ fit)
    | unnamed given => exact named _ given
    | unstructured noObject => exact noObject _ rfl
  · intro unfit
    by_contra noFlaw
    refine unfit ⟨fun value given => noFlaw (.unnamed given), fun field known => ?_⟩
    -- No value is a missing key, and a second one is a repeated key.
    cases found : membersNamed field.1 members with
    | nil =>
      refine absurd (.missing known fun value given => ?_) noFlaw
      have listed := mem_membersNamed.mpr given
      rw [found] at listed
      cases listed
    | cons value later =>
      cases later with
      | nil =>
        refine ⟨value, rfl, ?_⟩
        by_contra misfit
        exact noFlaw (.misfit known (mem_membersNamed.mp (found ▸ List.mem_cons_self)) misfit)
      | cons second later =>
        have all : (members.filter fun member => member.1 = some field.1).Sublist members :=
          List.filter_sublist
        rw [filter_named, found] at all
        have front : [(some field.1, value), (some field.1, second)].Sublist
            ((value :: second :: later).map fun value => (some field.1, value)) :=
          ((List.nil_sublist _).cons_cons _).cons_cons _
        exact absurd (.repeated known (front.trans all)) noFlaw

/-- **What has no flaw is a record of fitting values**, and nothing else is. -/
theorem flawed_iff {fields : List (Text × (Json → Prop))} {json : Json} :
    Flawed fields json ↔ ¬ ∃ values, record? (fields.map Prod.fst) json = some values ∧
      List.Forall₂ (fun field value => field.2 value) fields values := by
  cases json with
  | object members => rw [object_fits_iff, flawed_object_iff]
  | array items =>
    simp only [record?_array_iff, List.length_map]
    constructor
    · rintro flaw ⟨values, ⟨count, rfl⟩, fit⟩
      cases flaw with
      | miscounted different => exact different count
      | misplaced placed unfit => exact unfit (List.forall₂_zip fit placed)
      | unstructured _ noArray => exact noArray _ rfl
    · intro unfit
      by_contra noFlaw
      have count : items.length = fields.length := by
        by_contra different
        exact noFlaw (.miscounted different)
      refine unfit ⟨items, ⟨count, rfl⟩, List.forall₂_iff_zip.mpr ⟨count.symm, ?_⟩⟩
      intro field value placed
      by_contra misfit
      exact noFlaw (.misplaced placed misfit)
  | _ =>
    refine ⟨fun _ => ?_, fun _ => .unstructured nofun nofun⟩
    rintro ⟨values, found, _⟩
    cases found

/-! ### The values of a record are spelled -/

theorem SpellsItems.item {items : List Json} {body : Text} (spelled : SpellsItems items body)
    {item : Json} (member : item ∈ items) : ∃ text, Spells item text := by
  induction items generalizing body with
  | nil => cases member
  | cons first later ih =>
    cases spelled with
    | last spelled =>
      obtain rfl := List.mem_singleton.mp member
      exact ⟨_, spelled⟩
    | cons spelled _ _ others =>
      rcases List.mem_cons.mp member with rfl | member
      · exact ⟨_, spelled⟩
      · exact ih others member

theorem SpellsMembers.value {members : List (Option Text × Json)} {body : Text}
    (spelled : SpellsMembers members body) {key : Option Text} {value : Json}
    (member : (key, value) ∈ members) : ∃ text, Spells value text := by
  induction members generalizing body with
  | nil => cases member
  | cons first later ih =>
    cases spelled with
    | last _ _ _ spelled =>
      cases List.mem_singleton.mp member
      exact ⟨_, spelled⟩
    | cons _ _ _ spelled _ _ others =>
      rcases List.mem_cons.mp member with same | member
      · cases same
        exact ⟨_, spelled⟩
      · exact ih others member

theorem Spells.item {items : List Json} {text : Text} (spelled : Spells (.array items) text)
    {item : Json} (member : item ∈ items) : ∃ body, Spells item body := by
  cases spelled with
  | emptyArray => cases member
  | array _ inside => exact inside.item member

theorem Spells.member {members : List (Option Text × Json)} {text : Text}
    (spelled : Spells (.object members) text) {key : Option Text} {value : Json}
    (member : (key, value) ∈ members) : ∃ body, Spells value body := by
  cases spelled with
  | emptyObject => cases member
  | object _ inside => exact inside.value member

/-- **The values of a record are spelled** inside the text of the record. -/
theorem Spells.of_record? {keys : List Text} {json : Json} {text : Text} {values : List Json}
    (spelled : Spells json text) (record : record? keys json = some values) {value : Json}
    (listed : value ∈ values) : ∃ body, Spells value body := by
  cases json with
  | object members =>
    obtain ⟨_, once⟩ := record?_object_iff.mp record
    obtain ⟨key, found⟩ := exists_forall₂_iff.mp ⟨keys, once.flip⟩ value listed
    exact spelled.member (mem_membersNamed.mp (found ▸ List.mem_singleton_self value))
  | array items =>
    obtain ⟨_, rfl⟩ := record?_array_iff.mp record
    exact spelled.item listed
  | _ => cases record

end ExportManifest.Json
