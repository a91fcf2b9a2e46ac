import Mathlib.Data.List.Induction
import Mathlib.Data.String.Basic
import RobotAdmin.Json.Basic

namespace RobotAdmin.Json

section

variable {α : Type} {members others : List (String × α)} {name other : String} {value : α}

/-- The values that members give a name, in the order of the members. -/
def valuesOf (name : String) (members : List (String × α)) : List α :=
  (members.filter fun member => member.1 = name).map (·.2)

theorem valuesOf_nil (name : String) : valuesOf name ([] : List (String × α)) = [] := rfl

theorem valuesOf_cons (name : String) (member : String × α) (members : List (String × α)) :
    valuesOf name (member :: members) =
      if member.1 = name then member.2 :: valuesOf name members else valuesOf name members := by
  by_cases hname : member.1 = name <;> simp [valuesOf, hname]

theorem valuesOf_append (name : String) (members others : List (String × α)) :
    valuesOf name (members ++ others) = valuesOf name members ++ valuesOf name others := by
  simp [valuesOf]

theorem valuesOf_map {β : Type} (f : α → β) (name : String) (members : List (String × α)) :
    valuesOf name (members.map fun member => (member.1, f member.2)) = (valuesOf name members).map f := by
  simp [valuesOf, List.filter_map, Function.comp_def]

theorem lookup_cons_eq (name other : String) (value : α) (members : List (String × α)) :
    List.lookup name ((other, value) :: members) = if name = other then some value else members.lookup name := by
  by_cases hname : name = other
  · simp [hname]
  · rw [List.lookup_cons, beq_false_of_ne hname, if_neg hname]

/-- Members with ascending names, none of which comes twice. -/
def IsSorted (members : List (String × α)) : Prop := members.Pairwise fun member next => member.1 < next.1

theorem mem_of_mem_putMember {member : String × α} (hmem : member ∈ putMember name value members) :
    member = (name, value) ∨ member ∈ members := by
  induction members with
  | nil => exact .inl (List.mem_singleton.mp hmem)
  | cons first rest ih =>
    rw [putMember] at hmem
    split at hmem
    · exact List.mem_cons.mp hmem
    split at hmem
    · exact (List.mem_cons.mp hmem).imp_right (List.mem_cons_of_mem _)
    · rcases List.mem_cons.mp hmem with rfl | hmem
      · exact .inr List.mem_cons_self
      · exact (ih hmem).imp_right (List.mem_cons_of_mem _)

theorem IsSorted.putMember (hsorted : IsSorted members) (name : String) (value : α) :
    IsSorted (putMember name value members) := by
  induction members with
  | nil => exact List.pairwise_singleton _ _
  | cons first rest ih =>
    obtain ⟨hfirst, hrest⟩ := List.pairwise_cons.mp hsorted
    rw [Json.putMember]
    split
    · rename_i hless
      refine List.pairwise_cons.mpr ⟨fun member hmem => ?_, hsorted⟩
      rcases List.mem_cons.mp hmem with rfl | hmem
      · exact hless
      · exact lt_trans hless (hfirst member hmem)
    split
    · rename_i hsame
      exact List.pairwise_cons.mpr ⟨fun member hmem => hsame ▸ hfirst member hmem, hrest⟩
    · rename_i hnotLess hne
      refine List.pairwise_cons.mpr ⟨fun member hmem => ?_, ih hrest⟩
      rcases mem_of_mem_putMember hmem with rfl | hmem
      · exact lt_of_le_of_ne (not_lt.mp hnotLess) (Ne.symm hne)
      · exact hfirst member hmem

theorem lookup_putMember (name other : String) (value : α) (members : List (String × α)) :
    (putMember name value members).lookup other = if other = name then some value else members.lookup other := by
  induction members with
  | nil => exact lookup_cons_eq ..
  | cons first rest ih =>
    rw [putMember]
    split
    · rw [lookup_cons_eq]
    split
    · rename_i hsame
      rw [lookup_cons_eq, lookup_cons_eq, hsame]
      split <;> rfl
    · rename_i hne
      rw [lookup_cons_eq, lookup_cons_eq, ih]
      split <;> split <;> simp_all

theorem sortMembers_append_singleton (members : List (String × α)) (member : String × α) :
    sortMembers (members ++ [member]) = putMember member.1 member.2 (sortMembers members) := by
  simp [sortMembers]

theorem isSorted_sortMembers (members : List (String × α)) : IsSorted (sortMembers members) := by
  induction members using List.reverseRecOn with
  | nil => exact List.Pairwise.nil
  | append_singleton members member ih =>
    rw [sortMembers_append_singleton]
    exact ih.putMember ..

/-- Sorting keeps the last value of each name. -/
theorem lookup_sortMembers (name : String) (members : List (String × α)) :
    (sortMembers members).lookup name = (valuesOf name members).getLast? := by
  induction members using List.reverseRecOn with
  | nil => rfl
  | append_singleton members member ih =>
    obtain ⟨other, value⟩ := member
    rw [sortMembers_append_singleton, lookup_putMember, valuesOf_append, ih]
    split
    · rename_i hname
      rw [valuesOf_cons, if_pos hname.symm, valuesOf_nil, List.getLast?_concat]
    · rename_i hne
      rw [valuesOf_cons, if_neg (Ne.symm hne), valuesOf_nil, List.append_nil]

theorem lookup_eq_none_of_forall_lt (hbound : ∀ member ∈ members, name < member.1) : members.lookup name = none := by
  refine List.lookup_eq_none_iff.mpr fun member hmem => ?_
  simpa using (hbound member hmem).ne

/-- Of sorted members those that are looked up are all. -/
theorem IsSorted.mem_iff (hsorted : IsSorted members) : (name, value) ∈ members ↔ members.lookup name = some value := by
  induction members with
  | nil => simp
  | cons first rest ih =>
    obtain ⟨found, old⟩ := first
    obtain ⟨hfirst, hrest⟩ := List.pairwise_cons.mp hsorted
    rw [lookup_cons_eq, List.mem_cons, ih hrest]
    split
    · rename_i hname
      subst hname
      simp [lookup_eq_none_of_forall_lt hfirst, eq_comm]
    · rename_i hne
      simp [hne]

theorem IsSorted.nodup (hsorted : IsSorted members) : members.Nodup :=
  hsorted.imp fun hless hsame => hless.ne (congrArg Prod.fst hsame)

theorem IsSorted.ext (hmembers : IsSorted members) (hothers : IsSorted others)
    (hlookup : ∀ name, members.lookup name = others.lookup name) : members = others := by
  have hmem : ∀ member, member ∈ members ↔ member ∈ others := by
    rintro ⟨name, value⟩
    rw [hmembers.mem_iff, hothers.mem_iff, hlookup]
  refine List.Perm.eq_of_pairwise (fun member next _ _ hless hgreater => ?_) hmembers hothers
    ((List.perm_ext_iff_of_nodup hmembers.nodup hothers.nodup).mpr hmem)
  exact absurd hgreater (lt_asymm hless)

theorem IsSorted.valuesOf_eq (hsorted : IsSorted members) (name : String) :
    valuesOf name members = (members.lookup name).toList := by
  induction members with
  | nil => rfl
  | cons first rest ih =>
    obtain ⟨found, old⟩ := first
    obtain ⟨hfirst, hrest⟩ := List.pairwise_cons.mp hsorted
    rw [lookup_cons_eq]
    split
    · rename_i hname
      subst hname
      rw [valuesOf_cons, if_pos rfl, ih hrest, lookup_eq_none_of_forall_lt hfirst]
      rfl
    · rename_i hne
      rw [valuesOf_cons, if_neg (Ne.symm hne), ih hrest]

theorem IsSorted.sortMembers_eq (hsorted : IsSorted members) : sortMembers members = members := by
  refine (isSorted_sortMembers members).ext hsorted fun name => ?_
  rw [lookup_sortMembers, hsorted.valuesOf_eq]
  cases members.lookup name <;> rfl

theorem mem_of_mem_sortMembers {member : String × α} (hmem : member ∈ sortMembers members) : member ∈ members := by
  induction members using List.reverseRecOn with
  | nil => exact hmem
  | append_singleton members last ih =>
    rw [sortMembers_append_singleton] at hmem
    rw [List.mem_append, List.mem_singleton]
    exact (mem_of_mem_putMember hmem).symm.imp_left ih

end

/-- A value without parts. -/
def IsScalar : Json → Prop
  | .array _ | .object _ => False
  | _ => True

theorem sizeOf_value_lt {members : List (String × Json)} {member : String × Json} (hmem : member ∈ members) :
    sizeOf member.2 < sizeOf members := by
  have hmember := List.sizeOf_lt_of_mem hmem
  obtain ⟨name, value⟩ := member
  simp only [Prod.mk.sizeOf_spec] at hmember ⊢
  omega

/-- Induction over a value by way of its parts. -/
@[elab_as_elim]
theorem inductionOn {motive : Json → Prop} (value : Json) (scalar : ∀ value : Json, value.IsScalar → motive value)
    (array : ∀ items : List Json, (∀ item ∈ items, motive item) → motive (.array items))
    (object : ∀ members : List (String × Json), (∀ member ∈ members, motive member.2) → motive (.object members)) :
    motive value :=
  match value with
  | .array items => array items fun item _ => inductionOn item scalar array object
  | .object members => object members fun member hmem =>
    have := sizeOf_value_lt hmem
    inductionOn member.2 scalar array object
  | .null | .bool _ | .number _ | .text _ => scalar _ trivial

theorem normalItems_eq_map (items : List Json) : normalItems items = items.map normal := by
  induction items with
  | nil => rfl
  | cons item items ih => rw [normalItems, ih, List.map_cons]

theorem normalMembers_eq_map (members : List (String × Json)) :
    normalMembers members = members.map fun member => (member.1, member.2.normal) := by
  induction members with
  | nil => rfl
  | cons member members ih => rw [normalMembers, ih, List.map_cons]

theorem normal_of_isScalar {value : Json} (hscalar : value.IsScalar) : value.normal = value := by
  cases value with
  | array items => exact hscalar.elim
  | object members => exact hscalar.elim
  | _ => simp only [normal]

/-- Only a value without parts has such a normal form. -/
theorem isScalar_of_normal {value : Json} (hscalar : value.normal.IsScalar) : value.IsScalar := by
  cases value with
  | array items => simp [normal, IsScalar] at hscalar
  | object members => simp [normal, IsScalar] at hscalar
  | _ => trivial

/-- Values without parts are known by their normal forms. -/
theorem eq_of_map_normal_eq {values others : List Json} (hscalar : ∀ value ∈ values, value.IsScalar)
    (hsame : values.map normal = others.map normal) : values = others := by
  have hvalues : values.map normal = values :=
    (List.map_congr_left fun value hmem => normal_of_isScalar (hscalar value hmem)).trans values.map_id
  have hothers : others.map normal = others := by
    refine (List.map_congr_left fun other hmem => ?_).trans others.map_id
    have hnormal : other.normal ∈ values := by
      rw [← hvalues, hsame]
      exact List.mem_map_of_mem hmem
    exact normal_of_isScalar (isScalar_of_normal (hscalar _ hnormal))
  rw [← hvalues, hsame, hothers]

theorem normal_array (items : List Json) : (array items).normal = .array (items.map normal) := by
  rw [normal, normalItems_eq_map]

theorem valuesOf_normalMembers (name : String) (members : List (String × Json)) :
    valuesOf name (normalMembers members) = (valuesOf name members).map normal := by
  rw [normalMembers_eq_map, valuesOf_map]

/-- The normal form of an object is sorted and has, of each name, the normal form of the last value. -/
theorem lookup_sortMembers_normalMembers (name : String) (members : List (String × Json)) :
    (sortMembers (normalMembers members)).lookup name = (valuesOf name members).getLast?.map normal := by
  rw [lookup_sortMembers, valuesOf_normalMembers, List.getLast?_map]

theorem exists_of_mem_sortMembers_normalMembers {member : String × Json} {members : List (String × Json)}
    (hmem : member ∈ sortMembers (normalMembers members)) :
    ∃ before ∈ members, (before.1, before.2.normal) = member := by
  rw [normalMembers_eq_map] at hmem
  exact List.mem_map.mp (mem_of_mem_sortMembers hmem)

theorem normalMembers_of_forall {members : List (String × Json)}
    (hmembers : ∀ member ∈ members, member.2.normal = member.2) : normalMembers members = members := by
  rw [normalMembers_eq_map]
  refine (List.map_congr_left fun member hmem => ?_).trans members.map_id
  rw [hmembers member hmem, id]

/-- The normal form of a value is its own. -/
theorem normal_normal (value : Json) : value.normal.normal = value.normal := by
  induction value using inductionOn with
  | scalar value hscalar => rw [normal_of_isScalar hscalar, normal_of_isScalar hscalar]
  | array items ih =>
    rw [normal_array, normal_array, List.map_map]
    exact congrArg Json.array (List.map_congr_left ih)
  | object members ih =>
    have hparts : ∀ member ∈ sortMembers (normalMembers members), member.2.normal = member.2 := by
      intro member hmem
      obtain ⟨before, hbefore, rfl⟩ := exists_of_mem_sortMembers_normalMembers hmem
      exact ih before hbefore
    rw [normal, normal, normalMembers_of_forall hparts, (isSorted_sortMembers _).sortMembers_eq]

/-- Values that differ in the order of members of different names only, at the top or further inside. -/
inductive Reorders : Json → Json → Prop where
  | refl (value : Json) : Reorders value value
  | trans {value middle other : Json} (hfirst : Reorders value middle) (hsecond : Reorders middle other) :
      Reorders value other
  | swap (before after : List (String × Json)) {member next : String × Json} (hne : member.1 ≠ next.1) :
      Reorders (.object (before ++ member :: next :: after)) (.object (before ++ next :: member :: after))
  | member (before after : List (String × Json)) (name : String) {value other : Json} (hvalue : Reorders value other) :
      Reorders (.object (before ++ (name, value) :: after)) (.object (before ++ (name, other) :: after))
  | item (before after : List Json) {value other : Json} (hvalue : Reorders value other) :
      Reorders (.array (before ++ value :: after)) (.array (before ++ other :: after))

theorem Reorders.symm {value other : Json} (hreorders : Reorders value other) : Reorders other value := by
  induction hreorders with
  | refl value => exact .refl value
  | trans _ _ ihFirst ihSecond => exact .trans ihSecond ihFirst
  | swap before after hne => exact .swap before after hne.symm
  | member before after name _ ih => exact .member before after name ih
  | item before after _ ih => exact .item before after ih

theorem normal_eq_of_valuesOf {members others : List (String × Json)}
    (hvalues : ∀ name, (valuesOf name members).map normal = (valuesOf name others).map normal) :
    (object members).normal = (object others).normal := by
  rw [normal, normal]
  refine congrArg Json.object ((isSorted_sortMembers _).ext (isSorted_sortMembers _) fun name => ?_)
  rw [lookup_sortMembers, lookup_sortMembers, valuesOf_normalMembers, valuesOf_normalMembers, hvalues]

/-- Reordering changes no normal form, and of an object not even the values of a name. -/
theorem Reorders.normal_eq {value other : Json} (hreorders : Reorders value other) :
    value.normal = other.normal ∧ ∀ members, value = .object members →
      ∃ others, other = .object others ∧
        ∀ name, (valuesOf name members).map normal = (valuesOf name others).map normal := by
  -- The normal form of an object has lost its repeated names, so the values are carried along beside it.
  induction hreorders with
  | refl value => exact ⟨rfl, fun members hvalue => ⟨members, hvalue, fun _ => rfl⟩⟩
  | trans _ _ ihFirst ihSecond =>
    refine ⟨ihFirst.1.trans ihSecond.1, fun members hvalue => ?_⟩
    obtain ⟨middle, hmiddle, hfirst⟩ := ihFirst.2 members hvalue
    obtain ⟨others, hothers, hsecond⟩ := ihSecond.2 middle hmiddle
    exact ⟨others, hothers, fun name => (hfirst name).trans (hsecond name)⟩
  | @swap before after member next hne =>
    have hvalues (name : String) : valuesOf name (before ++ member :: next :: after) =
        valuesOf name (before ++ next :: member :: after) := by
      simp only [valuesOf_append, valuesOf_cons]
      by_cases hmember : member.1 = name
      · simp [hmember, hmember ▸ Ne.symm hne]
      · simp [hmember]
    refine ⟨normal_eq_of_valuesOf fun name => by rw [hvalues], fun members hvalue => ?_⟩
    obtain rfl := object.inj hvalue
    exact ⟨_, rfl, fun name => by rw [hvalues]⟩
  | @member before after name value other _ ih =>
    have hvalues (wanted : String) : (valuesOf wanted (before ++ (name, value) :: after)).map normal =
        (valuesOf wanted (before ++ (name, other) :: after)).map normal := by
      simp only [valuesOf_append, valuesOf_cons]
      split <;> simp [ih.1]
    refine ⟨normal_eq_of_valuesOf hvalues, fun members hvalue => ?_⟩
    obtain rfl := object.inj hvalue
    exact ⟨_, rfl, hvalues⟩
  | item before after _ ih =>
    refine ⟨?_, fun members hvalue => nomatch hvalue⟩
    simp only [normal_array, List.map_append, List.map_cons, ih.1]

end RobotAdmin.Json
