import RobotAdmin.FileSystem.Path

namespace RobotAdmin.Path

/-- What a name can be: not empty and without slashes. -/
def IsName (name : Name) : Prop := name ≠ [] ∧ slash ∉ name

theorem slash_notMem_of_mem_splitOn {bytes : List UInt8} {name : Name} (hname : name ∈ List.splitOn slash bytes) :
    slash ∉ name := by
  induction bytes generalizing name with
  | nil =>
    simp only [List.splitOn_nil, List.mem_singleton] at hname
    simp [hname]
  | cons b bytes ih =>
    rw [List.splitOn_cons_eq_if_modifyHead] at hname
    split at hname
    · obtain rfl | hrest := List.mem_cons.mp hname
      · simp
      · exact ih hrest
    · rename_i hb
      cases hsplit : List.splitOn slash bytes with
      | nil => exact absurd hsplit (List.splitOn_ne_nil slash bytes)
      | cons first rest =>
        rw [hsplit, List.modifyHead_cons] at hname
        obtain rfl | hrest := List.mem_cons.mp hname
        · have hfirst : slash ∉ first := ih (by simp [hsplit])
          have hne : slash ≠ b := fun h => hb (by simp [h])
          simp [hne, hfirst]
        · exact ih (by simp [hsplit, hrest])

theorem isName_of_mem_names {path : Path} {name : Name} (hname : name ∈ path.names) : IsName name := by
  obtain ⟨hsplit, hempty⟩ := List.mem_filter.mp hname
  exact ⟨by simpa using hempty, slash_notMem_of_mem_splitOn hsplit⟩

theorem names_eq_of_isName {names : List Name} (hnames : ∀ name ∈ names, IsName name) :
    (List.splitOn slash ([slash].intercalate names)).filter (fun name => !name.isEmpty) = names := by
  cases names with
  | nil => rfl
  | cons first rest =>
    rw [List.splitOn_intercalate slash (fun name hname => (hnames name hname).2) (by simp)]
    exact List.filter_eq_self.mpr fun name hname => by simpa using (hnames name hname).1

theorem names_slash_cons (bytes : List UInt8) :
    (List.splitOn slash (slash :: bytes)).filter (fun name => !name.isEmpty) =
      (List.splitOn slash bytes).filter fun name => !name.isEmpty := by
  rw [List.splitOn_cons_eq_if_modifyHead, if_pos (by simp), List.filter_cons_of_neg (by simp)]

theorem names_ofComponents {components : List Name} (hnames : ∀ name ∈ components, IsName name) (absolute : Bool) :
    (ofComponents absolute components).names = components.reverse := by
  have hreverse : ∀ name ∈ components.reverse, IsName name := fun name hname =>
    hnames name (List.mem_reverse.mp hname)
  cases absolute with
  | false => exact names_eq_of_isName hreverse
  | true => exact (names_slash_cons _).trans (names_eq_of_isName hreverse)

theorem isAbsolute_ofComponents {components : List Name} (hnames : ∀ name ∈ components, IsName name)
    (hne : components ≠ []) (absolute : Bool) : (ofComponents absolute components).isAbsolute = absolute := by
  cases absolute with
  | true => rfl
  | false =>
    cases hreverse : components.reverse with
    | nil => exact absurd (List.reverse_eq_nil_iff.mp hreverse) hne
    | cons first rest =>
      obtain ⟨hfirst, hslash⟩ := hnames first (List.mem_reverse.mp (hreverse ▸ List.mem_cons_self))
      cases first with
      | nil => exact absurd rfl hfirst
      | cons b first =>
        have hb : b ≠ slash := by
          rintro rfl
          exact hslash List.mem_cons_self
        simp [isAbsolute, ofComponents, hreverse, hb]

theorem intercalate_sublist {names all : List Name} (hsublist : names.Sublist all) :
    ([slash].intercalate names).Sublist ([slash].intercalate all) := by
  induction hsublist with
  | slnil => exact List.Sublist.refl _
  | @cons names all name hrest ih =>
    cases all with
    | nil =>
      rw [List.sublist_nil.mp hrest]
      exact List.nil_sublist _
    | cons second all =>
      rw [List.intercalate_cons_of_ne_nil (by simp)]
      exact ih.trans (List.sublist_append_right ..)
  | @cons_cons names all name hrest ih =>
    cases names with
    | nil =>
      rw [List.intercalate_singleton]
      cases all with
      | nil => simp
      | cons second all =>
        rw [List.intercalate_cons_of_ne_nil (by simp), List.append_assoc]
        exact List.sublist_append_left ..
    | cons first names =>
      have hall : all ≠ [] := by
        rintro rfl
        cases hrest
      rw [List.intercalate_cons_of_ne_nil (by simp), List.intercalate_cons_of_ne_nil hall]
      exact (List.append_sublist_append_left _).mpr ih

/-- The path along some of the names of a path has no bytes of its own. -/
theorem bytes_ofComponents_sublist {path : Path} {components : List Name}
    (hcomponents : components.reverse.Sublist path.names) :
    (ofComponents path.isAbsolute components).bytes.Sublist path.bytes := by
  have hplain (bytes : List UInt8) (hnames : components.reverse.Sublist
      ((List.splitOn slash bytes).filter fun name => !name.isEmpty)) :
      ([slash].intercalate components.reverse).Sublist bytes := by
    have hall := intercalate_sublist (hnames.trans List.filter_sublist)
    rwa [List.intercalate_splitOn] at hall
  obtain ⟨bytes⟩ := path
  cases bytes with
  | nil => exact hplain [] hcomponents
  | cons b bytes =>
    by_cases hb : b = slash
    · subst hb
      have htail := hplain bytes (by rwa [names, names_slash_cons] at hcomponents)
      exact List.Sublist.cons_cons slash htail
    · have habsolute : isAbsolute ⟨b :: bytes⟩ = false := by simp [isAbsolute, hb]
      rw [habsolute]
      exact hplain (b :: bytes) hcomponents

/-- Names without the dots that lead nowhere. -/
def withoutDots (absolute : Bool) : List Name → List Name
  | [] => []
  | first :: rest => (if absolute && first == dot then [] else [first]) ++ rest.filter (· != dot)

theorem components_eq (path : Path) : path.components = (withoutDots path.isAbsolute path.names).reverse := by
  unfold components
  cases path.names with
  | nil => rfl
  | cons first rest =>
    cases hdot : path.isAbsolute && first == dot with
    | false => simp [withoutDots, hdot]
    | true => simp [withoutDots, hdot]

theorem withoutDots_concat {last : Name} (hlast : last ≠ dot) (absolute : Bool) (before : List Name) :
    withoutDots absolute (before ++ [last]) = withoutDots absolute before ++ [last] := by
  cases before with
  | nil => simp [withoutDots, hlast]
  | cons first rest => simp [withoutDots, hlast]

theorem withoutDots_sublist (absolute : Bool) (names : List Name) : (withoutDots absolute names).Sublist names := by
  cases names with
  | nil => exact List.Sublist.refl _
  | cons first rest =>
    have hrest : (rest.filter (· != dot)).Sublist rest := List.filter_sublist
    cases hdot : absolute && first == dot with
    | false =>
      rw [withoutDots, hdot, if_neg Bool.false_ne_true]
      exact List.Sublist.cons_cons first hrest
    | true =>
      rw [withoutDots, hdot, if_pos rfl]
      exact List.Sublist.cons first hrest

/-- The names of the directory that holds an entry. -/
theorem reverse_tail_components {path : Path} {before : List Name} {last : Name}
    (hnames : path.names = before ++ [last]) (hlast : last ≠ dot) :
    path.components.tail.reverse = withoutDots path.isAbsolute before := by
  rw [components_eq, hnames, withoutDots_concat hlast, List.reverse_append]
  exact List.reverse_reverse _

theorem splitOn_name {name : Name} (hname : IsName name) :
    (List.splitOn slash name).filter (fun name => !name.isEmpty) = [name] := by
  rw [List.splitOn_eq_singleton hname.2, List.filter_cons_of_pos (by simpa using hname.1), List.filter_nil]

/-- The name of an entry comes behind the names of its directory. -/
theorem names_join (path : Path) {name : Name} (hname : IsName name) :
    (path.join name).names = path.names ++ [name] := by
  obtain ⟨bytes⟩ := path
  unfold join
  split
  · rename_i hend
    obtain hempty | hslash := Bool.or_eq_true_iff.mp hend
    · obtain rfl : bytes = [] := by simpa using hempty
      exact splitOn_name hname
    · obtain ⟨before, rfl⟩ : ∃ before, bytes = before ++ [slash] := by
        have hlast : bytes.getLast? = some slash := by simpa [endsInSlash] using hslash
        exact List.getLast?_eq_some_iff.mp hlast
      simp only [names, List.append_assoc, List.singleton_append, List.splitOn_append_cons_self,
        List.filter_append, splitOn_name hname]
      simp
  · simp only [names, List.splitOn_append_cons_self, List.filter_append, splitOn_name hname]

theorem endsInSlash_join (path : Path) {name : Name} (hname : IsName name) : (path.join name).endsInSlash = false := by
  have hlast : ∀ before : List UInt8, (before ++ name).getLast? ≠ some slash := by
    intro before hslash
    rw [List.getLast?_append] at hslash
    cases hname' : name.getLast? with
    | none => exact hname.1 (List.getLast?_eq_none_iff.mp hname')
    | some b =>
      rw [hname', Option.some_or] at hslash
      obtain rfl := Option.some.inj hslash
      exact hname.2 (List.mem_of_getLast? hname')
  unfold join endsInSlash
  split
  · simpa using hlast path.bytes
  · simpa using hlast (path.bytes ++ [slash])

end RobotAdmin.Path
