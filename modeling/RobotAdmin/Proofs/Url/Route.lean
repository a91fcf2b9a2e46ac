import RobotAdmin.Dispatch
import RobotAdmin.Proofs.Url.Path
import RobotAdmin.Proofs.Url.Scheme

namespace RobotAdmin.Url

theorem tail_filter_isBreak (text : List Char) :
    ((text.filter fun c => !isBreak c).dropWhile (· != ':')).tail =
      (text.dropWhile (· != ':')).tail.filter fun c => !isBreak c := by
  induction text with
  | nil => rfl
  | cons c text ih =>
    by_cases hc : c = ':'
    · subst hc
      simp [isBreak]
    · by_cases hbreak : isBreak c = true
      · simp [hc, hbreak, ih]
      · simp [hc, hbreak, ih]

theorem dropWhile_dropWhile_isEdge (text : List Char) :
    (text.dropWhile isEdge).dropWhile (· != ':') = text.dropWhile (· != ':') := by
  induction text with
  | nil => rfl
  | cons c text ih =>
    by_cases hedge : isEdge c = true
    · have hc : c ≠ ':' := by
        rintro rfl
        revert hedge
        decide
      simp [hedge, hc, ih]
    · simp [hedge]

/-- Whether anything but slashes stands behind the scheme, so that it is read as a host. -/
def namesHost (server : String) : Bool :=
  (server.toList.dropWhile (· != ':')).tail.any fun c => !Kind.hosted.isSlash c && !isBreak c

theorem any_of_scheme?_cleanStart {server : String} {scheme : String} {rest : List Char}
    (hscheme : scheme? (cleanStart server.toList) = some (scheme, rest)) :
    (rest.any fun c => !Kind.hosted.isSlash c) = namesHost server := by
  rw [eq_tail_of_scheme? hscheme, cleanStart, tail_filter_isBreak, dropWhile_dropWhile_isEdge, List.any_filter]
  simp only [namesHost, Bool.and_comm]

theorem parse?_append_mark {server : String} {before after : List Char} {mark : Char}
    (hmark : isMark mark = true) (hserver : server.toList = before ++ mark :: after) :
    parse? server = (scheme? (cleanStart before)).bind fun (scheme, rest) =>
      ofScheme? scheme (rest ++ mark :: cleanEnd after) := by
  rw [parse?, hserver, clean_append_mark hmark, scheme?_append_mark hmark]
  cases scheme? (cleanStart before) <;> rfl

theorem subset_of_scheme?_cleanStart {text rest : List Char} {scheme : String}
    (hscheme : scheme? (cleanStart text) = some (scheme, rest)) : rest ⊆ text := by
  rw [eq_tail_of_scheme? hscheme]
  exact (((List.tail_sublist _).trans (List.dropWhile_sublist _)).trans
    (List.filter_sublist.trans (List.dropWhile_sublist _))).subset

/-- What is appended behind a query or fragment does not change the path. -/
theorem map_path_parse?_append {server : String} {url : Url}
    (hends : server.toList.any (fun c => c == '?' || c == '#') = true) (route : String)
    (hurl : parse? (server ++ route) = some url) (hhttp : url.isHttp = true) :
    (parse? server).map Url.path = some url.path := by
  obtain ⟨mark, hfound⟩ := Option.isSome_iff_exists.mp (List.find?_isSome.mpr (List.any_eq_true.mp hends))
  obtain ⟨hmark, before, after, hserver, hbefore⟩ := List.find?_eq_some_iff_append.mp hfound
  have hplain : IsPlain before := by
    constructor <;>
    · intro hmem
      simpa using hbefore _ hmem
  have hmark' : mark = '?' ∨ mark = '#' := by simpa using hmark
  have hisMark : isMark mark = true := by obtain rfl | rfl := hmark' <;> decide
  have hslash : Kind.hosted.isSlash mark = false := by obtain rfl | rfl := hmark' <;> decide
  have hrouted : (server ++ route).toList = before ++ mark :: (after ++ route.toList) := by
    simp [String.toList_append, hserver]
  rw [parse?_append_mark hisMark hrouted] at hurl
  obtain ⟨⟨scheme, rest⟩, hscheme, hurl⟩ := Option.bind_eq_some_iff.mp hurl
  have hkind := kindOf_of_isHttp hurl hhttp
  have hrest : IsPlain (rest.dropWhile Kind.hosted.isSlash) :=
    (hplain.of_subset (subset_of_scheme?_cleanStart hscheme)).of_subset (List.dropWhile_sublist _).subset
  rw [parse?_append_mark hisMark hserver, hscheme, Option.bind_some]
  simp only [ofScheme?_of_hosted hkind, Text.dropWhile_append_cons_of_neg hslash] at hurl ⊢
  rw [map_path_ofAuthority?_append hrest hmark', ← map_path_ofAuthority?_append hrest hmark', hurl,
    Option.map_some]

/-- Whether the path of a server stays open to a route that is appended: with a query or a fragment the path
    is what it is without the route, and without anything to name a host the route is read as one. -/
def KeepsRoute (server route : String) : Prop :=
  if server.toList.any fun c => c == '?' || c == '#' then
    ∃ own front, parse? server = some own ∧ own.path.text = front ++ route
  else namesHost server = true

/-- Behind a host the path ends in what is appended to a text with neither a query nor a fragment. -/
theorem path_ofAuthority?_append_admin {before : List Char} (hplain : IsPlain before) {scheme : String} {url : Url}
    (hurl : ofAuthority? scheme .hosted (before ++ '/' :: "admin".toList) = some url) :
    ∃ front, url.path.text = front ++ adminRoute := by
  have hpath := map_path_ofAuthority? scheme .hosted (before ++ '/' :: "admin".toList)
  rw [hurl, Option.map_some, Text.dropWhile_append_cons_of_neg (by decide)] at hpath
  obtain ⟨_, _, hpath⟩ := Option.map_eq_some_iff.mp hpath.symm
  have hrest : IsPlain (before.dropWhile (fun c => !Kind.hosted.endsAuthority c) ++ '/' :: "admin".toList) := by
    have hbefore := hplain.of_subset
      (List.dropWhile_sublist fun c => !Kind.hosted.endsAuthority c).subset
    constructor
    · rw [List.mem_append, not_or]
      exact ⟨hbefore.1, by decide⟩
    · rw [List.mem_append, not_or]
      exact ⟨hbefore.2, by decide⟩
  rw [path_cutEnd_of_isPlain hrest] at hpath
  have hslash : ∀ c ∈ "admin".toList, Kind.hosted.isSlash c = false := by simp [Kind.isSlash]
  have hroute : "/" ++ String.ofList "admin".toList = adminRoute := by decide +kernel
  obtain ⟨front, hfront⟩ := text_absolutePath_append
    (before.dropWhile fun c => !Kind.hosted.endsAuthority c) hslash addSegment_admin
  exact ⟨front, by rw [← hpath, hfront, hroute]⟩

/-- Where nothing names a host, the route is read as the host and there is no path. -/
theorem path_ofAuthority?_admin {scheme : String} {url : Url}
    (hurl : ofAuthority? scheme .hosted "admin".toList = some url) : url.path.text = "/" := by
  have hpath := map_path_ofAuthority? scheme .hosted "admin".toList
  rw [hurl, Option.map_some] at hpath
  obtain ⟨_, _, hpath⟩ := Option.map_eq_some_iff.mp hpath.symm
  rw [← hpath]
  decide +kernel

/-- The path of the URL that commands are posted to ends in the route exactly if the server keeps it. -/
theorem path_parse?_adminRoute_iff {server : String} {url : Url} (hurl : parse? (server ++ adminRoute) = some url)
    (hhttp : url.isHttp = true) :
    (∃ front, url.path.text = front ++ adminRoute) ↔ KeepsRoute server adminRoute := by
  unfold KeepsRoute
  split
  · rename_i hends
    obtain ⟨own, hown, hpath⟩ := Option.map_eq_some_iff.mp (map_path_parse?_append hends adminRoute hurl hhttp)
    simp [hown, hpath]
  · rename_i hends
    have hplain : IsPlain server.toList := by
      simp only [List.any_eq_true, not_exists, not_and, Bool.or_eq_true, beq_iff_eq] at hends
      exact ⟨fun h => hends '?' h (.inl rfl), fun h => hends '#' h (.inr rfl)⟩
    have hrouted : (server ++ adminRoute).toList = server.toList ++ '/' :: "admin".toList := by
      rw [String.toList_append]
      rfl
    have hclean : cleanEnd "admin".toList = "admin".toList := by decide
    rw [parse?_append_mark (by decide) hrouted, hclean] at hurl
    obtain ⟨⟨scheme, rest⟩, hscheme, hurl⟩ := Option.bind_eq_some_iff.mp hurl
    simp only [ofScheme?_of_hosted (kindOf_of_isHttp hurl hhttp)] at hurl
    rw [← any_of_scheme?_cleanStart hscheme]
    cases hslashes : rest.dropWhile Kind.hosted.isSlash with
    | nil =>
      rw [List.dropWhile_append, hslashes] at hurl
      have hpath := path_ofAuthority?_admin hurl
      constructor
      · rintro ⟨front, hfront⟩
        have hlength := congrArg String.length (hpath.symm.trans hfront)
        have hshort : "/".length = 1 ∧ adminRoute.length = 6 := by decide
        rw [String.length_append, hshort.1, hshort.2] at hlength
        omega
      · intro hany
        obtain ⟨c, hc, hslash⟩ := List.any_eq_true.mp hany
        simp [List.dropWhile_eq_nil_iff.mp hslashes c hc] at hslash
    | cons c behind =>
      rw [List.dropWhile_append, hslashes] at hurl
      have hbehind : IsPlain (c :: behind) := by
        rw [← hslashes]
        exact (hplain.of_subset (subset_of_scheme?_cleanStart hscheme)).of_subset (List.dropWhile_sublist _).subset
      have hpath := path_ofAuthority?_append_admin hbehind hurl
      have hc : Kind.hosted.isSlash c = false := by
        have hhead := List.head?_dropWhile_not Kind.hosted.isSlash rest
        simpa [hslashes] using hhead
      have hmem : c ∈ rest := (List.dropWhile_sublist Kind.hosted.isSlash).subset (by simp [hslashes])
      exact ⟨fun _ => List.any_eq_true.mpr ⟨c, hmem, by simp [hc]⟩, fun _ => hpath⟩

end RobotAdmin.Url
