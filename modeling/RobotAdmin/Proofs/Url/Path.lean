import RobotAdmin.Proofs.Text.Cutting
import RobotAdmin.Url.Parse

namespace RobotAdmin.Url

theorem cutAt_of_notMem {c : Char} {text : List Char} (hc : c ∉ text) : cutAt c text = (text, none) := by
  induction text with
  | nil => rfl
  | cons d text ih =>
    simp only [List.mem_cons, not_or] at hc
    simp [cutAt, Ne.symm hc.1, ih hc.2]

theorem cutAt_append_of_notMem {c : Char} {before : List Char} (hc : c ∉ before) (after : List Char) :
    cutAt c (before ++ after) = (before ++ (cutAt c after).1, (cutAt c after).2) := by
  induction before with
  | nil => rfl
  | cons d before ih =>
    simp only [List.mem_cons, not_or] at hc
    simp [cutAt, Ne.symm hc.1, ih hc.2]

/-- A text with neither a query nor a fragment. -/
def IsPlain (text : List Char) : Prop := '?' ∉ text ∧ '#' ∉ text

theorem IsPlain.of_subset {text part : List Char} (hplain : IsPlain text) (hpart : part ⊆ text) : IsPlain part :=
  ⟨fun h => hplain.1 (hpart h), fun h => hplain.2 (hpart h)⟩

theorem path_cutEnd_of_isPlain {text : List Char} (hplain : IsPlain text) (kind : Kind) :
    (cutEnd kind text).1 = text := by
  simp [cutEnd, cutAt_of_notMem hplain.1, cutAt_of_notMem hplain.2]

theorem path_cutEnd_append {before : List Char} (hplain : IsPlain before) {mark : Char}
    (hmark : mark = '?' ∨ mark = '#') (kind : Kind) (after : List Char) :
    (cutEnd kind (before ++ mark :: after)).1 = before := by
  unfold cutEnd
  rw [cutAt_append_of_notMem hplain.2]
  obtain rfl | rfl := hmark
  · simp [cutAt, cutAt_append_of_notMem hplain.1]
  · simp [cutAt, cutAt_of_notMem hplain.1]

/-- The path of a URL with a host, which depends on the rest of it only by whether there is a host. -/
theorem map_path_ofAuthority? (scheme : String) (kind : Kind) (text : List Char) :
    (ofAuthority? scheme kind text).map Url.path =
      (Authority.ofText? scheme kind (text.takeWhile fun c => !kind.endsAuthority c)).map fun _ =>
        absolutePath kind (cutEnd kind (text.dropWhile fun c => !kind.endsAuthority c)).1 := by
  simp only [ofAuthority?, Option.map_map]
  rfl

/-- Behind a query or fragment nothing counts for the path. -/
theorem map_path_ofAuthority?_append {before : List Char} (hplain : IsPlain before) {mark : Char}
    (hmark : mark = '?' ∨ mark = '#') (scheme : String) (kind : Kind) (after : List Char) :
    (ofAuthority? scheme kind (before ++ mark :: after)).map Url.path =
      (ofAuthority? scheme kind before).map Url.path := by
  have hends : (!kind.endsAuthority mark) = false := by
    obtain rfl | rfl := hmark <;> cases kind <;> decide
  have hrest : IsPlain (before.dropWhile fun c => !kind.endsAuthority c) :=
    hplain.of_subset (List.dropWhile_sublist _).subset
  rw [map_path_ofAuthority?, map_path_ofAuthority?, Text.takeWhile_append_cons_of_neg hends,
    Text.dropWhile_append_cons_of_neg hends, path_cutEnd_append hrest hmark, path_cutEnd_of_isPlain hrest]

theorem addSegments_concat (path : List String) (raw : List (List Char)) (last : List Char) :
    ∃ outer, addSegments path (raw ++ [last]) = addSegment outer last true := by
  induction raw generalizing path with
  | nil => exact ⟨path, rfl⟩
  | cons segment raw ih =>
    obtain ⟨outer, houter⟩ := ih (addSegment path segment false)
    refine ⟨outer, ?_⟩
    rw [← houter]
    cases raw with
    | nil => rfl
    | cons next raw => rfl

theorem Path.text_concat (names : List String) (name : String) :
    (Path.segments (names ++ [name])).text = (Path.segments names).text ++ ("/" ++ name) := by
  simp only [Path.text, List.map_append, List.map_cons, List.map_nil, String.join_append, String.join_cons,
    String.join_nil, String.append_empty]

/-- A path to which a plain segment is appended ends in that segment. -/
theorem text_absolutePath_append (before : List Char) {segment : List Char}
    (hslash : ∀ c ∈ segment, Kind.hosted.isSlash c = false)
    (hsegment : ∀ outer, addSegment outer segment true = String.ofList segment :: outer) :
    ∃ front, (absolutePath .hosted (before ++ '/' :: segment)).text = front ++ ("/" ++ String.ofList segment) := by
  have hlast : List.splitOnP Kind.hosted.isSlash segment = [segment] :=
    List.splitOnP_eq_singleton hslash
  have hnames : ∃ raw, absolutePath .hosted (before ++ '/' :: segment) =
      .segments (addSegments [] (raw ++ [segment])).reverse := by
    have happend (text : List Char) : List.splitOnP Kind.hosted.isSlash (text ++ '/' :: segment) =
        List.splitOnP Kind.hosted.isSlash text ++ [segment] := by
      rw [List.splitOnP_append_cons _ _ (by decide), hlast]
    cases before with
    | nil => exact ⟨[], by simp [absolutePath, Kind.isSlash, hlast, Kind.settle]⟩
    | cons c before =>
      by_cases hc : Kind.hosted.isSlash c = true
      · refine ⟨List.splitOnP Kind.hosted.isSlash before, ?_⟩
        simp [absolutePath, hc, happend, Kind.settle]
      · refine ⟨List.splitOnP Kind.hosted.isSlash (c :: before), ?_⟩
        have hall := happend (c :: before)
        rw [List.cons_append] at hall
        simp [absolutePath, hc, hall, Kind.settle]
  obtain ⟨raw, hraw⟩ := hnames
  obtain ⟨outer, houter⟩ := addSegments_concat [] raw segment
  refine ⟨(Path.segments outer.reverse).text, ?_⟩
  rw [hraw, houter, hsegment, List.reverse_cons, Path.text_concat]

theorem addSegment_admin (outer : List String) : addSegment outer "admin".toList true = "admin" :: outer := by
  have hsegment : String.ofList (percentEncode inPathSet "admin".toList) = "admin" := by decide +kernel
  have hdots : isDoubleDot "admin" = false ∧ isSingleDot "admin" = false := by decide +kernel
  simp only [addSegment, hsegment, hdots, Bool.false_eq_true, ↓reduceIte]

end RobotAdmin.Url
