import RobotAdmin.Proofs.Text.Cutting
import RobotAdmin.Settings

namespace RobotAdmin

namespace Text

theorem length_dropEnd_le (p : Char → Bool) (text : List Char) : (dropEnd p text).length ≤ text.length :=
  (List.rdropWhile_prefix p text).length_le

theorem length_trimBlank_le (text : List Char) : (trimBlank text).length ≤ text.length :=
  Nat.le_trans (length_dropEnd_le ..) (List.dropWhile_sublist isBlank).length_le

/-- Whether a text ends in a blank. -/
def endsInBlank (text : List Char) : Bool := text.getLast?.any isBlank

/-- The blank at the end of a text is dropped. -/
theorem length_trimBlank_lt {text : List Char} (hblank : endsInBlank text = true) :
    (trimBlank text).length < text.length := by
  unfold endsInBlank at hblank
  cases hlast : text.getLast? with
  | none => simp [hlast] at hblank
  | some last =>
    obtain ⟨before, rfl⟩ := List.getLast?_eq_some_iff.mp hlast
    have hpos : isBlank last = true := by simpa using hblank
    rw [trimBlank, List.dropWhile_append, List.length_append, List.length_singleton]
    split
    · simp [hpos, dropEnd]
    · have hend : dropEnd isBlank (before.dropWhile isBlank ++ [last]) = dropEnd isBlank (before.dropWhile isBlank) := by
        rw [dropEnd, List.reverse_append, List.reverse_singleton, List.singleton_append,
          List.dropWhile_cons_of_pos hpos, dropEnd]
      have hle := length_trimBlank_le before
      rw [trimBlank] at hle
      rw [hend]
      omega

theorem dropEnd_of_last {p : Char → Bool} {text : List Char} (hlast : text.getLast?.any p = false) :
    dropEnd p text = text := by
  cases hend : text.getLast? with
  | none =>
    rw [List.getLast?_eq_none_iff.mp hend]
    rfl
  | some last =>
    obtain ⟨before, rfl⟩ := List.getLast?_eq_some_iff.mp hend
    exact dropEnd_append_cons_of_neg (by simpa using hlast) before []

/-- A beginning of what was freed from blanks at the start begins with no blank either. -/
theorem dropWhile_isBlank_of_prefix {text start : List Char} (hstart : start <+: text.dropWhile isBlank) :
    start.dropWhile isBlank = start := by
  cases start with
  | nil => rfl
  | cons c start =>
    obtain ⟨rest, hrest⟩ := hstart
    have hhead := List.head?_dropWhile_not isBlank text
    rw [← hrest] at hhead
    exact List.dropWhile_cons_of_neg (by simpa using hhead)

end Text

namespace Settings

theorem toList_normalizeServer (server : String) :
    (normalizeServer server).toList = Text.dropEnd (· == '/') (Text.trimBlank server.toList) := by
  simp only [normalizeServer, Text.dropSlashes, Text.trim, String.toList_ofList]

theorem length_normalizeServer_le (server : String) : (normalizeServer server).length ≤ server.length := by
  rw [← String.length_toList, ← String.length_toList, toList_normalizeServer]
  exact Nat.le_trans (Text.length_dropEnd_le ..) (Text.length_trimBlank_le _)

theorem length_normalizeServer_lt {server : String} (hblank : Text.endsInBlank server.toList = true) :
    (normalizeServer server).length < server.length := by
  rw [← String.length_toList, ← String.length_toList, toList_normalizeServer]
  exact Nat.lt_of_le_of_lt (Text.length_dropEnd_le ..) (Text.length_trimBlank_lt hblank)

theorem normalizeServer_isPrefix (server : String) :
    (normalizeServer server).toList <+: server.toList.dropWhile Text.isBlank := by
  rw [toList_normalizeServer]
  exact (List.rdropWhile_prefix _ _).trans (List.rdropWhile_prefix _ _)

/-- A server in normal form stays as it is unless a blank has come to stand at its end. -/
theorem normalizeServer_normalizeServer {server : String}
    (hblank : Text.endsInBlank (normalizeServer server).toList = false) :
    normalizeServer (normalizeServer server) = normalizeServer server := by
  apply String.toList_inj.mp
  rw [toList_normalizeServer (normalizeServer server)]
  rw [Text.trimBlank, Text.dropWhile_isBlank_of_prefix (normalizeServer_isPrefix server), Text.dropEnd_of_last hblank,
    toList_normalizeServer, Text.dropEnd_dropEnd]

end Settings

end RobotAdmin
