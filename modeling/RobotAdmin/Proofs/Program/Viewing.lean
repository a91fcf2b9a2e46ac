import RobotAdmin.Proofs.Program.Configuring
import RobotAdmin.Proofs.Text.Cutting
import RobotAdmin.Proofs.Text.Numeral

namespace RobotAdmin.Program

/-- Different settings are shown differently. -/
theorem viewText_inj {path : Path} {first second : Settings} (htext : viewText path first = viewText path second) :
    first = second := by
  have hblank (secs : UInt64) : ' ' ∉ Nat.toDigits 10 secs.toNat := by
    intro hmem
    have hdigit := Nat.isDigit_of_mem_toDigits (by decide) (by decide) hmem
    revert hdigit
    decide
  have hlabel : "  Timeout: ".toList = "  Timeout:".toList ++ [' '] := by decide +kernel
  unfold viewText at htext
  have hlist := congrArg String.toList htext
  simp only [String.toList_append, List.append_assoc, List.append_cancel_left_eq, Numeral.toList_toString, hlabel,
    List.singleton_append] at hlist
  have hgroup (settings : Settings) : settings.server.toList ++ ("\n".toList ++ ("  Timeout:".toList ++
      (' ' :: Nat.toDigits 10 settings.timeoutSecs.toNat ++ " s\n".toList))) =
      settings.server.toList ++ ("\n".toList ++ "  Timeout:".toList) ++
        ' ' :: Nat.toDigits 10 settings.timeoutSecs.toNat ++ " s\n".toList := by
    simp only [List.append_assoc]
  rw [hgroup, hgroup] at hlist
  obtain ⟨hserver, hdigits⟩ := Text.append_cons_inj_of_notMem (hblank _) (hblank _) (List.append_cancel_right hlist)
  have hsecs : first.timeoutSecs = second.timeoutSecs := by
    apply UInt64.toNat_inj.mp
    rw [← Nat.ofDigitChars_ten_toDigits (n := first.timeoutSecs.toNat), hdigits, Nat.ofDigitChars_ten_toDigits]
  obtain ⟨server, secs⟩ := first
  obtain rfl := String.toList_inj.mp (List.append_cancel_right hserver)
  obtain rfl := hsecs
  rfl

section

variable {environment : Environment} {files : FileSystem} {path : Path}

/-- The stored settings as they are shown where nothing else counts. -/
theorem view_eq (hpath : environment.settingsPath? = some path)
    (hserver : environment.setting? Settings.serverVariable = none)
    (htimeout : environment.setting? Settings.timeoutVariable = none) :
    (configure environment {} .view files).1 =
      (Settings.load files path).bind fun stored =>
        if stored.reread.server.isEmpty then .error .emptyServer else .ok (viewText path stored.reread) := by
  have hsettings : settingsPath environment = .ok path := by rw [settingsPath, hpath]
  rw [configure_eq hpath]
  dsimp only
  rw [effectiveSettings, storedSettings, hsettings]
  dsimp only
  cases Settings.load files path with
  | error fault => rfl
  | ok stored =>
    dsimp only
    rw [Settings.resolve, hserver, htimeout]
    by_cases hempty : (Settings.normalizeServer stored.server).isEmpty = true
    · simp [Settings.variableTimeout, Except.bind, Settings.reread, hempty, Except.map]
    · simp [Settings.variableTimeout, Except.bind, Settings.reread, hempty, Except.map]

/-- Settings are shown where they are loaded and, brought into normal form, still name a server. -/
theorem view_eq_ok_iff (hpath : environment.settingsPath? = some path)
    (hserver : environment.setting? Settings.serverVariable = none)
    (htimeout : environment.setting? Settings.timeoutVariable = none) {shown : Settings} :
    (configure environment {} .view files).1 = .ok (viewText path shown) ↔
      ∃ stored, Settings.load files path = .ok stored ∧ shown = stored.reread ∧ shown.server.isEmpty = false := by
  rw [view_eq hpath hserver htimeout]
  cases Settings.load files path with
  | error fault => simp [Except.bind]
  | ok stored =>
    simp only [Except.bind]
    constructor
    · intro hview
      split at hview
      · cases hview
      · rename_i hempty
        obtain rfl := viewText_inj (Except.ok.inj hview)
        exact ⟨stored, rfl, rfl, Bool.eq_false_iff.mpr hempty⟩
    · rintro ⟨found, hfound, rfl, hempty⟩
      obtain rfl := Except.ok.inj hfound
      rw [if_neg (Bool.eq_false_iff.mp hempty)]

end

end RobotAdmin.Program
