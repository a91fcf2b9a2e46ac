import RobotAdmin.Proofs.Json.Opening
import RobotAdmin.Settings.Decode

namespace RobotAdmin.Settings

open Json

/-- The value of the first setting, as it is written behind its name. -/
theorem reads_takeMember_server {draft : Draft} (hdraft : draft.server = none) (layout : Layout) (server : String)
    (rest : List UInt8) :
    Reads (takeMember draft "server")
      (Utf8.encodeChars layout.colon ++ (Utf8.encodeChars (textChars server) ++ rest))
      { draft with server := some server } rest := by
  obtain ⟨behind, hcolon, hbehind⟩ := exists_skipSpace_colon layout (Utf8.encodeChars (textChars server) ++ rest)
  have hserver : Reads readServer behind server rest := by
    obtain ⟨shorter, hopening⟩ :=
      reads_readOpening_text (hbehind.trans (skipSpace_textChars server rest)) (reads_readText server rest)
    refine ⟨shorter, ?_⟩
    rw [readServer, readTextAs, hopening]
    rfl
  obtain ⟨shorter, hmember⟩ := reads_readMember hcolon hserver
  refine ⟨shorter, ?_⟩
  simp only [takeMember, ↓reduceIte, hdraft, Option.isSome_none, Bool.false_eq_true, hmember]
  rfl

theorem reads_readTimeout {input rest : List UInt8} {timeoutSecs : UInt64} (hrest : EndsInteger rest)
    (hspace : skipSpace input = skipSpace (Utf8.encodeChars (Nat.toDigits 10 timeoutSecs.toNat) ++ rest)) :
    Reads readTimeout input timeoutSecs rest := by
  have hword : timeoutSecs.toNat < wordBound := timeoutSecs.toNat_lt
  obtain ⟨b, behind, hbehind, hdigit, _⟩ := growCount_literal hword hrest
  have hnumber := reads_readNumber hword hrest
  rw [hbehind, skipSpace_of_not_isSpace (isSpace_of_isDigit hdigit)] at hspace
  rw [hbehind] at hnumber
  obtain ⟨shorter, hopening⟩ := reads_readOpening_number hspace (.inr hdigit) hnumber
  refine ⟨shorter, ?_⟩
  rw [readTimeout, readWordAs, hopening]
  dsimp only
  rw [if_neg (by omega)]
  simp [Taken.map]

theorem reads_takeMember_timeout {draft : Draft} (hdraft : draft.timeoutSecs = none) (layout : Layout)
    (timeoutSecs : UInt64) {rest : List UInt8} (hrest : EndsInteger rest) :
    Reads (takeMember draft "timeout_secs")
      (Utf8.encodeChars layout.colon ++ (Utf8.encodeChars (Nat.toDigits 10 timeoutSecs.toNat) ++ rest))
      { draft with timeoutSecs := some timeoutSecs } rest := by
  obtain ⟨behind, hcolon, hbehind⟩ :=
    exists_skipSpace_colon layout (Utf8.encodeChars (Nat.toDigits 10 timeoutSecs.toNat) ++ rest)
  obtain ⟨shorter, hmember⟩ := reads_readMember hcolon (reads_readTimeout hrest hbehind)
  have hname : ("timeout_secs" = "server") = False := by decide
  refine ⟨shorter, ?_⟩
  simp only [takeMember, hname, ↓reduceIte, hdraft, Option.isSome_none, Bool.false_eq_true, hmember]
  rfl

/-- The bytes of stored settings, part by part. -/
theorem encode_stored (settings : Settings) :
    Utf8.encode settings.stored =
      '\x7b'.toUInt8 :: (Utf8.encodeChars (Layout.pretty.line 1) ++ (Utf8.encodeChars (textChars "server") ++
        (Utf8.encodeChars Layout.pretty.colon ++ (Utf8.encodeChars (textChars settings.server) ++
          ','.toUInt8 :: (Utf8.encodeChars (Layout.pretty.line 1) ++ (Utf8.encodeChars (textChars "timeout_secs") ++
            (Utf8.encodeChars Layout.pretty.colon ++
              (Utf8.encodeChars (Nat.toDigits 10 settings.timeoutSecs.toNat) ++
                (Utf8.encodeChars (Layout.pretty.line 0) ++ ['\x7d'.toUInt8]))))))))) := by
  have hbrace : String.utf8EncodeChar '\x7b' = ['\x7b'.toUInt8] ∧ String.utf8EncodeChar '\x7d' = ['\x7d'.toUInt8] ∧
      String.utf8EncodeChar ',' = [','.toUInt8] := by decide
  rw [stored, Json.pretty, Utf8.encode, String.toList_ofList, toJson]
  simp only [write, writeMembers, Number.text, integerText_natCast, Utf8.encodeChars_append,
    Utf8.encodeChars_cons, Utf8.encodeChars_nil, List.append_assoc, List.cons_append, List.nil_append, hbrace]

theorem reads_read_stored (settings : Settings) : Reads read (Utf8.encode settings.stored) settings [] := by
  have hends : EndsInteger (Utf8.encodeChars (Layout.pretty.line 0) ++ ['\x7d'.toUInt8]) := by
    intro b hb
    obtain rfl := Option.some.inj hb
    decide
  have hbrace : skipSpace (Utf8.encodeChars (Layout.pretty.line 0) ++ ['\x7d'.toUInt8]) = ['\x7d'.toUInt8] := by
    decide
  have hfresh : ({} : Draft).server = none := rfl
  have hpending : (Draft.mk (some settings.server) none).timeoutSecs = none := rfl
  rw [encode_stored]
  obtain ⟨hbegin, hopening⟩ := reads_readOpening_object (skipSpace_of_not_isSpace (by decide) _)
  obtain ⟨hserver, hfirst⟩ := foldMembers_next (nextName_line ..)
    (reads_takeMember_server hfresh .pretty settings.server _) (Nat.le_refl _)
  obtain ⟨htimeout, hsecond⟩ := foldMembers_next (nextName_comma_line ..)
    (reads_takeMember_timeout hpending .pretty settings.timeoutSecs hends) hserver
  have hmembers := hfirst.trans (hsecond.trans (foldMembers_end hbrace htimeout))
  obtain ⟨hclosed, hclose⟩ := reads_closeObject hbrace
  refine ⟨by simp, ?_⟩
  rw [read, hopening]
  dsimp only
  rw [readObject, hmembers]
  dsimp only
  rw [hclose]
  rfl

/-- Stored settings are decoded as they were. -/
theorem decode_stored (settings : Settings) : decode (Utf8.encode settings.stored) = .ok settings := by
  obtain ⟨shorter, hread⟩ := reads_read_stored settings
  rw [decode, readAll, hread]
  rfl

end RobotAdmin.Settings
