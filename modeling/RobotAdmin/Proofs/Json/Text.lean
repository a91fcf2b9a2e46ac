import RobotAdmin.Json.Reader.Text
import RobotAdmin.Json.Writer
import RobotAdmin.Proofs.Text.Utf8

namespace RobotAdmin.Json

/-- A reading step takes the beginning of an input as a value and leaves the rest. -/
def Reads {α : Type} (read : Reader α) (input : List UInt8) (value : α) (rest : List UInt8) : Prop :=
  ∃ shorter, read input = .ok ⟨value, rest, shorter⟩

theorem exists_of_map_eq_ok {ε α β : Type} {f : α → β} {result : Except ε α} {value : β}
    (hmap : result.map f = .ok value) : ∃ before, result = .ok before ∧ f before = value := by
  cases result with
  | error failure => cases hmap
  | ok before => exact ⟨before, rfl, Except.ok.inj hmap⟩

/-- A step that makes something of a value as soon as another has read it. -/
theorem reads_map_iff {α β : Type} {step : Reader β} {read : Reader α} {f : α → β} {input rest : List UInt8}
    {result : β} (hstep : step input = (read input).map (·.map f)) :
    Reads step input result rest ↔ ∃ value, Reads read input value rest ∧ f value = result := by
  unfold Reads
  rw [hstep]
  constructor
  · rintro ⟨shorter, hread⟩
    obtain ⟨taken, htaken, hsame⟩ := exists_of_map_eq_ok hread
    obtain ⟨rfl, rfl⟩ := Taken.mk.inj hsame
    exact ⟨taken.value, ⟨taken.shorter, htaken⟩, rfl⟩
  · rintro ⟨value, ⟨shorter, hread⟩, rfl⟩
    exact ⟨shorter, by rw [hread]; rfl⟩

/-- A whole text is one value and white space after it. -/
theorem readAll_eq_ok_iff {α : Type} {read : Reader α} {input : List UInt8} {value : α} :
    readAll read input = .ok value ↔ ∃ rest, Reads read input value rest ∧ skipSpace rest = [] := by
  constructor
  · intro hread
    rw [readAll] at hread
    split at hread
    · cases hread
    · rename_i taken htaken
      split at hread
      · rename_i hrest
        obtain rfl := Except.ok.inj hread
        exact ⟨taken.rest, ⟨taken.shorter, htaken⟩, hrest⟩
      · cases hread
  · rintro ⟨rest, ⟨shorter, hread⟩, hrest⟩
    rw [readAll, hread]
    dsimp only
    rw [hrest]

theorem reads_readEscape_of_simple {b : UInt8} {c : Char} (hb : b ≠ 'u'.toUInt8)
    (hsimple : simpleEscape? b = some c) (rest : List UInt8) : Reads readEscape (b :: rest) c rest :=
  ⟨by simp, by rw [readEscape, if_neg hb, hsimple]; rfl⟩

/-- The digits with which a control character is written stand for its number. -/
theorem hexNumber?_control : ∀ n < 0x20,
    hexNumber? '0'.toUInt8 '0'.toUInt8 (hexDigit (n / 16)).toUInt8 (hexDigit (n % 16)).toUInt8 = some n := by
  decide

theorem reads_readEscape_of_control {c : Char} (hc : c.toNat < 0x20) (rest : List UInt8) :
    Reads readEscape ('u'.toUInt8 :: '0'.toUInt8 :: '0'.toUInt8 :: (hexDigit (c.toNat / 16)).toUInt8 ::
      (hexDigit (c.toNat % 16)).toUInt8 :: rest) c rest := by
  have hlow : isLowSurrogate c.toNat = false := by
    simp only [isLowSurrogate, Bool.and_eq_false_imp, decide_eq_true_eq, decide_eq_false_iff_not]
    omega
  have hhigh : isHighSurrogate c.toNat = false := by
    simp only [isHighSurrogate, Bool.and_eq_false_imp, decide_eq_true_eq, decide_eq_false_iff_not]
    omega
  refine ⟨by simp only [List.length_cons]; omega, ?_⟩
  rw [readEscape, if_pos rfl, readCodeUnits]
  simp only [readHex, hexNumber?_control c.toNat hc, hlow, hhigh]
  simp [Taken.map, Taken.past, Except.map]

theorem encodeChars_hexDigit : ∀ n < 16, Utf8.encodeChars [hexDigit n] = [(hexDigit n).toUInt8] := by
  decide

/-- A character is written as it is or as an escape that is read back. -/
theorem escapeChar_eq_or (c : Char) :
    (∃ escape, escapeChar c = '\\' :: escape ∧
      ∀ rest, Reads readEscape (Utf8.encodeChars escape ++ rest) c rest) ∨
    (escapeChar c = [c] ∧ c ≠ '"' ∧ c ≠ '\\' ∧ 0x20 ≤ c.toNat) := by
  have hsimple (letter : Char) (hletter : Utf8.encodeChars [letter] = [letter.toUInt8])
      (hu : letter.toUInt8 ≠ 'u'.toUInt8) (hread : simpleEscape? letter.toUInt8 = some c) :
      ∃ escape, ['\\', letter] = '\\' :: escape ∧
        ∀ rest, Reads readEscape (Utf8.encodeChars escape ++ rest) c rest := by
    refine ⟨[letter], rfl, fun rest => ?_⟩
    rw [hletter]
    exact reads_readEscape_of_simple hu hread rest
  unfold escapeChar
  split
  · subst c
    exact .inl (hsimple '"' rfl (by decide) rfl)
  split
  · subst c
    exact .inl (hsimple '\\' rfl (by decide) rfl)
  split
  · subst c
    exact .inl (hsimple 'b' rfl (by decide) rfl)
  split
  · subst c
    exact .inl (hsimple 'f' rfl (by decide) rfl)
  split
  · subst c
    exact .inl (hsimple 'n' rfl (by decide) rfl)
  split
  · subst c
    exact .inl (hsimple 'r' rfl (by decide) rfl)
  split
  · subst c
    exact .inl (hsimple 't' rfl (by decide) rfl)
  split
  · rename_i hc
    refine .inl ⟨_, rfl, fun rest => ?_⟩
    rw [Utf8.encodeChars_cons, Utf8.encodeChars_cons, Utf8.encodeChars_cons]
    rw [show [hexDigit (c.toNat / 16), hexDigit (c.toNat % 16)] =
      [hexDigit (c.toNat / 16)] ++ [hexDigit (c.toNat % 16)] from rfl, Utf8.encodeChars_append,
      encodeChars_hexDigit _ (by omega), encodeChars_hexDigit _ (by omega)]
    exact reads_readEscape_of_control hc rest
  · rename_i hquote hbackslash _ _ _ _ _ hc
    exact .inr ⟨rfl, hquote, hbackslash, by omega⟩

/-- The first byte of a character that is written as it is has no meaning of its own in a string. -/
theorem byte_of_plain {c : Char} {b : UInt8} {bytes : List UInt8} (hbytes : String.utf8EncodeChar c = b :: bytes)
    (hquote : c ≠ '"') (hbackslash : c ≠ '\\') (hc : 0x20 ≤ c.toNat) :
    b ≠ '"'.toUInt8 ∧ b ≠ '\\'.toUInt8 ∧ ¬ b < 0x20 := by
  have hfirst := Utf8.toNat_first hbytes
  have hne (d : Char) (hd : d.toUInt8.toNat = d.toNat) (hsmall : d.toNat < 0x80) (hcd : c ≠ d) : b ≠ d.toUInt8 := by
    intro hb
    rw [hb, hd] at hfirst
    have hnat : c.toNat = d.toNat := by omega
    exact hcd (Char.toNat_inj.mp hnat)
  refine ⟨hne '"' (by decide) (by decide) hquote, hne '\\' (by decide) (by decide) hbackslash, ?_⟩
  simp only [UInt8.lt_iff_toNat_lt, UInt8.reduceToNat]
  omega

section

variable {whole : List UInt8} (before : List Char)

theorem readTextFrom_quote {rest : List UInt8} (hinput : ('"'.toUInt8 :: rest).length ≤ whole.length) :
    ∃ shorter, readTextFrom whole before none ('"'.toUInt8 :: rest) hinput =
      .ok ⟨String.ofList before.reverse, rest, shorter⟩ :=
  ⟨hinput, by rw [readTextFrom, if_pos rfl]⟩

theorem readTextFrom_escape {c : Char} {input rest : List UInt8} (hescape : Reads readEscape input c rest)
    (hinput : ('\\'.toUInt8 :: input).length ≤ whole.length) :
    ∃ hrest, readTextFrom whole before none ('\\'.toUInt8 :: input) hinput =
      readTextFrom whole (c :: before) none rest hrest := by
  obtain ⟨shorter, hescape⟩ := hescape
  have hrest : rest.length ≤ whole.length := by
    simp only [List.length_cons] at hinput
    omega
  refine ⟨hrest, ?_⟩
  rw [readTextFrom, if_neg (by decide), if_pos rfl]
  simp only [hescape, Option.map_none]

theorem readTextFrom_plain {c : Char} (hquote : c ≠ '"') (hbackslash : c ≠ '\\') (hc : 0x20 ≤ c.toNat)
    {rest : List UInt8} (hinput : (String.utf8EncodeChar c ++ rest).length ≤ whole.length) :
    ∃ hrest, readTextFrom whole before none (String.utf8EncodeChar c ++ rest) hinput =
      readTextFrom whole (c :: before) none rest hrest := by
  have hrest : rest.length ≤ whole.length := by
    rw [List.length_append] at hinput
    omega
  refine ⟨hrest, ?_⟩
  obtain ⟨b, bytes, hbytes⟩ := Utf8.exists_cons_utf8EncodeChar c
  obtain ⟨hbQuote, hbBackslash, hbControl⟩ := byte_of_plain hbytes hquote hbackslash hc
  have hlead := Utf8.lead_of_utf8EncodeChar hbytes rest
  simp only [hbytes, List.cons_append]
  rw [readTextFrom, if_neg hbQuote, if_neg hbBackslash, if_neg hbControl]
  split
  · rename_i found behind hfound
    rw [hlead] at hfound
    obtain ⟨rfl, rfl⟩ := Utf8.Lead.char.inj hfound
    rfl
  · rename_i behind hfound
    rw [hlead] at hfound
    cases hfound

/-- The rest of a written string is read as its characters. -/
theorem readTextFrom_flatMap_escapeChar (text : List Char) (rest : List UInt8)
    (hinput : (Utf8.encodeChars (text.flatMap escapeChar) ++ '"'.toUInt8 :: rest).length ≤ whole.length) :
    ∃ shorter, readTextFrom whole before none
      (Utf8.encodeChars (text.flatMap escapeChar) ++ '"'.toUInt8 :: rest) hinput =
        .ok ⟨String.ofList (before.reverse ++ text), rest, shorter⟩ := by
  induction text generalizing before with
  | nil =>
    obtain ⟨shorter, hquote⟩ := readTextFrom_quote before hinput
    exact ⟨shorter, by rw [List.append_nil]; exact hquote⟩
  | cons c text ih =>
    have hall : before.reverse ++ c :: text = (c :: before).reverse ++ text := by simp
    rw [hall]
    simp only [List.flatMap_cons, Utf8.encodeChars_append, List.append_assoc] at hinput ⊢
    obtain ⟨escape, hescape, hread⟩ | ⟨hplain, hquote, hbackslash, hc⟩ := escapeChar_eq_or c
    · simp only [hescape] at hinput ⊢
      obtain ⟨hrest, hstep⟩ := readTextFrom_escape before
        (hread (Utf8.encodeChars (text.flatMap escapeChar) ++ '"'.toUInt8 :: rest)) hinput
      obtain ⟨shorter, htext⟩ := ih (c :: before) hrest
      exact ⟨shorter, hstep.trans htext⟩
    · simp only [hplain, Utf8.encodeChars_cons, Utf8.encodeChars_nil, List.append_nil] at hinput ⊢
      obtain ⟨hrest, hstep⟩ := readTextFrom_plain before hquote hbackslash hc hinput
      obtain ⟨shorter, htext⟩ := ih (c :: before) hrest
      exact ⟨shorter, hstep.trans htext⟩

end

/-- A written string is read back behind its opening quote. -/
theorem reads_readText (text : String) (rest : List UInt8) :
    Reads readText (Utf8.encodeChars (text.toList.flatMap escapeChar) ++ '"'.toUInt8 :: rest) text rest := by
  obtain ⟨shorter, htext⟩ := readTextFrom_flatMap_escapeChar [] text.toList rest (Nat.le_refl _)
  exact ⟨shorter, by rw [readText, htext, List.reverse_nil, List.nil_append, String.ofList_toList]⟩

end RobotAdmin.Json
