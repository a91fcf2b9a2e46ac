import RobotAdmin.Json.Reader.Value
import RobotAdmin.Proofs.Json.Number

namespace RobotAdmin.Json

theorem skipSpace_of_not_isSpace {b : UInt8} (hb : isSpace b = false) (input : List UInt8) :
    skipSpace (b :: input) = b :: input :=
  List.dropWhile_cons_of_neg (by simp [hb])

theorem skipSpace_encodeChars_line (layout : Layout) (depth : Nat) (input : List UInt8) :
    skipSpace (Utf8.encodeChars (layout.line depth) ++ input) = skipSpace input := by
  have hblanks (count : Nat) :
      skipSpace (Utf8.encodeChars (List.replicate count ' ') ++ input) = skipSpace input := by
    induction count with
    | zero => rfl
    | succ count ih =>
      rw [List.replicate_succ, Utf8.encodeChars_cons, List.append_assoc]
      exact (List.dropWhile_cons_of_pos (by decide)).trans ih
  cases layout with
  | compact => rfl
  | pretty =>
    rw [Layout.line, Utf8.encodeChars_cons, List.append_assoc]
    exact (List.dropWhile_cons_of_pos (by decide)).trans (hblanks (2 * depth))

section

variable {input behind rest : List UInt8}

/-- A step that looks at the first byte behind white space. -/
theorem match_skipSpace {α : Type} {b : UInt8} (hspace : skipSpace input = b :: behind)
    (atEnd : skipSpace input = [] → α) (atByte : ∀ c after, skipSpace input = c :: after → α) :
    (match hnext : skipSpace input with
      | [] => atEnd hnext
      | c :: after => atByte c after hnext) = atByte b behind hspace := by
  split
  · rename_i hnil
    rw [hspace] at hnil
    cases hnil
  · rename_i c after hcons
    rw [hspace] at hcons
    obtain ⟨rfl, rfl⟩ := List.cons.inj hcons
    rfl

theorem reads_readOpening_text {text : String} (hspace : skipSpace input = '"'.toUInt8 :: behind)
    (htext : Reads readText behind text rest) : Reads readOpening input (.scalar (.text text)) rest := by
  obtain ⟨shorter, htext⟩ := htext
  refine ⟨Nat.lt_trans shorter (length_lt_of_skipSpace hspace), ?_⟩
  refine (match_skipSpace hspace _ _).trans ?_
  rw [if_neg (by decide), if_neg (by decide), if_neg (by decide), if_neg (by decide), if_pos rfl, htext]
  rfl

theorem reads_readOpening_number {b : UInt8} {number : Number} (hspace : skipSpace input = b :: behind)
    (hb : b = '-'.toUInt8 ∨ isDigit b = true) (hnumber : Reads readNumber (b :: behind) number rest) :
    Reads readOpening input (.scalar (.number number)) rest := by
  obtain ⟨shorter, hnumber⟩ := hnumber
  have hne (c : Char) (hminus : c.toUInt8 ≠ '-'.toUInt8) (hc : isDigit c.toUInt8 = false) : b ≠ c.toUInt8 := by
    rintro rfl
    rcases hb with hb | hb
    · exact hminus hb
    · rw [hb] at hc
      cases hc
  refine ⟨Nat.lt_of_lt_of_le shorter (length_lt_of_skipSpace hspace), ?_⟩
  refine (match_skipSpace hspace _ _).trans ?_
  rw [if_neg (hne 'n' (by decide) (by decide)), if_neg (hne 't' (by decide) (by decide)),
    if_neg (hne 'f' (by decide) (by decide)), if_pos hb, hnumber]
  rfl

theorem reads_readOpening_object (hspace : skipSpace input = '\x7b'.toUInt8 :: rest) :
    Reads readOpening input .object rest := by
  refine ⟨length_lt_of_skipSpace hspace, ?_⟩
  refine (match_skipSpace hspace _ _).trans ?_
  rw [if_neg (by decide), if_neg (by decide), if_neg (by decide), if_neg (by decide), if_neg (by decide),
    if_neg (by decide), if_pos rfl]

theorem reads_readOpening_array (hspace : skipSpace input = '['.toUInt8 :: rest) :
    Reads readOpening input .array rest := by
  refine ⟨length_lt_of_skipSpace hspace, ?_⟩
  refine (match_skipSpace hspace _ _).trans ?_
  rw [if_neg (by decide), if_neg (by decide), if_neg (by decide), if_neg (by decide), if_neg (by decide),
    if_pos rfl]

theorem readKeyword_append (letters rest : List UInt8) :
    ∃ notLonger, readKeyword letters (letters ++ rest) = .ok ⟨rest, notLonger⟩ := by
  induction letters with
  | nil => exact ⟨Nat.le_refl _, rfl⟩
  | cons letter letters ih =>
    obtain ⟨notLonger, ih⟩ := ih
    refine ⟨Nat.le_succ_of_le notLonger, ?_⟩
    change readKeyword (letter :: letters) (letter :: (letters ++ rest)) = _
    rw [readKeyword, if_pos rfl, ih]
    rfl

/-- A keyword is read to its end once its first letter has shown which one it is. -/
theorem reads_readOpening_keyword {b : UInt8} {letters : List UInt8} {value : Json}
    (hkeyword : (b, letters, value) ∈
      [('n'.toUInt8, ull, Json.null), ('t'.toUInt8, rue, .bool true), ('f'.toUInt8, alse, .bool false)])
    (hspace : skipSpace input = b :: (letters ++ rest)) : Reads readOpening input (.scalar value) rest := by
  obtain ⟨notLonger, hread⟩ := readKeyword_append letters rest
  refine ⟨Nat.lt_of_le_of_lt notLonger (length_lt_of_skipSpace hspace), ?_⟩
  refine (match_skipSpace hspace _ _).trans ?_
  simp only [List.mem_cons, Prod.mk.injEq, List.not_mem_nil, or_false] at hkeyword
  obtain ⟨rfl, rfl, rfl⟩ | ⟨rfl, rfl, rfl⟩ | ⟨rfl, rfl, rfl⟩ := hkeyword
  · rw [if_pos rfl, keyword, hread]
    rfl
  · rw [if_neg (by decide), if_pos rfl, keyword, hread]
    rfl
  · rw [if_neg (by decide), if_neg (by decide), if_pos rfl, keyword, hread]
    rfl

theorem reads_closeArray (hspace : skipSpace input = ']'.toUInt8 :: rest) : Reads closeArray input () rest := by
  refine ⟨length_lt_of_skipSpace hspace, ?_⟩
  refine (match_skipSpace hspace _ _).trans ?_
  rw [if_pos rfl]

theorem nextItem_bracket (first : Bool) (hspace : skipSpace input = ']'.toUInt8 :: rest) :
    nextItem first input = .ok none := by
  rw [nextItem]
  refine (match_skipSpace hspace _ _).trans ?_
  rw [if_pos rfl]

theorem nextItem_first {b : UInt8} (hspace : skipSpace input = b :: behind) (hb : b ≠ ']'.toUInt8) :
    ∃ notLonger, nextItem true input = .ok (some ⟨b :: behind, notLonger⟩) := by
  refine ⟨length_lt_of_skipSpace hspace, ?_⟩
  rw [nextItem]
  refine (match_skipSpace hspace _ _).trans ?_
  rw [if_neg hb, if_pos rfl]

theorem nextItem_comma {b : UInt8} {next : List UInt8} (hspace : skipSpace input = ','.toUInt8 :: next)
    (hnext : skipSpace next = b :: behind) (hb : b ≠ ']'.toUInt8) :
    ∃ notLonger, nextItem false input = .ok (some ⟨b :: behind, notLonger⟩) := by
  refine ⟨Nat.le_trans (length_lt_of_skipSpace hnext) (Nat.le_of_lt (length_lt_of_skipSpace hspace)), ?_⟩
  rw [nextItem]
  refine (match_skipSpace hspace _ _).trans ?_
  rw [if_neg (by decide), if_neg Bool.false_ne_true, if_pos rfl]
  refine (match_skipSpace hnext _ _).trans ?_
  rw [if_neg hb]

theorem reads_readColon (hspace : skipSpace input = ':'.toUInt8 :: rest) : Reads readColon input () rest := by
  refine ⟨length_lt_of_skipSpace hspace, ?_⟩
  refine (match_skipSpace hspace _ _).trans ?_
  rw [if_pos rfl]

theorem reads_closeObject (hspace : skipSpace input = '\x7d'.toUInt8 :: rest) : Reads closeObject input () rest := by
  refine ⟨length_lt_of_skipSpace hspace, ?_⟩
  refine (match_skipSpace hspace _ _).trans ?_
  rw [if_pos rfl]

theorem reads_readMember_iff {α : Type} {read : Reader α} {value : α} :
    Reads (readMember read) input value rest ↔
      ∃ behind, Reads readColon input () behind ∧ Reads read behind value rest := by
  constructor
  · rintro ⟨_, hread⟩
    rw [readMember] at hread
    split at hread
    · cases hread
    · rename_i colon hcolon
      obtain ⟨taken, htaken, hsame⟩ := exists_of_map_eq_ok hread
      obtain ⟨rfl, rfl⟩ := Taken.mk.inj hsame
      exact ⟨colon.rest, ⟨colon.shorter, hcolon⟩, taken.shorter, htaken⟩
  · rintro ⟨behind, ⟨hbehind, hcolon⟩, shorter, hread⟩
    refine ⟨Nat.lt_trans shorter hbehind, ?_⟩
    rw [readMember, hcolon]
    dsimp only
    rw [hread]
    rfl

/-- A value behind a name and a colon. -/
theorem reads_readMember {α : Type} {read : Reader α} {value : α} (hspace : skipSpace input = ':'.toUInt8 :: behind)
    (hread : Reads read behind value rest) : Reads (readMember read) input value rest :=
  reads_readMember_iff.mpr ⟨behind, reads_readColon hspace, hread⟩

theorem nextName_first {name : String} (hspace : skipSpace input = '"'.toUInt8 :: behind)
    (hname : Reads readText behind name rest) :
    ∃ shorter, nextName true input = .ok (some ⟨name, rest, shorter⟩) := by
  obtain ⟨shorter, hname⟩ := hname
  refine ⟨Nat.lt_trans shorter (length_lt_of_skipSpace hspace), ?_⟩
  rw [nextName]
  refine (match_skipSpace hspace _ _).trans ?_
  rw [if_neg (by decide), if_pos rfl, if_pos rfl, hname]
  rfl

theorem nextName_comma {next : List UInt8} {name : String} (hspace : skipSpace input = ','.toUInt8 :: next)
    (hquote : skipSpace next = '"'.toUInt8 :: behind) (hname : Reads readText behind name rest) :
    ∃ shorter, nextName false input = .ok (some ⟨name, rest, shorter⟩) := by
  obtain ⟨shorter, hname⟩ := hname
  refine ⟨Nat.lt_trans shorter (Nat.lt_trans (length_lt_of_skipSpace hquote) (length_lt_of_skipSpace hspace)), ?_⟩
  rw [nextName]
  refine (match_skipSpace hspace _ _).trans ?_
  rw [if_neg (by decide), if_neg Bool.false_ne_true, if_pos rfl]
  refine (match_skipSpace hquote _ _).trans ?_
  rw [if_pos rfl, hname]
  rfl

theorem nextName_brace (first : Bool) (hspace : skipSpace input = '\x7d'.toUInt8 :: rest) :
    nextName first input = .ok none := by
  rw [nextName]
  refine (match_skipSpace hspace _ _).trans ?_
  rw [if_pos rfl]

end

/-- A written string, whatever follows it. -/
theorem encodeChars_textChars (text : String) (rest : List UInt8) :
    Utf8.encodeChars (textChars text) ++ rest =
      '"'.toUInt8 :: (Utf8.encodeChars (text.toList.flatMap escapeChar) ++ '"'.toUInt8 :: rest) := by
  have hquote : String.utf8EncodeChar '"' = ['"'.toUInt8] := by decide
  simp only [textChars, Utf8.encodeChars_append, Utf8.encodeChars_cons, Utf8.encodeChars_nil, hquote,
    List.append_assoc, List.cons_append, List.nil_append]

theorem skipSpace_textChars (text : String) (rest : List UInt8) :
    skipSpace (Utf8.encodeChars (textChars text) ++ rest) =
      '"'.toUInt8 :: (Utf8.encodeChars (text.toList.flatMap escapeChar) ++ '"'.toUInt8 :: rest) := by
  rw [encodeChars_textChars, skipSpace_of_not_isSpace (by decide)]

theorem exists_skipSpace_colon (layout : Layout) (rest : List UInt8) :
    ∃ behind, skipSpace (Utf8.encodeChars layout.colon ++ rest) = ':'.toUInt8 :: behind ∧
      skipSpace behind = skipSpace rest := by
  cases layout with
  | compact => exact ⟨rest, skipSpace_of_not_isSpace (by decide) rest, rfl⟩
  | pretty =>
    refine ⟨' '.toUInt8 :: rest, skipSpace_of_not_isSpace (by decide) _, ?_⟩
    exact List.dropWhile_cons_of_pos (by decide)

theorem nextName_line (layout : Layout) (depth : Nat) (name : String) (rest : List UInt8) :
    ∃ shorter, nextName true (Utf8.encodeChars (layout.line depth) ++ (Utf8.encodeChars (textChars name) ++ rest)) =
      .ok (some ⟨name, rest, shorter⟩) :=
  nextName_first ((skipSpace_encodeChars_line ..).trans (skipSpace_textChars ..)) (reads_readText name rest)

theorem nextName_comma_line (layout : Layout) (depth : Nat) (name : String) (rest : List UInt8) :
    ∃ shorter, nextName false (','.toUInt8 ::
      (Utf8.encodeChars (layout.line depth) ++ (Utf8.encodeChars (textChars name) ++ rest))) =
        .ok (some ⟨name, rest, shorter⟩) :=
  nextName_comma (skipSpace_of_not_isSpace (by decide) _)
    ((skipSpace_encodeChars_line ..).trans (skipSpace_textChars ..)) (reads_readText name rest)

section

variable {σ : Type} {step : σ → String → Reader σ} {whole input rest behind : List UInt8} {state next : σ}
  {name : String}

/-- Members are read one after the other, each from where the one before has ended. -/
theorem foldMembers_next {first : Bool} (hname : ∃ shorter, nextName first input = .ok (some ⟨name, behind, shorter⟩))
    (hmember : Reads (step state name) behind next rest) (hinput : input.length ≤ whole.length) :
    ∃ hrest, foldMembers step whole state first input hinput = foldMembers step whole next false rest hrest := by
  obtain ⟨hbehind, hname⟩ := hname
  obtain ⟨hrest, hmember⟩ := hmember
  refine ⟨by omega, ?_⟩
  rw [foldMembers, hname]
  dsimp only
  rw [hmember]

theorem foldMembers_end {first : Bool} (hspace : skipSpace input = '\x7d'.toUInt8 :: rest)
    (hinput : input.length ≤ whole.length) :
    foldMembers step whole state first input hinput = .ok (state, ⟨input, hinput⟩) := by
  rw [foldMembers, nextName_brace first hspace]

end

end RobotAdmin.Json
