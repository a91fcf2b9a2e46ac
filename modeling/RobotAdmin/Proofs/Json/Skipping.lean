import RobotAdmin.Proofs.Json.Magnitude
import RobotAdmin.Proofs.Json.Tokens

namespace RobotAdmin.Json

open Grammar

section

variable {input rest : List UInt8}

theorem reads_skipEscape_iff :
    Reads skipEscape input () rest ↔
      (∃ b c, input = b :: rest ∧ simpleEscape? b = some c) ∨
        ∃ a b c d n, input = 'u'.toUInt8 :: a :: b :: c :: d :: rest ∧ hexNumber? a b c d = some n := by
  constructor
  · rintro ⟨_, hread⟩
    unfold skipEscape at hread
    split at hread
    · cases hread
    split at hread
    · rename_i hletter
      obtain ⟨taken, htaken, hsame⟩ := exists_of_map_eq_ok hread
      obtain ⟨_, rfl⟩ := Taken.mk.inj hsame
      obtain ⟨a, b, c, d, hinput, hhex⟩ := reads_readHex_iff.mp ⟨taken.shorter, htaken⟩
      exact .inr ⟨a, b, c, d, taken.value, by rw [hletter]; exact congrArg _ hinput, hhex⟩
    split at hread
    · rename_i hsimple
      obtain ⟨_, rfl⟩ := Taken.mk.inj (Except.ok.inj hread)
      obtain ⟨c, hc⟩ := Option.isSome_iff_exists.mp hsimple
      exact .inl ⟨_, c, rfl, hc⟩
    · cases hread
  · rintro (⟨b, c, rfl, hc⟩ | ⟨a, b, c, d, n, rfl, hhex⟩)
    · have hb : b ≠ 'u'.toUInt8 := by
        rintro rfl
        cases hc
      exact ⟨Nat.lt_succ_self _, by rw [skipEscape, if_neg hb, hc]; rfl⟩
    · obtain ⟨shorter, hread⟩ := reads_readHex_iff.mpr ⟨a, b, c, d, rfl, hhex⟩
      exact ⟨Nat.lt_succ_of_lt shorter, by rw [skipEscape, if_pos rfl, hread]; rfl⟩

theorem looseText_of_skipTextFrom {whole : List UInt8} {hinput : input.length ≤ whole.length} {taken : Taken Unit whole}
    (hread : skipTextFrom whole input hinput = .ok taken) : LooseText input taken.rest := by
  fun_induction skipTextFrom whole input hinput with
  | case1 => cases hread
  | case2 rest =>
    obtain rfl := Except.ok.inj hread
    exact .close
  | case3 => cases hread
  | case4 rest escape hescape _ _ _ ih =>
    obtain ⟨b, c, hrest, hletter⟩ | ⟨a, b, c, d, n, hrest, hhex⟩ := reads_skipEscape_iff.mp ⟨escape.shorter, hescape⟩
    · rw [hrest]
      exact .letter hletter (ih hread)
    · rw [hrest]
      exact .unit hhex (ih hread)
  | case5 => cases hread
  | case6 b rest _ hquote hbackslash hcontrol _ ih => exact .plain hquote hbackslash hcontrol (ih hread)

theorem skipTextFrom_escape {whole behind : List UInt8} (hescape : Reads skipEscape behind () rest)
    (hinput : ('\\'.toUInt8 :: behind).length ≤ whole.length) :
    ∃ hrest, skipTextFrom whole ('\\'.toUInt8 :: behind) hinput = skipTextFrom whole rest hrest := by
  obtain ⟨shorter, hescape⟩ := hescape
  refine ⟨Nat.le_trans (Nat.le_of_lt (Nat.lt_succ_of_lt shorter)) hinput, ?_⟩
  rw [skipTextFrom, if_neg (by decide), if_pos rfl]
  simp only [hescape]

theorem skipTextFrom_of_looseText {whole : List UInt8} (htext : LooseText input rest) :
    ∀ hinput : input.length ≤ whole.length, ∃ shorter, skipTextFrom whole input hinput = .ok ⟨(), rest, shorter⟩ := by
  induction htext with
  | close =>
    intro hinput
    exact ⟨hinput, by rw [skipTextFrom, if_pos rfl]⟩
  | letter hletter _ ih =>
    intro hinput
    obtain ⟨hbehind, hstep⟩ := skipTextFrom_escape (reads_skipEscape_iff.mpr (.inl ⟨_, _, rfl, hletter⟩)) hinput
    rw [hstep]
    exact ih hbehind
  | unit hhex _ ih =>
    intro hinput
    obtain ⟨hbehind, hstep⟩ := skipTextFrom_escape (reads_skipEscape_iff.mpr (.inr ⟨_, _, _, _, _, rfl, hhex⟩)) hinput
    rw [hstep]
    exact ih hbehind
  | plain hquote hbackslash hcontrol _ ih =>
    intro hinput
    rw [skipTextFrom, if_neg hquote, if_neg hbackslash, if_neg hcontrol]
    exact ih (Nat.le_of_succ_le hinput)

theorem reads_skipText_iff : Reads skipText input () rest ↔ LooseText input rest := by
  constructor
  · rintro ⟨_, hread⟩
    exact looseText_of_skipTextFrom hread
  · intro htext
    exact skipTextFrom_of_looseText htext (Nat.le_refl _)

theorem keywords_eq : keywords = ['n'.toUInt8 :: ull, 't'.toUInt8 :: rue, 'f'.toUInt8 :: alse] := by
  decide

theorem keyword_of_readOpening {b : UInt8} {behind : List UInt8} {opening : Opening} (hspace : isSpace b = false)
    (hminus : b ≠ '-'.toUInt8) (hdigit : ¬ isDigit b = true) (hquote : b ≠ '"'.toUInt8) (hsquare : b ≠ '['.toUInt8)
    (hcurly : b ≠ '\x7b'.toUInt8) (hread : Reads readOpening (b :: behind) opening rest) :
    ∃ word ∈ keywords, b :: behind = word ++ rest := by
  have hstart {letters : List UInt8} (hletters : letters ∈ keywords) (hfirst : skipSpace (b :: behind) = letters ++ rest) :
      ∃ word ∈ keywords, b :: behind = word ++ rest :=
    ⟨letters, hletters, (skipSpace_of_not_isSpace hspace behind).symm.trans hfirst⟩
  have hfirst {c : UInt8} {after : List UInt8} (hfound : skipSpace (b :: behind) = c :: after) : b = c :=
    (List.cons.inj ((skipSpace_of_not_isSpace hspace behind).symm.trans hfound)).1
  cases opens_of_readOpening hread with
  | null hfound => exact hstart (by decide) hfound
  | true hfound => exact hstart (by decide) hfound
  | false hfound => exact hstart (by decide) hfound
  | number hfound hb => exact absurd (hfirst hfound ▸ hb) (not_or.mpr ⟨hminus, hdigit⟩)
  | text hfound => exact absurd (hfirst hfound) hquote
  | array hfound => exact absurd (hfirst hfound) hsquare
  | object hfound => exact absurd (hfirst hfound) hcurly

theorem value_of_word {word : List UInt8} (hword : word ∈ keywords ∨ Grammar.Number word) (hstart : input = word ++ rest) :
    Value input rest := by
  rw [hstart]
  exact .word hword

/-- An opening that is skipped is a value without parts or the bracket that opens one with parts. -/
theorem skipOpening_cases {bracket? : Option Bracket} (hread : Reads skipOpening input bracket? rest) :
    (bracket? = none ∧ ∃ start, Space input start ∧ Value start rest) ∨
      ∃ bracket, bracket? = some bracket ∧ Space input (bracket.opening :: rest) := by
  obtain ⟨_, hread⟩ := hread
  unfold skipOpening at hread
  split at hread
  · cases hread
  rename_i b behind hstart
  have hspace := space_of_skipSpace hstart
  dsimp only at hread
  split at hread
  · rename_i hb
    obtain ⟨rfl, rfl⟩ := Taken.mk.inj (Except.ok.inj hread)
    rw [hb] at hspace
    exact .inr ⟨.square, rfl, hspace⟩
  rename_i hsquare
  split at hread
  · rename_i hb
    obtain ⟨rfl, rfl⟩ := Taken.mk.inj (Except.ok.inj hread)
    rw [hb] at hspace
    exact .inr ⟨.curly, rfl, hspace⟩
  rename_i hcurly
  split at hread
  · rename_i hb
    obtain ⟨taken, htaken, hsame⟩ := exists_of_map_eq_ok hread
    obtain ⟨rfl, rfl⟩ := Taken.mk.inj hsame
    exact .inl ⟨rfl, _, hspace, hb ▸ .text (reads_skipText_iff.mp ⟨taken.shorter, htaken⟩)⟩
  rename_i hquote
  split at hread
  · rename_i hb
    obtain ⟨taken, htaken, hsame⟩ := exists_of_map_eq_ok hread
    obtain ⟨rfl, rfl⟩ := Taken.mk.inj hsame
    obtain ⟨word, hword, hbehind⟩ := magnitude_of_skipLiteral ⟨taken.shorter, htaken⟩
    have hstart : b :: behind = '-'.toUInt8 :: word ++ taken.rest := congrArg₂ List.cons hb hbehind
    exact .inl ⟨rfl, _, hspace, value_of_word (.inr (.inr ⟨word, rfl, hword⟩)) hstart⟩
  rename_i hminus
  split at hread
  · obtain ⟨taken, htaken, hsame⟩ := exists_of_map_eq_ok hread
    obtain ⟨rfl, rfl⟩ := Taken.mk.inj hsame
    obtain ⟨word, hword, hbehind⟩ := magnitude_of_skipLiteral ⟨taken.shorter, htaken⟩
    exact .inl ⟨rfl, _, hspace, value_of_word (.inr (.inl hword)) hbehind⟩
  · rename_i hdigit
    obtain ⟨taken, htaken, hsame⟩ := exists_of_map_eq_ok hread
    obtain ⟨rfl, rfl⟩ := Taken.mk.inj hsame
    obtain ⟨word, hword, hbehind⟩ := keyword_of_readOpening (isSpace_of_skipSpace hstart) hminus hdigit hquote hsquare
      hcurly ⟨taken.shorter, htaken⟩
    exact .inl ⟨rfl, _, hspace, value_of_word (.inl hword) hbehind⟩

theorem label_of_skipToValue {bracket : Bracket} {behind : Rest input} (hskip : skipToValue bracket input = .ok behind) :
    Label bracket input behind.val := by
  unfold skipToValue at hskip
  split at hskip
  · obtain rfl := Except.ok.inj hskip
    exact rfl
  · split at hskip
    · cases hskip
    rename_i b start hstart
    split at hskip
    · rename_i hb
      split at hskip
      · cases hskip
      rename_i name hname
      obtain ⟨colon, hcolon, rfl⟩ := exists_of_map_eq_ok hskip
      exact ⟨start, name.rest, hb ▸ space_of_skipSpace hstart, reads_skipText_iff.mp ⟨name.shorter, hname⟩,
        reads_readColon_iff.mp ⟨colon.shorter, hcolon⟩⟩
    · cases hskip

end

/-- What closes brackets, innermost first: the parts that are still to come in each of them. -/
def Closes : List Bracket → List UInt8 → List UInt8 → Prop
  | [], input, rest => input = rest
  | bracket :: outer, input, rest => ∃ behind, Parts bracket false input behind ∧ Closes outer behind rest

theorem label_trans {bracket : Bracket} {input middle inner value : List UInt8} (hspace : Space input middle)
    (hlabel : Label bracket middle inner) (hinner : Space inner value) :
    ∃ outer, Label bracket input outer ∧ Space outer value := by
  cases bracket with
  | square =>
    obtain rfl : middle = inner := hlabel
    exact ⟨input, rfl, hspace.trans hinner⟩
  | curly =>
    obtain ⟨name, behind, hquote, htext, hcolon⟩ := hlabel
    exact ⟨inner, ⟨name, behind, hspace.trans hquote, htext, hcolon⟩, hinner⟩

mutual

/-- What is skipped is a value and what closes the brackets that it stands in. -/
theorem value_of_skipValueIn {whole input : List UInt8} {brackets : List Bracket} {hinput : input.length ≤ whole.length}
    {taken : Taken Unit whole} (hread : skipValueIn whole brackets input hinput = .ok taken) :
    ∃ start behind, Space input start ∧ Value start behind ∧ Closes brackets behind taken.rest := by
  rw [skipValueIn] at hread
  split at hread
  · cases hread
  rename_i opening hopening
  obtain ⟨hnone, start, hspace, hvalue⟩ | ⟨bracket, hsome, hspace⟩ := skipOpening_cases ⟨opening.shorter, hopening⟩
  · rw [hnone] at hread
    have hshorter := opening.shorter
    exact ⟨start, _, hspace, hvalue, closes_of_skipBehindValue hread⟩
  · rw [hsome] at hread
    dsimp only at hread
    split at hread
    · cases hread
    rename_i b rest hstart
    have hinner := space_of_skipSpace hstart
    have hinnerShorter := length_lt_of_skipSpace hstart
    split at hread
    · rename_i hb
      rw [hb] at hinner
      have hshorter := Nat.lt_trans hinnerShorter opening.shorter
      exact ⟨_, rest, hspace, .parts (.close hinner), closes_of_skipBehindValue hread⟩
    · split at hread
      · cases hread
      rename_i value hskip
      have hshorter := Nat.lt_of_le_of_lt value.property (Nat.lt_of_le_of_lt hinnerShorter opening.shorter)
      obtain ⟨start, behind, hvalueSpace, hvalue, last, hparts, hcloses⟩ := value_of_skipValueIn hread
      obtain ⟨outer, hlabel, houter⟩ := label_trans hinner (label_of_skipToValue hskip) hvalueSpace
      exact ⟨_, last, hspace, .parts (.next rfl hlabel houter hvalue hparts), hcloses⟩
termination_by input.length
decreasing_by all_goals exact hshorter

theorem closes_of_skipBehindValue {whole input : List UInt8} {brackets : List Bracket}
    {hinput : input.length < whole.length} {taken : Taken Unit whole}
    (hread : skipBehindValue whole brackets input hinput = .ok taken) : Closes brackets input taken.rest := by
  cases brackets with
  | nil =>
    rw [skipBehindValue] at hread
    obtain rfl := Except.ok.inj hread
    rfl
  | cons bracket outer =>
    rw [skipBehindValue] at hread
    split at hread
    · cases hread
    rename_i b rest hstart
    have hspace := space_of_skipSpace hstart
    have hrest := length_lt_of_skipSpace hstart
    dsimp only at hread
    split at hread
    · rename_i hb
      split at hread
      · cases hread
      rename_i value hskip
      have hshorter := Nat.lt_of_le_of_lt value.property hrest
      obtain ⟨start, behind, hstart, hvalue, last, hparts, hcloses⟩ := value_of_skipValueIn hread
      rw [hb] at hspace
      exact ⟨last, .next hspace (label_of_skipToValue hskip) hstart hvalue hparts, hcloses⟩
    split at hread
    · rename_i hb
      rw [hb] at hspace
      have hshorter := hrest
      exact ⟨rest, .close hspace, closes_of_skipBehindValue hread⟩
    · cases hread
termination_by input.length
decreasing_by all_goals exact hshorter

end

section

variable {input rest : List UInt8}

theorem reads_skipOpening_bracket {bracket : Bracket} (hspace : skipSpace input = bracket.opening :: rest) :
    Reads skipOpening input (some bracket) rest := by
  refine ⟨length_lt_of_skipSpace hspace, ?_⟩
  refine (match_skipSpace hspace _ _).trans ?_
  cases bracket with
  | square => rw [if_pos (by decide)]
  | curly => rw [if_neg (by decide), if_pos (by decide)]

theorem reads_skipOpening_text {behind : List UInt8} (hspace : skipSpace input = '"'.toUInt8 :: behind)
    (htext : LooseText behind rest) : Reads skipOpening input none rest := by
  obtain ⟨shorter, hread⟩ := reads_skipText_iff.mpr htext
  refine ⟨Nat.lt_trans shorter (length_lt_of_skipSpace hspace), ?_⟩
  refine (match_skipSpace hspace _ _).trans ?_
  rw [if_neg (by decide), if_neg (by decide), if_pos rfl, hread]
  rfl

theorem reads_skipOpening_negative {behind : List UInt8} (hspace : skipSpace input = '-'.toUInt8 :: behind)
    (hread : Reads skipLiteral behind () rest) : Reads skipOpening input none rest := by
  obtain ⟨shorter, hread⟩ := hread
  refine ⟨Nat.lt_trans shorter (length_lt_of_skipSpace hspace), ?_⟩
  refine (match_skipSpace hspace _ _).trans ?_
  rw [if_neg (by decide), if_neg (by decide), if_neg (by decide), if_pos rfl, hread]
  rfl

theorem ne_of_isDigit {b : UInt8} (hb : isDigit b = true) {c : UInt8} (hc : isDigit c = false) : b ≠ c := by
  rintro rfl
  rw [hb] at hc
  cases hc

theorem reads_skipOpening_magnitude {b : UInt8} {behind : List UInt8} (hspace : skipSpace input = b :: behind)
    (hb : isDigit b = true) (hread : Reads skipLiteral (b :: behind) () rest) : Reads skipOpening input none rest := by
  obtain ⟨shorter, hread⟩ := hread
  refine ⟨Nat.lt_of_lt_of_le shorter (length_lt_of_skipSpace hspace), ?_⟩
  refine (match_skipSpace hspace _ _).trans ?_
  rw [if_neg (ne_of_isDigit hb (by decide)), if_neg (ne_of_isDigit hb (by decide)),
    if_neg (ne_of_isDigit hb (by decide)), if_neg (ne_of_isDigit hb (by decide)), if_pos hb, hread]
  rfl

theorem reads_skipOpening_keyword {word : List UInt8} (hword : word ∈ keywords) (hspace : skipSpace input = word ++ rest) :
    Reads skipOpening input none rest := by
  have hread {b : UInt8} {letters : List UInt8} {value : Json} (hkeyword : (b, letters, value) ∈
      [('n'.toUInt8, ull, Json.null), ('t'.toUInt8, rue, .bool true), ('f'.toUInt8, alse, .bool false)])
      (hb : b ∈ ['n'.toUInt8, 't'.toUInt8, 'f'.toUInt8]) (hspace : skipSpace input = b :: (letters ++ rest)) :
      Reads skipOpening input none rest := by
    obtain ⟨shorter, hread⟩ := reads_readOpening_keyword hkeyword (skipSpace_of_not_isSpace (isSpace_of_skipSpace hspace) _)
    refine ⟨Nat.lt_of_lt_of_le shorter (length_lt_of_skipSpace hspace), ?_⟩
    refine (match_skipSpace hspace _ _).trans ?_
    rw [hread]
    simp only [List.mem_cons, List.not_mem_nil, or_false] at hb
    obtain rfl | rfl | rfl := hb <;> rfl
  rw [keywords_eq] at hword
  simp only [List.mem_cons, List.not_mem_nil, or_false] at hword
  obtain rfl | rfl | rfl := hword
  · exact @hread _ _ .null (by simp) (by decide) hspace
  · exact @hread _ _ (.bool true) (by simp) (by decide) hspace
  · exact @hread _ _ (.bool false) (by simp) (by decide) hspace

theorem reads_skipOpening_word {word : List UInt8} (hword : word ∈ keywords ∨ Grammar.Number word) (hrest : EndsInteger rest)
    (hspace : skipSpace input = word ++ rest) : Reads skipOpening input none rest := by
  rcases hword with hkeyword | hmagnitude | ⟨word, rfl, hmagnitude⟩
  · exact reads_skipOpening_keyword hkeyword hspace
  · have hread := reads_skipLiteral_of_magnitude hmagnitude hrest
    rw [← hspace] at hread
    obtain ⟨b, more, hstart, hb, _⟩ := first_of_skipLiteral hread
    rw [hstart] at hread
    exact reads_skipOpening_magnitude hstart hb hread
  · exact reads_skipOpening_negative hspace (reads_skipLiteral_of_magnitude hmagnitude hrest)

/-- No value begins with white space or a closing bracket. -/
theorem first_of_value (hvalue : Value input rest) :
    ∃ b behind, input = b :: behind ∧ isSpace b = false ∧ b ≠ ']'.toUInt8 := by
  cases hvalue with
  | @word word _ hword =>
    rcases hword with hkeyword | hmagnitude | ⟨word, rfl, _⟩
    · rw [keywords_eq] at hkeyword
      simp only [List.mem_cons, List.not_mem_nil, or_false] at hkeyword
      obtain rfl | rfl | rfl := hkeyword
      · exact ⟨_, _, rfl, by decide, by decide⟩
      · exact ⟨_, _, rfl, by decide, by decide⟩
      · exact ⟨_, _, rfl, by decide, by decide⟩
    · obtain ⟨whole, fraction, exponent, rfl, ⟨hne, hdigits⟩, _⟩ := hmagnitude
      cases whole with
      | nil => exact absurd rfl hne
      | cons b whole =>
        have hb := hdigits b List.mem_cons_self
        exact ⟨b, _, rfl, isSpace_of_isDigit hb, ne_of_isDigit hb (by decide)⟩
    · exact ⟨_, _, rfl, by decide, by decide⟩
  | text _ => exact ⟨_, _, rfl, by decide, by decide⟩
  | @parts bracket _ _ _ => cases bracket <;> exact ⟨_, _, rfl, by decide, by decide⟩

theorem skipSpace_of_space_value {start : List UInt8} (hspace : Space input start) (hvalue : Value start rest) :
    skipSpace input = start := by
  obtain ⟨b, behind, rfl, hb, _⟩ := first_of_value hvalue
  exact (space_cons_iff hb).mp hspace

theorem endsInteger_of_space {b : UInt8} (hb : b ∈ [','.toUInt8, ']'.toUInt8, '\x7d'.toUInt8])
    (hspace : Space input (b :: rest)) : EndsInteger input := by
  obtain ⟨blanks, rfl, hblanks⟩ := hspace
  intro c hc
  cases blanks with
  | nil =>
    obtain rfl := Option.some.inj hc
    simp only [List.mem_cons, List.not_mem_nil, or_false] at hb
    obtain rfl | rfl | rfl := hb <;> decide
  | cons d blanks =>
    obtain rfl := Option.some.inj hc
    have hd := hblanks d List.mem_cons_self
    simp only [isSpace, Bool.or_eq_true, beq_iff_eq] at hd
    obtain ((rfl | rfl) | rfl) | rfl := hd <;> decide

theorem endsInteger_of_parts {bracket : Bracket} (hparts : Parts bracket false input rest) : EndsInteger input := by
  cases hparts with
  | close hspace => exact endsInteger_of_space (by cases bracket <;> decide) hspace
  | next hcomma => exact endsInteger_of_space (by decide) hcomma

/-- A label is skipped, and so is white space before it. -/
theorem skips_of_label {bracket : Bracket} {inner value behind : List UInt8} (hlabel : Label bracket input inner)
    (hspace : Space inner value) (hvalue : Value value behind) {start : List UInt8}
    (hstart : start = input ∨ start = skipSpace input) :
    ∃ after, Skips (skipToValue bracket start) after ∧ skipSpace after = value := by
  have hsame : skipSpace start = skipSpace input := by
    obtain rfl | rfl := hstart
    · rfl
    · exact (skipSpace_of_space (space_skipSpace input)).symm
  cases bracket with
  | square =>
    obtain rfl : input = inner := hlabel
    exact ⟨start, rfl, hsame.trans (skipSpace_of_space_value hspace hvalue)⟩
  | curly =>
    obtain ⟨name, next, hquote, htext, hcolon⟩ := hlabel
    refine ⟨inner, ?_, skipSpace_of_space_value hspace hvalue⟩
    obtain ⟨_, hname⟩ := reads_skipText_iff.mpr htext
    obtain ⟨_, hcolon⟩ := reads_readColon_iff.mpr hcolon
    rw [skips_iff]
    have hbegin := hsame.trans ((space_cons_iff (by decide)).mp hquote)
    refine ⟨by have := length_lt_of_skipSpace hbegin; omega, ?_⟩
    refine (match_skipSpace hbegin _ _).trans ?_
    simp only [↓reduceIte, hname, hcolon]
    rfl

end

/-- Reading on from a value that stands in brackets comes to a rest, and so does reading on behind it. -/
def SkipsIn (brackets : List Bracket) (input rest : List UInt8) : Prop :=
  ∀ whole hinput, ∃ shorter, skipValueIn whole brackets input hinput = .ok ⟨(), rest, shorter⟩

def SkipsBehind (brackets : List Bracket) (input rest : List UInt8) : Prop :=
  ∀ whole hinput, ∃ shorter, skipBehindValue whole brackets input hinput = .ok ⟨(), rest, shorter⟩

/-- Reading on within brackets comes to a rest, from the beginning of the innermost one or from behind a part of it. -/
def SkipsParts (bracket : Bracket) (first : Bool) (brackets : List Bracket) (input rest : List UInt8) : Prop :=
  match first with
  | true => ∀ outer, Reads skipOpening outer (some bracket) input → SkipsIn brackets outer rest
  | false => SkipsBehind (bracket :: brackets) input rest

section

variable {brackets : List Bracket} {bracket : Bracket} {input behind rest : List UInt8}

theorem skipsIn_of_word (hopening : Reads skipOpening input none behind) (hbehind : SkipsBehind brackets behind rest) :
    SkipsIn brackets input rest := by
  intro whole hinput
  obtain ⟨shorter, hopening⟩ := hopening
  obtain ⟨hrest, hbehind⟩ := hbehind whole (by omega)
  exact ⟨hrest, by rw [skipValueIn, hopening]; exact hbehind⟩

theorem skipsIn_of_closing {next : List UInt8} (hopening : Reads skipOpening input (some bracket) behind)
    (hspace : skipSpace behind = bracket.closing :: next) (hnext : SkipsBehind brackets next rest) :
    SkipsIn brackets input rest := by
  intro whole hinput
  obtain ⟨shorter, hopening⟩ := hopening
  have hshorter := length_lt_of_skipSpace hspace
  obtain ⟨hrest, hnext⟩ := hnext whole (by omega)
  refine ⟨hrest, ?_⟩
  rw [skipValueIn, hopening]
  refine (match_skipSpace hspace _ _).trans ?_
  rw [if_pos rfl]
  exact hnext

theorem skipsIn_of_part {b : UInt8} {after next : List UInt8} (hopening : Reads skipOpening input (some bracket) behind)
    (hspace : skipSpace behind = b :: after) (hb : b ≠ bracket.closing)
    (hskip : Skips (skipToValue bracket (b :: after)) next) (hnext : SkipsIn (bracket :: brackets) next rest) :
    SkipsIn brackets input rest := by
  intro whole hinput
  obtain ⟨shorter, hopening⟩ := hopening
  obtain ⟨notLonger, hskip⟩ := skips_iff.mp hskip
  have hshorter := length_lt_of_skipSpace hspace
  obtain ⟨hrest, hnext⟩ := hnext whole (by rw [List.length_cons] at notLonger; omega)
  refine ⟨hrest, ?_⟩
  rw [skipValueIn, hopening]
  refine (match_skipSpace hspace _ _).trans ?_
  rw [if_neg hb]
  simp only [hskip]
  exact hnext

theorem skipsBehind_of_closing (hspace : skipSpace input = bracket.closing :: behind)
    (hbehind : SkipsBehind brackets behind rest) : SkipsBehind (bracket :: brackets) input rest := by
  intro whole hinput
  have hshorter := length_lt_of_skipSpace hspace
  obtain ⟨hrest, hbehind⟩ := hbehind whole (by omega)
  refine ⟨hrest, ?_⟩
  rw [skipBehindValue]
  refine (match_skipSpace hspace _ _).trans ?_
  rw [if_neg (by cases bracket <;> decide), if_pos rfl]
  exact hbehind

theorem skipsBehind_of_comma {next : List UInt8} (hspace : skipSpace input = ','.toUInt8 :: behind)
    (hskip : Skips (skipToValue bracket behind) next) (hnext : SkipsIn (bracket :: brackets) next rest) :
    SkipsBehind (bracket :: brackets) input rest := by
  intro whole hinput
  have hshorter := length_lt_of_skipSpace hspace
  obtain ⟨notLonger, hskip⟩ := skips_iff.mp hskip
  obtain ⟨hrest, hnext⟩ := hnext whole (by omega)
  refine ⟨hrest, ?_⟩
  rw [skipBehindValue]
  refine (match_skipSpace hspace _ _).trans ?_
  rw [if_pos rfl]
  simp only [hskip]
  exact hnext

/-- What a part begins with does not close the bracket that it stands in. -/
theorem first_of_part {inner value : List UInt8} (hlabel : Label bracket input inner) (hspace : Space inner value)
    (hvalue : Value value rest) : ∃ b behind, skipSpace input = b :: behind ∧ b ≠ bracket.closing := by
  cases bracket with
  | square =>
    obtain rfl : input = inner := hlabel
    obtain ⟨b, behind, rfl, hb, hne⟩ := first_of_value hvalue
    exact ⟨b, behind, (space_cons_iff hb).mp hspace, hne⟩
  | curly =>
    obtain ⟨name, _, hquote, _⟩ := hlabel
    exact ⟨_, name, (space_cons_iff (by decide)).mp hquote, by decide⟩

theorem isSpace_closing (bracket : Bracket) : isSpace bracket.closing = false := by
  cases bracket <;> decide

end

mutual

/-- Every value is skipped where nothing follows that a number at its end could go on with. -/
theorem skipsIn_of_value : ∀ {start behind : List UInt8}, Value start behind → EndsInteger behind →
    ∀ {brackets : List Bracket} {input rest : List UInt8}, skipSpace input = start →
      SkipsBehind brackets behind rest → SkipsIn brackets input rest
  | _, _, .word hword, hends, _, _, _, hspace, hbehind =>
    skipsIn_of_word (reads_skipOpening_word hword hends hspace) hbehind
  | _, _, .text htext, _, _, _, _, hspace, hbehind => skipsIn_of_word (reads_skipOpening_text hspace htext) hbehind
  | _, _, .parts hparts, _, _, _, _, hspace, hbehind =>
    skipsParts_of_parts hparts hbehind _ (reads_skipOpening_bracket hspace)

theorem skipsParts_of_parts : ∀ {bracket : Bracket} {first : Bool} {input behind : List UInt8},
    Parts bracket first input behind → ∀ {brackets : List Bracket} {rest : List UInt8},
      SkipsBehind brackets behind rest → SkipsParts bracket first brackets input rest
  | _, true, _, _, .close hspace, _, _, hbehind => fun _ hopening =>
    skipsIn_of_closing hopening ((space_cons_iff (isSpace_closing _)).mp hspace) hbehind
  | _, false, _, _, .close hspace, _, _, hbehind =>
    skipsBehind_of_closing ((space_cons_iff (isSpace_closing _)).mp hspace) hbehind
  | _, true, _, _, .next hcomma hlabel hinner hvalue hmore, _, _, hbehind => fun outer hopening => by
    obtain rfl := hcomma
    obtain ⟨b, after, hfirst, hb⟩ := first_of_part hlabel hinner hvalue
    obtain ⟨next, hskip, hnext⟩ := skips_of_label hlabel hinner hvalue (.inr hfirst.symm)
    exact skipsIn_of_part hopening hfirst hb hskip
      (skipsIn_of_value hvalue (endsInteger_of_parts hmore) hnext (skipsParts_of_parts hmore hbehind))
  | _, false, _, _, .next hcomma hlabel hinner hvalue hmore, _, _, hbehind => by
    obtain ⟨next, hskip, hnext⟩ := skips_of_label hlabel hinner hvalue (.inl rfl)
    exact skipsBehind_of_comma ((space_cons_iff (by decide)).mp hcomma) hskip
      (skipsIn_of_value hvalue (endsInteger_of_parts hmore) hnext (skipsParts_of_parts hmore hbehind))

end

/-- What is skipped is a value, and every value is skipped to its end. -/
theorem value_of_skipValue {input rest : List UInt8} (hread : Reads skipValue input () rest) :
    ∃ start, Space input start ∧ Value start rest := by
  obtain ⟨_, hread⟩ := hread
  obtain ⟨start, behind, hspace, hvalue, hcloses⟩ := value_of_skipValueIn hread
  obtain rfl : behind = rest := hcloses
  exact ⟨start, hspace, hvalue⟩

theorem reads_skipValue {input start rest : List UInt8} (hspace : Space input start) (hvalue : Value start rest)
    (hrest : EndsInteger rest) : Reads skipValue input () rest := by
  refine skipsIn_of_value hvalue hrest (skipSpace_of_space_value hspace hvalue) ?_ input (Nat.le_refl _)
  intro whole hinput
  exact ⟨hinput, by rw [skipBehindValue]⟩

end RobotAdmin.Json
