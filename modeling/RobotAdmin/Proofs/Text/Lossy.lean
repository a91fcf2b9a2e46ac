import RobotAdmin.Proofs.Text.Decoding

namespace RobotAdmin.Utf8

/-- Bytes with which the bytes of a character begin. -/
def BeginsChar (bytes : List UInt8) : Prop := ∃ c, bytes <+: String.utf8EncodeChar c

/-- What stands in front of other bytes, belongs to no character and is replaced as one: as much as the bytes hold of
    a character, or a byte with which none begins. -/
structure IsBroken (part behind : List UInt8) : Prop where
  ne_nil : part ≠ []
  begins : BeginsChar part ∨ ∃ b, part = [b]
  not_begins : ∀ b rest, behind = b :: rest → ¬BeginsChar (part ++ [b])
  not_char : ∀ c, ¬String.utf8EncodeChar c <+: part ++ behind

/-- The characters that bytes stand for if each broken part of them is replaced by U+FFFD. -/
inductive IsLossy : List UInt8 → List Char → Prop where
  | nil : IsLossy [] []
  | char (c : Char) {bytes : List UInt8} {chars : List Char} (hrest : IsLossy bytes chars) :
      IsLossy (String.utf8EncodeChar c ++ bytes) (c :: chars)
  | broken {part bytes : List UInt8} {chars : List Char} (hpart : IsBroken part bytes) (hrest : IsLossy bytes chars) :
      IsLossy (part ++ bytes) ('\uFFFD' :: chars)

section

variable {count code : Nat} {low high b : UInt8} {bytes rest : List UInt8} {c : Char}

/-- Some bytes complete whatever is read so far. -/
theorem exists_assemble_eq_char (count : Nat) {low high : UInt8} (hbounds : low ≤ high) (code : Nat) :
    ∃ tail c, assemble count low high code tail = .char c [] := by
  induction count generalizing low high code with
  | zero => exact ⟨[], _, rfl⟩
  | succ count ih =>
    obtain ⟨tail, c, htail⟩ := ih (show (0x80 : UInt8) ≤ 0xBF by decide) (code * 64 + (low.toNat - 0x80))
    exact ⟨low :: tail, c, by rw [assemble, if_pos ⟨UInt8.le_refl low, hbounds⟩, htail]⟩

/-- Where reading breaks off, what was read can be completed otherwise, but not with the byte that comes next. -/
theorem exists_part_of_assemble_eq_broken (hbounds : low ≤ high)
    (hbroken : assemble count low high code bytes = .broken rest) :
    ∃ part, bytes = part ++ rest ∧ (∃ tail c, assemble count low high code (part ++ tail) = .char c []) ∧
      ∀ b behind, rest = b :: behind → ∀ tail, ∃ unread,
        assemble count low high code (part ++ b :: tail) = .broken unread := by
  -- The induction is on the bytes still wanted; only the first of them has bounds of its own.
  induction count generalizing low high code bytes with
  | zero => cases hbroken
  | succ count ih =>
    cases bytes with
    | nil =>
      obtain rfl := Lead.broken.inj hbroken
      refine ⟨[], rfl, exists_assemble_eq_char (count + 1) hbounds code, ?_⟩
      rintro _ _ ⟨⟩
    | cons first bytes =>
      rw [assemble] at hbroken
      split at hbroken
      · rename_i hfirst
        obtain ⟨part, rfl, ⟨tail, c, hchar⟩, hnext⟩ := ih (by decide) hbroken
        refine ⟨first :: part, rfl, ⟨tail, c, ?_⟩, fun b behind hrest tail => ?_⟩
        · rw [List.cons_append, assemble, if_pos hfirst, hchar]
        · rw [List.cons_append, assemble, if_pos hfirst]
          exact hnext b behind hrest tail
      · rename_i hfirst
        obtain rfl := Lead.broken.inj hbroken
        refine ⟨[], rfl, exists_assemble_eq_char (count + 1) hbounds code, ?_⟩
        rintro _ _ ⟨⟩ tail
        exact ⟨first :: tail, by rw [List.nil_append, assemble, if_neg hfirst]⟩

/-- A byte is followed by the bytes that complete a character, or begins none. -/
theorem lead_cases (b : UInt8) :
    (∃ count low high code, low ≤ high ∧ ∀ bytes, lead b bytes = assemble count low high code bytes) ∨
      ∀ bytes, lead b bytes = .broken bytes := by
  unfold lead
  split
  · exact .inl ⟨0, 0, 0, b.toNat, by decide, fun _ => rfl⟩
  split
  · exact .inr fun _ => rfl
  repeat'
    split
    · exact .inl ⟨_, _, _, _, by decide, fun _ => rfl⟩
  exact .inr fun _ => rfl

theorem exists_lead_eq_char (hstart : String.utf8EncodeChar c <+: b :: bytes) :
    ∃ rest, b :: bytes = String.utf8EncodeChar c ++ rest ∧ lead b bytes = .char c rest := by
  obtain ⟨rest, hrest⟩ := hstart
  obtain ⟨first, tail, hc⟩ := exists_cons_utf8EncodeChar c
  rw [hc, List.cons_append] at hrest
  obtain ⟨rfl, rfl⟩ := List.cons.inj hrest
  exact ⟨rest, by rw [hc, List.cons_append], lead_of_utf8EncodeChar hc rest⟩

theorem exists_isBroken_of_lead (hbroken : lead b bytes = .broken rest) :
    ∃ part, b :: bytes = part ++ rest ∧ IsBroken part rest := by
  have hnever (c : Char) : ¬String.utf8EncodeChar c <+: b :: bytes := by
    intro hstart
    obtain ⟨_, _, hchar⟩ := exists_lead_eq_char hstart
    rw [hbroken] at hchar
    cases hchar
  obtain ⟨count, low, high, code, hbounds, hlead⟩ | hlead := lead_cases b
  · rw [hlead] at hbroken
    obtain ⟨part, rfl, ⟨tail, c, hchar⟩, hnext⟩ := exists_part_of_assemble_eq_broken hbounds hbroken
    refine ⟨b :: part, rfl, List.cons_ne_nil b part, .inl ⟨c, tail, ?_⟩, ?_, hnever⟩
    · rw [← hlead] at hchar
      rw [List.cons_append, eq_append_of_lead_eq_char hchar, List.append_nil]
    · rintro first behind hrest ⟨other, tail, hother⟩
      obtain ⟨unread, hunread⟩ := hnext first behind hrest tail
      rw [List.append_assoc, List.singleton_append, List.cons_append] at hother
      have hchar := lead_of_utf8EncodeChar hother.symm []
      rw [List.append_nil, hlead, hunread] at hchar
      cases hchar
  · obtain rfl := Lead.broken.inj ((hlead bytes).symm.trans hbroken)
    refine ⟨[b], rfl, List.cons_ne_nil b [], .inr ⟨b, rfl⟩, ?_, hnever⟩
    -- A byte with which no character begins is a part by itself, whatever follows it.
    rintro first behind _ ⟨other, tail, hother⟩
    have hchar := lead_of_utf8EncodeChar hother.symm []
    rw [hlead] at hchar
    cases hchar

/-- No broken part goes on with the byte that breaks a shorter one. -/
theorem IsBroken.not_longer {part behind more : List UInt8} (hpart : IsBroken part (b :: behind)) :
    ¬IsBroken (part ++ b :: more) rest := by
  intro hlonger
  obtain ⟨c, hstart⟩ | ⟨first, hfirst⟩ := hlonger.begins
  · refine hpart.not_begins b behind rfl ⟨c, .trans ⟨more, ?_⟩ hstart⟩
    rw [List.append_assoc, List.singleton_append]
  · have hlength := congrArg List.length hfirst
    have hpositive := List.length_pos_iff.mpr hpart.ne_nil
    simp only [List.length_append, List.length_cons, List.length_nil] at hlength
    omega

theorem IsBroken.unique {part other behind : List UInt8} (hpart : IsBroken part behind)
    (hother : IsBroken other rest) (heq : part ++ behind = other ++ rest) : behind = rest := by
  obtain ⟨more, rfl, rfl⟩ | ⟨more, rfl, rfl⟩ := List.append_eq_append_iff.mp heq
  · cases more with
    | nil => rfl
    | cons b more => exact absurd hother hpart.not_longer
  · cases more with
    | nil => rfl
    | cons b more => exact absurd hpart hother.not_longer

theorem decodeLossyChars_of_lead_eq_char (hlead : lead b bytes = .char c rest) :
    decodeLossyChars (b :: bytes) = c :: decodeLossyChars rest := by
  rw [decodeLossyChars]
  split
  · rename_i hfound
    obtain ⟨rfl, rfl⟩ := Lead.char.inj (hlead.symm.trans hfound)
    rfl
  · rename_i hfound
    cases hlead.symm.trans hfound

theorem decodeLossyChars_of_lead_eq_broken (hlead : lead b bytes = .broken rest) :
    decodeLossyChars (b :: bytes) = '\uFFFD' :: decodeLossyChars rest := by
  rw [decodeLossyChars]
  split
  · rename_i hfound
    cases hlead.symm.trans hfound
  · rename_i hfound
    obtain rfl := Lead.broken.inj (hlead.symm.trans hfound)
    rfl

theorem decodeLossyChars_utf8EncodeChar_append (c : Char) (bytes : List UInt8) :
    decodeLossyChars (String.utf8EncodeChar c ++ bytes) = c :: decodeLossyChars bytes := by
  obtain ⟨b, tail, hc⟩ := exists_cons_utf8EncodeChar c
  rw [hc, List.cons_append]
  exact decodeLossyChars_of_lead_eq_char (lead_of_utf8EncodeChar hc bytes)

theorem IsBroken.decodeLossyChars_append {part behind : List UInt8} (hpart : IsBroken part behind) :
    decodeLossyChars (part ++ behind) = '\uFFFD' :: decodeLossyChars behind := by
  obtain ⟨b, bytes, hbytes⟩ := List.exists_cons_of_ne_nil (List.append_ne_nil_of_left_ne_nil hpart.ne_nil behind)
  rw [hbytes]
  cases hlead : lead b bytes with
  | char c rest =>
    refine absurd ?_ (hpart.not_char c)
    rw [hbytes, eq_append_of_lead_eq_char hlead]
    exact List.prefix_append ..
  | broken rest =>
    obtain ⟨other, heq, hother⟩ := exists_isBroken_of_lead hlead
    rw [decodeLossyChars_of_lead_eq_broken hlead, hpart.unique hother (hbytes.trans heq)]

end

/-- Decoding replaces each broken part by one U+FFFD and leaves the characters as they are. -/
theorem decodeLossyChars_eq_iff {bytes : List UInt8} {chars : List Char} :
    decodeLossyChars bytes = chars ↔ IsLossy bytes chars := by
  constructor
  · rintro rfl
    fun_induction decodeLossyChars bytes with
    | case1 => exact .nil
    | case2 b bytes c rest hlead ih =>
      rw [eq_append_of_lead_eq_char hlead]
      exact .char c ih
    | case3 b bytes rest hlead ih =>
      obtain ⟨part, heq, hpart⟩ := exists_isBroken_of_lead hlead
      rw [heq]
      exact .broken hpart ih
  · intro hlossy
    induction hlossy with
    | nil => rw [decodeLossyChars]
    | char c _ ih => rw [decodeLossyChars_utf8EncodeChar_append, ih]
    | broken hpart _ ih => rw [hpart.decodeLossyChars_append, ih]

theorem decodeLossyChars_encodeChars (chars : List Char) : decodeLossyChars (encodeChars chars) = chars := by
  induction chars with
  | nil => rw [encodeChars_nil, decodeLossyChars]
  | cons c chars ih => rw [encodeChars_cons, decodeLossyChars_utf8EncodeChar_append, ih]

theorem decodeLossy_eq_iff {bytes : List UInt8} {text : String} :
    decodeLossy bytes = text ↔ IsLossy bytes text.toList := by
  rw [← decodeLossyChars_eq_iff, decodeLossy]
  constructor
  · rintro rfl
    rw [String.toList_ofList]
  · intro hchars
    rw [hchars, String.ofList_toList]

/-- Nothing is lost of the bytes of a text. -/
theorem decodeLossy_of_decode? {bytes : List UInt8} {text : String} (hdecode : decode? bytes = some text) :
    decodeLossy bytes = text := by
  rw [decode?_eq_some_iff.mp hdecode, decodeLossy, encode, decodeLossyChars_encodeChars, String.ofList_toList]

/-- Two bytes of a character that would go on are one broken part, and the byte that breaks it is read again. -/
example : decodeLossy [0xE2, 0x82, 0x41, 0xFF] = "\uFFFDA\uFFFD" := by decide +kernel

end RobotAdmin.Utf8
