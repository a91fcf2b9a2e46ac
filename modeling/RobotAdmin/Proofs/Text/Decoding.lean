import RobotAdmin.Proofs.Text.Utf8

namespace RobotAdmin.Utf8

section

variable {c : Char} {count code : Nat} {low high : UInt8} {bytes rest : List UInt8}

theorem assemble_zero_eq_char (hchar : assemble 0 low high code bytes = .char c rest) :
    Char.ofNat code = c ∧ bytes = rest :=
  Lead.char.inj hchar

/-- A continuation byte that was taken lies within the bounds. -/
theorem assemble_succ_eq_char (hchar : assemble (count + 1) low high code bytes = .char c rest) :
    ∃ b behind, bytes = b :: behind ∧ low.toNat ≤ b.toNat ∧ b.toNat ≤ high.toNat ∧
      assemble count 0x80 0xBF (code * 64 + (b.toNat - 0x80)) behind = .char c rest := by
  cases bytes with
  | nil => cases hchar
  | cons b behind =>
    rw [assemble] at hchar
    split at hchar
    · rename_i hbounds
      exact ⟨b, behind, rfl, UInt8.le_iff_toNat_le.mp hbounds.1, UInt8.le_iff_toNat_le.mp hbounds.2, hchar⟩
    · cases hchar

end

theorem toNat_ofNat {n : Nat} (hvalid : n < 0xD800 ∨ 0xDFFF < n ∧ n < 0x110000) : (Char.ofNat n).toNat = n := by
  rw [Char.ofNat, dif_pos hvalid]
  rfl

theorem ofNat_eq_of_toNat {n : Nat} {b : UInt8} (hn : n = b.toNat) : UInt8.ofNat n = b := by
  rw [hn, UInt8.ofNat_toNat]

section

variable {n : Nat} {b first second third : UInt8}

theorem utf8EncodeChar_ofNat_one (hb : b.toNat < 0x80) : String.utf8EncodeChar (Char.ofNat b.toNat) = [b] := by
  have hnat : (Char.ofNat b.toNat).val.toNat = b.toNat := toNat_ofNat (by omega)
  rw [String.utf8EncodeChar]
  simp only [hnat]
  rw [if_pos (by omega), UInt8.ofNat_toNat]

theorem utf8EncodeChar_ofNat_two (hlow : 0x80 ≤ n) (hhigh : n < 0x800) (hb : b.toNat = n / 0x40 + 0xC0)
    (hfirst : first.toNat = n % 0x40 + 0x80) : String.utf8EncodeChar (Char.ofNat n) = [b, first] := by
  have hnat : (Char.ofNat n).val.toNat = n := toNat_ofNat (by omega)
  rw [String.utf8EncodeChar]
  simp only [hnat]
  rw [if_neg (by omega), if_pos (by omega), @ofNat_eq_of_toNat _ b (by omega),
    @ofNat_eq_of_toNat _ first (by omega)]

theorem utf8EncodeChar_ofNat_three (hlow : 0x800 ≤ n) (hhigh : n < 0x10000) (hvalid : n < 0xD800 ∨ 0xDFFF < n)
    (hb : b.toNat = n / 0x1000 + 0xE0) (hfirst : first.toNat = n / 0x40 % 0x40 + 0x80)
    (hsecond : second.toNat = n % 0x40 + 0x80) : String.utf8EncodeChar (Char.ofNat n) = [b, first, second] := by
  have hnat : (Char.ofNat n).val.toNat = n := toNat_ofNat (by omega)
  rw [String.utf8EncodeChar]
  simp only [hnat]
  rw [if_neg (by omega), if_neg (by omega), if_pos (by omega), @ofNat_eq_of_toNat _ b (by omega),
    @ofNat_eq_of_toNat _ first (by omega), @ofNat_eq_of_toNat _ second (by omega)]

theorem utf8EncodeChar_ofNat_four (hlow : 0x10000 ≤ n) (hhigh : n < 0x110000) (hb : b.toNat = n / 0x40000 + 0xF0)
    (hfirst : first.toNat = n / 0x1000 % 0x40 + 0x80) (hsecond : second.toNat = n / 0x40 % 0x40 + 0x80)
    (hthird : third.toNat = n % 0x40 + 0x80) : String.utf8EncodeChar (Char.ofNat n) = [b, first, second, third] := by
  have hnat : (Char.ofNat n).val.toNat = n := toNat_ofNat (by omega)
  rw [String.utf8EncodeChar]
  simp only [hnat]
  rw [if_neg (by omega), if_neg (by omega), if_neg (by omega), @ofNat_eq_of_toNat _ b (by omega),
    @ofNat_eq_of_toNat _ first (by omega), @ofNat_eq_of_toNat _ second (by omega),
    @ofNat_eq_of_toNat _ third (by omega)]

end

section

variable {c : Char} {b low high : UInt8} {code : Nat} {bytes rest : List UInt8}

theorem assemble_one_eq_char (hlow : 0xC2 ≤ b.toNat) (hhigh : b.toNat < 0xE0)
    (hchar : assemble 1 0x80 0xBF (b.toNat - 0xC0) bytes = .char c rest) :
    b :: bytes = String.utf8EncodeChar c ++ rest := by
  obtain ⟨first, _, rfl, hfirstLow, hfirstHigh, hchar⟩ := assemble_succ_eq_char hchar
  obtain ⟨rfl, rfl⟩ := assemble_zero_eq_char hchar
  simp only [UInt8.reduceToNat] at hfirstLow hfirstHigh
  rw [@utf8EncodeChar_ofNat_two _ b first (by omega) (by omega) (by omega) (by omega)]
  rfl

/-- A character of three bytes; the bounds of the second one keep overlong forms and surrogates out. -/
theorem assemble_two_eq_char (hcode : b.toNat = code + 0xE0) (hsmall : code < 0x10) (hlow : 0x80 ≤ low.toNat)
    (hhigh : high.toNat ≤ 0xBF) (hoverlong : code = 0 → 0xA0 ≤ low.toNat)
    (hsurrogate : code = 0xD → high.toNat ≤ 0x9F) (hchar : assemble 2 low high code bytes = .char c rest) :
    b :: bytes = String.utf8EncodeChar c ++ rest := by
  obtain ⟨first, _, rfl, hfirstLow, hfirstHigh, hchar⟩ := assemble_succ_eq_char hchar
  obtain ⟨second, _, rfl, hsecondLow, hsecondHigh, hchar⟩ := assemble_succ_eq_char hchar
  obtain ⟨rfl, rfl⟩ := assemble_zero_eq_char hchar
  simp only [UInt8.reduceToNat] at hsecondLow hsecondHigh
  rw [@utf8EncodeChar_ofNat_three _ b first second (by omega) (by omega) (by omega)
    (by omega) (by omega) (by omega)]
  rfl

/-- A character of four bytes; the bounds of the second one keep overlong forms and what lies above U+10FFFF out. -/
theorem assemble_three_eq_char (hcode : b.toNat = code + 0xF0) (hsmall : code ≤ 4) (hlow : 0x80 ≤ low.toNat)
    (hhigh : high.toNat ≤ 0xBF) (hoverlong : code = 0 → 0x90 ≤ low.toNat) (hlimit : code = 4 → high.toNat ≤ 0x8F)
    (hchar : assemble 3 low high code bytes = .char c rest) : b :: bytes = String.utf8EncodeChar c ++ rest := by
  obtain ⟨first, _, rfl, hfirstLow, hfirstHigh, hchar⟩ := assemble_succ_eq_char hchar
  obtain ⟨second, _, rfl, hsecondLow, hsecondHigh, hchar⟩ := assemble_succ_eq_char hchar
  obtain ⟨third, _, rfl, hthirdLow, hthirdHigh, hchar⟩ := assemble_succ_eq_char hchar
  obtain ⟨rfl, rfl⟩ := assemble_zero_eq_char hchar
  simp only [UInt8.reduceToNat] at hsecondLow hsecondHigh hthirdLow hthirdHigh
  rw [@utf8EncodeChar_ofNat_four _ b first second third (by omega) (by omega)
    (by omega) (by omega) (by omega) (by omega)]
  rfl

/-- Bytes from which a character is read begin with the bytes of it. -/
theorem eq_append_of_lead_eq_char (hchar : lead b bytes = .char c rest) :
    b :: bytes = String.utf8EncodeChar c ++ rest := by
  unfold lead at hchar
  simp only [UInt8.lt_iff_toNat_lt, ← UInt8.toNat_inj, UInt8.reduceToNat] at hchar
  split at hchar
  · obtain ⟨rfl, rfl⟩ := Lead.char.inj hchar
    rw [utf8EncodeChar_ofNat_one (by omega)]
    rfl
  split at hchar
  · cases hchar
  split at hchar
  · exact assemble_one_eq_char (by omega) (by omega) hchar
  split at hchar
  · exact assemble_two_eq_char (by omega) (by omega) (by decide) (by decide) (by decide) (by omega) hchar
  split at hchar
  · exact assemble_two_eq_char (by omega) (by omega) (by decide) (by decide) (by omega) (by decide) hchar
  split at hchar
  · exact assemble_two_eq_char (by omega) (by omega) (by decide) (by decide) (by omega) (by omega) hchar
  split at hchar
  · exact assemble_three_eq_char (by omega) (by omega) (by decide) (by decide) (by decide) (by omega) hchar
  split at hchar
  · exact assemble_three_eq_char (by omega) (by omega) (by decide) (by decide) (by omega) (by omega) hchar
  split at hchar
  · exact assemble_three_eq_char (by omega) (by omega) (by decide) (by decide) (by omega) (by decide) hchar
  · cases hchar

end

/-- Bytes are split into the bytes of characters and others behind them. -/
theorem eq_append_of_split {bytes unread : List UInt8} {chars : List Char} (hsplit : split bytes = (chars, unread)) :
    bytes = encodeChars chars ++ unread := by
  fun_induction split bytes generalizing chars with
  | case1 =>
    obtain ⟨rfl, rfl⟩ := Prod.mk.inj hsplit
    rfl
  | case2 b bytes c rest hlead chars' unread' hrest ih =>
    obtain ⟨rfl, rfl⟩ := Prod.mk.inj hsplit
    rw [eq_append_of_lead_eq_char hlead, ih hrest, encodeChars_cons, List.append_assoc]
  | case3 b bytes rest hlead =>
    obtain ⟨rfl, rfl⟩ := Prod.mk.inj hsplit
    rfl

/-- Bytes are decoded exactly if they are those of a text. -/
theorem decode?_eq_some_iff {bytes : List UInt8} {text : String} :
    decode? bytes = some text ↔ bytes = encode text := by
  constructor
  · intro hdecode
    unfold decode? at hdecode
    split at hdecode
    · rename_i chars hsplit
      obtain rfl := Option.some.inj hdecode
      rw [eq_append_of_split hsplit, List.append_nil, encode, String.toList_ofList]
    · cases hdecode
  · rintro rfl
    exact decode?_encode text

end RobotAdmin.Utf8
