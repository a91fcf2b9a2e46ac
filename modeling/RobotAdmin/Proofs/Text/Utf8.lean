import RobotAdmin.Text.Utf8

namespace RobotAdmin.Utf8

theorem encode_append (first second : String) : encode (first ++ second) = encode first ++ encode second := by
  rw [encode, String.toList_append, encodeChars_append, encode, encode]

/-- A continuation byte within the bounds adds its six bits. -/
theorem assemble_continuation {low high : UInt8} {n : Nat} (hlow : low.toNat ≤ n % 0x40 + 0x80)
    (hhigh : n % 0x40 + 0x80 ≤ high.toNat) (count code : Nat) (rest : List UInt8) :
    assemble (count + 1) low high code (UInt8.ofNat (n % 0x40 + 0x80) :: rest) =
      assemble count 0x80 0xBF (code * 0x40 + n % 0x40) rest := by
  have hb : (UInt8.ofNat (n % 0x40 + 0x80)).toNat = n % 0x40 + 0x80 := by
    rw [UInt8.toNat_ofNat']
    omega
  rw [assemble, if_pos ⟨by rwa [UInt8.le_iff_toNat_le, hb], by rwa [UInt8.le_iff_toNat_le, hb]⟩, hb,
    Nat.add_sub_cancel]

/-- A continuation byte without bounds of its own. -/
theorem assemble_plain (count code n : Nat) (rest : List UInt8) :
    assemble (count + 1) 0x80 0xBF code (UInt8.ofNat (n % 0x40 + 0x80) :: rest) =
      assemble count 0x80 0xBF (code * 0x40 + n % 0x40) rest :=
  assemble_continuation (Nat.le_add_left ..) (by simp only [UInt8.reduceToNat]; omega) ..

theorem assemble_zero {c : Char} {code : Nat} (hcode : code = c.toNat) (low high : UInt8) (rest : List UInt8) :
    assemble 0 low high code rest = .char c rest := by
  rw [assemble, hcode, Char.ofNat_toNat]

theorem lead_one {c : Char} (hhigh : c.toNat < 0x80) (rest : List UInt8) :
    lead (UInt8.ofNat c.toNat) rest = .char c rest := by
  have hb : (UInt8.ofNat c.toNat).toNat = c.toNat := by
    rw [UInt8.toNat_ofNat']
    omega
  rw [lead, if_pos (by rwa [UInt8.lt_iff_toNat_lt, hb]), hb, Char.ofNat_toNat]

theorem lead_two {c : Char} (hlow : 0x80 ≤ c.toNat) (hhigh : c.toNat < 0x800) (rest : List UInt8) :
    lead (UInt8.ofNat (c.toNat / 0x40 % 0x20 + 0xC0)) (UInt8.ofNat (c.toNat % 0x40 + 0x80) :: rest) =
      .char c rest := by
  generalize hfirst : UInt8.ofNat (c.toNat / 0x40 % 0x20 + 0xC0) = b
  have hb : b.toNat = c.toNat / 0x40 + 0xC0 := by
    rw [← hfirst, UInt8.toNat_ofNat']
    omega
  unfold lead
  simp only [UInt8.lt_iff_toNat_lt, ← UInt8.toNat_inj, UInt8.reduceToNat, hb]
  repeat' split
  all_goals try omega
  rw [assemble_plain]
  exact assemble_zero (by omega) ..

theorem lead_three {c : Char} (hlow : 0x800 ≤ c.toNat) (hhigh : c.toNat < 0x10000) (rest : List UInt8) :
    lead (UInt8.ofNat (c.toNat / 0x1000 % 0x10 + 0xE0)) (UInt8.ofNat (c.toNat / 0x40 % 0x40 + 0x80) ::
      UInt8.ofNat (c.toNat % 0x40 + 0x80) :: rest) = .char c rest := by
  generalize hfirst : UInt8.ofNat (c.toNat / 0x1000 % 0x10 + 0xE0) = b
  have hb : b.toNat = c.toNat / 0x1000 + 0xE0 := by
    rw [← hfirst, UInt8.toNat_ofNat']
    omega
  have hvalid : c.toNat < 0xD800 ∨ 0xDFFF < c.toNat ∧ c.toNat < 0x110000 := c.valid
  unfold lead
  simp only [UInt8.lt_iff_toNat_lt, ← UInt8.toNat_inj, UInt8.reduceToNat, hb]
  repeat' split
  all_goals try omega
  -- The bounds of the second byte keep overlong forms and surrogates out.
  all_goals
    rw [assemble_continuation (by simp only [UInt8.reduceToNat]; omega) (by simp only [UInt8.reduceToNat]; omega),
      assemble_plain]
    exact assemble_zero (by omega) ..

theorem lead_four {c : Char} (hlow : 0x10000 ≤ c.toNat) (rest : List UInt8) :
    lead (UInt8.ofNat (c.toNat / 0x40000 % 0x08 + 0xF0)) (UInt8.ofNat (c.toNat / 0x1000 % 0x40 + 0x80) ::
      UInt8.ofNat (c.toNat / 0x40 % 0x40 + 0x80) :: UInt8.ofNat (c.toNat % 0x40 + 0x80) :: rest) =
      .char c rest := by
  generalize hfirst : UInt8.ofNat (c.toNat / 0x40000 % 0x08 + 0xF0) = b
  have hvalid : c.toNat < 0xD800 ∨ 0xDFFF < c.toNat ∧ c.toNat < 0x110000 := c.valid
  have hb : b.toNat = c.toNat / 0x40000 + 0xF0 := by
    rw [← hfirst, UInt8.toNat_ofNat']
    omega
  unfold lead
  simp only [UInt8.lt_iff_toNat_lt, ← UInt8.toNat_inj, UInt8.reduceToNat, hb]
  repeat' split
  all_goals try omega
  all_goals
    rw [assemble_continuation (by simp only [UInt8.reduceToNat]; omega) (by simp only [UInt8.reduceToNat]; omega),
      assemble_plain, assemble_plain]
    exact assemble_zero (by omega) ..

/-- The bytes of a character are read back as it, whatever follows them. -/
theorem lead_of_utf8EncodeChar {c : Char} {b : UInt8} {bytes : List UInt8}
    (hc : String.utf8EncodeChar c = b :: bytes) (rest : List UInt8) : lead b (bytes ++ rest) = .char c rest := by
  have hnat : c.val.toNat = c.toNat := rfl
  unfold String.utf8EncodeChar at hc
  simp only [hnat] at hc
  split at hc
  · obtain ⟨rfl, rfl⟩ := List.cons.inj hc
    exact lead_one (by omega) rest
  · split at hc
    · obtain ⟨rfl, rfl⟩ := List.cons.inj hc
      exact lead_two (by omega) (by omega) rest
    · split at hc
      · obtain ⟨rfl, rfl⟩ := List.cons.inj hc
        exact lead_three (by omega) (by omega) rest
      · obtain ⟨rfl, rfl⟩ := List.cons.inj hc
        exact lead_four (by omega) rest

theorem exists_cons_utf8EncodeChar (c : Char) : ∃ b bytes, String.utf8EncodeChar c = b :: bytes := by
  cases hc : String.utf8EncodeChar c with
  | nil => exact absurd hc String.utf8EncodeChar_ne_nil
  | cons b bytes => exact ⟨b, bytes, rfl⟩

/-- A character of one byte is that byte, and all others begin with a byte above those. -/
theorem toNat_first {c : Char} {b : UInt8} {bytes : List UInt8} (hc : String.utf8EncodeChar c = b :: bytes) :
    b.toNat = c.toNat ∨ 0x80 ≤ b.toNat := by
  have hnat : c.val.toNat = c.toNat := rfl
  unfold String.utf8EncodeChar at hc
  simp only [hnat] at hc
  split at hc
  · obtain ⟨rfl, rfl⟩ := List.cons.inj hc
    left
    rw [UInt8.toNat_ofNat']
    omega
  right
  split at hc
  · obtain ⟨rfl, rfl⟩ := List.cons.inj hc
    rw [UInt8.toNat_ofNat']
    omega
  split at hc
  · obtain ⟨rfl, rfl⟩ := List.cons.inj hc
    rw [UInt8.toNat_ofNat']
    omega
  · obtain ⟨rfl, rfl⟩ := List.cons.inj hc
    rw [UInt8.toNat_ofNat']
    omega

/-- Encoded characters are read back up to where they end. -/
theorem split_encodeChars (chars : List Char) : split (encodeChars chars) = (chars, []) := by
  induction chars with
  | nil => rw [encodeChars_nil, split]
  | cons c chars ih =>
    obtain ⟨b, bytes, hc⟩ := exists_cons_utf8EncodeChar c
    have hlead := lead_of_utf8EncodeChar hc (encodeChars chars)
    rw [encodeChars_cons, hc, List.cons_append, split]
    split
    · rename_i found rest hfound
      rw [hlead] at hfound
      obtain ⟨rfl, rfl⟩ := Lead.char.inj hfound
      rw [ih]
    · rename_i rest hfound
      rw [hlead] at hfound
      cases hfound

theorem decode?_encode (text : String) : decode? (encode text) = some text := by
  rw [decode?, encode, split_encodeChars]
  exact congrArg some String.ofList_toList

end RobotAdmin.Utf8
