import TouchProbe.Text.Encoding

/-!
Texts come back from bytes.  The bytes of a character are read as the character: the first of them
tells how many there are, each of the others holds six bits, and what is put together again is the
code of the character.  So the UTF-8 of a text is read as the text.
-/

namespace TouchProbe.Text

/-! ### Bytes of a text -/

theorem toList_loop (bs : ByteArray) (i : Nat) (r : List UInt8) :
    ByteArray.toList.loop bs i r = r.reverse ++ bs.data.toList.drop i := by
  fun_induction ByteArray.toList.loop bs i r with
  | case1 i r hi ih =>
      have hlt : i < bs.data.toList.length := hi
      rw [ih, List.drop_eq_getElem_cons hlt]
      simp [ByteArray.get!, hi]
  | case2 i r hi =>
      have hle : bs.data.toList.length ≤ i := Nat.le_of_not_lt hi
      rw [List.drop_eq_nil_of_le hle, List.append_nil]

/-- The bytes of a text are those of its characters, one after the other. -/
theorem toList_toUTF8 (s : String) : s.toUTF8.toList = s.toList.flatMap String.utf8EncodeChar := by
  rw [ByteArray.toList, toList_loop, List.reverse_nil, List.nil_append, List.drop_zero,
    String.toUTF8_eq_toByteArray, ← String.utf8Encode_toList, List.utf8Encode,
    List.toList_data_toByteArray]

/-! ### Bytes of a character -/

theorem toNat_ofNat {n : Nat} (h : n < 256) : (UInt8.ofNat n).toNat = n := by
  rw [UInt8.toNat_ofNat', Nat.mod_eq_of_lt h]

theorem charBytes_ofNat {n : Nat} (h : n < 256) :
    charBytes (UInt8.ofNat n) =
      if n < 0x80 then 1
      else if n < 0xC2 then 0
      else if n < 0xE0 then 2
      else if n < 0xF0 then 3
      else if n < 0xF5 then 4
      else 0 := by
  simp only [charBytes, UInt8.lt_iff_toNat_lt, toNat_ofNat h]
  rfl

/-- The byte that continues a character with the last six bits of a number. -/
def continuation (n : Nat) : UInt8 := UInt8.ofNat (n % 64 + 0x80)

theorem toNat_continuation (n : Nat) : (continuation n).toNat = n % 64 + 0x80 :=
  toNat_ofNat (by omega)

theorem isContinuation_continuation (n : Nat) : isContinuation (continuation n) = true := by
  have hrange : 0x80 ≤ (continuation n).toNat ∧ (continuation n).toNat ≤ 0xBF := by
    rw [toNat_continuation]
    omega
  simpa [isContinuation, UInt8.le_iff_toNat_le] using hrange

theorem joinCode_continuation (code n : Nat) :
    joinCode code (continuation n) = code * 64 + n % 64 := by
  have hjoin : joinCode code (continuation n) = code * 64 + ((continuation n).toNat - 0x80) := rfl
  rw [hjoin, toNat_continuation]
  simp

/-- A byte may come second if it continues the character and the four first bytes that allow only
some of these bytes allow it. -/
theorem isSecond_continuation {first n : Nat} (hfirst : first < 256)
    (h : (first = 0xE0 → 32 ≤ n % 64) ∧ (first = 0xED → n % 64 < 32) ∧
      (first = 0xF0 → 16 ≤ n % 64) ∧ (first = 0xF4 → n % 64 < 16)) :
    isSecond (UInt8.ofNat first) (continuation n) = true := by
  simp only [isSecond, isContinuation_continuation, Bool.and_eq_true, Bool.not_eq_true',
    Bool.and_eq_false_iff, beq_eq_false_iff_ne, ne_eq, ← UInt8.toNat_inj, decide_eq_false_iff_not,
    UInt8.lt_iff_toNat_lt, UInt8.le_iff_toNat_le, toNat_continuation, toNat_ofNat hfirst]
  simp
  omega

section Chars

variable {b c d e : UInt8} (rest : List UInt8)

theorem decodeChar_one (h : charBytes b = 1) :
    decodeChar (b :: rest) = .ok (Char.ofNat b.toNat, 1) := by
  rw [decodeChar.eq_def]
  dsimp only
  rw [h]
  rfl

theorem decodeChar_two (h : charBytes b = 2) (hc : isSecond b c = true) :
    decodeChar (b :: c :: rest) = .ok (Char.ofNat (joinCode (b.toNat - 0xC0) c), 2) := by
  rw [decodeChar.eq_def]
  dsimp only
  rw [h]
  exact if_pos hc

theorem decodeChar_three (h : charBytes b = 3) (hc : isSecond b c = true)
    (hd : isContinuation d = true) :
    decodeChar (b :: c :: d :: rest) =
      .ok (Char.ofNat (joinCode (joinCode (b.toNat - 0xE0) c) d), 3) := by
  rw [decodeChar.eq_def]
  dsimp only
  rw [h]
  exact (if_neg (by simp [hc])).trans (if_neg (by simp [hd]))

theorem decodeChar_four (h : charBytes b = 4) (hc : isSecond b c = true)
    (hd : isContinuation d = true) (he : isContinuation e = true) :
    decodeChar (b :: c :: d :: e :: rest) =
      .ok (Char.ofNat (joinCode (joinCode (joinCode (b.toNat - 0xF0) c) d) e), 4) := by
  rw [decodeChar.eq_def]
  dsimp only
  rw [h]
  exact (if_neg (by simp [hc])).trans ((if_neg (by simp [hd])).trans (if_neg (by simp [he])))

end Chars

/-- The bytes of a character are read as the character, whatever follows. -/
theorem decodeChar_utf8EncodeChar (c : Char) (rest : List UInt8) :
    decodeChar (String.utf8EncodeChar c ++ rest) =
      .ok (c, (String.utf8EncodeChar c).length) := by
  have hvalid : c.toNat < 0xD800 ∨ 0xDFFF < c.toNat ∧ c.toNat < 0x110000 := c.valid
  have hchar : Char.ofNat c.toNat = c := Char.ofNat_toNat c
  have hcode : c.val.toNat = c.toNat := rfl
  -- One case for each number of bytes: the first byte, what may come second, and the code.
  rw [String.utf8EncodeChar, hcode]
  generalize c.toNat = v at hvalid hchar
  split
  · have hsize : charBytes (UInt8.ofNat v) = 1 := by
      rw [charBytes_ofNat (by omega), if_pos (by omega)]
    rw [List.singleton_append, decodeChar_one rest hsize, toNat_ofNat (by omega), hchar]
    rfl
  split
  · have hfirst : v / 64 % 32 + 0xC0 < 256 := by omega
    have hsize : charBytes (UInt8.ofNat (v / 64 % 32 + 0xC0)) = 2 := by
      rw [charBytes_ofNat hfirst, if_neg (by omega), if_neg (by omega), if_pos (by omega)]
    have hsecond := isSecond_continuation (n := v) hfirst (by omega)
    have hjoin : (v / 64 % 32 + 0xC0 - 0xC0) * 64 + v % 64 = v := by omega
    refine (decodeChar_two rest hsize hsecond).trans ?_
    rw [joinCode_continuation, toNat_ofNat hfirst, hjoin, hchar]
    rfl
  split
  · have hfirst : v / 4096 % 16 + 0xE0 < 256 := by omega
    have hsize : charBytes (UInt8.ofNat (v / 4096 % 16 + 0xE0)) = 3 := by
      rw [charBytes_ofNat hfirst, if_neg (by omega), if_neg (by omega), if_neg (by omega),
        if_pos (by omega)]
    have hsecond := isSecond_continuation (n := v / 64) hfirst (by omega)
    have hjoin : ((v / 4096 % 16 + 0xE0 - 0xE0) * 64 + v / 64 % 64) * 64 + v % 64 = v := by omega
    refine (decodeChar_three rest hsize hsecond (isContinuation_continuation v)).trans ?_
    rw [joinCode_continuation, joinCode_continuation, toNat_ofNat hfirst, hjoin, hchar]
    rfl
  · have hfirst : v / 262144 % 8 + 0xF0 < 256 := by omega
    have hsize : charBytes (UInt8.ofNat (v / 262144 % 8 + 0xF0)) = 4 := by
      rw [charBytes_ofNat hfirst, if_neg (by omega), if_neg (by omega), if_neg (by omega),
        if_neg (by omega), if_pos (by omega)]
    have hsecond := isSecond_continuation (n := v / 4096) hfirst (by omega)
    have hjoin : (((v / 262144 % 8 + 0xF0 - 0xF0) * 64 + v / 4096 % 64) * 64 + v / 64 % 64) * 64 +
        v % 64 = v := by
      omega
    refine (decodeChar_four rest hsize hsecond (isContinuation_continuation (v / 64))
      (isContinuation_continuation v)).trans ?_
    rw [joinCode_continuation, joinCode_continuation, joinCode_continuation, toNat_ofNat hfirst,
      hjoin, hchar]
    rfl

/-! ### Texts -/

/-- The bytes of a character that are still to pass are passed. -/
theorem decodeFrom_length (position : Nat) (bytes rest : List UInt8) :
    decodeFrom position bytes.length (bytes ++ rest) = decodeFrom (position + bytes.length) 0 rest := by
  induction bytes generalizing position with
  | nil => rfl
  | cons b bytes ih =>
      have hposition : position + (b :: bytes).length = position + 1 + bytes.length := by
        rw [List.length_cons]
        omega
      rw [hposition]
      exact ih (position + 1)

theorem decodeFrom_utf8EncodeChar (position : Nat) (c : Char) (rest : List UInt8) :
    decodeFrom position 0 (String.utf8EncodeChar c ++ rest) =
      (decodeFrom (position + (String.utf8EncodeChar c).length) 0 rest).map (c :: ·) := by
  have hchar := decodeChar_utf8EncodeChar c rest
  obtain ⟨b, bytes, hbytes⟩ := List.exists_cons_of_ne_nil (String.utf8EncodeChar_ne_nil (c := c))
  rw [hbytes] at hchar ⊢
  have hposition : position + (b :: bytes).length = position + 1 + bytes.length := by
    rw [List.length_cons]
    omega
  rw [List.cons_append] at hchar ⊢
  rw [decodeFrom, hchar, hposition, ← decodeFrom_length]
  rfl

theorem decodeFrom_flatMap (position : Nat) (s : List Char) :
    decodeFrom position 0 (s.flatMap String.utf8EncodeChar) = .ok s := by
  induction s generalizing position with
  | nil => rfl
  | cons c s ih =>
      rw [List.flatMap_cons, decodeFrom_utf8EncodeChar, ih]
      rfl

/-- The UTF-8 of a text is read as the text. -/
theorem decode_toUTF8 (s : String) : decode s.toUTF8.toList = .ok s := by
  rw [decode, toList_toUTF8, decodeFrom_flatMap, Except.map, String.ofList_toList]

/-! ### Characters that come back -/

theorem firstLacking_eq_none {has : Char → Bool} {s : List Char} (h : ∀ c ∈ s, has c = true)
    (position : Nat) : firstLacking has position s = none := by
  induction s generalizing position with
  | nil => rfl
  | cons c s ih =>
      rw [List.forall_mem_cons] at h
      rw [firstLacking, if_pos h.1]
      exact ih h.2 (position + 1)

theorem universalNewlines_eq_self {s : List Char} (h : '\r' ∉ s) : universalNewlines s = s := by
  induction s with
  | nil => rfl
  | cons c s ih =>
      rw [List.mem_cons, not_or] at h
      rw [universalNewlines, ih h.2]
      · rintro r rfl
        exact absurd rfl h.1
      · rintro rfl
        exact absurd rfl h.1

/-- Whether a character is read from a file as it was written: it is no lone half, and no return,
which would be read as a newline. -/
def staysInFile (c : Char) : Bool := (half? c).isNone && c != '\r'

/-- A text of characters that come back is written as its UTF-8. -/
theorem encode_utf8 {s : String} (h : ∀ c ∈ s.toList, staysInFile c = true) :
    encode .utf8 s = .ok s.toUTF8.toList := by
  have hhas : ∀ c ∈ s.toList, Encoding.utf8.has c = true := fun c hc =>
    (Bool.and_eq_true_iff.1 (h c hc)).1
  rw [encode, firstLacking_eq_none hhas]
  rfl

theorem universalNewlines_of_stays {s : List Char} (h : ∀ c ∈ s, staysInFile c = true) :
    universalNewlines s = s :=
  universalNewlines_eq_self fun hr => absurd (h _ hr) (by decide)

end TouchProbe.Text
