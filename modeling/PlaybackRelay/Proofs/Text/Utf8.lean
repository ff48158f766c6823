import PlaybackRelay.Text.Utf8

/-!
Decoding gives back the characters that were encoded, with no piece left over between them. Main
statement: `decodeLossy_encode`.
-/
namespace PlaybackRelay.Text.Utf8

variable {b code left low high : Nat}

private theorem step_none_of_ascii (h : b < 0x80) :
    step none b = ([some (Char.ofNat b)], none) := by
  rw [step, start, if_pos h]

theorem step_none_of_begin? {begun : Begun} (hb : 0x80 ≤ b) (h : begin? b = some begun) :
    step none b = ([], some begun) := by
  rw [step, start, if_neg (by omega), h]

theorem step_last (hlow : low ≤ b) (hhigh : b ≤ high) :
    step (some ⟨code, 0, low, high⟩) b = ([some (Char.ofNat (64 * code + (b - 0x80)))], none) := by
  simp [step, hlow, hhigh]

theorem step_more (hlow : low ≤ b) (hhigh : b ≤ high) :
    step (some ⟨code, left + 1, low, high⟩) b =
      ([], some ⟨64 * code + (b - 0x80), left, 0x80, 0xBF⟩) := by
  simp [step, hlow, hhigh]

theorem pieces_ofNat (begun : Option Begun) (h : b < 256) (bs : List UInt8) :
    pieces begun (UInt8.ofNat b :: bs) = (step begun b).1 ++ pieces (step begun b).2 bs := by
  have hbyte : (UInt8.ofNat b).toNat = b := UInt8.toNat_ofNat_of_lt h
  cases begun <;> rw [pieces, hbyte]

private theorem begin?_two {v : Nat} (hv : 0x80 ≤ v) (hv' : v ≤ 0x7ff) :
    begin? (v / 64 % 32 + 192) = some ⟨v / 64, 0, 0x80, 0xBF⟩ := by
  have hfirst : v / 64 % 32 + 192 - 0xC0 = v / 64 := by omega
  rw [begin?, if_pos (by omega), hfirst]

/-- The second byte is within its bounds, since shorter forms and surrogates are ruled out. -/
theorem exists_begin?_three {v : Nat} (hv : 0x800 ≤ v) (hv' : v ≤ 0xffff)
    (hsurrogate : v < 0xd800 ∨ 0xdfff < v) :
    ∃ low high, begin? (v / 4096 % 16 + 224) = some ⟨v / 4096, 1, low, high⟩ ∧
      low ≤ v / 64 % 64 + 128 ∧ v / 64 % 64 + 128 ≤ high := by
  have hfirst : v / 4096 % 16 = v / 4096 := by omega
  rw [hfirst, begin?, if_neg (by omega)]
  by_cases hlong : v / 4096 = 0
  · refine ⟨0xA0, 0xBF, ?_, by omega, by omega⟩
    rw [hlong]
    rfl
  · rw [if_neg (by omega)]
    by_cases hnear : v / 4096 = 0xD
    · refine ⟨0x80, 0x9F, ?_, by omega, by omega⟩
      rw [hnear]
      rfl
    · refine ⟨0x80, 0xBF, ?_, by omega, by omega⟩
      rw [if_neg (by omega), if_pos (by omega), Nat.add_sub_cancel]

private theorem exists_begin?_four {v : Nat} (hv : 0x10000 ≤ v) (hv' : v < 0x110000) :
    ∃ low high, begin? (v / 262144 % 8 + 240) = some ⟨v / 262144, 2, low, high⟩ ∧
      low ≤ v / 4096 % 64 + 128 ∧ v / 4096 % 64 + 128 ≤ high := by
  have hfirst : v / 262144 % 8 = v / 262144 := by omega
  rw [hfirst, begin?, if_neg (by omega), if_neg (by omega), if_neg (by omega), if_neg (by omega)]
  by_cases hlong : v / 262144 = 0
  · refine ⟨0x90, 0xBF, ?_, by omega, by omega⟩
    rw [hlong]
    rfl
  · rw [if_neg (by omega)]
    by_cases hlast : v / 262144 = 4
    · refine ⟨0x80, 0x8F, ?_, by omega, by omega⟩
      rw [hlast]
      rfl
    · refine ⟨0x80, 0xBF, ?_, by omega, by omega⟩
      rw [if_pos (by omega), Nat.add_sub_cancel]

private theorem pieces_utf8EncodeChar (c : Char) (bs : List UInt8) :
    pieces none (String.utf8EncodeChar c ++ bs) = some c :: pieces none bs := by
  have hvalid : c.toNat < 0xd800 ∨ (0xdfff < c.toNat ∧ c.toNat < 0x110000) := c.valid
  have hchar : Char.ofNat c.toNat = c := Char.ofNat_toNat c
  have hval : c.val.toNat = c.toNat := rfl
  rw [String.utf8EncodeChar, hval]
  generalize c.toNat = v at hvalid hchar
  split
  · rw [List.singleton_append, pieces_ofNat none (by omega), step_none_of_ascii (by omega), hchar]
    rfl
  split
  · have hcode : 64 * (v / 64) + (v % 64 + 128 - 0x80) = v := by omega
    rw [List.cons_append, List.singleton_append, pieces_ofNat none (by omega),
      step_none_of_begin? (by omega) (begin?_two (by omega) (by omega)), pieces_ofNat _ (by omega),
      step_last (by omega) (by omega), hcode, hchar]
    rfl
  split
  · obtain ⟨low, high, hbegin, hlow, hhigh⟩ :=
      exists_begin?_three (v := v) (by omega) (by omega) (by omega)
    have hcode : 64 * (64 * (v / 4096) + (v / 64 % 64 + 128 - 0x80)) +
        (v % 64 + 128 - 0x80) = v := by
      omega
    rw [List.cons_append, List.cons_append, List.singleton_append, pieces_ofNat none (by omega),
      step_none_of_begin? (by omega) hbegin, pieces_ofNat _ (by omega), step_more hlow hhigh,
      pieces_ofNat _ (by omega), step_last (by omega) (by omega), hcode, hchar]
    rfl
  · obtain ⟨low, high, hbegin, hlow, hhigh⟩ := exists_begin?_four (v := v) (by omega) (by omega)
    have hcode : 64 * (64 * (64 * (v / 262144) + (v / 4096 % 64 + 128 - 0x80)) +
        (v / 64 % 64 + 128 - 0x80)) + (v % 64 + 128 - 0x80) = v := by
      omega
    rw [List.cons_append, List.cons_append, List.cons_append, List.singleton_append,
      pieces_ofNat none (by omega), step_none_of_begin? (by omega) hbegin,
      pieces_ofNat _ (by omega), step_more hlow hhigh, pieces_ofNat _ (by omega),
      step_more (by omega) (by omega), pieces_ofNat _ (by omega), step_last (by omega) (by omega),
      hcode, hchar]
    rfl

theorem pieces_encode (cs : List Char) : pieces none (encode cs) = cs.map some := by
  induction cs with
  | nil => rfl
  | cons c cs ih =>
    rw [encode, List.flatMap_cons, pieces_utf8EncodeChar, ← encode, ih, List.map_cons]

theorem decodeLossy_encode (cs : List Char) : decodeLossy (encode cs) = cs := by
  rw [decodeLossy, pieces_encode, List.map_map]
  exact List.map_id cs

/-- The kernel decodes the bytes of a long text faster than it lists its characters. -/
theorem toList_eq_decodeLossy (s : String) : s.toList = decodeLossy s.toByteArray.data.toList := by
  have hbytes : s.toByteArray.data.toList = encode s.toList := by
    rw [← String.utf8Encode_toList, List.utf8Encode, List.data_toByteArray, encode]
  rw [hbytes, decodeLossy_encode]

theorem encode_append (cs ds : List Char) : encode (cs ++ ds) = encode cs ++ encode ds := by
  simp [encode]

/-- The bytes of longer characters are no codes of shorter ones. -/
theorem toNat_of_mem_utf8EncodeChar (c : Char) :
    ∀ byte ∈ String.utf8EncodeChar c, byte.toNat = c.toNat ∨ 0x80 ≤ byte.toNat := by
  have hvalid : c.toNat < 0xd800 ∨ (0xdfff < c.toNat ∧ c.toNat < 0x110000) := c.valid
  have hval : c.val.toNat = c.toNat := rfl
  rw [String.utf8EncodeChar, hval]
  generalize c.toNat = v at hvalid
  repeat' split
  all_goals
    simp only [List.forall_mem_cons, List.not_mem_nil, false_implies, implies_true, and_true,
      UInt8.toNat_ofNat']
    omega

/-- A byte below the longer ones is the code of a character that was encoded. -/
theorem exists_mem_of_mem_encode {byte : UInt8} (hbyte : byte.toNat < 0x80) {cs : List Char}
    (h : byte ∈ encode cs) : ∃ c ∈ cs, c.toNat = byte.toNat := by
  obtain ⟨c, hc, hmem⟩ := List.mem_flatMap.1 h
  rcases toNat_of_mem_utf8EncodeChar c byte hmem with heq | hlong
  · exact ⟨c, hc, heq.symm⟩
  · omega

end PlaybackRelay.Text.Utf8
