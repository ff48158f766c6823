import PlaybackRelay.Proofs.Text.Folding
import PlaybackRelay.Text.Word

/-!
Whatever counts as a letter in ASCII where case does not count is a word character.
-/
namespace PlaybackRelay.Text

/-- A set is read off the characters of its text, which need not be decoded for that. -/
theorem charSet_ofList (cs : List Char) : charSet (String.ofList cs) =
    (((splitAtChar ' ' (cs.map fun c => if c = '\n' then ' ' else c)).filter (!·.isEmpty)).map
      (Table.item fun _ => ())).toArray := by
  rw [charSet, Table.ofText, items, String.toList_ofList]

set_option maxRecDepth 50000 in
/-- The two characters beyond ASCII that stand for letters in ASCII. -/
theorem contains_wordTable :
    wordTable.contains 'ſ' = true ∧ wordTable.contains '\u212a' = true := by
  have hset : wordTable = charSet (String.ofList _) := rfl
  rw [hset, charSet_ofList]
  decide +kernel

theorem isWord_of_isAlpha {c : Char} (h : c.isAlpha = true) : isWord c = true := by
  have hbounds : c.toNat < 0x80 := by
    simp [Char.isAlpha, Char.isUpper, Char.isLower, UInt32.le_iff_toNat_le] at h
    omega
  rw [isWord, if_pos hbounds, isAsciiWord, Char.isAlphanum, h]
  rfl

theorem isWord_of_isLower_foldChar {c : Char} (h : (foldChar c).isLower = true) :
    isWord c = true := by
  by_cases hs : c = 'ſ'
  · rw [hs]
    exact contains_wordTable.1
  by_cases hk : c = '\u212a'
  · rw [hk]
    exact contains_wordTable.2
  rw [foldChar, if_neg hs, if_neg hk, Char.isLower_toLower_eq_isAlpha] at h
  exact isWord_of_isAlpha h

end PlaybackRelay.Text
