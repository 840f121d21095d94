import FeatureAudit.Disk.Basic
import Mathlib.Tactic.SplitIfs

/-! Texts as paths: a text is got back from its bytes, and is shown as it is. -/
namespace FeatureAudit

variable {bits least greatest more n : Nat}

namespace Text

/-! Bytes. -/

theorem loop_toList (bs : ByteArray) (i : Nat) (r : List UInt8) :
    ByteArray.toList.loop bs i r = r.reverse ++ bs.data.toList.drop i := by
  fun_induction ByteArray.toList.loop bs i r with
  | case1 i r h ih =>
    have hi : i < bs.data.toList.length := by simpa using h
    have hget : bs.get! i = bs.data.toList[i] := by
      rw [show bs.get! i = bs.data[i]! from rfl, getElem!_pos bs.data i h, Array.getElem_toList]
    rw [ih, List.drop_eq_getElem_cons hi, hget]
    simp
  | case2 i r h =>
    have hlen : bs.data.toList.length ≤ i := by simpa using Nat.le_of_not_lt h
    rw [List.drop_eq_nil_of_le hlen, List.append_nil]

theorem fromUTF8?_toUTF8 (text : String) :
    String.fromUTF8? ⟨text.toUTF8.toList.toArray⟩ = some text := by
  have hbytes : (⟨text.toUTF8.toList.toArray⟩ : ByteArray) = text.toByteArray := by
    rw [ByteArray.toList, loop_toList]
    rfl
  rw [hbytes, String.fromUTF8?, dif_pos text.isValidUTF8]
  rfl

theorem toList_toUTF8 (text : String) :
    text.toUTF8.toList = text.toList.flatMap String.utf8EncodeChar := by
  have hbytes : text.toByteArray = text.toList.utf8Encode := by
    rw [← String.toByteArray_ofList, String.ofList_toList]
  rw [ByteArray.toList, loop_toList, String.toUTF8, hbytes, List.utf8Encode,
    List.toList_data_toByteArray]
  rfl

/-! Characters. -/

/-- A byte shows what it shows behind the others, and the rest goes on from what it leaves. -/
theorem showFrom_cons {p q : Option Pending} {cs : List Char} (hn : n < 256)
    (h : resume p n = (cs, q)) (r : List UInt8) :
    showFrom p (UInt8.ofNat n :: r) = cs ++ showFrom q r := by
  have hstep : showFrom p (UInt8.ofNat n :: r) =
      (resume p (UInt8.ofNat n).toNat).1 ++ showFrom (resume p (UInt8.ofNat n).toNat).2 r := by
    cases p <;> rfl
  have hbyte : (UInt8.ofNat n).toNat = n := UInt8.toNat_ofNat_of_lt hn
  rw [hstep, hbyte, h]

theorem resume_one (h : n ≤ 0x7f) : resume none n = ([Char.ofNat n], none) := if_pos h

theorem resume_two (h : 0xc2 ≤ n ∧ n ≤ 0xdf) :
    resume none n = ([], some ⟨n - 0xc0, 0x80, 0xbf, 0⟩) := by
  rw [resume, begin, if_neg (by omega), if_pos h]

theorem resume_three (h : 0xe0 ≤ n ∧ n ≤ 0xef) : resume none n = ([],
    some ⟨n - 0xe0, if n = 0xe0 then 0xa0 else 0x80, if n = 0xed then 0x9f else 0xbf, 1⟩) := by
  rw [resume, begin, if_neg (by omega), if_neg (by omega), if_pos h]

theorem resume_four (h : 0xf0 ≤ n ∧ n ≤ 0xf4) : resume none n = ([],
    some ⟨n - 0xf0, if n = 0xf0 then 0x90 else 0x80, if n = 0xf4 then 0x8f else 0xbf, 2⟩) := by
  rw [resume, begin, if_neg (by omega), if_neg (by omega), if_neg (by omega), if_pos h]

theorem resume_last (h : least ≤ n ∧ n ≤ greatest) :
    resume (some ⟨bits, least, greatest, 0⟩) n = ([Char.ofNat (64 * bits + (n - 0x80))], none) := by
  simp [resume, h]

theorem resume_more (h : least ≤ n ∧ n ≤ greatest) :
    resume (some ⟨bits, least, greatest, more + 1⟩) n =
      ([], some ⟨64 * bits + (n - 0x80), 0x80, 0xbf, more⟩) := by
  simp [resume, h]

/-- The bytes of a character show that character. -/
theorem showFrom_encode (c : Char) (r : List UInt8) :
    showFrom none (String.utf8EncodeChar c ++ r) = c :: showFrom none r := by
  have hvalid : c.val.toNat < 0xd800 ∨ 0xdfff < c.val.toNat ∧ c.val.toNat < 0x110000 := c.valid
  have hchar {n : Nat} (h : n = c.val.toNat) : Char.ofNat n = c := by
    rw [h]
    exact Char.ofNat_toNat c
  simp only [String.utf8EncodeChar]
  generalize c.val.toNat = v at hvalid hchar
  -- one case for each number of bytes
  split
  · next h =>
    simp only [List.cons_append, List.nil_append]
    rw [showFrom_cons (by omega) (resume_one h), hchar rfl]
    rfl
  split
  · next h =>
    simp only [List.cons_append, List.nil_append]
    rw [showFrom_cons (by omega) (resume_two (by omega)),
      showFrom_cons (by omega) (resume_last (by omega)), hchar (by omega)]
    rfl
  split
  · next h =>
    simp only [List.cons_append, List.nil_append]
    rw [showFrom_cons (by omega) (resume_three (by omega)),
      showFrom_cons (by omega) (resume_more (by split_ifs <;> omega)),
      showFrom_cons (by omega) (resume_last (by omega)), hchar (by omega)]
    rfl
  · simp only [List.cons_append, List.nil_append]
    rw [showFrom_cons (by omega) (resume_four (by omega)),
      showFrom_cons (by omega) (resume_more (by split_ifs <;> omega)),
      showFrom_cons (by omega) (resume_more (by omega)),
      showFrom_cons (by omega) (resume_last (by omega)), hchar (by omega)]
    rfl

/-- A text is shown as it is. -/
theorem ofBytes_toUTF8 (text : String) : ofBytes text.toUTF8.toList = text := by
  have hall : ∀ cs : List Char, showFrom none (cs.flatMap String.utf8EncodeChar) = cs := by
    intro cs
    induction cs with
    | nil => rfl
    | cons c cs ih => rw [List.flatMap_cons, showFrom_encode, ih]
  rw [ofBytes, toList_toUTF8, hall, String.ofList_toList]

end Text

namespace Disk.Path

/-! Paths. -/

theorem bytes_ofText (text : String) : (ofText text).bytes = text.toUTF8.toList :=
  (Text.loop_toList text.toUTF8 0 []).symm

theorem text?_ofText (text : String) : (ofText text).text? = some text := by
  rw [text?, bytes_ofText]
  exact Text.fromUTF8?_toUTF8 text

theorem text?_eq_some_iff {p : Path} {text : String} : p.text? = some text ↔ p = ofText text := by
  constructor
  · intro h
    rw [text?, String.fromUTF8?] at h
    split at h
    · obtain rfl := Option.some.inj h
      rfl
    · cases h
  · rintro rfl
    exact text?_ofText text

theorem shown_ofText (text : String) : (ofText text).shown = text := by
  rw [shown, bytes_ofText]
  exact Text.ofBytes_toUTF8 text

end Disk.Path
end FeatureAudit
