/-
Texts as bytes: what the proofs need to know about UTF-8. A character of
ASCII is its own byte, and no other character has a byte of ASCII, so a
reader of bytes that looks for ASCII alone sees what a reader of
characters would see.

`RestAt` is the bridge between the two readers. It ties a byte offset to
the characters that are still to come there; offsets inside a character
are tied to nothing, so that to hold `RestAt` is to stand on a boundary.
-/
import Mathlib.Data.Nat.Bitwise
import Mathlib.Data.String.Basic

namespace FaultStatus.Text

open String (utf8EncodeChar utf8Len)

-- ====================================================== the leading byte

/-- The first byte of a character. -/
def leadByte (c : Char) : UInt8 :=
  (utf8EncodeChar c).head String.utf8EncodeChar_ne_nil

theorem utf8EncodeChar_eq_leadByte_cons (c : Char) :
    ∃ more, utf8EncodeChar c = leadByte c :: more :=
  ⟨(utf8EncodeChar c).tail, (List.cons_head_tail _).symm⟩

/-- A character of ASCII is one byte, its own number. -/
theorem utf8EncodeChar_ascii {c : Char} (h : c.toNat < 128) :
    utf8EncodeChar c = [UInt8.ofNat c.toNat] := by
  have hle : c.val.toNat ≤ 127 := Nat.le_of_lt_succ h
  rw [utf8EncodeChar, if_pos hle]
  rfl

theorem leadByte_ascii {c : Char} (h : c.toNat < 128) :
    (leadByte c).toNat = c.toNat := by
  have hhead : leadByte c = UInt8.ofNat c.toNat := by
    unfold leadByte
    simp [utf8EncodeChar_ascii h]
  rw [hhead, UInt8.toNat_ofNat']
  omega

/-- The bytes of any other character begin outside ASCII. -/
theorem leadByte_of_not_ascii {c : Char} (h : 128 ≤ c.toNat) :
    128 ≤ (leadByte c).toNat := by
  have hval : ¬ c.val.toNat ≤ 127 := by
    have : c.toNat = c.val.toNat := rfl
    omega
  unfold leadByte
  simp only [utf8EncodeChar, if_neg hval]
  split
  · simp
    omega
  · split <;> simp <;> omega

theorem utf8Size_ascii {c : Char} (h : c.toNat < 128) : c.utf8Size = 1 := by
  rw [← String.length_utf8EncodeChar, utf8EncodeChar_ascii h]
  rfl

/-- A text of ASCII has as many bytes as characters. -/
theorem utf8Len_ascii {cs : List Char} (h : ∀ c ∈ cs, c.toNat < 128) :
    utf8Len cs = cs.length := by
  induction cs with
  | nil => rfl
  | cons c cs ih =>
    rw [String.utf8Len_cons, utf8Size_ascii (h c List.mem_cons_self),
      ih fun d hd => h d (List.mem_cons_of_mem c hd), List.length_cons]

theorem size_utf8Encode (cs : List Char) :
    cs.utf8Encode.size = utf8Len cs := by
  rw [← String.toByteArray_ofList, String.size_toByteArray,
    String.utf8ByteSize_ofList]

-- =================================================== what is still ahead

/-- At byte `i` of the text a character begins, or the text ends, and `cs`
are the characters from there on. -/
def RestAt (text : String) (i : Nat) (cs : List Char) : Prop :=
  ∃ read, text.toList = read ++ cs ∧ utf8Len read = i

namespace RestAt

variable {text : String} {i : Nat} {c : Char} {cs : List Char}

theorem start (text : String) : RestAt text 0 text.toList :=
  ⟨[], rfl, rfl⟩

/-- Reading on by some characters moves the offset by their bytes. -/
theorem advance {front : List Char} (h : RestAt text i (front ++ cs)) :
    RestAt text (i + utf8Len front) cs := by
  obtain ⟨read, htext, hlen⟩ := h
  refine ⟨read ++ front, ?_, ?_⟩
  · rw [htext, List.append_assoc]
  · rw [String.utf8Len_append, hlen]

theorem advance_ascii (h : RestAt text i (c :: cs)) (hc : c.toNat < 128) :
    RestAt text (i + 1) cs := by
  have hsplit : RestAt text i ([c] ++ cs) := h
  have hnext := hsplit.advance
  rwa [String.utf8Len_cons, String.utf8Len_nil, utf8Size_ascii hc] at hnext

theorem size_eq (h : RestAt text i cs) :
    text.toByteArray.size = i + utf8Len cs := by
  obtain ⟨read, htext, hlen⟩ := h
  rw [String.size_toByteArray, ← String.utf8Len_toList, htext,
    String.utf8Len_append, hlen]

/-- Only at the end of the bytes nothing is ahead. -/
theorem lt_size_iff (h : RestAt text i cs) :
    i < text.toByteArray.size ↔ cs ≠ [] := by
  rw [h.size_eq, ne_eq, ← String.utf8Len_eq_zero]
  omega

/-- The byte ahead is the first one of the character ahead. -/
theorem getElem_eq (h : RestAt text i (c :: cs))
    (hi : i < text.toByteArray.size) :
    text.toByteArray[i] = leadByte c := by
  obtain ⟨read, htext, hlen⟩ := h
  obtain ⟨more, hmore⟩ := utf8EncodeChar_eq_leadByte_cons c
  have hbytes : text.toByteArray.data.toList
      = read.flatMap utf8EncodeChar
        ++ leadByte c :: (more ++ cs.flatMap utf8EncodeChar) := by
    rw [← String.utf8Encode_toList, htext, List.utf8Encode]
    simp [hmore]
  have hread : (read.flatMap utf8EncodeChar).length = i := by
    rw [← hlen, ← size_utf8Encode, List.utf8Encode]
    simp
  have hget : text.toByteArray.data.toList[i]? = some (leadByte c) := by
    rw [hbytes, List.getElem?_append_right (Nat.le_of_eq hread), hread,
      Nat.sub_self, List.getElem?_cons_zero]
  have hlt : i < text.toByteArray.data.toList.length := hi
  rw [List.getElem?_eq_getElem hlt] at hget
  exact Option.some.inj hget

/-- The characters between two boundaries, cut out by their offsets. -/
theorem extract_eq {front : List Char} (h : RestAt text i (front ++ cs)) :
    String.Pos.Raw.extract text ⟨i⟩ ⟨i + utf8Len front⟩
      = String.ofList front := by
  obtain ⟨read, htext, hlen⟩ := h
  have hcut := String.extract_of_valid read front cs
  rw [hlen, List.append_assoc, ← htext, String.ofList_toList] at hcut
  exact hcut

theorem isValid (h : RestAt text i cs) :
    (String.Pos.Raw.mk i).IsValid text := by
  obtain ⟨read, htext, hlen⟩ := h
  apply String.Pos.Raw.isValid_iff_exists_append.2
  refine ⟨String.ofList read, String.ofList cs, ?_, ?_⟩
  · rw [← String.ofList_append, ← htext, String.ofList_toList]
  · rw [← hlen, ← String.utf8ByteSize_ofList]
    rfl

end RestAt

-- ======================================================= byte boundaries

section Boundaries

variable {text : String} {i : Nat}

theorem exists_restAt_of_isValid
    (h : (String.Pos.Raw.mk i).IsValid text) : ∃ cs, RestAt text i cs := by
  obtain ⟨front, back, htext, hoff⟩ :=
    String.Pos.Raw.isValid_iff_exists_append.1 h
  refine ⟨back.toList, front.toList, ?_, ?_⟩
  · rw [htext, String.toList_append]
  · rw [String.utf8Len_toList]
    exact (congrArg String.Pos.Raw.byteIdx hoff).symm

/-- A byte of ASCII is never one within a character, but begins one. -/
theorem exists_restAt_of_ascii (hi : i < text.toByteArray.size)
    (h : text.toByteArray[i].toNat < 128) :
    ∃ c cs, RestAt text i (c :: cs) ∧ leadByte c = text.toByteArray[i] := by
  have hbit : text.toByteArray[i].toNat.testBit 7 = false :=
    Nat.testBit_lt_two_pow h
  have hfirst : text.toByteArray[i].IsUTF8FirstByte := by
    left
    apply UInt8.toNat_inj.1
    rw [UInt8.toNat_and]
    refine (Nat.and_two_pow _ 7).trans ?_
    rw [hbit]
    rfl
  have hvalid : (String.Pos.Raw.mk i).IsValid text :=
    String.Pos.Raw.isValid_iff_isUTF8FirstByte.2 (Or.inr ⟨hi, hfirst⟩)
  obtain ⟨cs, hrest⟩ := exists_restAt_of_isValid hvalid
  obtain ⟨c, cs, rfl⟩ := List.exists_cons_of_ne_nil (hrest.lt_size_iff.1 hi)
  exact ⟨c, cs, hrest, (hrest.getElem_eq hi).symm⟩

end Boundaries

end FaultStatus.Text
