import Mathlib.Data.List.Basic
import Mathlib.Tactic.Common

/-!
# Framed bytes

A sequence of named contents is written as one byte string: the name, a zero byte, the decimal
length of the content, a zero byte, the content and a zero byte. Names without a zero byte make the
writing injective: the first zero byte ends the name, the next one ends the length, and the length
says where the content ends.
-/

namespace ByteFrames

/-! ## Texts -/

/-- The UTF-8 bytes of a text. -/
def encoded (text : String) : List UInt8 := text.toList.flatMap String.utf8EncodeChar

theorem toByteArray_encoded {text : String} : (encoded text).toByteArray = text.toByteArray := by
  rw [encoded, ← String.utf8Encode_toList, List.utf8Encode]

theorem encoded_injective : Function.Injective encoded := by
  intro text text' h
  apply String.toByteArray_inj.mp
  rw [← toByteArray_encoded, ← toByteArray_encoded, h]

/-- The byte of a small positive number is not zero. -/
theorem ofNat_ne_zero {n : Nat} (hpos : 0 < n) (hlt : n < 256) : (0 : UInt8) ≠ UInt8.ofNat n := by
  intro h
  have hn := congrArg UInt8.toNat h
  rw [UInt8.toNat_ofNat_of_lt' hlt] at hn
  exact absurd hn.symm (by simp; omega)

/-- Only the null character is encoded with a zero byte. -/
theorem zero_notMem_encodeChar {c : Char} (hc : c ≠ '\x00') : 0 ∉ String.utf8EncodeChar c := by
  have hpos : 0 < c.val.toNat := by
    refine Nat.pos_of_ne_zero fun h => hc ?_
    exact Char.ext (UInt32.toNat_inj.mp h)
  generalize hbytes : String.utf8EncodeChar c = bytes
  change (if c.val.toNat ≤ 0x7f then _ else _) = bytes at hbytes
  split_ifs at hbytes with h₁ h₂ h₃ <;> subst hbytes <;>
    simp only [List.mem_cons, List.not_mem_nil, or_false, not_or]
  · exact ofNat_ne_zero hpos (by omega)
  · exact ⟨ofNat_ne_zero (by omega) (by omega), ofNat_ne_zero (by omega) (by omega)⟩
  · exact ⟨ofNat_ne_zero (by omega) (by omega), ofNat_ne_zero (by omega) (by omega),
      ofNat_ne_zero (by omega) (by omega)⟩
  · exact ⟨ofNat_ne_zero (by omega) (by omega), ofNat_ne_zero (by omega) (by omega),
      ofNat_ne_zero (by omega) (by omega), ofNat_ne_zero (by omega) (by omega)⟩

theorem zero_notMem_encoded {text : String} (h : '\x00' ∉ text.toList) : 0 ∉ encoded text := by
  intro hzero
  obtain ⟨c, hc, hbyte⟩ := List.mem_flatMap.mp hzero
  exact zero_notMem_encodeChar (fun heq => h (heq ▸ hc)) hbyte

/-! ## Numbers -/

/-- The decimal digits of a number, as bytes. -/
def digits (n : Nat) : List UInt8 := encoded (toString n)

theorem toList_toString {n : Nat} : (toString n).toList = Nat.toDigits 10 n := Nat.toList_repr

theorem digits_injective : Function.Injective digits := by
  intro n n' h
  have htexts : (toString n).toList = (toString n').toList :=
    congrArg String.toList (encoded_injective h)
  rw [toList_toString, toList_toString] at htexts
  rw [← Nat.ofDigitChars_ten_toDigits (n := n), htexts, Nat.ofDigitChars_ten_toDigits]

theorem zero_notMem_digits {n : Nat} : 0 ∉ digits n := by
  refine zero_notMem_encoded fun hmem => ?_
  rw [toList_toString] at hmem
  have hdigit := Nat.isDigit_of_mem_toDigits (by decide) (by decide) hmem
  exact absurd hdigit (by decide)

/-! ## Frames -/

/-- One named content, with its length written before it. -/
def frame (name : List UInt8) (size : Nat) (content : List UInt8) : List UInt8 :=
  name ++ 0 :: (digits size ++ 0 :: (content ++ [0]))

/-- What stands before the first zero byte is read back. -/
theorem split_at_zero {a b x y : List UInt8} (ha : 0 ∉ a) (hb : 0 ∉ b)
    (h : a ++ 0 :: x = b ++ 0 :: y) : a = b ∧ x = y := by
  induction a generalizing b with
  | nil =>
    cases b with
    | nil => exact ⟨rfl, List.cons_injective h⟩
    | cons c b =>
      simp only [List.nil_append, List.cons_append, List.cons.injEq] at h
      exact absurd (h.1 ▸ List.mem_cons_self) hb
  | cons c a ih =>
    cases b with
    | nil =>
      simp only [List.nil_append, List.cons_append, List.cons.injEq] at h
      exact absurd (h.1 ▸ List.mem_cons_self) ha
    | cons d b =>
      simp only [List.mem_cons, not_or] at ha hb
      simp only [List.cons_append, List.cons.injEq] at h
      obtain ⟨rfl, hrest⟩ := h
      obtain ⟨rfl, hxy⟩ := ih ha.2 hb.2 hrest
      exact ⟨rfl, hxy⟩

variable {name name' content content' rest rest' : List UInt8}

/-- A frame with its true length is read back, and so is what follows it. -/
theorem frame_append_inj (hname : 0 ∉ name) (hname' : 0 ∉ name')
    (h : frame name content.length content ++ rest =
      frame name' content'.length content' ++ rest') :
    name = name' ∧ content = content' ∧ rest = rest' := by
  simp only [frame, List.append_assoc, List.cons_append, List.nil_append] at h
  obtain ⟨hnames, h⟩ := split_at_zero hname hname' h
  obtain ⟨hdigits, h⟩ := split_at_zero zero_notMem_digits zero_notMem_digits h
  obtain ⟨hcontent, hrest⟩ := List.append_inj h (digits_injective hdigits)
  exact ⟨hnames, hcontent, List.cons_injective hrest⟩

theorem frame_ne_nil {size : Nat} : frame name size content ≠ [] := by
  simp [frame]

/-- The frames of a sequence of named contents. -/
def frames (files : List (List UInt8 × List UInt8)) : List UInt8 :=
  files.flatMap fun file => frame file.1 file.2.length file.2

/-- A sequence of named contents is read back from its frames. -/
theorem frames_inj {files files' : List (List UInt8 × List UInt8)}
    (hfiles : ∀ file ∈ files, 0 ∉ file.1) (hfiles' : ∀ file ∈ files', 0 ∉ file.1)
    (h : frames files = frames files') : files = files' := by
  induction files generalizing files' with
  | nil =>
    cases files' with
    | nil => rfl
    | cons file' files' =>
      simp only [frames, List.flatMap_nil, List.flatMap_cons] at h
      exact absurd (List.append_eq_nil_iff.mp h.symm).1 frame_ne_nil
  | cons file files ih =>
    cases files' with
    | nil =>
      simp only [frames, List.flatMap_nil, List.flatMap_cons] at h
      exact absurd (List.append_eq_nil_iff.mp h).1 frame_ne_nil
    | cons file' files' =>
      rw [List.forall_mem_cons] at hfiles hfiles'
      simp only [frames, List.flatMap_cons] at h
      obtain ⟨hname, hcontent, hrest⟩ := frame_append_inj hfiles.1 hfiles'.1 h
      rw [Prod.ext hname hcontent, ih hfiles.2 hfiles'.2 hrest]

end ByteFrames
