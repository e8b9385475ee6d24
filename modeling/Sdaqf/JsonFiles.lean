import Sdaqf.Payloads

/-!
# Bounded JSON files

A file is a text of a bounded number of bytes. Its reader refuses a text that is no JSON value, a
value with a repeated key and a value that is too deep or has too many values inside. A printed
value is read back exactly if its text and the value keep these bounds.
-/

namespace Sdaqf

open Guard
open JsonText (Value)

/-- The number of bytes of a text in UTF-8. -/
def byteLength (content : List Char) : Nat := (content.map Char.utf8Size).sum

/-- Bound decoded JSON depth and node count. -/
def validateJsonStructure (value : Value) (label : String) : Except String Unit :=
  require (JsonText.Shallow 64 value ∧ (JsonText.within 0 value).length ≤ 10000)
    (label ++ " exceeds the JSON structure limit.")

/-- Parse one immutable bounded UTF-8 JSON value with strict keys. -/
def parseJsonBytes (content : List Char) (label : String) (maximumBytes : Nat) :
    Except String Value := do
  require (byteLength content ≤ maximumBytes) (label ++ " exceeds the size limit.")
  let decoded ← fromOption (JsonText.loads content) (label ++ " could not be read.")
  require (JsonText.Strict decoded) (label ++ " contains a duplicate JSON key.")
  validateJsonStructure decoded label
  return decoded

variable {content : List Char} {label : String} {maximumBytes : Nat} {value : Value}

theorem parseJsonBytes_eq_ok :
    parseJsonBytes content label maximumBytes = .ok value ↔ byteLength content ≤ maximumBytes ∧
      JsonText.loads content = some value ∧ JsonText.Strict value ∧ JsonText.Shallow 64 value ∧
      (JsonText.within 0 value).length ≤ 10000 := by
  simp only [parseJsonBytes, validateJsonStructure, bind_eq_ok, pure_eq_ok, require_eq_ok,
    exists_unit, fromOption_eq_ok]
  constructor
  · rintro ⟨hbytes, _, hloads, hstrict, hshape, rfl⟩
    exact ⟨hbytes, hloads, hstrict, hshape⟩
  · rintro ⟨hbytes, hloads, hstrict, hshape⟩
    exact ⟨hbytes, value, hloads, hstrict, hshape, rfl⟩

theorem byteLength_of_ascii (h : JsonText.Ascii content) : byteLength content = content.length := by
  induction content with
  | nil => rfl
  | cons c content ih =>
    obtain ⟨hc, hcontent⟩ := List.forall_mem_cons.mp h
    have hsize : c.utf8Size = 1 := by
      have hle : c.val ≤ 0x7f := by
        rw [UInt32.le_iff_toNat_le]
        exact Nat.le_of_lt_succ hc
      simp [Char.utf8Size, hle]
    have hrest := ih hcontent
    rw [byteLength] at hrest ⊢
    rw [List.map_cons, List.sum_cons, hrest, hsize, List.length_cons, Nat.add_comm]

/-- The text that the writers of the stores print: indented, with a line end. -/
def printed (value : Value) : List Char := JsonText.dumps JsonText.indented 0 value ++ ['\n']

theorem byteLength_printed : byteLength (printed value) = (printed value).length :=
  byteLength_of_ascii ((JsonText.ascii_dumps value 0).append (by decide))

theorem loads_printed : JsonText.loads (printed value) = some value :=
  JsonText.loads_dumps (by decide)

/-- What a printed value must satisfy to be read back. -/
structure Fits (maximumBytes : Nat) (value : Value) : Prop where
  bytes : (printed value).length ≤ maximumBytes
  nodes : (JsonText.within 0 value).length ≤ 10000

instance {maximumBytes : Nat} {value : Value} : Decidable (Fits maximumBytes value) :=
  decidable_of_iff ((printed value).length ≤ maximumBytes ∧
      (JsonText.within 0 value).length ≤ 10000)
    ⟨fun h => ⟨h.1, h.2⟩, fun h => ⟨h.bytes, h.nodes⟩⟩

theorem parseJsonBytes_printed (hstrict : JsonText.Strict value)
    (hshallow : JsonText.Shallow 64 value) :
    parseJsonBytes (printed value) label maximumBytes = .ok value ↔ Fits maximumBytes value := by
  rw [parseJsonBytes_eq_ok, byteLength_printed]
  constructor
  · rintro ⟨hbytes, -, -, -, hnodes⟩
    exact ⟨hbytes, hnodes⟩
  · rintro ⟨hbytes, hnodes⟩
    exact ⟨hbytes, loads_printed, hstrict, hshallow, hnodes⟩

end Sdaqf
