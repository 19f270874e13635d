import PaymentCredentials.Bytes

/-!
The bytes of texts, character by character. Bytes are a text in one way at most, and what goes on from one
text to another is a text.
-/
namespace PaymentCredentials

theorem utf8_ofList (cs : List Char) : utf8 (String.ofList cs) = cs.flatMap String.utf8EncodeChar := by
  simp [utf8, List.utf8Encode]

theorem utf8_append (s t : String) : utf8 (s ++ t) = utf8 s ++ utf8 t := by
  simp [utf8]

theorem length_utf8 (s : String) : (utf8 s).length = s.utf8ByteSize := by
  simp [utf8]

/-- A character of ASCII is one byte. -/
theorem utf8EncodeChar_of_ascii {c : Char} (h : c.toNat < 128) :
    String.utf8EncodeChar c = [UInt8.ofNat c.toNat] := by
  have hc : c.val.toNat ≤ 0x7f := Nat.le_of_lt_succ h
  rw [String.utf8EncodeChar, if_pos hc]
  rfl

theorem utf8_ofList_ascii {cs : List Char} (h : ∀ c ∈ cs, c.toNat < 128) :
    utf8 (String.ofList cs) = cs.map fun c => UInt8.ofNat c.toNat := by
  rw [utf8_ofList]
  induction cs with
  | nil => rfl
  | cons c cs ih =>
      rw [List.flatMap_cons, List.map_cons, utf8EncodeChar_of_ascii (h c List.mem_cons_self),
        ih fun d hd => h d (List.mem_cons_of_mem _ hd)]
      rfl

theorem ofUtf8?_eq_some_iff {b : Bytes} {s : String} : ofUtf8? b = some s ↔ b = utf8 s := by
  constructor
  · intro h
    rw [ofUtf8?, String.fromUTF8?] at h
    split at h
    · obtain rfl := Option.some.inj h
      rfl
    · cases h
  · rintro rfl
    exact ofUtf8?_utf8 s

theorem isValidUTF8_utf8Encode_append_iff {cs : List Char} {b : ByteArray} :
    (cs.utf8Encode ++ b).IsValidUTF8 ↔ b.IsValidUTF8 := by
  induction cs with
  | nil => rw [List.utf8Encode_nil, ByteArray.empty_append]
  | cons c cs ih =>
      rw [List.utf8Encode_cons, ByteArray.append_assoc, ByteArray.isValidUTF8_utf8Encode_singleton_append_iff, ih]

/-- What follows the bytes of a text in those of a longer one is the bytes of a text. -/
theorem exists_append_of_utf8 {whole head : String} {tail : Bytes} (h : utf8 whole = utf8 head ++ tail) :
    ∃ rest, tail = utf8 rest ∧ whole = head ++ rest := by
  have hbytes : whole.toByteArray = head.toList.utf8Encode ++ ⟨tail.toArray⟩ := by
    apply ByteArray.ext
    apply Array.ext'
    simpa [utf8] using h
  have hvalid : ByteArray.IsValidUTF8 ⟨tail.toArray⟩ := by
    rw [← isValidUTF8_utf8Encode_append_iff, ← hbytes]
    exact whole.isValidUTF8
  have htail : tail = utf8 ⟨⟨tail.toArray⟩, hvalid⟩ := rfl
  refine ⟨_, htail, utf8_inj.mp ?_⟩
  rw [utf8_append, ← htail, h]

end PaymentCredentials
