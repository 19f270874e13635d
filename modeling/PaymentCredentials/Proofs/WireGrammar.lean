import Mathlib.Data.List.TakeWhile
import PaymentCredentials.Container
import PaymentCredentials.Proofs.Base64Text
import PaymentCredentials.Proofs.Numerals

/-!
Which texts are wire forms. The bytes of a wire form are cut at their first bar, which ends the expiry, since
no spelling of an integer holds one; the salt and the signature have fixed sizes, and the ciphertext is what
is left. The limits of the ciphertext and of the expiry bound the length of the text, so that the length that
is checked first refuses nothing that would be read.
-/
namespace PaymentCredentials.Container

/-- Bytes as they are laid out in a wire form: a spelling of the expiry, a bar, the salt, a signature of the size
asked for, and a ciphertext within the limit. -/
structure Frames (signatureSize : Nat) (limit : UInt64) (b : Bytes) (numeral : String) (c : Container) : Prop where
  bytes : b = utf8 numeral ++ separator :: (c.salt ++ c.signature ++ c.ciphertext)
  numeral_length : (utf8 numeral).length ≤ maxTimestampLength
  no_separator : separator ∉ utf8 numeral
  denotes : Decimal.Denotes numeral.toList c.timestamp.toInt
  signature : c.signature.length = signatureSize
  ciphertext : c.ciphertext.length ≤ maxCiphertextLength limit

section

variable {signatureSize : Nat} {limit : UInt64} {b : Bytes} {c : Container} {wire : String}

theorem separator_not_mem {numeral : String} {i : Int} (h : Decimal.Denotes numeral.toList i) :
    separator ∉ utf8 numeral := by
  intro hmem
  have hascii := h.ascii
  rw [← String.ofList_toList (s := numeral), utf8_ofList_ascii fun c hc => (hascii c hc).1] at hmem
  obtain ⟨c, hc, hbyte⟩ := List.mem_map.mp hmem
  have hvalue := congrArg UInt8.toNat hbyte
  rw [UInt8.toNat_ofNat_of_lt' (Nat.lt_trans (hascii c hc).1 (by decide))] at hvalue
  exact (hascii c hc).2 (Char.toNat_inj.mp hvalue)

/-- Bytes are cut at the first separator in one way only. -/
theorem append_separator_inj {front front' rest rest' : Bytes} (h : separator ∉ front)
    (h' : separator ∉ front') (happend : front ++ separator :: rest = front' ++ separator :: rest') :
    front = front' ∧ rest = rest' := by
  induction front generalizing front' with
  | nil =>
      cases front' with
      | nil => exact ⟨rfl, List.tail_eq_of_cons_eq happend⟩
      | cons b front' =>
          rw [List.head_eq_of_cons_eq happend] at h'
          exact absurd List.mem_cons_self h'
  | cons a front ih =>
      cases front' with
      | nil =>
          rw [← List.head_eq_of_cons_eq happend] at h
          exact absurd List.mem_cons_self h
      | cons b front' =>
          obtain ⟨hfirst, hmore⟩ := List.cons_eq_cons.mp happend
          obtain ⟨hfront, hrest⟩ := ih (fun hmem => h (List.mem_cons_of_mem _ hmem))
            (fun hmem => h' (List.mem_cons_of_mem _ hmem)) hmore
          exact ⟨by rw [hfirst, hfront], hrest⟩

theorem readTimestamp_eq_ok_iff {n : Int64} :
    readTimestamp b = .ok n ↔ ∃ numeral, b = utf8 numeral ∧ Decimal.Denotes numeral.toList n.toInt := by
  constructor
  · intro h
    unfold readTimestamp at h
    split at h
    · cases h
    · rename_i numeral hnumeral
      exact ⟨numeral, ofUtf8?_eq_some_iff.mp hnumeral, Decimal.readInt64_eq_ok_iff.mp (ok_of_mapError h)⟩
  · rintro ⟨numeral, rfl, hdenotes⟩
    rw [readTimestamp, ofUtf8?_utf8]
    exact (congrArg _ (Decimal.readInt64_eq_ok_iff.mpr hdenotes)).trans (mapError_ok _ _)

theorem readSealed_eq_ok_iff {timestamp : Int64} {rest : Bytes} :
    readSealed signatureSize limit timestamp rest = .ok c ↔
      c.timestamp = timestamp ∧ rest = c.salt ++ c.signature ++ c.ciphertext ∧
        c.signature.length = signatureSize ∧ c.ciphertext.length ≤ maxCiphertextLength limit := by
  constructor
  · intro h
    unfold readSealed at h
    split at h
    · cases h
    rename_i hlong
    dsimp only at h
    split at h
    · cases h
    rename_i hlimit
    obtain rfl := Except.ok.inj h
    refine ⟨rfl, ?_, ?_, Nat.le_of_not_lt hlimit⟩
    · rw [List.append_assoc, List.take_append_drop, List.take_append_drop]
    · rw [List.length_take, List.length_drop]
      omega
  · rintro ⟨rfl, rfl, rfl, hciphertext⟩
    have hsalt := c.salt_size
    have hdrop : (c.salt ++ c.signature ++ c.ciphertext).drop saltSize = c.signature ++ c.ciphertext := by
      rw [List.append_assoc, ← hsalt, List.drop_left]
    have htake : (c.salt ++ c.signature ++ c.ciphertext).take saltSize = c.salt := by
      rw [List.append_assoc, ← hsalt, List.take_left]
    rw [readSealed, dif_neg (by simp only [List.length_append]; omega)]
    simp only [hdrop, htake, List.drop_left, List.take_left]
    rw [if_neg (by omega)]

/-! ### Bytes -/

theorem ofBytes_of_not_mem (h : separator ∉ b) : ofBytes signatureSize limit b = .error .noSeparator := by
  have hdrop : b.dropWhile (· ≠ separator) = [] :=
    List.dropWhile_eq_nil_iff.mpr fun x hx => decide_eq_true fun heq => h (heq ▸ hx)
  simp only [ofBytes, hdrop]

theorem ofBytes_append {front rest : Bytes} (h : separator ∉ front) :
    ofBytes signatureSize limit (front ++ separator :: rest) =
      if maxTimestampLength < front.length then .error .noSeparator
      else readTimestamp front >>= fun timestamp => readSealed signatureSize limit timestamp rest := by
  have hfront : ∀ x ∈ front, decide (x ≠ separator) = true :=
    fun x hx => decide_eq_true fun heq => h (heq ▸ hx)
  have hstop : decide (separator ≠ separator) = false := decide_eq_false fun h => h rfl
  rw [ofBytes, List.dropWhile_append_of_pos hfront, List.takeWhile_append_of_pos hfront,
    List.dropWhile_cons_of_neg (by rw [hstop]; exact Bool.false_ne_true),
    List.takeWhile_cons_of_neg (by rw [hstop]; exact Bool.false_ne_true), List.append_nil]

/-- Bytes are read as a container just in case they are laid out as one. -/
theorem ofBytes_eq_ok_iff :
    ofBytes signatureSize limit b = .ok c ↔ ∃ numeral, Frames signatureSize limit b numeral c := by
  constructor
  · intro h
    by_cases hmem : separator ∈ b
    · obtain ⟨front, rest, rfl, hfront⟩ := List.eq_append_cons_of_mem hmem
      rw [ofBytes_append hfront] at h
      split at h
      · cases h
      rename_i hlength
      obtain ⟨timestamp, htimestamp, hsealed⟩ := ok_of_bind h
      obtain ⟨numeral, rfl, hdenotes⟩ := readTimestamp_eq_ok_iff.mp htimestamp
      obtain ⟨rfl, rfl, hsignature, hciphertext⟩ := readSealed_eq_ok_iff.mp hsealed
      exact ⟨numeral, rfl, Nat.le_of_not_lt hlength, hfront, hdenotes, hsignature, hciphertext⟩
    · rw [ofBytes_of_not_mem hmem] at h
      cases h
  · rintro ⟨numeral, h⟩
    rw [h.bytes, ofBytes_append h.no_separator, if_neg (Nat.not_lt_of_le h.numeral_length)]
    refine (bind_of_ok (readTimestamp_eq_ok_iff.mpr ⟨numeral, rfl, h.denotes⟩) _).trans ?_
    exact readSealed_eq_ok_iff.mpr ⟨rfl, rfl, h.signature, h.ciphertext⟩

/-! ### Texts -/

/-- A text of bytes that are laid out as a container is within the length that is checked first, as long as it has
the size of a text. -/
theorem Frames.utf8ByteSize_le {numeral : String} (h : Frames signatureSize limit b numeral c)
    (hsize : (Base64.encode b).utf8ByteSize ≤ maxSize) :
    (Base64.encode b).utf8ByteSize ≤ maxWireLength signatureSize limit := by
  have hnumeral := h.numeral_length
  have hsalt := c.salt_size
  have hsignature := h.signature
  have hciphertext := h.ciphertext
  have hbytes := congrArg List.length h.bytes
  simp only [List.length_append, List.length_cons] at hbytes
  rw [Base64.utf8ByteSize_encode] at hsize ⊢
  simp only [maxWireLength, maxCiphertextLength, Nat.le_min] at hciphertext ⊢
  omega

theorem maxWireLength_le_maxSize (signatureSize : Nat) (limit : UInt64) :
    maxWireLength signatureSize limit ≤ maxSize := Nat.min_le_right _ _

/-- The check of the length is of no matter to a text that has the size of one. -/
theorem ofWire_eq_ok_iff_ofBytes :
    ofWire signatureSize limit wire = .ok c ↔ (Text.trim wire).utf8ByteSize ≤ maxSize ∧
      ∃ b, Base64.decode? (Text.trim wire) = some b ∧ ofBytes signatureSize limit b = .ok c := by
  constructor
  · intro h
    simp only [ofWire] at h
    split at h
    · cases h
    rename_i hlength
    have hsize := Nat.le_trans (Nat.le_of_not_lt hlength) (maxWireLength_le_maxSize signatureSize limit)
    split at h
    · cases h
    · rename_i b hb
      exact ⟨hsize, b, hb, h⟩
  · rintro ⟨hsize, b, hb, h⟩
    have hlength : ¬ maxWireLength signatureSize limit < (Text.trim wire).utf8ByteSize := by
      obtain ⟨numeral, hframes⟩ := ofBytes_eq_ok_iff.mp h
      rw [Base64.decode?_eq_some_iff.mp hb] at hsize ⊢
      exact Nat.not_lt_of_le (hframes.utf8ByteSize_le hsize)
    simp only [ofWire, if_neg hlength, hb, h]

theorem ofWire_eq_ok_iff_frames :
    ofWire signatureSize limit wire = .ok c ↔ (Text.trim wire).utf8ByteSize ≤ maxSize ∧
      ∃ b numeral, Text.trim wire = Base64.encode b ∧ Frames signatureSize limit b numeral c := by
  rw [ofWire_eq_ok_iff_ofBytes]
  simp only [Base64.decode?_eq_some_iff, ofBytes_eq_ok_iff, exists_and_left]

end

/-- **Which texts are read as a container.** A text is read as a container just in case, without the blanks around
it, it is the base64 text of bytes that are laid out as this container. The size that every text has, a count
below the greatest, is the only other condition: the check of the length before anything is decoded refuses no
text that decodes to bytes that are read, whatever the limit. -/
theorem ofWire_eq_ok_iff (signatureSize : Nat) (limit : UInt64) (wire : String) (c : Container) :
    (ofWire signatureSize limit wire = .ok c ↔ (Text.trim wire).utf8ByteSize ≤ maxSize ∧
      ∃ b numeral, Text.trim wire = Base64.encode b ∧ Frames signatureSize limit b numeral c) ∧
    (ofWire signatureSize limit wire = .ok c ↔ (Text.trim wire).utf8ByteSize ≤ maxSize ∧
      ∃ b, Base64.decode? (Text.trim wire) = some b ∧ ofBytes signatureSize limit b = .ok c) :=
  ⟨ofWire_eq_ok_iff_frames, ofWire_eq_ok_iff_ofBytes⟩

end PaymentCredentials.Container
