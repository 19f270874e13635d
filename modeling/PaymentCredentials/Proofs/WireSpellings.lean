import PaymentCredentials.Proofs.ContainerMac

/-!
The spellings of a container. A text that is read as a container says everything in one way but the expiry,
which is read as any integer is: with a plus sign, or with zeros in front, it is another text for the same
container, under the same signature. Only the plain one is written, and it is the only plain one.
-/
namespace PaymentCredentials

namespace Container

/-- The text of a container with a spelling of its expiry. -/
def spelledWith (c : Container) (numeral : String) : String :=
  Base64.encode (utf8 numeral ++ separator :: (c.salt ++ c.signature ++ c.ciphertext))

/-- Without the blanks around it, the text is the base64 text of bytes that begin with an integer spelled
plainly and a bar. -/
def PlainlyDated (wire : String) : Prop :=
  ∃ numeral rest, Text.trim wire = Base64.encode (utf8 numeral ++ separator :: rest) ∧
    Decimal.Plain numeral.toList

section

variable {signatureSize : Nat} {limit : UInt64} {b : Bytes} {numeral wire : String} {c : Container}

theorem toWire_eq_spelledWith (c : Container) :
    c.toWire = c.spelledWith (Decimal.ofInt c.timestamp.toInt) := by
  simp only [toWire, toBytes, spelledWith, List.append_assoc, List.cons_append]

/-- A container is read from its text with any spelling of the expiry that is not too long. -/
theorem ofWire_spelledWith (c : Container) (hdenotes : Decimal.Denotes numeral.toList c.timestamp.toInt)
    (hlength : (utf8 numeral).length ≤ maxTimestampLength)
    (hciphertext : c.ciphertext.length ≤ maxCiphertextLength limit)
    (hsize : (c.spelledWith numeral).utf8ByteSize ≤ maxSize) :
    ofWire c.signature.length limit (c.spelledWith numeral) = .ok c := by
  have htrim : Text.trim (c.spelledWith numeral) = c.spelledWith numeral := Base64.trim_encode _
  rw [ofWire_eq_ok_iff_frames, htrim]
  exact ⟨hsize, _, numeral, rfl, rfl, hlength, separator_not_mem hdenotes, hdenotes, rfl, hciphertext⟩

theorem Frames.encode_eq_spelledWith (h : Frames signatureSize limit b numeral c) :
    Base64.encode b = c.spelledWith numeral := congrArg Base64.encode h.bytes

theorem spelledWith_inj {numeral' : String} :
    c.spelledWith numeral = c.spelledWith numeral' ↔ numeral = numeral' := by
  constructor
  · intro h
    exact utf8_inj.mp (List.append_cancel_right (Base64.encode_inj.mp h))
  · exact congrArg c.spelledWith

/-- The text that is written is the one that is read just in case it spells the expiry plainly. -/
theorem Frames.toWire_eq_iff (h : Frames signatureSize limit b numeral c) :
    c.toWire = Base64.encode b ↔ Decimal.Plain numeral.toList := by
  rw [h.encode_eq_spelledWith, toWire_eq_spelledWith, spelledWith_inj, h.denotes.plain_iff, eq_comm,
    ← String.toList_inj, Decimal.ofInt, String.toList_ofList]

theorem Frames.plainlyDated_iff (h : Frames signatureSize limit b numeral c)
    (hwire : Text.trim wire = Base64.encode b) : PlainlyDated wire ↔ Decimal.Plain numeral.toList := by
  constructor
  · rintro ⟨numeral', rest, hspelled, hplain⟩
    obtain ⟨i, hdenotes⟩ := hplain.denotes
    rw [hwire, h.bytes, Base64.encode_inj] at hspelled
    obtain ⟨hnumeral, -⟩ := append_separator_inj h.no_separator (separator_not_mem hdenotes) hspelled
    rwa [utf8_inj.mp hnumeral]
  · intro hplain
    exact ⟨numeral, _, by rw [hwire, h.bytes], hplain⟩

/-- What is written is no longer than what has been read. -/
theorem Frames.utf8ByteSize_toWire_le (h : Frames signatureSize limit b numeral c) :
    c.toWire.utf8ByteSize ≤ (Base64.encode b).utf8ByteSize := by
  have hnumeral := h.denotes.length_numeral_le
  have hascii : (utf8 numeral).length = numeral.toList.length := by
    rw [← String.ofList_toList (s := numeral), utf8_ofList_ascii fun c hc => (h.denotes.ascii c hc).1,
      List.length_map, String.toList_ofList]
  rw [toWire, Base64.utf8ByteSize_encode, Base64.utf8ByteSize_encode, h.bytes]
  simp only [toBytes, Decimal.utf8_ofInt, List.length_append, List.length_cons, List.length_map, hascii]
  omega

end

end Container

namespace Authorization

variable {a b : Authorization} {wire : String}

theorem exists_frames_of_readWire (h : a.readWire wire = .ok b) :
    (Text.trim wire).utf8ByteSize ≤ Container.maxSize ∧
      ∃ bytes numeral, Text.trim wire = Base64.encode bytes ∧
        Container.Frames a.hash.outputSize a.maxMessageSize bytes numeral b.container ∧
        b = { a with container := b.container, claims := .empty } := by
  obtain ⟨c, hframed, rfl⟩ := readWire_eq_ok_iff.mp h
  obtain ⟨hsize, bytes, numeral, hwire, hframes⟩ := Container.ofWire_eq_ok_iff_frames.mp hframed
  exact ⟨hsize, bytes, numeral, hwire, hframes, rfl⟩

theorem toWire_eq_trim_iff (h : a.readWire wire = .ok b) :
    b.toWire = Text.trim wire ↔ Container.PlainlyDated wire := by
  obtain ⟨-, bytes, numeral, hwire, hframes, -⟩ := exists_frames_of_readWire h
  rw [hframes.plainlyDated_iff hwire, hwire]
  exact hframes.toWire_eq_iff

/-- What has been read is written as a text that is read again, as the same. -/
theorem readWire_toWire_of_readWire (h : a.readWire wire = .ok b) : a.readWire b.toWire = .ok b := by
  obtain ⟨hsize, bytes, numeral, hwire, hframes, hb⟩ := exists_frames_of_readWire h
  have hciphertext := (Nat.le_min.mp hframes.ciphertext).1
  rw [hwire] at hsize
  have hread := Container.ofWire_toWire b.container hciphertext
    (Nat.le_trans hframes.utf8ByteSize_toWire_le hsize)
  rw [hframes.signature] at hread
  exact readWire_eq_ok_iff.mpr ⟨b.container, hread, hb⟩

/-- **The wire form is unique among plain ones.** A text that is read is the wire form of what it is read as just
in case it spells the expiry plainly. Otherwise writing makes it plain, and the plain text is read as the
same. Two texts that are read as one container, under whatever hashes and limits, are one text but for the
blanks around them when both spell the expiry plainly. -/
theorem toWire_eq_iff_plainlyDated (h : a.readWire wire = .ok b) :
    (b.toWire = Text.trim wire ↔ Container.PlainlyDated wire) ∧
      a.readWire b.toWire = .ok b ∧
      ∀ (a' b' : Authorization) (wire' : String), a'.readWire wire' = .ok b' → b'.container = b.container →
        Container.PlainlyDated wire → Container.PlainlyDated wire' → Text.trim wire' = Text.trim wire := by
  refine ⟨toWire_eq_trim_iff h, readWire_toWire_of_readWire h, ?_⟩
  intro a' b' wire' h' hcontainer hplain hplain'
  calc Text.trim wire' = b'.toWire := ((toWire_eq_trim_iff h').mpr hplain').symm
    _ = b.toWire := congrArg Container.toWire hcontainer
    _ = Text.trim wire := (toWire_eq_trim_iff h).mpr hplain

/-- A sealed authorization, signed with the key that signs `lender`. -/
def dated : Authorization :=
  { new .sha256 4096 with
    container := ⟨1700000000, [65, 66, 67, 68, 69, 70, 71, 72],
      [81, 90, 26, 63, 241, 162, 55, 151, 154, 124, 35, 219, 9, 157, 188, 47, 152, 77, 134, 111, 147, 203, 138,
        140, 39, 112, 223, 59, 179, 82, 213, 95],
      [0, 1, 2, 3, 4, 5, 6, 7, 8, 9, 10, 11, 12, 13, 14, 15, 16, 17, 18, 19, 20, 21, 22, 23], rfl⟩ }

/-- The same with a plus sign in front of its expiry. -/
def datedWithPlus : String := dated.container.spelledWith "+1700000000"

theorem readWire_datedWithPlus : (new .sha256 4096).readWire datedWithPlus = .ok dated := by
  have hdenotes : Decimal.Denotes "+1700000000".toList dated.container.timestamp.toInt :=
    Decimal.readInt64_eq_ok_iff.mp (by decide +kernel)
  have hread : Container.ofWire 32 4096 datedWithPlus = .ok dated.container :=
    Container.ofWire_spelledWith dated.container hdenotes (by decide +kernel) (by decide +kernel) (by
      rw [Container.spelledWith, Base64.utf8ByteSize_encode]
      decide +kernel)
  exact readWire_of_ofWire hread

theorem toWire_dated_ne : dated.toWire ≠ Text.trim datedWithPlus := by
  have htrim : Text.trim datedWithPlus = datedWithPlus := Base64.trim_encode _
  rw [htrim, toWire, Container.toWire_eq_spelledWith, datedWithPlus, Ne, Container.spelledWith_inj]
  decide +kernel

/-- A second spelling under the same signature: two texts without blanks around them that are read as one
container, which the key of its signature accepts. -/
theorem spelled_twice :
    (new .sha256 4096).readWire dated.toWire = .ok dated ∧
      (new .sha256 4096).readWire datedWithPlus = .ok dated ∧
      Text.trim datedWithPlus ≠ Text.trim dated.toWire ∧ dated.toWire ≠ Text.trim datedWithPlus ∧
      isAuthentic dated lendingKey = .ok true := by
  have htrim : Text.trim dated.toWire = dated.toWire := Base64.trim_encode _
  have hauthentic : sameBytes (hmac .sha256 lendingKey dated.message) dated.container.signature = true := by
    decide +kernel
  refine ⟨readWire_toWire_of_readWire readWire_datedWithPlus, readWire_datedWithPlus, ?_, toWire_dated_ne, ?_⟩
  · rw [htrim]
    exact toWire_dated_ne.symm
  · exact congrArg Except.ok hauthentic

/-- Of the two spellings the one that is written is plain and the other is not, and no further text without
blanks around it is a plain spelling of the container. -/
theorem toWire_eq_iff_plainlyDated_dated :
    (new .sha256 4096).readWire datedWithPlus = .ok dated ∧ (new .sha256 4096).readWire dated.toWire = .ok dated ∧
      ¬ Container.PlainlyDated datedWithPlus ∧ Container.PlainlyDated dated.toWire ∧
      ∀ (a' b' : Authorization) (wire' : String), a'.readWire wire' = .ok b' →
        b'.container = dated.container → Container.PlainlyDated wire' →
          Text.trim wire' = Text.trim dated.toWire := by
  have htrim : Text.trim dated.toWire = dated.toWire := Base64.trim_encode _
  obtain ⟨hplus, hread, -⟩ := toWire_eq_iff_plainlyDated readWire_datedWithPlus
  obtain ⟨hplain, -, hunique⟩ := toWire_eq_iff_plainlyDated hread
  have hdated := hplain.mp htrim.symm
  refine ⟨readWire_datedWithPlus, hread, ?_, hdated, ?_⟩
  · intro h
    exact toWire_dated_ne (hplus.mpr h)
  · intro a' b' wire' h' hcontainer
    exact hunique a' b' wire' h' hcontainer hdated

end Authorization

end PaymentCredentials
