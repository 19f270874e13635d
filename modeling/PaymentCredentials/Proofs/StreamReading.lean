import PaymentCredentials.Proofs.WireSpellings

/-!
Authorizations read from byte streams. A stream is cut one byte behind the longest wire form, and what is left
of it is read as a text. That agrees with reading the whole stream as a text as long as nothing but blanks is
cut off; what makes room for more within the cut is blanks as well.
-/
namespace PaymentCredentials

namespace Container

section

variable {signatureSize : Nat} {limit : UInt64} {b b' : Bytes} {numeral numeral' : String} {c : Container}

theorem Frames.digits_ne_nil (h : Frames signatureSize limit b numeral c) : Base64.digits b ≠ [] := by
  intro hnil
  have hbytes := congrArg List.length h.bytes
  have hlength := Base64.length_digits b
  rw [hnil, List.length_nil] at hlength
  rw [List.length_append, List.length_cons] at hbytes
  omega

/-- Bytes do not go on from one layout of a container to another: what is behind the expiry is the same in both. -/
theorem Frames.eq_of_prefix (h : Frames signatureSize limit b numeral c)
    (h' : Frames signatureSize limit b' numeral' c) (hgoes : b <+: b') : b = b' := by
  obtain ⟨more, hmore⟩ := hgoes
  have happend := hmore
  rw [h.bytes, h'.bytes, List.append_assoc, List.cons_append] at happend
  obtain ⟨-, hrest⟩ := append_separator_inj h.no_separator h'.no_separator happend
  rw [← hmore, List.append_right_eq_self.mp hrest, List.append_nil]

end

end Container

namespace Authorization

theorem readWire_congr (a : Authorization) {wire wire' : String} (h : Text.trim wire = Text.trim wire') :
    a.readWire wire = a.readWire wire' := by
  simp only [readWire, Container.ofWire, h]

/-- Where a text and its beginning are read as the same, the rest of it is blanks. -/
theorem blank_of_readWire_append {a b : Authorization} {front rest : String} (h : a.readWire front = .ok b)
    (h' : a.readWire (front ++ rest) = .ok b) : ∀ c ∈ rest.toList, Text.isBlank c = true := by
  obtain ⟨-, bytes, numeral, hwire, hframes, -⟩ := exists_frames_of_readWire h
  obtain ⟨-, bytes', numeral', hwire', hframes', -⟩ := exists_frames_of_readWire h'
  obtain ⟨lead, trail, hlead, -, hfront⟩ := Text.exists_blanks_trim front
  obtain ⟨lead', trail', hlead', htrail', hwhole⟩ := Text.exists_blanks_trim (front ++ rest)
  have hprinted : ∀ b : Bytes, ∀ c ∈ Base64.digits b, Text.isBlank c = false :=
    fun _ _ hc => (Base64.printed_of_mem_digits hc).2
  rw [hwire, Base64.encode, String.toList_ofList] at hfront
  rw [hwire', Base64.encode, String.toList_ofList, String.toList_append, hfront] at hwhole
  -- both texts begin with the same blanks
  have hbehind : Base64.digits bytes ++ (trail ++ rest.toList) = Base64.digits bytes' ++ trail' := by
    have hstart := congrArg Text.trimStart hwhole
    rwa [List.append_assoc, List.append_assoc, Text.trimStart_blanks_append hlead,
      Text.trimStart_append hframes.digits_ne_nil (hprinted bytes), Text.trimStart_blanks_append hlead',
      Text.trimStart_append hframes'.digits_ne_nil (hprinted bytes')] at hstart
  rcases List.append_eq_append_iff.mp hbehind with ⟨more, hdigits, hrest⟩ | ⟨more, -, hrest⟩
  -- the digits of the whole go on from those of its beginning, so its bytes do, and there are no more of them
  · have hdecoded : Base64.ofDigits? (Base64.digits bytes ++ more) = some bytes' := by
      rw [← hdigits]
      exact Base64.ofDigits?_digits bytes'
    have hbytes := hframes.eq_of_prefix hframes' (Base64.prefix_of_ofDigits?_append hdecoded)
    rw [hbytes] at hdigits
    rw [List.append_right_eq_self.mp hdigits.symm, List.nil_append] at hrest
    intro c hc
    exact htrail' c (hrest ▸ List.mem_append_right trail hc)
  · intro c hc
    apply htrail'
    rw [hrest]
    exact List.mem_append_right more (List.mem_append_right trail hc)

/-- The longest wire form of an authorization that is read from a stream. -/
def streamLimit (hash : HashAlgorithm) : Nat := Container.maxWireLength hash.outputSize defaultMaxMessageSize

section

variable {hash : HashAlgorithm} {stream : Bytes} {a : Authorization}

theorem readStream_eq_ok_iff : readStream hash stream = .ok a ↔
    ∃ front, stream.take (streamLimit hash + 1) = utf8 front ∧
      (new hash defaultMaxMessageSize).readWire front = .ok a := by
  constructor
  · intro h
    unfold readStream at h
    dsimp only at h
    split at h
    · cases h
    · rename_i front hfront
      exact ⟨front, ofUtf8?_eq_some_iff.mp hfront, h⟩
  · rintro ⟨front, htake, h⟩
    have hfront : ofUtf8? (stream.take (Container.maxWireLength hash.outputSize defaultMaxMessageSize + 1)) =
        some front := ofUtf8?_eq_some_iff.mpr htake
    simp only [readStream, hfront, h]

/-- The whole of a stream that is read is read as the same just in case what is cut off is blanks. -/
theorem exists_whole_iff (h : readStream hash stream = .ok a) :
    (∃ whole, stream = utf8 whole ∧ (new hash defaultMaxMessageSize).readWire whole = .ok a) ↔
      ∃ rest, stream.drop (streamLimit hash + 1) = utf8 rest ∧ ∀ c ∈ rest.toList, Text.isBlank c = true := by
  obtain ⟨front, htake, hfront⟩ := readStream_eq_ok_iff.mp h
  have hstream : utf8 front ++ stream.drop (streamLimit hash + 1) = stream := by
    rw [← htake, List.take_append_drop]
  constructor
  · rintro ⟨whole, rfl, hwhole⟩
    obtain ⟨rest, hrest, rfl⟩ := exists_append_of_utf8 hstream.symm
    exact ⟨rest, hrest, blank_of_readWire_append hfront hwhole⟩
  · rintro ⟨rest, hrest, hblank⟩
    refine ⟨front ++ rest, ?_, ?_⟩
    · rw [utf8_append, ← hrest, hstream]
    · rw [readWire_congr _ (Text.trim_append_blanks hblank)]
      exact hfront

/-- What is read of a stream that is longer than the limit is too long itself, but for the blanks around it. -/
theorem exists_front_of_lt_length (h : readStream hash stream = .ok a) (hlong : streamLimit hash < stream.length) :
    ∃ front, stream.take (streamLimit hash + 1) = utf8 front ∧ Text.trim front ≠ front := by
  obtain ⟨front, htake, hfront⟩ := readStream_eq_ok_iff.mp h
  refine ⟨front, htake, ?_⟩
  intro htrim
  obtain ⟨hsize, bytes, numeral, hwire, hframes, -⟩ := exists_frames_of_readWire hfront
  rw [hwire] at hsize
  have hle : (Base64.encode bytes).utf8ByteSize ≤ streamLimit hash := hframes.utf8ByteSize_le hsize
  have hlength := congrArg List.length htake
  rw [length_utf8, ← htrim, hwire, List.length_take, Nat.min_eq_left hlong] at hlength
  omega

/-- **Reading a stream and reading a text.** A stream that is read is a text that is read as the same, all of it,
just in case nothing but blanks stands behind the place where it is cut. A stream that goes on beyond the
longest wire form is read only if there are blanks around what is left of it. -/
theorem readStream_agrees_iff (h : readStream hash stream = .ok a) :
    ((∃ whole, stream = utf8 whole ∧ (new hash defaultMaxMessageSize).readWire whole = .ok a) ↔
      ∃ rest, stream.drop (streamLimit hash + 1) = utf8 rest ∧ ∀ c ∈ rest.toList, Text.isBlank c = true) ∧
    (streamLimit hash < stream.length →
      ∃ front, stream.take (streamLimit hash + 1) = utf8 front ∧ Text.trim front ≠ front) :=
  ⟨exists_whole_iff h, exists_front_of_lt_length h⟩

end

/-! ### Containers cut out of streams -/

def spaces (n : Nat) : String := String.ofList (List.replicate n ' ')

theorem blank_of_mem_spaces {n : Nat} : ∀ c ∈ (spaces n).toList, Text.isBlank c = true := by
  intro c hc
  rw [spaces, String.toList_ofList] at hc
  rw [List.eq_of_mem_replicate hc]
  decide

theorem length_utf8_spaces (n : Nat) : (utf8 (spaces n)).length = n := by
  have hascii : ∀ c ∈ List.replicate n ' ', c.toNat < 128 := by
    intro c hc
    rw [List.eq_of_mem_replicate hc]
    decide
  rw [spaces, utf8_ofList_ascii hascii, List.length_map, List.length_replicate]

/-- A text with spaces up to the place where the stream is cut, and something behind it. -/
def padded (hash : HashAlgorithm) (wire : String) (behind : Bytes) : Bytes :=
  utf8 (wire ++ spaces (streamLimit hash + 1 - wire.utf8ByteSize)) ++ behind

section

variable {hash : HashAlgorithm} {wire : String} (hsize : wire.utf8ByteSize ≤ streamLimit hash + 1)

include hsize

theorem length_front_padded :
    (utf8 (wire ++ spaces (streamLimit hash + 1 - wire.utf8ByteSize))).length = streamLimit hash + 1 := by
  rw [utf8_append, List.length_append, length_utf8, length_utf8_spaces]
  omega

theorem drop_padded (behind : Bytes) : (padded hash wire behind).drop (streamLimit hash + 1) = behind :=
  List.drop_left' (length_front_padded hsize)

/-- What stands behind the spaces is not looked at, whatever it is. -/
theorem readStream_padded {a : Authorization} (h : (new hash defaultMaxMessageSize).readWire wire = .ok a)
    (behind : Bytes) : readStream hash (padded hash wire behind) = .ok a := by
  refine readStream_eq_ok_iff.mpr ⟨_, List.take_left' (length_front_padded hsize), ?_⟩
  rw [readWire_congr _ (Text.trim_append_blanks blank_of_mem_spaces)]
  exact h

end

theorem readWire_dated : (new .sha256 defaultMaxMessageSize).readWire dated.toWire = .ok dated :=
  readWire_toWire_of_readWire readWire_datedWithPlus

theorem utf8ByteSize_dated : dated.toWire.utf8ByteSize ≤ streamLimit .sha256 + 1 := by
  rw [toWire, Container.toWire, Base64.utf8ByteSize_encode]
  decide +kernel

/-- A container cut out of the beginning of a stream. It is read from a stream that goes on beyond the limit in
letters, and from one that goes on in a byte that no text has; the whole of either is not read as the container. -/
theorem cut_out_of_stream :
    readStream .sha256 (padded .sha256 dated.toWire (utf8 "junk")) = .ok dated ∧
      readStream .sha256 (padded .sha256 dated.toWire [0xFF]) = .ok dated ∧
      streamLimit .sha256 < (padded .sha256 dated.toWire (utf8 "junk")).length ∧
      (¬ ∃ whole, padded .sha256 dated.toWire (utf8 "junk") = utf8 whole ∧
        (new .sha256 defaultMaxMessageSize).readWire whole = .ok dated) ∧
      ¬ ∃ whole, padded .sha256 dated.toWire [0xFF] = utf8 whole := by
  have hjunk := readStream_padded utf8ByteSize_dated readWire_dated (utf8 "junk")
  refine ⟨hjunk, readStream_padded utf8ByteSize_dated readWire_dated [0xFF], ?_, ?_, ?_⟩
  · rw [padded, List.length_append, length_front_padded utf8ByteSize_dated]
    omega
  · rw [exists_whole_iff hjunk, drop_padded utf8ByteSize_dated]
    rintro ⟨rest, hrest, hblank⟩
    obtain rfl := utf8_inj.mp hrest
    exact absurd (hblank 'j' (by decide)) (by decide)
  · rintro ⟨whole, hwhole⟩
    obtain ⟨rest, hrest, -⟩ := exists_append_of_utf8 hwhole.symm
    have hnone : ofUtf8? [0xFF] = none := by decide +kernel
    rw [hrest, ofUtf8?_utf8] at hnone
    cases hnone

/-- With nothing behind the spaces the stream agrees with the text that it is, although it is too long: the
spaces are what is left around the wire form. -/
theorem readStream_agrees_iff_dated :
    readStream .sha256 (padded .sha256 dated.toWire []) = .ok dated ∧
      (∃ whole, padded .sha256 dated.toWire [] = utf8 whole ∧
        (new .sha256 defaultMaxMessageSize).readWire whole = .ok dated) ∧
      ∃ front, (padded .sha256 dated.toWire []).take (streamLimit .sha256 + 1) = utf8 front ∧
        Text.trim front ≠ front := by
  have hread := readStream_padded utf8ByteSize_dated readWire_dated []
  have hlong : streamLimit .sha256 < (padded .sha256 dated.toWire []).length := by
    rw [padded, List.append_nil, length_front_padded utf8ByteSize_dated]
    exact Nat.lt_succ_self _
  obtain ⟨hagrees, hfront⟩ := readStream_agrees_iff hread
  refine ⟨hread, hagrees.mpr ⟨"", drop_padded utf8ByteSize_dated [], ?_⟩, hfront hlong⟩
  intro c hc
  cases hc

end Authorization

end PaymentCredentials
