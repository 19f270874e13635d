import PaymentCredentials.Proofs.CodeHeader
import PaymentCredentials.Proofs.TextPieces

/-!
Blocks that are written are read back. A block has its pieces in the fixed codes or in codes of its own, or it has
its bytes as they are; whichever of these is chosen, it spells the same bytes. So a compressed text spells the text.
-/
namespace PaymentCredentials.Deflate

/-! ### Symbols with extra bits -/

/-- The ranges of a table have no gaps between them, up to a bound. -/
def Gapless (top : Nat) (table : List (Nat × Nat)) : Prop :=
  List.IsChain (fun e e' => e'.1 ≤ e.1 + 2 ^ e.2) (table ++ [(top, 0)])

instance (top : Nat) (table : List (Nat × Nat)) : Decidable (Gapless top table) :=
  inferInstanceAs (Decidable (List.IsChain _ _))

theorem Gapless.getElem?_takeWhile {top value : Nat} {e : Nat × Nat} {table : List (Nat × Nat)}
    (h : Gapless top (e :: table)) (hleast : e.1 ≤ value) (hmost : value < top) :
    ∃ base extra, (e :: table)[(table.takeWhile fun e => e.1 ≤ value).length]? = some (base, extra) ∧
      base ≤ value ∧ value < base + 2 ^ extra := by
  induction table generalizing e with
  | nil =>
      obtain ⟨hgap, -⟩ := List.isChain_cons_cons.mp h
      exact ⟨e.1, e.2, rfl, hleast, Nat.lt_of_lt_of_le hmost hgap⟩
  | cons e' table ih =>
      obtain ⟨hgap, hrest⟩ := List.isChain_cons_cons.mp h
      by_cases hnext : e'.1 ≤ value
      · rw [List.takeWhile_cons_of_pos (by simpa using hnext), List.length_cons, List.getElem?_cons_succ]
        exact ih hrest hnext
      · rw [List.takeWhile_cons_of_neg (by simpa using hnext)]
        exact ⟨e.1, e.2, rfl, hleast, by omega⟩

/-- A value is read back from its symbol and its extra bits. -/
theorem reads_extended {top value : Nat} {e : Nat × Nat} {table : List (Nat × Nat)}
    (h : Gapless top (e :: table)) (hleast : e.1 ≤ value) (hmost : value < top) :
    Reads Prod.mk (extended (e :: table) (symbolFor (e :: table) value).1) (symbolFor (e :: table) value).2
      value := by
  obtain ⟨base, extra, hentry, hbase, hextra⟩ := h.getElem?_takeWhile hleast hmost
  have hsymbol : symbolFor (e :: table) value =
      ((table.takeWhile fun e => e.1 ≤ value).length, bitsOfNat extra (value - base)) := by
    rw [symbolFor, List.takeWhile_cons_of_pos (by simpa using hleast), List.length_cons, Nat.add_sub_cancel,
      List.getD_eq_getElem?_getD, hentry]
    rfl
  obtain ⟨more, rfl⟩ := Nat.exists_eq_add_of_le hbase
  rw [hsymbol, Nat.add_sub_cancel_left, ← List.append_nil (bitsOfNat _ _)]
  unfold extended
  rw [hentry]
  exact (reads_take (Nat.lt_of_add_lt_add_left hextra)).bind (reads_pure Prod.mk (base + more))

theorem gapless_lengthCodes : Gapless (maxCopy + 1) lengthCodes := by decide

theorem gapless_distanceCodes : Gapless (reach + 1) distanceCodes := by decide

/-! ### Pieces -/

/-- The codes read what is written with these words: each of the pieces, and the end of the block. -/
structure Speaks (literals distances : Code) (literalWords distanceWords : Array (List Bool)) (pieces : List Piece) :
    Prop where
  finish : literals.ReadsWord literalWords 256
  symbol : ∀ p ∈ pieces, literals.ReadsWord literalWords p.symbol
  distance : ∀ p ∈ pieces, ∀ d ∈ p.distanceSymbol?, distances.ReadsWord distanceWords d

theorem Speaks.tail {literals distances : Code} {literalWords distanceWords : Array (List Bool)} {p : Piece}
    {pieces : List Piece} (h : Speaks literals distances literalWords distanceWords (p :: pieces)) :
    Speaks literals distances literalWords distanceWords pieces :=
  ⟨h.finish, fun p hp => h.symbol p (List.mem_cons_of_mem _ hp),
    fun p hp => h.distance p (List.mem_cons_of_mem _ hp)⟩

/-- The length and the distance of a copy are read back behind the symbol of its length. -/
theorem reads_readCopy {distances : Code} {words : Array (List Bool)} {length distance : Nat}
    (hlength : minCopy ≤ length ∧ length ≤ maxCopy) (hdistance : 0 < distance ∧ distance ≤ reach)
    (hword : distances.ReadsWord words (symbolFor distanceCodes distance).1) :
    Reads glueTwo (readCopy distances (Piece.copy length distance).symbol)
      ((symbolFor lengthCodes length).2 ++ (words.getD (symbolFor distanceCodes distance).1 [] ++
        (symbolFor distanceCodes distance).2)) (length, distance) := by
  unfold readCopy
  rw [Piece.symbol, Nat.add_sub_cancel_left, ← List.append_nil (symbolFor distanceCodes distance).2]
  refine (reads_extended gapless_lengthCodes hlength.1 (Nat.lt_succ_of_le hlength.2)).bind (hword.bind ?_)
  exact (reads_extended gapless_distanceCodes hdistance.1 (Nat.lt_succ_of_le hdistance.2)).bind
    (reads_pure glueTwo (length, distance))

/-- The bits of pieces, and of the end of the block. -/
def piecesBits (literalWords distanceWords : Array (List Bool)) (pieces : List Piece) : List Bool :=
  pieces.flatMap (Piece.bits literalWords distanceWords) ++ literalWords.getD 256 []

theorem piecesBits_cons (literalWords distanceWords : Array (List Bool)) (p : Piece) (pieces : List Piece) :
    piecesBits literalWords distanceWords (p :: pieces) =
      p.bits literalWords distanceWords ++ piecesBits literalWords distanceWords pieces := by
  rw [piecesBits, List.flatMap_cons, List.append_assoc, ← piecesBits]

theorem bits_copy (literalWords distanceWords : Array (List Bool)) (length distance : Nat) :
    (Piece.copy length distance).bits literalWords distanceWords =
      literalWords.getD (Piece.copy length distance).symbol [] ++ ((symbolFor lengthCodes length).2 ++
        (distanceWords.getD (symbolFor distanceCodes distance).1 [] ++ (symbolFor distanceCodes distance).2)) := by
  simp only [Piece.bits, Piece.symbol, List.append_assoc]

/-- Pieces that make a text of another one are read as that, up to the end of the block. -/
theorem coded_of_extends (far : Prop) {literals distances : Code} {literalWords distanceWords : Array (List Bool)}
    {text text' : Array UInt8} {pieces : List Piece} (h : Extends text pieces text')
    (hspeaks : Speaks literals distances literalWords distanceWords pieces) {s : Bits} {begun : Nat}
    {bits : List Bool}
    (hs : s.Stands begun (piecesBits literalWords distanceWords pieces ++ bits)) :
    ∃ s', Coded far literals distances s text s' text' ∧
      s'.Stands (begun + (piecesBits literalWords distanceWords pieces).length) bits := by
  induction h generalizing s begun with
  | done text =>
      obtain ⟨s', hread, hs'⟩ := hspeaks.finish hs
      exact ⟨s', .finish hread, hs'⟩
  | @literal byte text text' pieces rest ih =>
      rw [piecesBits_cons] at hs ⊢
      rw [List.append_assoc] at hs
      obtain ⟨s₁, hread, hs₁⟩ := hspeaks.symbol _ List.mem_cons_self hs
      obtain ⟨s', hcoded, hs'⟩ := ih hspeaks.tail hs₁
      refine ⟨s', .literal hread byte.toNat_lt ?_, ?_⟩
      · rw [Piece.symbol, UInt8.ofNat_toNat]
        exact hcoded
      · rw [List.length_append, ← Nat.add_assoc]
        exact hs'
  | @copy length distance text text' pieces least most pos far near rest ih =>
      rw [piecesBits_cons, bits_copy] at hs ⊢
      rw [List.append_assoc, List.append_assoc] at hs
      obtain ⟨s₁, hread, hs₁⟩ := hspeaks.symbol _ List.mem_cons_self hs
      obtain ⟨s₂, hpiece, hs₂⟩ := reads_readCopy ⟨least, most⟩ ⟨pos, far⟩
        (hspeaks.distance _ List.mem_cons_self _ rfl) hs₁
      obtain ⟨s', hcoded, hs'⟩ := ih hspeaks.tail hs₂
      refine ⟨s', .copy hread (by rw [Piece.symbol]; omega) hpiece (Or.inr near) hcoded, ?_⟩
      rw [List.length_append, List.length_append, ← Nat.add_assoc, ← Nat.add_assoc]
      exact hs'

/-! ### Codes of blocks -/

/-- A reader that has taken `begun` bits takes the given ones as a block, and this is what the block makes of the
text before it. -/
def ReadsBlock (far : Prop) (begun : Nat) (word : List Bool) (text text' : Array UInt8) : Prop :=
  ∀ ⦃s : Bits⦄ ⦃bits : List Bool⦄, s.Stands begun (word ++ bits) →
    ∃ kind s₁ s', s.take? 2 = some (kind, s₁) ∧ Block far kind s₁ text s' text' ∧
      s'.Stands (begun + word.length) bits

/-- A block is read whose codes are read back from its header. -/
theorem readsBlock_of_codes {far : Prop} {kind : Nat} {header : List Bool} {literals distances : Code}
    {literalWords distanceWords : Array (List Bool)} {text text' : Array UInt8} {pieces : List Piece}
    (hkind : kind ≠ 0 ∧ kind < 4) (hcodes : Reads glueTwo (blockCodes kind) header (literals, distances))
    (hspeaks : Speaks literals distances literalWords distanceWords pieces) (h : Extends text pieces text')
    (begun : Nat) : ReadsBlock far begun
      (bitsOfNat 2 kind ++ (header ++ piecesBits literalWords distanceWords pieces)) text text' := by
  intro s bits hs
  rw [List.append_assoc, List.append_assoc] at hs
  obtain ⟨s₁, htake, hs₁⟩ := hs.take? hkind.2
  obtain ⟨s₂, hread, hs₂⟩ := hcodes hs₁
  obtain ⟨s', hcoded, hs'⟩ := coded_of_extends far h hspeaks hs₂
  refine ⟨kind, s₁, s', htake, .coded hread hkind.1 hcoded, ?_⟩
  rw [List.length_append, List.length_append, length_bitsOfNat, ← Nat.add_assoc, ← Nat.add_assoc]
  exact hs'

theorem symbolFor_lt {table : List (Nat × Nat)} (h : table ≠ []) (value : Nat) :
    (symbolFor table value).1 < table.length := by
  have hlength : (table.takeWhile fun e => e.1 ≤ value).length ≤ table.length :=
    (List.takeWhile_sublist _).length_le
  have hpos := List.length_pos_iff.mpr h
  rw [symbolFor]
  dsimp only
  omega

/-- The symbols of pieces are within the bounds of the codes. -/
theorem Piece.symbol_lt (p : Piece) : p.symbol < 286 := by
  cases p with
  | literal byte => exact Nat.lt_trans byte.toNat_lt (by decide)
  | copy length distance =>
      have hlt : (symbolFor lengthCodes length).1 < 29 := symbolFor_lt (by decide) length
      rw [Piece.symbol]
      omega

theorem Piece.distanceSymbol_lt {p : Piece} {d : Nat} (h : d ∈ p.distanceSymbol?) : d < 30 := by
  cases p with
  | literal byte => cases h
  | copy length distance =>
      obtain rfl := Option.mem_some.mp h
      exact symbolFor_lt (by decide) distance

theorem getD_ne_zero {lengths : List Nat} (h : ∀ l ∈ lengths, l ≠ 0) {i : Nat} (hi : i < lengths.length) :
    lengths.getD i 0 ≠ 0 := by
  rw [List.getD_eq_getElem _ _ hi]
  exact h _ (List.getElem_mem hi)

theorem length_fixedLiteralLengths : fixedLiteralLengths.length = 288 := by
  simp only [fixedLiteralLengths, List.length_append, List.length_replicate]

theorem mem_fixedLiteralLengths {l : Nat} (h : l ∈ fixedLiteralLengths) : l = 8 ∨ l = 9 ∨ l = 7 := by
  simp only [fixedLiteralLengths, List.mem_append, List.mem_replicate] at h
  omega

theorem tight_fixedLiteralLengths : Code.Tight fixedLiteralLengths := by
  have htaken : taken fixedLiteralLengths maxCodeLength = 2 ^ maxCodeLength := by decide +kernel
  refine ⟨fun l hl => ?_, Nat.le_of_eq htaken, fun _ => htaken⟩
  have hcases := mem_fixedLiteralLengths hl
  rw [maxCodeLength]
  omega

theorem tight_fixedDistanceLengths : Code.Tight fixedDistanceLengths := by
  have htaken : taken fixedDistanceLengths maxCodeLength = 2 ^ maxCodeLength := by decide +kernel
  exact ⟨by decide, Nat.le_of_eq htaken, fun _ => htaken⟩

/-- Pieces are read in the fixed codes. -/
theorem readsBlock_fixedBits {far : Prop} {text text' : Array UInt8} {pieces : List Piece}
    (h : Extends text pieces text') (begun : Nat) : ReadsBlock far begun (fixedBits pieces) text text' := by
  obtain ⟨literals, hliterals, hliteralWords⟩ := tight_fixedLiteralLengths.reads
  obtain ⟨distances, hdistances, hdistanceWords⟩ := tight_fixedDistanceLengths.reads
  have hliteral : ∀ symbol < 288, literals.ReadsWord (codewords fixedLiteralLengths).toArray symbol := by
    intro symbol hlt
    rw [← length_fixedLiteralLengths] at hlt
    refine hliteralWords symbol (getD_ne_zero (fun l hl => ?_) hlt)
    have hcases := mem_fixedLiteralLengths hl
    omega
  have hdistance : ∀ symbol < 32, distances.ReadsWord (codewords fixedDistanceLengths).toArray symbol :=
    fun symbol hlt => hdistanceWords symbol (getD_ne_zero (by decide) hlt)
  have hcodes : Reads glueTwo (blockCodes 1) [] (literals, distances) :=
    Reads.of_pos (Reads.after hliterals (Reads.after hdistances (reads_pure glueTwo (literals, distances)))) rfl
  have hspeaks : Speaks literals distances _ _ pieces :=
    ⟨hliteral 256 (by decide), fun p _ => hliteral _ (Nat.lt_trans p.symbol_lt (by decide)),
      fun p _ d hd => hdistance d (Nat.lt_trans (Piece.distanceSymbol_lt hd) (by decide))⟩
  have hbits : fixedBits pieces = bitsOfNat 2 1 ++ ([] ++ piecesBits (codewords fixedLiteralLengths).toArray
      (codewords fixedDistanceLengths).toArray pieces) := by
    simp only [fixedBits, piecesBits, List.append_assoc, List.nil_append]
  rw [hbits]
  exact readsBlock_of_codes (by decide) hcodes hspeaks h begun

theorem getD_append_zeros (lengths : List Nat) (k i : Nat) :
    (lengths ++ List.replicate k 0).getD i 0 = lengths.getD i 0 := by
  by_cases hi : i < lengths.length
  · rw [List.getD_append _ _ _ _ hi]
  · rw [List.getD_append_right _ _ _ _ (Nat.le_of_not_lt hi), List.getD_eq_default _ _ (Nat.le_of_not_lt hi)]
    rw [List.getD_eq_getElem?_getD, List.getElem?_replicate]
    split <;> rfl

/-- Lengths of a code that has a codeword for each of the symbols below a bound. There are no more of them than the
bound, and no fewer than a header can say. -/
structure Covers (least bound : Nat) (symbols lengths : List Nat) : Prop where
  tight : Code.Tight lengths
  least_le : least ≤ lengths.length
  le_bound : lengths.length ≤ bound
  used : ∀ s ∈ symbols, s < bound → lengths.getD s 0 ≠ 0

theorem covers_dropZeros {least bound : Nat} (hleast : least ≤ bound) (hbound : bound ≤ 2 ^ 15)
    (symbols : List Nat) :
    Covers least bound symbols (dropZeros least (lengthsOf 15 (frequencies bound symbols))) := by
  have hsuits : Suits 15 (frequencies bound symbols) (lengthsOf 15 (frequencies bound symbols)) :=
    suits_lengthsOf (by decide) (by decide) (by rwa [length_frequencies])
  have hlength := hsuits.length_eq
  rw [length_frequencies] at hlength
  obtain ⟨k, hk⟩ := dropZeros_append (Nat.le_trans hleast (Nat.le_of_eq hlength.symm))
  refine ⟨?_, le_length_dropZeros _ _, ?_, fun s hs hlt => ?_⟩
  · have htight := hsuits.tight
    rw [← hk] at htight
    exact htight.of_append_zeros
  · have hboth := congrArg List.length hk
    rw [List.length_append] at hboth
    omega
  · rw [← getD_append_zeros _ k, hk]
    exact hsuits.used s (frequencies_ne_zero hs hlt)

/-- The lengths of the two codes that a block of pieces gets. -/
def literalLengthsOf (pieces : List Piece) : List Nat :=
  dropZeros 257 (lengthsOf 15 (frequencies 286 (256 :: pieces.map Piece.symbol)))

def distanceLengthsOf (pieces : List Piece) : List Nat :=
  dropZeros 1 (lengthsOf 15 (frequencies 30 (pieces.filterMap Piece.distanceSymbol?)))

theorem dynamicBits_eq (pieces : List Piece) : dynamicBits pieces =
    bitsOfNat 2 2 ++ (headerBits (literalLengthsOf pieces) (distanceLengthsOf pieces) ++
      piecesBits (codewords (literalLengthsOf pieces)).toArray (codewords (distanceLengthsOf pieces)).toArray
        pieces) := by
  simp only [dynamicBits, headerBits, piecesBits, literalLengthsOf, distanceLengthsOf, List.append_assoc]

/-- Pieces are read in codes of their own. -/
theorem readsBlock_dynamicBits {far : Prop} {text text' : Array UInt8} {pieces : List Piece}
    (h : Extends text pieces text') (begun : Nat) : ReadsBlock far begun (dynamicBits pieces) text text' := by
  have hliterals : Covers 257 286 _ (literalLengthsOf pieces) := covers_dropZeros (by decide) (by decide) _
  have hdistances : Covers 1 30 _ (distanceLengthsOf pieces) := covers_dropZeros (by decide) (by decide) _
  obtain ⟨literals, hliteralCode, hliteralWords⟩ := hliterals.tight.reads
  obtain ⟨distances, hdistanceCode, hdistanceWords⟩ := hdistances.tight.reads
  have hshort : ∀ l ∈ literalLengthsOf pieces ++ distanceLengthsOf pieces, l ≤ maxCodeLength := fun l hl =>
    (List.mem_append.mp hl).elim (hliterals.tight.le_max l) (hdistances.tight.le_max l)
  have hheader := reads_dynamicCodes hliteralCode hdistanceCode ⟨hliterals.least_le, hliterals.le_bound⟩
    ⟨hdistances.least_le, hdistances.le_bound⟩ hshort
  have hcodes : Reads glueTwo (blockCodes 2) _ (literals, distances) :=
    Reads.of_neg (Reads.of_pos hheader rfl) (by decide)
  have hspeaks : Speaks literals distances _ _ pieces :=
    ⟨hliteralWords 256 (hliterals.used 256 List.mem_cons_self (by decide)),
      fun p hp => hliteralWords _
        (hliterals.used _ (List.mem_cons_of_mem _ (List.mem_map_of_mem hp)) p.symbol_lt),
      fun p hp d hd => hdistanceWords d
        (hdistances.used d (List.mem_filterMap.mpr ⟨p, hp, hd⟩) (Piece.distanceSymbol_lt hd))⟩
  rw [dynamicBits_eq]
  exact readsBlock_of_codes (by decide) hcodes hspeaks h begun

/-- Bytes are read as they are. -/
theorem readsBlock_storedBits {far : Prop} {text : Array UInt8} {more : Bytes} (hmore : more.length ≤ 0xFFFF)
    (begun : Nat) : ReadsBlock far begun (storedBits begun more) text (text ++ more.toArray) := by
  let padding := List.replicate ((8 - (begun + 2) % 8) % 8) false
  let front := Bytes.ofNatLE 2 more.length ++ Bytes.ofNatLE 2 (0xFFFF - more.length) ++ more
  have hpadding : padding.length = (8 - (begun + 2) % 8) % 8 := List.length_replicate
  have hbits : storedBits begun more = bitsOfNat 2 0 ++ (padding ++ front.flatMap bitsOfByte) := by
    rw [storedBits, List.replicate_add, List.append_assoc]
    rfl
  have hlength : (storedBits begun more).length = 2 + (padding.length + 8 * front.length) := by
    rw [hbits, List.length_append, List.length_append, length_flatMap_bitsOfByte, length_bitsOfNat]
  intro s bits hs
  rw [hbits, List.append_assoc, List.append_assoc] at hs
  obtain ⟨s₁, htake, hs₁⟩ := hs.take? (by decide)
  obtain ⟨rest, rfl, hrest⟩ := hs₁.bytes (by omega) (by omega)
  refine ⟨0, _, Bits.ofBytes rest, htake, ?_, ⟨hrest, Nat.succ_pos 7, ?_⟩⟩
  · have hstored : Block far 0 _ text _ _ := .stored padding more rest text hmore
    rwa [← List.append_assoc _ more] at hstored
  · rw [hlength]
    simp only [Bits.ofBytes, List.length_nil]
    omega

/-- **Blocks read back**, however they are written. -/
theorem readsBlock_blockBits (far : Prop) {text text' : Array UInt8} {pieces : List Piece} {more : Bytes}
    (h : Extends text pieces text') (hmore : text'.toList = text.toList ++ more) (begun : Nat) (last : Bool) :
    ∃ word, blockBits begun last more pieces = last :: word ∧ ReadsBlock far (begun + 1) word text text' := by
  have hcoded : ReadsBlock far (begun + 1)
      (if more.length < leastDynamic then fixedBits pieces else dynamicBits pieces) text text' := by
    split
    · exact readsBlock_fixedBits h (begun + 1)
    · exact readsBlock_dynamicBits h (begun + 1)
  rw [blockBits]
  generalize (if more.length < leastDynamic then fixedBits pieces else dynamicBits pieces) = coded at hcoded ⊢
  refine ⟨_, rfl, ?_⟩
  split
  · rename_i huseless
    have htext : text' = text ++ more.toArray := by
      rw [← Array.toList_inj, hmore, Array.toList_append]
    rw [htext]
    exact readsBlock_storedBits (Nat.le_trans huseless.2.2 (by decide)) (begun + 1)
  · exact hcoded

/-! ### Streams -/

/-- Blocks whose sizes are those of their pieces. -/
structure Sized (pieces : List Piece) (blocks : List (Nat × List Piece)) : Prop where
  size_eq : ∀ b ∈ blocks, b.1 = spans b.2
  pieces_eq : (blocks.map (·.2)).flatten = pieces
  ne_nil : blocks ≠ []

theorem bytes_foldl_add (group : List Piece) (f : Filling) :
    (group.foldl Filling.add f).bytes = f.bytes + spans group := by
  induction group generalizing f with
  | nil => rfl
  | cons p group ih =>
      rw [List.foldl_cons, ih, spans]
      simp only [Filling.add]
      omega

theorem spans_reverse (pieces : List Piece) : spans pieces.reverse = spans pieces := by
  induction pieces with
  | nil => rfl
  | cons p pieces ih => rw [List.reverse_cons, spans_append, ih, spans, spans, spans, Nat.add_zero, Nat.add_comm]

theorem sized_splitBlocks (filling : Filling) (block : List Piece) (groups : List (List Piece))
    (h : filling.bytes = spans block) :
    Sized (block.reverse ++ groups.flatten) (splitBlocks filling block groups) := by
  induction groups generalizing filling block with
  | nil =>
      rw [splitBlocks]
      refine ⟨fun b hb => ?_, by simp, List.cons_ne_nil _ _⟩
      rw [List.mem_singleton.mp hb, spans_reverse, h]
  | cons group rest ih =>
      have hbytes : (group.foldl Filling.add filling).bytes = spans (group.reverse ++ block) := by
        rw [bytes_foldl_add, spans_append, spans_reverse, h, Nat.add_comm]
      rw [splitBlocks]
      split
      · have hrest := ih ⟨0, 0, 1⟩ [] rfl
        refine ⟨List.forall_mem_cons.mpr ⟨?_, hrest.size_eq⟩, ?_, List.cons_ne_nil _ _⟩
        · rw [spans_reverse, hbytes]
        · rw [List.map_cons, List.flatten_cons, hrest.pieces_eq]
          simp
      · have hrest := ih _ (group.reverse ++ block) hbytes
        rw [List.reverse_append, List.reverse_reverse, List.append_assoc, ← List.flatten_cons] at hrest
        exact hrest

theorem Bits.Stands.take?_bit {s : Bits} {begun : Nat} {b : Bool} {bits : List Bool}
    (h : s.Stands begun (b :: bits)) :
    ∃ s', s.take? 1 = some (b.toNat, s') ∧ s'.Stands (begun + 1) bits := by
  have hbits : b :: bits = bitsOfNat 1 b.toNat ++ bits := by cases b <;> rfl
  rw [hbits] at h
  exact h.take? b.toNat_lt

/-- Blocks of pieces that make a text of another one are read as that. -/
theorem blocks_of_extends (far : Prop) {text text' : Array UInt8} {blocks : List (Nat × List Piece)} {more : Bytes}
    (hne : blocks ≠ []) (hsizes : ∀ b ∈ blocks, b.1 = spans b.2) (h : Extends text (blocks.map (·.2)).flatten text')
    (hmore : text'.toList = text.toList ++ more) {s : Bits} {begun : Nat} {bits : List Bool}
    (hs : s.Stands begun (blocksBits begun more blocks ++ bits)) :
    ∃ s', Blocks far s text s' text' ∧ s'.Stands (begun + (blocksBits begun more blocks).length) bits := by
  induction blocks generalizing text more s begun with
  | nil => exact absurd rfl hne
  | cons b rest ih =>
      obtain ⟨size, pieces⟩ := b
      obtain ⟨hsize, hothers⟩ := List.forall_mem_cons.mp hsizes
      obtain ⟨text₁, hfirst, hrest⟩ := h.split
      obtain ⟨front, hfront, hlength⟩ := hfirst.exists_append
      obtain ⟨behind, hbehind, -⟩ := hrest.exists_append
      obtain rfl : more = front ++ behind := by
        rw [hfront, List.append_assoc] at hbehind
        exact List.append_cancel_left (hmore.symm.trans hbehind)
      obtain rfl : front.length = size := hlength.trans hsize.symm
      rw [blocksBits, List.take_left, List.drop_left] at hs ⊢
      obtain ⟨word, hword, hblock⟩ := readsBlock_blockBits far hfirst hfront begun rest.isEmpty
      rw [hword] at hs ⊢
      rw [List.append_assoc, List.cons_append] at hs
      obtain ⟨s₁, hlast, hs₁⟩ := hs.take?_bit
      obtain ⟨kind, s₂, s₃, hkind, hblock, hs₃⟩ := hblock hs₁
      cases rest with
      | nil =>
          cases hrest
          refine ⟨s₃, .last hlast hkind hblock, ?_⟩
          rw [blocksBits, List.append_nil, List.length_cons, Nat.add_comm word.length, ← Nat.add_assoc]
          exact hs₃
      | cons b rest =>
          obtain ⟨s', hblocks, hs'⟩ := ih (List.cons_ne_nil _ _) hothers hrest hbehind
            (hs₃.of_mod (by rw [List.length_cons]; omega))
          refine ⟨s', .more hlast hkind hblock hblocks, hs'.of_mod ?_⟩
          rw [List.length_append, List.length_cons]
          omega

/-- **Compressed texts spell their texts**, and nothing follows. -/
theorem spells_deflate (far : Prop) (text : Bytes) : ∃ s, Spells far (deflate text) text s ∧ s.rest = [] := by
  have hsized := sized_splitBlocks ⟨0, 0, 1⟩ [] (groups text.toArray) rfl
  have hpieces := hsized.pieces_eq
  have hextends := extends_groups text.toArray
  rw [List.reverse_nil, List.nil_append] at hpieces
  rw [← hpieces] at hextends
  obtain ⟨padding, hpadding, hbits⟩ :=
    flatMap_bytesOfBits (blocksBits 0 text (splitBlocks ⟨0, 0, 1⟩ [] (groups text.toArray)))
  have hs := Bits.stands_ofBytes (deflate text)
  rw [deflate, hbits] at hs
  obtain ⟨s, hblocks, hs'⟩ := blocks_of_extends far hsized.ne_nil hsized.size_eq hextends rfl hs
  exact ⟨s, hblocks, hs'.rest_eq_nil hpadding⟩

end PaymentCredentials.Deflate
