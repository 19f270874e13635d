import PaymentCredentials.Proofs.BitReaders

/-!
Which bits are a deflate stream, and of which text. The rules know neither a bound on the text nor a count of
steps: a stream spells a text or it does not. A decoder with a bound comes to the text that the stream spells, or
stops in the middle of it because it has become longer than the bound.
-/
namespace PaymentCredentials.Deflate

/-! ### Rules

A copy begins within the text. A decoder may let it begin in front of the text as well, where zeros stand; `far` says
that this is allowed. -/

/-- The symbols from a place in a block to the end of the block, with the text before and behind them. -/
inductive Coded (far : Prop) (literals distances : Code) : Bits → Array UInt8 → Bits → Array UInt8 → Prop
  | literal {s s₁ s' : Bits} {text text' : Array UInt8} {symbol : Nat}
      (read : literals.read s = .ok (symbol, s₁)) (byte : symbol < 256)
      (rest : Coded far literals distances s₁ (text.push (UInt8.ofNat symbol)) s' text') :
      Coded far literals distances s text s' text'
  | copy {s s₁ s₂ s' : Bits} {text text' : Array UInt8} {symbol length distance : Nat}
      (read : literals.read s = .ok (symbol, s₁)) (long : 256 < symbol)
      (piece : readCopy distances symbol s₁ = .ok (length, distance, s₂)) (near : far ∨ distance ≤ text.size)
      (rest : Coded far literals distances s₂ (appendCopy distance length text) s' text') :
      Coded far literals distances s text s' text'
  | finish {s s' : Bits} {text : Array UInt8} (read : literals.read s = .ok (256, s')) :
      Coded far literals distances s text s' text

/-- One block behind its header. -/
inductive Block (far : Prop) : (kind : Nat) → Bits → Array UInt8 → Bits → Array UInt8 → Prop
  | stored (pending : List Bool) (piece rest : Bytes) (text : Array UInt8) (short : piece.length ≤ 0xFFFF) :
      Block far 0 ⟨pending, Bytes.ofNatLE 2 piece.length ++ Bytes.ofNatLE 2 (0xFFFF - piece.length) ++
        (piece ++ rest)⟩ text (Bits.ofBytes rest) (text ++ piece.toArray)
  | coded {kind : Nat} {literals distances : Code} {s s₁ s' : Bits} {text text' : Array UInt8}
      (codes : blockCodes kind s = .ok (literals, distances, s₁)) (kind_ne : kind ≠ 0)
      (symbols : Coded far literals distances s₁ text s' text') : Block far kind s text s' text'

/-- The blocks from a place in a stream to the end of the stream. -/
inductive Blocks (far : Prop) : Bits → Array UInt8 → Bits → Array UInt8 → Prop
  | last {kind : Nat} {s s₁ s₂ s' : Bits} {text text' : Array UInt8} (isLast : s.take? 1 = some (1, s₁))
      (header : s₁.take? 2 = some (kind, s₂)) (block : Block far kind s₂ text s' text') :
      Blocks far s text s' text'
  | more {kind : Nat} {s s₁ s₂ s₃ s' : Bits} {text text₁ text' : Array UInt8}
      (isMore : s.take? 1 = some (0, s₁)) (header : s₁.take? 2 = some (kind, s₂))
      (block : Block far kind s₂ text s₃ text₁) (rest : Blocks far s₃ text₁ s' text') :
      Blocks far s text s' text'

/-- The stream spells the text, and this is what follows it. -/
def Spells (far : Prop) (stream text : Bytes) (s : Bits) : Prop :=
  Blocks far (Bits.ofBytes stream) #[] s text.toArray

/-! ### Codes -/

/-- A code in which every symbol takes a bit at least. -/
def Code.Proper (code : Code) : Prop := ∀ symbol, code ≠ .leaf symbol

theorem Code.proper_insert (symbol : Nat) {bits : List Bool} (h : bits ≠ []) (code : Code) :
    (code.insert symbol bits).Proper := by
  intro other
  match bits, code with
  | [], _ => exact absurd rfl h
  | false :: _, .fork _ _ | true :: _, .fork _ _ | false :: _, .unused | true :: _, .unused
  | false :: _, .leaf _ | true :: _, .leaf _ => exact Code.noConfusion

theorem Code.proper_of_ofLengths? {lengths : List Nat} {code : Code} (h : ofLengths? lengths = some code) :
    code.Proper := by
  have hfold : ∀ (entries : List (List Bool × Nat)) (c : Code), c.Proper →
      (entries.foldl (fun c e => if e.1 = [] then c else c.insert e.2 e.1) c).Proper := by
    intro entries
    induction entries with
    | nil => exact fun _ hc => hc
    | cons e entries ih =>
        intro c hc
        refine ih _ ?_
        by_cases hword : e.1 = []
        · simpa only [if_pos hword] using hc
        · simpa only [if_neg hword] using proper_insert e.2 hword c
  simp only [ofLengths?] at h
  split at h
  · cases h
  · obtain rfl := Option.some.inj h
    exact hfold _ _ fun _ => Code.noConfusion

theorem Code.size_lt_of_read {code : Code} (hproper : code.Proper) {symbol : Nat} {s s' : Bits}
    (h : code.read s = .ok (symbol, s')) : s'.size < s.size := by
  cases code with
  | unused => cases h
  | leaf symbol => exact absurd rfl (hproper symbol)
  | fork zero one =>
      rw [read] at h
      split at h
      · cases h
      · rename_i hnext
        rw [Bits.size_of_next? hnext]
        exact Nat.lt_succ_of_le ((forward_read zero).size_le h)
      · rename_i hnext
        rw [Bits.size_of_next? hnext]
        exact Nat.lt_succ_of_le ((forward_read one).size_le h)

theorem proper_of_codeOf {lengths : List Nat} {code : Code} (h : codeOf lengths = .ok code) : code.Proper := by
  unfold codeOf at h
  split at h
  · cases h
  · rename_i hcode
    obtain rfl := Except.ok.inj h
    exact Code.proper_of_ofLengths? hcode

theorem proper_of_dynamicCodes {literals distances : Code} {s s' : Bits}
    (h : dynamicCodes s = .ok (literals, distances, s')) : literals.Proper := by
  unfold dynamicCodes at h
  obtain ⟨_, -, h⟩ := ok_of_bind h
  obtain ⟨_, -, h⟩ := ok_of_bind h
  obtain ⟨_, -, h⟩ := ok_of_bind h
  dsimp only at h
  split at h
  · cases h
  obtain ⟨_, -, h⟩ := ok_of_bind h
  obtain ⟨_, -, h⟩ := ok_of_bind h
  obtain ⟨_, -, h⟩ := ok_of_bind h
  obtain ⟨literalCode, hliterals, h⟩ := ok_of_bind h
  obtain ⟨_, -, h⟩ := ok_of_bind h
  cases h
  exact proper_of_codeOf hliterals

theorem proper_of_blockCodes {kind : Nat} {literals distances : Code} {s s' : Bits}
    (h : blockCodes kind s = .ok (literals, distances, s')) : literals.Proper := by
  unfold blockCodes at h
  split at h
  · obtain ⟨literalCode, hliterals, h⟩ := ok_of_bind h
    obtain ⟨_, -, h⟩ := ok_of_bind h
    cases h
    exact proper_of_codeOf hliterals
  split at h
  · exact proper_of_dynamicCodes h
  · cases h

/-! ### Decoding comes to what is spelled -/

theorem coded_of_symbols {literals distances : Code} {limit fuel : Nat} {s s' : Bits} {text text' : Array UInt8}
    (h : symbols literals distances limit fuel s text = ⟨text', .ok s'⟩) :
    Coded True literals distances s text s' text' := by
  induction fuel generalizing s text with
  | zero => cases h
  | succ fuel ih =>
      rw [symbols] at h
      split at h
      · cases h
      split at h
      · cases h
      rename_i symbol s₁ hread
      split at h
      · rename_i hbyte
        exact .literal hread hbyte (ih h)
      rename_i hbyte
      split at h
      · rename_i hend
        subst hend
        cases h
        exact .finish hread
      rename_i hend
      split at h
      · cases h
      · rename_i hpiece
        exact .copy hread (by omega) hpiece (Or.inl trivial) (ih h)

/-- The length of a stored block and its complement, as they are written. -/
theorem sizes_of_sum {l0 l1 n0 n1 : UInt8} {piece : Bytes} (hpiece : piece.length = Bytes.toNatLE [l0, l1])
    (hsum : Bytes.toNatLE [l0, l1] + Bytes.toNatLE [n0, n1] = 0xFFFF) :
    Bytes.ofNatLE 2 piece.length ++ Bytes.ofNatLE 2 (0xFFFF - piece.length) = [l0, l1, n0, n1] := by
  have hlength : Bytes.ofNatLE 2 (Bytes.toNatLE [l0, l1]) = [l0, l1] := Bytes.ofNatLE_toNatLE [l0, l1]
  have hcomplement : Bytes.ofNatLE 2 (Bytes.toNatLE [n0, n1]) = [n0, n1] := Bytes.ofNatLE_toNatLE [n0, n1]
  have hsub : 0xFFFF - piece.length = Bytes.toNatLE [n0, n1] := by omega
  rw [hsub, hpiece, hlength, hcomplement]
  rfl

theorem block_of_storedBlock {s s' : Bits} {text text' : Array UInt8}
    (h : storedBlock s text = ⟨text', .ok s'⟩) : Block True 0 s text s' text' := by
  obtain ⟨pending, bytes⟩ := s
  unfold storedBlock at h
  split at h
  · rename_i l0 l1 n0 n1 behind hbytes
    obtain rfl : bytes = l0 :: l1 :: n0 :: n1 :: behind := hbytes
    dsimp only at h
    split at h
    · rename_i hsum
      split at h
      · cases h
      rename_i hlength
      cases h
      let piece := behind.take (Bytes.toNatLE [l0, l1])
      let rest := behind.drop (Bytes.toNatLE [l0, l1])
      have hpiece : piece.length = Bytes.toNatLE [l0, l1] := List.length_take_of_le (Nat.le_of_not_lt hlength)
      have hstored : Block True 0 _ text _ _ := .stored pending piece rest text (by omega)
      rw [sizes_of_sum hpiece hsum, List.take_append_drop] at hstored
      exact hstored
    · cases h
  · cases h

theorem block_of_decoded {kind limit : Nat} {s s' : Bits} {text text' : Array UInt8}
    (h : block kind limit s text = ⟨text', .ok s'⟩) : Block True kind s text s' text' := by
  unfold block at h
  split at h
  · rename_i hkind
    subst hkind
    exact block_of_storedBlock h
  rename_i hkind
  split at h
  · cases h
  · rename_i hcodes
    exact .coded hcodes hkind (coded_of_symbols h)

theorem Bits.le_one_of_take? {v : Nat} {s s' : Bits} (h : s.take? 1 = some (v, s')) : v ≤ 1 := by
  obtain ⟨⟨b, s₁⟩, -, h⟩ := Option.bind_eq_some_iff.mp h
  cases h
  cases b <;> decide

theorem blocks_of_decoded {limit fuel : Nat} {s s' : Bits} {text text' : Array UInt8}
    (h : blocks limit fuel s text = ⟨text', .ok s'⟩) : Blocks True s text s' text' := by
  induction fuel generalizing s text with
  | zero => cases h
  | succ fuel ih =>
      rw [blocks] at h
      split at h
      · cases h
      split at h
      · cases h
      rename_i last s₁ hlast
      split at h
      · cases h
      rename_i kind s₂ hkind
      split at h
      · cases h
      rename_i text₁ s₃ hblock
      split at h
      · rename_i hfinal
        subst hfinal
        cases h
        exact .last hlast hkind (block_of_decoded hblock)
      · rename_i hfinal
        have hmore : last = 0 := by
          have := Bits.le_one_of_take? hlast
          omega
        subst hmore
        exact .more hlast hkind (block_of_decoded hblock) (ih h)

/-- What a decoder reads to its end is spelled, whatever its bound. -/
theorem spells_of_inflate {limit : Nat} {stream text : Bytes} {s : Bits}
    (h : inflate limit stream = ⟨text.toArray, .ok s⟩) : Spells True stream text s :=
  blocks_of_decoded h

/-! ### What is spelled is decoded -/

/-- The outcome of a decoder that stops above `limit`, where the text is spelled and `s` is what follows: the same, or
the text is too long and the decoder has stopped within it. -/
def Outcome.ReadsOn (limit : Nat) (text : Array UInt8) (s : Bits) (o : Outcome) : Prop :=
  o = ⟨text, .ok s⟩ ∨ limit < text.size ∧ o.ending = .error .enough

theorem size_appendCopy (distance n : Nat) (text : Array UInt8) :
    (appendCopy distance n text).size = text.size + n := by
  induction n generalizing text with
  | zero => rfl
  | succ n ih =>
      rw [appendCopy, ih, Array.size_push]
      omega

section

variable {far : Prop} {literals distances : Code} {kind limit : Nat} {s s' : Bits} {text text' : Array UInt8}

theorem Coded.size_text_le (h : Coded far literals distances s text s' text') : text.size ≤ text'.size := by
  induction h with
  | literal read byte rest ih =>
      rw [Array.size_push] at ih
      omega
  | copy read long piece near rest ih =>
      rw [size_appendCopy] at ih
      omega
  | finish read => exact Nat.le_refl _

theorem Block.size_text_le (h : Block far kind s text s' text') : text.size ≤ text'.size := by
  cases h with
  | stored pending piece rest text short =>
      rw [Array.size_append]
      exact Nat.le_add_right _ _
  | coded codes kind_ne symbols => exact symbols.size_text_le

theorem Blocks.size_text_le (h : Blocks far s text s' text') : text.size ≤ text'.size := by
  induction h with
  | last isLast header block => exact block.size_text_le
  | more isMore header block rest ih => exact Nat.le_trans block.size_text_le ih

theorem Coded.size_le (h : Coded far literals distances s text s' text') : s'.size ≤ s.size := by
  induction h with
  | literal read byte rest ih => exact Nat.le_trans ih ((forward_read _).size_le read)
  | copy read long piece near rest ih =>
      exact Nat.le_trans ih (Nat.le_trans ((forward_readCopy _ _).size_le_two piece) ((forward_read _).size_le read))
  | finish read => exact (forward_read _).size_le read

theorem Block.size_le (h : Block far kind s text s' text') : s'.size ≤ s.size := by
  cases h with
  | stored pending piece rest text short =>
      simp only [Bits.size, Bits.ofBytes, List.length_append, List.length_nil]
      omega
  | coded codes kind_ne symbols => exact Nat.le_trans symbols.size_le ((forward_blockCodes _).size_le_two codes)

theorem readsOn_of_lt (hlimit : limit < text.size) (hsize : text.size ≤ text'.size) :
    Outcome.ReadsOn limit text' s' ⟨text, .error .enough⟩ :=
  Or.inr ⟨Nat.lt_of_lt_of_le hlimit hsize, rfl⟩

/-- Every symbol takes a bit, so that the decoder does not run out of steps. -/
theorem Coded.readsOn (h : Coded far literals distances s text s' text') (hproper : literals.Proper) {fuel : Nat}
    (hfuel : s.size < fuel) : (symbols literals distances limit fuel s text).ReadsOn limit text' s' := by
  induction h generalizing fuel with
  | literal read byte rest ih =>
      obtain ⟨fuel, rfl⟩ : ∃ k, fuel = k + 1 := ⟨fuel - 1, by omega⟩
      have hsize := Code.size_lt_of_read hproper read
      rw [symbols]
      split
      · rename_i hlimit
        exact readsOn_of_lt hlimit (Coded.literal read byte rest).size_text_le
      rw [read]
      dsimp only
      rw [if_pos byte]
      exact ih (by omega)
  | copy read long piece near rest ih =>
      obtain ⟨fuel, rfl⟩ : ∃ k, fuel = k + 1 := ⟨fuel - 1, by omega⟩
      have hsize := Code.size_lt_of_read hproper read
      have hpiece := (forward_readCopy _ _).size_le_two piece
      rw [symbols]
      split
      · rename_i hlimit
        exact readsOn_of_lt hlimit (Coded.copy read long piece near rest).size_text_le
      rw [read]
      dsimp only
      rw [if_neg (by omega), if_neg (by omega), piece]
      exact ih (by omega)
  | finish read =>
      obtain ⟨fuel, rfl⟩ : ∃ k, fuel = k + 1 := ⟨fuel - 1, by omega⟩
      rw [symbols]
      split
      · rename_i hlimit
        exact readsOn_of_lt hlimit (Nat.le_refl _)
      rw [read]
      exact Or.inl rfl

theorem storedBlock_bytes (pending : List Bool) {piece : Bytes} (hpiece : piece.length ≤ 0xFFFF)
    (rest : Bytes) (text : Array UInt8) :
    storedBlock ⟨pending, Bytes.ofNatLE 2 piece.length ++ Bytes.ofNatLE 2 (0xFFFF - piece.length) ++
      (piece ++ rest)⟩ text = ⟨text ++ piece.toArray, .ok (Bits.ofBytes rest)⟩ := by
  have hlength : Bytes.toNatLE [UInt8.ofNat piece.length, UInt8.ofNat (piece.length / 256)] = piece.length :=
    Bytes.toNatLE_ofNatLE 2 _ (by omega)
  have hcomplement : Bytes.toNatLE [UInt8.ofNat (0xFFFF - piece.length),
      UInt8.ofNat ((0xFFFF - piece.length) / 256)] = 0xFFFF - piece.length :=
    Bytes.toNatLE_ofNatLE 2 _ (by omega)
  have hsum : piece.length + (0xFFFF - piece.length) = 0xFFFF := by omega
  have hwhole : ¬ (piece ++ rest).length < piece.length := by
    rw [List.length_append]
    omega
  simp only [storedBlock, Bits.align, Bytes.ofNatLE, List.cons_append, List.nil_append, hlength,
    hcomplement, hsum, if_true, if_neg hwhole, List.take_left, List.drop_left]

theorem Block.readsOn (h : Block far kind s text s' text') : (block kind limit s text).ReadsOn limit text' s' := by
  cases h with
  | stored pending piece rest text short =>
      rw [block, if_pos rfl, storedBlock_bytes pending short]
      exact Or.inl rfl
  | coded codes kind_ne symbols =>
      rw [block, if_neg kind_ne, codes]
      exact symbols.readsOn (proper_of_blockCodes codes) (Nat.lt_succ_self _)

/-- Decoding is over where a block has come to be too long. -/
theorem ending_blocks {v fuel : Nat} {s₁ s₂ : Bits} (hflag : s.take? 1 = some (v, s₁))
    (header : s₁.take? 2 = some (kind, s₂)) (hlimit : ¬ limit < text.size)
    (hstop : (block kind limit s₂ text).ending = .error .enough) :
    (blocks limit (fuel + 1) s text).ending = .error .enough := by
  rw [blocks, if_neg hlimit, hflag]
  dsimp only
  rw [header]
  dsimp only
  generalize block kind limit s₂ text = outcome at hstop
  obtain ⟨stopped, ending⟩ := outcome
  cases hstop
  rfl

theorem Blocks.readsOn (h : Blocks far s text s' text') {fuel : Nat} (hfuel : s.size < fuel) :
    (blocks limit fuel s text).ReadsOn limit text' s' := by
  induction h generalizing fuel with
  | @last kind s s₁ s₂ s' text text' isLast header hblock =>
      obtain ⟨fuel, rfl⟩ : ∃ k, fuel = k + 1 := ⟨fuel - 1, by omega⟩
      by_cases hlimit : limit < text.size
      · rw [blocks, if_pos hlimit]
        exact readsOn_of_lt hlimit hblock.size_text_le
      have hreads : (block kind limit s₂ text).ReadsOn limit text' s' := hblock.readsOn
      obtain hread | ⟨hlong, hstop⟩ := hreads
      · rw [blocks, if_neg hlimit, isLast]
        dsimp only
        rw [header]
        dsimp only
        rw [hread]
        exact Or.inl rfl
      · exact Or.inr ⟨hlong, ending_blocks isLast header hlimit hstop⟩
  | @more kind s s₁ s₂ s₃ s' text text₁ text' isMore header hblock rest ih =>
      obtain ⟨fuel, rfl⟩ : ∃ k, fuel = k + 1 := ⟨fuel - 1, by omega⟩
      have hflag := Bits.size_of_take? isMore
      have hkind := Bits.size_of_take? header
      have hsize := hblock.size_le
      by_cases hlimit : limit < text.size
      · rw [blocks, if_pos hlimit]
        exact readsOn_of_lt hlimit (Nat.le_trans hblock.size_text_le rest.size_text_le)
      have hreads : (block kind limit s₂ text).ReadsOn limit text₁ s₃ := hblock.readsOn
      obtain hread | ⟨hlong, hstop⟩ := hreads
      · rw [blocks, if_neg hlimit, isMore]
        dsimp only
        rw [header]
        dsimp only
        rw [hread]
        exact ih (by omega)
      · exact Or.inr ⟨Nat.lt_of_lt_of_le hlong rest.size_text_le, ending_blocks isMore header hlimit hstop⟩

end

/-- **Decoding with a bound.** What is spelled is decoded by every decoder whose bound it keeps to, and a decoder with a
lower bound comes to it as well, or stops because the text is longer. -/
theorem Spells.readsOn {far : Prop} {stream text : Bytes} {s : Bits} (h : Spells far stream text s) (limit : Nat) :
    (inflate limit stream).ReadsOn limit text.toArray s := by
  refine Blocks.readsOn h ?_
  simp only [Bits.size, Bits.ofBytes, List.length_nil]
  omega

/-! ### Bytes behind a stream -/

section

variable {far : Prop} {literals distances : Code} {kind : Nat} {s s' : Bits} {text text' : Array UInt8}

theorem Coded.extend (h : Coded far literals distances s text s' text') (more : Bytes) :
    Coded far literals distances (s.extend more) text (s'.extend more) text' := by
  induction h with
  | literal read byte rest ih => exact .literal ((forward_read _).extend read more) byte ih
  | copy read long piece near rest ih =>
      exact .copy ((forward_read _).extend read more) long ((forward_readCopy _ _).extend_two piece more)
        near ih
  | finish read => exact .finish ((forward_read _).extend read more)

theorem Block.extend (h : Block far kind s text s' text') (more : Bytes) :
    Block far kind (s.extend more) text (s'.extend more) text' := by
  cases h with
  | stored pending piece rest text short =>
      have hstored : Block far 0 _ text _ _ := .stored pending piece (rest ++ more) text short
      rwa [← List.append_assoc piece, ← List.append_assoc _ _ more] at hstored
  | coded codes kind_ne symbols =>
      exact .coded ((forward_blockCodes _).extend_two codes more) kind_ne (symbols.extend more)

theorem Blocks.extend (h : Blocks far s text s' text') (more : Bytes) :
    Blocks far (s.extend more) text (s'.extend more) text' := by
  induction h with
  | last isLast header block =>
      exact .last (Bits.take?_extend isLast more) (Bits.take?_extend header more) (block.extend more)
  | more isMore header block rest ih =>
      exact .more (Bits.take?_extend isMore more) (Bits.take?_extend header more) (block.extend more) ih

end

/-- What a stream spells does not depend on what follows it. -/
theorem Spells.extend {far : Prop} {stream text : Bytes} {s : Bits} (h : Spells far stream text s) (more : Bytes) :
    Spells far (stream ++ more) text (s.extend more) :=
  Blocks.extend h more

/-! ### Copies within the text

A copy that begins in front of the text leaves a zero in it, so that a text without zeros has none. -/

theorem pos_of_extended {table : List (Nat × Nat)} (htable : ∀ e ∈ table, 0 < e.1) {symbol v : Nat}
    {s s' : Bits} (h : extended table symbol s = .ok (v, s')) : 0 < v := by
  unfold extended at h
  split at h
  · cases h
  rename_i base extra hentry
  obtain ⟨⟨w, s₁⟩, -, h⟩ := ok_of_bind h
  cases h
  exact Nat.add_pos_left (htable _ (List.mem_of_getElem? hentry)) _

theorem length_pos_of_readCopy {distances : Code} {symbol length distance : Nat} {s s' : Bits}
    (h : readCopy distances symbol s = .ok (length, distance, s')) : 0 < length := by
  unfold readCopy at h
  obtain ⟨⟨n, s₁⟩, hlength, h⟩ := ok_of_bind h
  obtain ⟨_, -, h⟩ := ok_of_bind h
  obtain ⟨_, -, h⟩ := ok_of_bind h
  cases h
  exact pos_of_extended (by decide) hlength

theorem mem_appendCopy (distance n : Nat) {x : UInt8} {text : Array UInt8} (h : x ∈ text) :
    x ∈ appendCopy distance n text := by
  induction n generalizing text with
  | zero => exact h
  | succ n ih => exact ih (Array.mem_push.mpr (Or.inl h))

theorem zero_mem_appendCopy {distance n : Nat} {text : Array UInt8} (hn : 0 < n) (hfar : text.size < distance) :
    0 ∈ appendCopy distance n text := by
  obtain ⟨n, rfl⟩ : ∃ k, n = k + 1 := ⟨n - 1, by omega⟩
  rw [appendCopy, if_neg (Nat.not_le_of_lt hfar)]
  exact mem_appendCopy distance n Array.mem_push_self

section

variable {far : Prop} {literals distances : Code} {kind : Nat} {s s' : Bits} {text text' : Array UInt8}

theorem Coded.mem (h : Coded far literals distances s text s' text') {x : UInt8} (hx : x ∈ text) : x ∈ text' := by
  induction h with
  | literal read byte rest ih => exact ih (Array.mem_push.mpr (Or.inl hx))
  | copy read long piece near rest ih => exact ih (mem_appendCopy _ _ hx)
  | finish read => exact hx

theorem Block.mem (h : Block far kind s text s' text') {x : UInt8} (hx : x ∈ text) : x ∈ text' := by
  cases h with
  | stored pending piece rest text short => exact Array.mem_append.mpr (Or.inl hx)
  | coded codes kind_ne symbols => exact symbols.mem hx

theorem Blocks.mem (h : Blocks far s text s' text') {x : UInt8} (hx : x ∈ text) : x ∈ text' := by
  induction h with
  | last isLast header block => exact block.mem hx
  | more isMore header block rest ih => exact ih (block.mem hx)

theorem Coded.near (h : Coded True literals distances s text s' text') (hzero : 0 ∉ text') :
    Coded far literals distances s text s' text' := by
  induction h with
  | literal read byte rest ih => exact .literal read byte (ih hzero)
  | @copy s s₁ s₂ s' text text' symbol length distance read long piece near rest ih =>
      have hnear : distance ≤ text.size := by
        refine Nat.le_of_not_lt fun hfar => hzero ?_
        exact rest.mem (zero_mem_appendCopy (length_pos_of_readCopy piece) hfar)
      exact .copy read long piece (Or.inr hnear) (ih hzero)
  | finish read => exact .finish read

theorem Block.near (h : Block True kind s text s' text') (hzero : 0 ∉ text') : Block far kind s text s' text' := by
  cases h with
  | stored pending piece rest text short => exact .stored pending piece rest text short
  | coded codes kind_ne symbols => exact .coded codes kind_ne (symbols.near hzero)

theorem Blocks.near (h : Blocks True s text s' text') (hzero : 0 ∉ text') : Blocks far s text s' text' := by
  induction h with
  | last isLast header block => exact .last isLast header (block.near hzero)
  | more isMore header block rest ih =>
      exact .more isMore header (block.near fun h => hzero (rest.mem h)) (ih hzero)

end

/-- No copy of a stream reaches in front of a text without zeros. -/
theorem Spells.near {far : Prop} {stream text : Bytes} {s : Bits} (h : Spells True stream text s) (hzero : 0 ∉ text) :
    Spells far stream text s :=
  Blocks.near h fun hmem => hzero (List.mem_toArray.mp hmem)

end PaymentCredentials.Deflate
