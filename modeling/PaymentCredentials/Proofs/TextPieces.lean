import PaymentCredentials.Deflate.Compress
import PaymentCredentials.Proofs.StreamGrammar

/-!
The pieces of a text make the text again. A copy is only taken where its bytes have been compared with those that it
stands for, so that at each step the pieces so far make the text up to the position of the step.
-/
namespace PaymentCredentials.Deflate

/-! ### What pieces make -/

/-- Pieces make a longer text of a text. Their copies keep to the lengths and distances that can be written. -/
inductive Extends : Array UInt8 → List Piece → Array UInt8 → Prop
  | done (text : Array UInt8) : Extends text [] text
  | literal {byte : UInt8} {text text' : Array UInt8} {pieces : List Piece}
      (rest : Extends (text.push byte) pieces text') : Extends text (.literal byte :: pieces) text'
  | copy {length distance : Nat} {text text' : Array UInt8} {pieces : List Piece} (least : minCopy ≤ length)
      (most : length ≤ maxCopy) (pos : 0 < distance) (far : distance ≤ reach) (near : distance ≤ text.size)
      (rest : Extends (appendCopy distance length text) pieces text') :
      Extends text (.copy length distance :: pieces) text'

/-- The bytes that pieces stand for. -/
def spans : List Piece → Nat
  | [] => 0
  | p :: pieces => p.span + spans pieces

theorem spans_append (l r : List Piece) : spans (l ++ r) = spans l + spans r := by
  induction l with
  | nil => exact (Nat.zero_add _).symm
  | cons p l ih => rw [List.cons_append, spans, spans, ih, Nat.add_assoc]

theorem exists_appendCopy (distance n : Nat) (text : Array UInt8) :
    ∃ more : Bytes, (appendCopy distance n text).toList = text.toList ++ more := by
  induction n generalizing text with
  | zero => exact ⟨[], (List.append_nil _).symm⟩
  | succ n ih =>
      rw [appendCopy]
      obtain ⟨more, hmore⟩ := ih (text.push _)
      exact ⟨_ :: more, by rw [hmore, Array.toList_push, List.append_assoc, List.singleton_append]⟩

section

variable {text text' : Array UInt8} {pieces pieces' : List Piece}

theorem Extends.append {between : Array UInt8} (h : Extends text pieces between)
    (h' : Extends between pieces' text') : Extends text (pieces ++ pieces') text' := by
  induction h with
  | done text => exact h'
  | literal rest ih => exact .literal (ih h')
  | copy least most pos far near rest ih => exact .copy least most pos far near (ih h')

theorem Extends.split (h : Extends text (pieces ++ pieces') text') :
    ∃ between, Extends text pieces between ∧ Extends between pieces' text' := by
  induction pieces generalizing text with
  | nil => exact ⟨text, .done text, h⟩
  | cons p pieces ih =>
      cases h with
      | literal rest =>
          obtain ⟨between, hfront, hbehind⟩ := ih rest
          exact ⟨between, .literal hfront, hbehind⟩
      | copy least most pos far near rest =>
          obtain ⟨between, hfront, hbehind⟩ := ih rest
          exact ⟨between, .copy least most pos far near hfront, hbehind⟩

theorem Extends.size_eq (h : Extends text pieces text') : text'.size = text.size + spans pieces := by
  induction h with
  | done text => rfl
  | literal rest ih =>
      rw [ih, Array.size_push, spans, Piece.span]
      omega
  | copy least most pos far near rest ih =>
      rw [ih, size_appendCopy, spans, Piece.span]
      omega

/-- Each piece stands for a byte at least. -/
theorem Extends.length_le (h : Extends text pieces text') : pieces.length ≤ spans pieces := by
  induction h with
  | done text => exact Nat.le_refl _
  | literal rest ih =>
      rw [List.length_cons, spans, Piece.span]
      omega
  | copy least most pos far near rest ih =>
      rw [minCopy] at least
      rw [List.length_cons, spans, Piece.span]
      omega

/-- What pieces make begins with what they extend. -/
theorem Extends.exists_append (h : Extends text pieces text') :
    ∃ more : Bytes, text'.toList = text.toList ++ more ∧ more.length = spans pieces := by
  have hmore : ∃ more : Bytes, text'.toList = text.toList ++ more := by
    induction h with
    | done text => exact ⟨[], (List.append_nil _).symm⟩
    | literal rest ih =>
        obtain ⟨more, hmore⟩ := ih
        exact ⟨_ :: more, by rw [hmore, Array.toList_push, List.append_assoc, List.singleton_append]⟩
    | copy least most pos far near rest ih =>
        obtain ⟨copied, hcopied⟩ := exists_appendCopy _ _ _
        obtain ⟨more, hmore⟩ := ih
        exact ⟨copied ++ more, by rw [hmore, hcopied, List.append_assoc]⟩
  obtain ⟨more, hmore⟩ := hmore
  have hlength := congrArg List.length hmore
  rw [List.length_append, Array.length_toList, Array.length_toList, h.size_eq] at hlength
  exact ⟨more, hmore, by omega⟩

end

/-! ### Copies of a text -/

/-- A copy that stands for what follows a position of a text. -/
structure Found.Fits (text : Array UInt8) (pos : Nat) (f : Found) : Prop where
  least : minCopy ≤ f.length
  most : f.length ≤ maxCopy
  within : pos + f.length ≤ text.size
  distance_pos : 0 < f.distance
  far : f.distance ≤ reach
  near : f.distance ≤ pos
  agrees : ∀ k < f.length, text.getD (pos + k) 0 = text.getD (pos - f.distance + k) 0

section

variable {text : Array UInt8} {pos : Nat}

theorem extract_succ (h : pos < text.size) :
    text.extract 0 (pos + 1) = (text.extract 0 pos).push (text.getD pos 0) := by
  rw [Array.extract_succ_right (Nat.succ_pos pos) h, Array.getD_eq_getD_getElem?, Array.getElem?_eq_getElem h]
  rfl

theorem size_front (h : pos ≤ text.size) : (text.extract 0 pos).size = pos := by
  rw [Array.size_extract, Nat.min_eq_left h, Nat.sub_zero]

theorem getD_front {i : Nat} (hi : i < pos) : (text.extract 0 pos).getD i 0 = text.getD i 0 := by
  simp only [Array.getD_eq_getD_getElem?, Array.getElem?_extract, Nat.zero_add]
  by_cases hsize : i < text.size
  · rw [if_pos (by omega)]
  · rw [if_neg (by omega), Array.getElem?_eq_none (Nat.le_of_not_lt hsize)]

/-- A copy whose bytes agree with those at a position is the text behind the position. -/
theorem appendCopy_front {distance n : Nat} (hpos : 0 < distance) (hnear : distance ≤ pos)
    (hwithin : pos + n ≤ text.size)
    (hagrees : ∀ k < n, text.getD (pos + k) 0 = text.getD (pos - distance + k) 0) :
    appendCopy distance n (text.extract 0 pos) = text.extract 0 (pos + n) := by
  induction n generalizing pos with
  | zero => rfl
  | succ n ih =>
      have hbyte := hagrees 0 (Nat.succ_pos n)
      have hsize : (text.extract 0 pos).size = pos := size_front (by omega)
      have hbehind : ∀ k < n, text.getD (pos + 1 + k) 0 = text.getD (pos + 1 - distance + k) 0 := by
        intro k hk
        rw [Nat.add_right_comm, Nat.add_assoc, hagrees (k + 1) (by omega), Nat.sub_add_comm hnear]
        congr 1
        omega
      rw [Nat.add_zero, Nat.add_zero] at hbyte
      rw [appendCopy, hsize, if_pos hnear, getD_front (by omega), ← hbyte, ← extract_succ (by omega),
        ih (by omega) (by omega) hbehind, Nat.add_right_comm, Nat.add_assoc]

theorem extends_literal {byte : UInt8} (h : pos < text.size) (hbyte : byte = text.getD pos 0) :
    Extends (text.extract 0 pos) [.literal byte] (text.extract 0 (pos + 1)) := by
  rw [extract_succ h, hbyte]
  exact .literal (.done _)

theorem Found.Fits.extends {f : Found} (h : f.Fits text pos) :
    Extends (text.extract 0 pos) [.copy f.length f.distance] (text.extract 0 (pos + f.length)) := by
  have hwithin := h.within
  have hsize : (text.extract 0 pos).size = pos := size_front (by omega)
  rw [← appendCopy_front h.distance_pos h.near h.within h.agrees]
  exact .copy h.least h.most h.distance_pos h.far (by rw [hsize]; exact h.near) (.done _)

end

/-! ### Finding copies -/

/-- A chain leads to earlier positions, if it leads anywhere. -/
def LeadsBack (chain : Array Nat) : Prop := ∀ p, chain.getD p 0 ≠ 0 → chain.getD p 0 < p

theorem getD_set_lt {latest : Array Nat} {n : Nat} (h : ∀ i, latest.getD i 0 ≠ 0 → latest.getD i 0 < n)
    (slot i : Nat) (hne : (latest.set! slot n).getD i 0 ≠ 0) : (latest.set! slot n).getD i 0 < n + 1 := by
  simp only [Array.set!_eq_setIfInBounds, Array.getD_eq_getD_getElem?, Array.getElem?_setIfInBounds] at h hne ⊢
  split at hne
  · rename_i heq
    rw [if_pos heq]
    split
    · exact Nat.lt_succ_self n
    · exact Nat.succ_pos n
  · rename_i hother
    rw [if_neg hother]
    exact Nat.lt_succ_of_lt (h i hne)

theorem leadsBack_push {chain : Array Nat} (h : LeadsBack chain) {p : Nat} (hp : p ≠ 0 → p < chain.size) :
    LeadsBack (chain.push p) := by
  intro i hne
  unfold LeadsBack at h
  simp only [Array.getD_eq_getD_getElem?, Array.getElem?_push] at h hne ⊢
  split at hne
  · rename_i hlast
    rw [if_pos hlast, hlast]
    exact hp hne
  · rename_i hother
    rw [if_neg hother]
    exact h i hne

theorem leadsBack_earlier (text : Array UInt8) : LeadsBack (earlier text) := by
  -- Of the positions before `n`, the latest one of each hash is kept, or a zero.
  have hfold : ∀ n, ∃ (latest chain : Array Nat), (List.range n).foldl (fun (acc : Array Nat × Array Nat) i =>
      (acc.1.set! (hash3 (text.getD i 0) (text.getD (i + 1) 0) (text.getD (i + 2) 0)) i,
        acc.2.push (acc.1.getD (hash3 (text.getD i 0) (text.getD (i + 1) 0) (text.getD (i + 2) 0)) 0)))
      (Array.replicate 32768 0, #[]) = (latest, chain) ∧
      (∀ h, latest.getD h 0 ≠ 0 → latest.getD h 0 < n) ∧ chain.size = n ∧ LeadsBack chain := by
    intro n
    induction n with
    | zero =>
        refine ⟨_, _, rfl, fun h hne => absurd ?_ hne, rfl, fun p hne => absurd rfl hne⟩
        rw [Array.getD_eq_getD_getElem?, Array.getElem?_replicate]
        split <;> rfl
    | succ n ih =>
        obtain ⟨latest, chain, hrange, hlatest, hsize, hchain⟩ := ih
        rw [List.range_succ, List.foldl_append, hrange]
        refine ⟨_, _, rfl, getD_set_lt hlatest _, by rw [Array.size_push, hsize],
          leadsBack_push hchain fun hne => ?_⟩
        rw [hsize]
        exact hlatest _ hne
  obtain ⟨latest, chain, hrange, -, -, hchain⟩ := hfold (text.size - 2)
  simp only [earlier, hrange]
  exact hchain

theorem agreement_spec (text : Array UInt8) (p q left n : Nat)
    (hbefore : ∀ k < n, text.getD (p + k) 0 = text.getD (q + k) 0) :
    agreement text p q left n ≤ n + left ∧
      ∀ k < agreement text p q left n, text.getD (p + k) 0 = text.getD (q + k) 0 := by
  induction left generalizing n with
  | zero => exact ⟨Nat.le_refl _, hbefore⟩
  | succ left ih =>
      rw [agreement]
      split
      · rename_i hbyte
        obtain ⟨hle, hagrees⟩ := ih (n + 1) fun k hk => by
          rcases Nat.lt_or_eq_of_le (Nat.le_of_lt_succ hk) with hlt | rfl
          · exact hbefore k hlt
          · exact hbyte
        exact ⟨by omega, hagrees⟩
      · exact ⟨Nat.le_add_right _ _, hbefore⟩

/-- Bytes that have been compared are a copy that fits. -/
theorem fits_agreement {text : Array UInt8} {pos far next : Nat} (hfar : far ≤ pos ∧ far ≤ reach)
    (hnext : next < pos) (hreach : pos - next ≤ far)
    (hlong : 2 < agreement text pos next (min maxCopy (text.size - pos)) 0) :
    Found.Fits text pos ⟨agreement text pos next (min maxCopy (text.size - pos)) 0, pos - next⟩ := by
  obtain ⟨hle, hagrees⟩ := agreement_spec text pos next (min maxCopy (text.size - pos)) 0 nofun
  rw [Nat.zero_add] at hle
  refine ⟨hlong, Nat.le_trans hle (Nat.min_le_left _ _), ?_, Nat.sub_pos_of_lt hnext, Nat.le_trans hreach hfar.2,
    Nat.sub_le _ _, fun k hk => ?_⟩
  · dsimp only
    omega
  · rw [Nat.sub_sub_self (Nat.le_of_lt hnext)]
    exact hagrees k hk

theorem LeadsBack.visited {chain : Array Nat} (h : LeadsBack chain) {pos far probe : Nat} (hprobe : probe ≤ pos)
    (hnext : ¬ (chain.getD probe 0 % chainEnd = 0 ∨ far < pos - chain.getD probe 0)) :
    chain.getD probe 0 < pos ∧ pos - chain.getD probe 0 ≤ far := by
  have hne : chain.getD probe 0 ≠ 0 := fun hzero => hnext (Or.inl (by rw [hzero]; rfl))
  have hlt := h probe hne
  exact ⟨by omega, by omega⟩

/-- A copy that has been found: the one that the search began with, or a longer one that fits. -/
def Found.Beats (text : Array UInt8) (pos : Nat) (best f : Found) : Prop :=
  f = best ∨ f.Fits text pos ∧ best.length < f.length

theorem search_beats {text : Array UInt8} {chain : Array Nat} (hchain : LeadsBack chain) {pos far : Nat}
    (hfar : far ≤ pos ∧ far ≤ reach) (budget : Nat) {probe : Nat} (hprobe : probe ≤ pos) {best : Found}
    (hbest : 2 ≤ best.length) :
    best.Beats text pos (search text chain pos far (min maxCopy (text.size - pos)) budget probe best) := by
  fun_induction search text chain pos far (min maxCopy (text.size - pos)) budget probe best with
  | case1 => exact Or.inl rfl
  | case2 => exact Or.inl rfl
  | case3 _ _ _ _ _ hnext _ _ ih => exact ih (Nat.le_of_lt (hchain.visited hprobe hnext).1) hbest
  | case4 _ _ _ _ _ hnext _ _ _ _ _ ih => exact ih (Nat.le_of_lt (hchain.visited hprobe hnext).1) hbest
  | case5 _ _ _ _ _ hnext _ _ _ hlonger _ =>
      obtain ⟨hlt, hreach⟩ := hchain.visited hprobe hnext
      exact Or.inr ⟨fits_agreement hfar hlt hreach (by omega), by dsimp only; omega⟩
  | case6 _ _ _ _ _ hnext _ _ _ _ hlonger _ ih =>
      obtain ⟨hlt, hreach⟩ := hchain.visited hprobe hnext
      have hbeaten := Nat.lt_of_not_le fun h => hlonger (Or.inl h)
      have hlong := Nat.lt_of_le_of_lt hbest hbeaten
      rcases ih (Nat.le_of_lt hlt) (Nat.le_of_lt hlong) with heq | ⟨hfits, hmore⟩
      · rw [heq]
        exact Or.inr ⟨fits_agreement hfar hlt hreach hlong, hbeaten⟩
      · exact Or.inr ⟨hfits, Nat.lt_trans hbeaten hmore⟩

/-- The length that a copy has to beat. -/
def floorOf : Option Waiting → Nat
  | some w => w.copy.length
  | none => minCopy - 1

/-- The copy that is found at a position, of no length if it is useless. -/
def foundAt (text : Array UInt8) (chain : Array Nat) (pos : Nat) (waiting : Option Waiting) : Found :=
  let found := longestCopy text chain pos (min pos (reach - min maxCopy (text.size - pos))) ⟨floorOf waiting, 0⟩
  if (found.length = minCopy ∧ 8192 ≤ found.distance) ∨ found.distance = pos % reach then ⟨0, 0⟩ else found

theorem longestCopy_beats {text : Array UInt8} {chain : Array Nat} (hchain : LeadsBack chain) {pos far : Nat}
    (hfar : far ≤ pos ∧ far ≤ reach) {best : Found} (hbest : 2 ≤ best.length) :
    best.Beats text pos (longestCopy text chain pos far best) := by
  rw [longestCopy]
  split
  · exact Or.inl rfl
  · exact search_beats hchain hfar _ (Nat.le_refl pos) hbest

section

variable {text : Array UInt8} {chain : Array Nat} {pos : Nat}

/-- A copy of no length, or the one that was to be beaten, or a longer one that fits. -/
theorem foundAt_cases (hchain : LeadsBack chain) (waiting : Option Waiting) (hfloor : 2 ≤ floorOf waiting) :
    (foundAt text chain pos waiting).length ≤ floorOf waiting ∧ (foundAt text chain pos waiting).distance = 0 ∨
      (foundAt text chain pos waiting).Fits text pos ∧
        floorOf waiting < (foundAt text chain pos waiting).length := by
  have hfar : min pos (reach - min maxCopy (text.size - pos)) ≤ pos ∧
      min pos (reach - min maxCopy (text.size - pos)) ≤ reach :=
    ⟨Nat.min_le_left _ _, Nat.le_trans (Nat.min_le_right _ _) (Nat.sub_le _ _)⟩
  have hbeats : Found.Beats text pos ⟨floorOf waiting, 0⟩ _ := longestCopy_beats hchain hfar hfloor
  simp only [foundAt]
  split
  · exact Or.inl ⟨Nat.zero_le _, rfl⟩
  · rcases hbeats with heq | hfits
    · rw [heq]
      exact Or.inl ⟨Nat.le_refl _, rfl⟩
    · exact Or.inr hfits

/-- A copy that is found where none waits is empty, or it fits. -/
theorem foundAt_none (hchain : LeadsBack chain) (h : (foundAt text chain pos none).distance ≠ 0) :
    (foundAt text chain pos none).Fits text pos :=
  ((foundAt_cases hchain none (Nat.le_refl 2)).resolve_left fun hempty => h hempty.2).1

/-- A copy that is longer than the one that waits fits. -/
theorem foundAt_some (hchain : LeadsBack chain) {w : Waiting} (hw : 2 ≤ w.copy.length)
    (h : w.copy.length < (foundAt text chain pos (some w)).length) :
    (foundAt text chain pos (some w)).Fits text pos :=
  ((foundAt_cases hchain (some w) hw).resolve_left fun hshort => Nat.not_le_of_lt h hshort.1).1

end

theorem groupsFrom_succ (text : Array UInt8) (chain : Array Nat) (fuel pos : Nat)
    (waiting : Option Waiting) (groups : List (List Piece)) :
    groupsFrom text chain (fuel + 1) pos waiting groups =
      if text.size ≤ pos then groups
      else
        let found := foundAt text chain pos waiting
        let copy := Piece.copy found.length found.distance
        let byte := text.getD pos 0
        match waiting with
        | some w =>
          if w.copy.length < found.length then
            if 128 ≤ found.length then
              groupsFrom text chain fuel (pos + found.length) none ([.literal w.byte, copy] :: groups)
            else groupsFrom text chain fuel (pos + 1) (some ⟨byte, found⟩) ([.literal w.byte] :: groups)
          else
            groupsFrom text chain fuel (pos + (w.copy.length - 1)) none
              ([.copy w.copy.length w.copy.distance] :: groups)
        | none =>
          if found.distance = 0 then groupsFrom text chain fuel (pos + 1) none ([.literal byte] :: groups)
          else if 128 ≤ found.length then
            groupsFrom text chain fuel (pos + found.length) none ([copy] :: groups)
          else groupsFrom text chain fuel (pos + 1) (some ⟨byte, found⟩) groups := rfl

/-! ### The pieces of a text -/

/-- A byte that waits. -/
def waitingCount : Option Waiting → Nat
  | none => 0
  | some _ => 1

@[simp] theorem waitingCount_none : waitingCount none = 0 := rfl

@[simp] theorem waitingCount_some (w : Waiting) : waitingCount (some w) = 1 := rfl

/-- The groups found make the text before a position, but for the byte that waits for a longer copy. A copy that is
put off fits where it waits. -/
structure Makes (text : Array UInt8) (pos : Nat) (waiting : Option Waiting) (groups : List (List Piece)) : Prop where
  pos_le : pos ≤ text.size
  makes : Extends #[] groups.reverse.flatten (text.extract 0 (pos - waitingCount waiting))
  waits : ∀ w, waiting = some w → 0 < pos ∧ w.byte = text.getD (pos - 1) 0 ∧ w.copy.Fits text (pos - 1)

theorem Makes.cons {text : Array UInt8} {pos next : Nat} {waiting : Option Waiting} {groups : List (List Piece)}
    {group : List Piece} (h : Makes text pos waiting groups)
    (hgroup : Extends (text.extract 0 (pos - waitingCount waiting)) group (text.extract 0 next))
    (hnext : next ≤ text.size) : Makes text next none (group :: groups) := by
  refine ⟨hnext, ?_, nofun⟩
  rw [List.reverse_cons, List.flatten_append, List.flatten_singleton]
  exact h.makes.append hgroup

/-- A byte is put off, with a copy that fits there. -/
theorem Makes.wait {text : Array UInt8} {pos : Nat} {groups : List (List Piece)} {found : Found} {byte : UInt8}
    (h : Makes text pos none groups) (hpos : pos < text.size) (hbyte : byte = text.getD pos 0)
    (hfits : found.Fits text pos) : Makes text (pos + 1) (some ⟨byte, found⟩) groups := by
  refine ⟨hpos, h.makes, ?_⟩
  rintro _ ⟨⟩
  exact ⟨Nat.succ_pos pos, hbyte, hfits⟩

/-- At the end of the text no copy can wait. -/
theorem Makes.whole {text : Array UInt8} {pos : Nat} {waiting : Option Waiting} {groups : List (List Piece)}
    (h : Makes text pos waiting groups) (hend : text.size ≤ pos) : Extends #[] groups.reverse.flatten text := by
  obtain rfl : pos = text.size := Nat.le_antisymm h.pos_le hend
  cases waiting with
  | none =>
      have hmakes := h.makes
      rwa [waitingCount_none, Nat.sub_zero, Array.extract_eq_self_of_le (Nat.le_refl _)] at hmakes
  | some w =>
      obtain ⟨hpos, -, hfits⟩ := h.waits w rfl
      have hleast := hfits.least
      have hwithin := hfits.within
      rw [minCopy] at hleast
      omega

/-- From wherever the matcher stands, the given number of steps is enough for the rest of the text. -/
def FinishesIn (text : Array UInt8) (chain : Array Nat) (fuel : Nat) : Prop :=
  ∀ ⦃pos : Nat⦄ ⦃waiting : Option Waiting⦄ ⦃groups : List (List Piece)⦄, Makes text pos waiting groups →
    2 * (text.size - pos) + waitingCount waiting < fuel →
      Extends #[] (groupsFrom text chain fuel pos waiting groups).reverse.flatten text

section

variable {text : Array UInt8} {chain : Array Nat} {fuel pos : Nat} {groups : List (List Piece)}

/-- A step behind a byte that waits: a longer copy is taken, or put off in its turn, or the copy that waited is
taken. -/
theorem FinishesIn.waiting (hrest : FinishesIn text chain fuel) (hchain : LeadsBack chain) {w : Waiting}
    (h : Makes text pos (some w) groups) (hlt : pos < text.size) (hfuel : 2 * (text.size - pos) < fuel) :
    Extends #[] (groupsFrom text chain (fuel + 1) pos (some w) groups).reverse.flatten text := by
  obtain ⟨hpositive, hbyte, hwaits⟩ := h.waits w rfl
  obtain ⟨before, rfl⟩ : ∃ before, pos = before + 1 := ⟨pos - 1, by omega⟩
  rw [Nat.add_sub_cancel] at hbyte hwaits
  have hliteral := extends_literal (Nat.lt_of_succ_lt hlt) hbyte
  rw [groupsFrom_succ, if_neg (Nat.not_le_of_lt hlt)]
  generalize hat : text.getD (before + 1) 0 = byte
  dsimp only
  split
  · rename_i hlonger
    have hfits := foundAt_some hchain (Nat.le_of_succ_le hwaits.least) hlonger
    split
    · refine hrest (h.cons (hliteral.append hfits.extends) hfits.within) ?_
      rw [waitingCount_none]
      omega
    · refine hrest ((h.cons hliteral h.pos_le).wait hlt hat.symm hfits) ?_
      rw [waitingCount_some]
      omega
  · have hleast := hwaits.least
    have hnext : before + w.copy.length = before + 1 + (w.copy.length - 1) := by
      rw [minCopy] at hleast
      omega
    have hcopy := hwaits.extends
    have hwithin := hwaits.within
    rw [hnext] at hcopy hwithin
    refine hrest (h.cons hcopy hwithin) ?_
    rw [waitingCount_none]
    omega

/-- A step where nothing waits: a literal, or a long copy, or a copy that is put off. -/
theorem FinishesIn.free (hrest : FinishesIn text chain fuel) (hchain : LeadsBack chain)
    (h : Makes text pos none groups) (hlt : pos < text.size) (hfuel : 2 * (text.size - pos) < fuel + 1) :
    Extends #[] (groupsFrom text chain (fuel + 1) pos none groups).reverse.flatten text := by
  rw [groupsFrom_succ, if_neg (Nat.not_le_of_lt hlt)]
  generalize hat : text.getD pos 0 = byte
  dsimp only
  split
  · refine hrest (h.cons (extends_literal hlt hat.symm) hlt) ?_
    rw [waitingCount_none]
    omega
  rename_i hdistance
  have hfits := foundAt_none hchain hdistance
  have hleast := hfits.least
  split
  · refine hrest (h.cons hfits.extends hfits.within) ?_
    rw [waitingCount_none]
    omega
  · refine hrest (h.wait hlt hat.symm hfits) ?_
    rw [waitingCount_some]
    omega

end

theorem finishesIn {text : Array UInt8} {chain : Array Nat} (hchain : LeadsBack chain) (fuel : Nat) :
    FinishesIn text chain fuel := by
  induction fuel with
  | zero => exact fun _ _ _ _ hfuel => absurd hfuel (Nat.not_lt_zero _)
  | succ fuel ih =>
      intro pos waiting groups h hfuel
      by_cases hend : text.size ≤ pos
      · rw [groupsFrom_succ, if_pos hend]
        exact h.whole hend
      have hlt : pos < text.size := Nat.lt_of_not_le hend
      cases waiting with
      | some w => exact ih.waiting hchain h hlt (Nat.lt_of_succ_lt_succ hfuel)
      | none => exact ih.free hchain h hlt hfuel

theorem extends_groups (text : Array UInt8) : Extends #[] (groups text).flatten text := by
  have hstart : Makes text 0 none [] := by
    refine ⟨Nat.zero_le _, ?_, nofun⟩
    rw [waitingCount_none, Array.extract_zero]
    exact .done _
  exact finishesIn (leadsBack_earlier text) _ hstart (Nat.lt_succ_self (2 * text.size))

end PaymentCredentials.Deflate
