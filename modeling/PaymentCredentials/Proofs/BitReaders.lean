import PaymentCredentials.Deflate.Inflate
import PaymentCredentials.Proofs.Results

/-!
Readers of bits. What a reader takes stands in front, and it looks at nothing behind that: bytes behind a
stream are left as they are, and what is read of the stream is the same without them.
-/
namespace PaymentCredentials.Deflate

/-- The stream with bytes behind it. -/
def Bits.extend (s : Bits) (more : Bytes) : Bits := ⟨s.pending, s.rest ++ more⟩

theorem Bits.next?_extend {s s' : Bits} {b : Bool} (h : s.next? = some (b, s')) (more : Bytes) :
    (s.extend more).next? = some (b, s'.extend more) := by
  obtain ⟨pending, rest⟩ := s
  cases pending with
  | cons c pending =>
      cases h
      rfl
  | nil =>
      cases rest with
      | nil => cases h
      | cons x rest =>
          cases h
          rfl

theorem Bits.size_of_next? {s s' : Bits} {b : Bool} (h : s.next? = some (b, s')) : s.size = s'.size + 1 := by
  obtain ⟨pending, rest⟩ := s
  cases pending with
  | cons c pending =>
      cases h
      simp only [size, List.length_cons]
      omega
  | nil =>
      cases rest with
      | nil => cases h
      | cons x rest =>
          cases h
          simp only [size, List.length_cons, List.length_nil]
          omega

theorem Bits.take?_extend {n v : Nat} {s s' : Bits} (h : s.take? n = some (v, s')) (more : Bytes) :
    (s.extend more).take? n = some (v, s'.extend more) := by
  induction n generalizing s s' v with
  | zero =>
      cases h
      rfl
  | succ n ih =>
      obtain ⟨⟨b, s₁⟩, hnext, h⟩ := Option.bind_eq_some_iff.mp h
      obtain ⟨⟨w, s₂⟩, htake, h⟩ := Option.bind_eq_some_iff.mp h
      cases h
      simp only [take?, next?_extend hnext, ih htake, Option.bind_eq_bind, Option.bind_some]
      rfl

theorem Bits.size_of_take? {n v : Nat} {s s' : Bits} (h : s.take? n = some (v, s')) : s.size = s'.size + n := by
  induction n generalizing s v with
  | zero =>
      cases h
      rfl
  | succ n ih =>
      obtain ⟨⟨b, s₁⟩, hnext, h⟩ := Option.bind_eq_some_iff.mp h
      obtain ⟨⟨w, s₂⟩, htake, h⟩ := Option.bind_eq_some_iff.mp h
      cases h
      rw [size_of_next? hnext, ih htake, Nat.add_assoc]

/-! ### Readers -/

section

variable {α β γ : Type}

/-- A reader that goes forward: what it comes to is a value and the bits behind it, put together by `glue`, and it
comes to the same value with more bytes behind those. -/
def Forward (glue : α → Bits → β) (f : Bits → Except Stop β) : Prop :=
  ∀ ⦃s : Bits⦄ ⦃b : β⦄, f s = .ok b → ∃ a s', b = glue a s' ∧ s'.size ≤ s.size ∧
    ∀ more, f (s.extend more) = .ok (glue a (s'.extend more))

theorem forward_pure (glue : α → Bits → β) (a : α) : Forward glue fun s => pure (glue a s) := by
  intro s b h
  cases h
  exact ⟨a, s, rfl, Nat.le_refl _, fun _ => rfl⟩

theorem forward_error (glue : α → Bits → β) (stop : Stop) : Forward glue fun _ => .error stop := by
  intro s b h
  cases h

theorem Forward.bind {glue : α → Bits → β} {f : Bits → Except Stop (γ × Bits)}
    {g : γ × Bits → Except Stop β} (hf : Forward Prod.mk f) (hg : ∀ c, Forward glue fun s => g (c, s)) :
    Forward glue fun s => f s >>= g := by
  intro s b h
  obtain ⟨r, hr, h⟩ := ok_of_bind h
  obtain ⟨c, s₁, rfl, hsize₁, hextend₁⟩ := hf hr
  obtain ⟨a, s₂, rfl, hsize₂, hextend₂⟩ := hg c h
  exact ⟨a, s₂, rfl, Nat.le_trans hsize₂ hsize₁,
    fun more => (bind_of_ok (hextend₁ more) _).trans (hextend₂ more)⟩

/-- Behind a step that does not read. -/
theorem Forward.after {glue : α → Bits → β} {x : Except Stop γ} {f : γ → Bits → Except Stop β}
    (hf : ∀ c, Forward glue (f c)) : Forward glue fun s => x >>= fun c => f c s := by
  intro s b h
  obtain ⟨c, hx, h⟩ := ok_of_bind h
  obtain ⟨a, s', rfl, hsize, hextend⟩ := hf c h
  exact ⟨a, s', rfl, hsize, fun more => (bind_of_ok hx _).trans (hextend more)⟩

theorem forward_ite {glue : α → Bits → β} {p : Prop} [Decidable p] {f g : Bits → Except Stop β}
    (hf : Forward glue f) (hg : Forward glue g) : Forward glue fun s => if p then f s else g s := by
  by_cases h : p
  · simpa only [if_pos h] using hf
  · simpa only [if_neg h] using hg

theorem Forward.extend {f : Bits → Except Stop (α × Bits)} (hf : Forward Prod.mk f) {a : α} {s s' : Bits}
    (h : f s = .ok (a, s')) (more : Bytes) : f (s.extend more) = .ok (a, s'.extend more) := by
  obtain ⟨_, _, ⟨⟩, -, hextend⟩ := hf h
  exact hextend more

theorem Forward.size_le {f : Bits → Except Stop (α × Bits)} (hf : Forward Prod.mk f) {a : α} {s s' : Bits}
    (h : f s = .ok (a, s')) : s'.size ≤ s.size := by
  obtain ⟨_, _, ⟨⟩, hsize, -⟩ := hf h
  exact hsize

/-- Two values and the bits behind them. -/
def glueTwo (a : α × β) (s : Bits) : α × β × Bits := (a.1, a.2, s)

theorem Forward.extend_two {f : Bits → Except Stop (α × β × Bits)} (hf : Forward glueTwo f) {a : α} {b : β}
    {s s' : Bits} (h : f s = .ok (a, b, s')) (more : Bytes) : f (s.extend more) = .ok (a, b, s'.extend more) := by
  obtain ⟨⟨_, _⟩, _, ⟨⟩, -, hextend⟩ := hf h
  exact hextend more

theorem Forward.size_le_two {f : Bits → Except Stop (α × β × Bits)} (hf : Forward glueTwo f) {a : α} {b : β}
    {s s' : Bits} (h : f s = .ok (a, b, s')) : s'.size ≤ s.size := by
  obtain ⟨⟨_, _⟩, _, ⟨⟩, hsize, -⟩ := hf h
  exact hsize

end

theorem forward_take (n : Nat) : Forward Prod.mk (Bits.take n) := by
  intro s r h
  unfold Bits.take at h
  cases htake : s.take? n with
  | none =>
      rw [htake] at h
      cases h
  | some r' =>
      obtain ⟨v, s'⟩ := r'
      rw [htake] at h
      cases h
      refine ⟨v, s', rfl, by rw [Bits.size_of_take? htake]; exact Nat.le_add_right _ _, fun more => ?_⟩
      rw [Bits.take, Bits.take?_extend htake]

theorem forward_read (code : Code) : Forward Prod.mk code.read := by
  induction code with
  | unused => exact forward_error _ _
  | leaf symbol => exact forward_pure _ symbol
  | fork zero one ihzero ihone =>
      intro s r h
      rw [Code.read] at h
      cases hnext : s.next? with
      | none =>
          rw [hnext] at h
          cases h
      | some bit =>
          obtain ⟨b, s₁⟩ := bit
          rw [hnext] at h
          have hsize := Bits.size_of_next? hnext
          cases b with
          | false =>
              obtain ⟨symbol, s', rfl, hle, hextend⟩ := ihzero h
              refine ⟨symbol, s', rfl, by omega, fun more => ?_⟩
              rw [Code.read, Bits.next?_extend hnext]
              exact hextend more
          | true =>
              obtain ⟨symbol, s', rfl, hle, hextend⟩ := ihone h
              refine ⟨symbol, s', rfl, by omega, fun more => ?_⟩
              rw [Code.read, Bits.next?_extend hnext]
              exact hextend more

theorem forward_extended (table : List (Nat × Nat)) (symbol : Nat) : Forward Prod.mk (extended table symbol) := by
  unfold extended
  cases table[symbol]? with
  | none => exact forward_error _ _
  | some entry => exact (forward_take entry.2).bind fun v => forward_pure _ (entry.1 + v)

theorem forward_readCopy (distances : Code) (symbol : Nat) : Forward glueTwo (readCopy distances symbol) := by
  unfold readCopy
  refine (forward_extended _ _).bind fun length => ?_
  refine (forward_read distances).bind fun symbol' => ?_
  exact (forward_extended _ _).bind fun distance => forward_pure glueTwo (length, distance)

theorem forward_shortLengths (count : Nat) : Forward Prod.mk (shortLengths count) := by
  induction count with
  | zero => exact forward_pure _ []
  | succ count ih => exact (forward_take 3).bind fun v => ih.bind fun more => forward_pure _ (v :: more)

theorem forward_codeLengths (code : Code) (count fuel : Nat) (read : List Nat) :
    Forward Prod.mk fun s => codeLengths code count fuel s read := by
  induction fuel generalizing read with
  | zero =>
      unfold codeLengths
      refine forward_ite (forward_pure _ read) ?_
      exact forward_ite (forward_error _ _) (forward_error _ _)
  | succ fuel ih =>
      unfold codeLengths
      refine forward_ite (forward_pure _ read) ?_
      refine forward_ite (forward_error _ _) ?_
      refine (forward_read code).bind fun symbol => ?_
      refine forward_ite (ih _) ?_
      refine forward_ite ?_ ?_
      · cases read with
        | nil => exact forward_error _ _
        | cons last tail => exact (forward_take 2).bind fun n => ih _
      refine forward_ite ?_ ?_
      · exact (forward_take 3).bind fun n => ih _
      · exact (forward_take 7).bind fun n => ih _

theorem forward_dynamicCodes : Forward glueTwo dynamicCodes := by
  unfold dynamicCodes
  refine (forward_take 5).bind fun literals => ?_
  refine (forward_take 5).bind fun distances => ?_
  refine (forward_take 4).bind fun short => ?_
  refine forward_ite (forward_error _ _) ?_
  refine (forward_shortLengths _).bind fun written => ?_
  refine Forward.after fun code => ?_
  refine (forward_codeLengths code _ _ []).bind fun all => ?_
  refine Forward.after fun literalCode => ?_
  refine Forward.after fun distanceCode => ?_
  exact forward_pure glueTwo (literalCode, distanceCode)

theorem forward_blockCodes (kind : Nat) : Forward glueTwo (blockCodes kind) := by
  unfold blockCodes
  refine forward_ite ?_ (forward_ite forward_dynamicCodes (forward_error _ _))
  refine Forward.after fun literalCode => ?_
  refine Forward.after fun distanceCode => ?_
  exact forward_pure glueTwo (literalCode, distanceCode)

end PaymentCredentials.Deflate
