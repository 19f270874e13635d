import PaymentCredentials.Json.Reader

/-!
Values in order: the members of every object are in ascending order of their keys, each key once, so
that equal values are written alike. Putting a member into an object keeps it in order, and whatever
is read from text is in order.
-/
namespace PaymentCredentials

namespace Json

mutual

/-- Whether the members of every object in a value are in ascending order of their keys, each key
once. -/
def Ordered : Json → Prop
  | .array items => OrderedItems items
  | .object members => OrderedMembers members
  | _ => True

def OrderedItems : List Json → Prop
  | [] => True
  | v :: rest => Ordered v ∧ OrderedItems rest

/-- Whether members are in order, and all their values are. -/
def OrderedMembers : List (String × Json) → Prop
  | [] => True
  | (k, v) :: rest =>
    Ordered v ∧ (∀ m ∈ rest, textLe k m.1 = true ∧ k ≠ m.1) ∧ OrderedMembers rest

end

theorem OrderedMembers.nil : OrderedMembers [] := trivial

theorem mem_insertMember {key : String} {value : Json} {ms : List (String × Json)}
    {m : String × Json} (h : m ∈ insertMember key value ms) : m = (key, value) ∨ m ∈ ms := by
  induction ms with
  | nil => simpa [insertMember] using h
  | cons e rest ih =>
    obtain ⟨k, v⟩ := e
    simp only [insertMember] at h
    split at h
    · rcases List.mem_cons.1 h with rfl | h
      · exact .inl rfl
      · exact .inr (List.mem_cons_of_mem _ h)
    · split at h
      · exact List.mem_cons.1 h
      · rcases List.mem_cons.1 h with rfl | h
        · exact .inr (List.mem_cons_self ..)
        · exact (ih h).imp_right (List.mem_cons_of_mem _)

theorem OrderedMembers.insert {key : String} {value : Json} {ms : List (String × Json)}
    (hv : value.Ordered) (h : OrderedMembers ms) : OrderedMembers (insertMember key value ms) := by
  induction ms with
  | nil => exact ⟨hv, by simp, trivial⟩
  | cons e rest ih =>
    obtain ⟨k, v⟩ := e
    obtain ⟨hk, hlt, hrest⟩ := h
    simp only [insertMember]
    split
    · next heq => subst heq; exact ⟨hv, hlt, hrest⟩
    · next hne =>
      split
      · next hle =>
        refine ⟨hv, fun m hm => ?_, hk, hlt, hrest⟩
        rcases List.mem_cons.1 hm with rfl | hm
        · exact ⟨hle, Ne.symm hne⟩
        · have ⟨hkm, hkne⟩ := hlt m hm
          refine ⟨textLe_trans hle hkm, fun heq => ?_⟩
          subst heq
          exact hne (textLe_antisymm hkm hle)
      · next hnle =>
        refine ⟨hk, fun m hm => ?_, ih hrest⟩
        rcases mem_insertMember hm with rfl | hm
        · exact ⟨(textLe_total k key).resolve_right hnle, hne⟩
        · exact hlt m hm


mutual

theorem Draft.ordered_toJson {depth : Nat} (d : Draft) {v : Json} (h : d.toJson depth = .ok v) :
    v.Ordered := by
  cases d with
  | null => cases h; trivial
  | bool b => cases h; trivial
  | number n =>
    simp only [Draft.toJson] at h
    split at h <;> cases h <;> trivial
  | text s =>
    simp only [Draft.toJson] at h
    split at h <;> cases h
    trivial
  | array items closed =>
    unfold Draft.toJson at h
    simp only [bind, Except.bind, pure, Except.pure, throw, throwThe, MonadExceptOf.throw] at h
    split at h
    · cases h
    · split at h
      · cases h
      · next values hvalues =>
        split at h <;> cases h
        exact Draft.ordered_toJsonItems items hvalues
  | object members closed =>
    unfold Draft.toJson at h
    simp only [bind, Except.bind, pure, Except.pure, throw, throwThe, MonadExceptOf.throw] at h
    split at h
    · cases h
    · split at h
      · cases h
      · next values hvalues =>
        split at h <;> cases h
        exact Draft.ordered_toJsonMembers members .nil hvalues
  | fault => cases h

theorem Draft.ordered_toJsonItems {depth : Nat} (ds : List Draft) {vs : List Json}
    (h : Draft.toJsonItems depth ds = .ok vs) : OrderedItems vs := by
  cases ds with
  | nil => cases h; trivial
  | cons d rest =>
    simp only [Draft.toJsonItems, bind, Except.bind, pure, Except.pure] at h
    split at h
    · cases h
    · next v hv =>
      split at h
      · cases h
      · next vs hvs =>
        cases h
        exact ⟨Draft.ordered_toJson d hv, Draft.ordered_toJsonItems rest hvs⟩

theorem Draft.ordered_toJsonMembers {depth : Nat} (ds : List (RawText × Draft))
    {read ms : List (String × Json)} (hread : OrderedMembers read)
    (h : Draft.toJsonMembers depth ds read = .ok ms) : OrderedMembers ms := by
  cases ds with
  | nil => cases h; exact hread
  | cons e rest =>
    obtain ⟨k, d⟩ := e
    unfold Draft.toJsonMembers at h
    simp only [bind, Except.bind] at h
    split at h
    · cases h
    · split at h
      · cases h
      · next v hv =>
        exact Draft.ordered_toJsonMembers rest (hread.insert (Draft.ordered_toJson d hv)) h

end

end Json

/-- A value in order. -/
structure OrderedJson where
  value : Json
  ordered : value.Ordered

namespace OrderedJson

def ofText (s : String) : OrderedJson := ⟨.text s, trivial⟩

/-- A value of any type, with a greatest count of arrays and objects around each other. -/
def read (depth : Nat) (d : Json.Draft) : Except Json.Problem OrderedJson :=
  match h : d.toJson depth with
  | .ok v => .ok ⟨v, d.ordered_toJson h⟩
  | .error problem => .error problem

end OrderedJson

end PaymentCredentials
