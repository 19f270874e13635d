import Mathlib.Data.List.DropRight
import Mathlib.Data.List.TakeWhile
import PaymentCredentials.Text.Blank

/-!
Blanks around texts. A text is what is left of it when they are taken away, between two runs of blanks, and
further blanks at its end change nothing.
-/
namespace PaymentCredentials.Text

theorem trimStart_blanks_append {lead : List Char} (hlead : ∀ c ∈ lead, isBlank c = true) (cs : List Char) :
    trimStart (lead ++ cs) = trimStart cs := List.dropWhile_append_of_pos hlead

/-- Nothing is taken away in front of printed characters. -/
theorem trimStart_append {core : List Char} (hne : core ≠ []) (hcore : ∀ c ∈ core, isBlank c = false)
    (cs : List Char) : trimStart (core ++ cs) = core ++ cs := by
  cases core with
  | nil => exact absurd rfl hne
  | cons c core =>
      exact List.dropWhile_cons_of_neg (by rw [hcore c List.mem_cons_self]; exact Bool.false_ne_true)

theorem trimStart_eq_self {cs : List Char} (h : ∀ c ∈ cs, isBlank c = false) : trimStart cs = cs := by
  by_cases hne : cs = []
  · rw [hne]
    rfl
  · rw [← List.append_nil cs, trimStart_append hne h]

theorem trimEnd_eq (cs : List Char) : trimEnd cs = (trimStart cs.reverse).reverse := rfl

theorem trimEnd_append_blanks (cs : List Char) {trail : List Char} (htrail : ∀ c ∈ trail, isBlank c = true) :
    trimEnd (cs ++ trail) = trimEnd cs := by
  rw [trimEnd_eq, List.reverse_append, trimStart_blanks_append fun c hc => htrail c (List.mem_reverse.mp hc),
    trimEnd_eq]

/-- A text without blanks is left as it is. -/
theorem trim_eq_self {s : String} (h : ∀ c ∈ s.toList, isBlank c = false) : trim s = s := by
  rw [trim, trimStart_eq_self h, trimEnd_eq, trimStart_eq_self fun c hc => h c (List.mem_reverse.mp hc),
    List.reverse_reverse, String.ofList_toList]

/-- What is left of a text has no blanks at its ends. -/
theorem trim_trim (s : String) : trim (trim s) = trim s := by
  have hstart : trimStart (trimEnd (trimStart s.toList)) = trimEnd (trimStart s.toList) := by
    refine List.dropWhile_eq_self_iff.mpr fun hne => ?_
    have hfront : trimEnd (trimStart s.toList) <+: trimStart s.toList := List.rdropWhile_prefix isBlank _
    rw [hfront.getElem hne]
    exact List.dropWhile_get_zero_not isBlank _ _
  have hend : trimEnd (trimEnd (trimStart s.toList)) = trimEnd (trimStart s.toList) :=
    List.rdropWhile_idempotent isBlank _
  rw [trim, trim, String.toList_ofList, hstart, hend]

/-- Blanks behind a text go away with those in it. -/
theorem trim_append_blanks {s t : String} (h : ∀ c ∈ t.toList, isBlank c = true) : trim (s ++ t) = trim s := by
  have hstart : trimEnd (trimStart (s.toList ++ t.toList)) = trimEnd (trimStart s.toList) := by
    rw [trimStart, List.dropWhile_append]
    split
    · rename_i hblank
      rw [List.dropWhile_eq_nil_iff.mpr h, trimStart, List.isEmpty_iff.mp hblank]
    · exact trimEnd_append_blanks _ h
  rw [trim, String.toList_append, hstart, trim]

theorem exists_blanks_trimStart (cs : List Char) :
    ∃ lead, (∀ c ∈ lead, isBlank c = true) ∧ cs = lead ++ trimStart cs :=
  ⟨cs.takeWhile isBlank, fun _ hc => List.mem_takeWhile_imp hc, List.takeWhile_append_dropWhile.symm⟩

theorem exists_blanks_trimEnd (cs : List Char) :
    ∃ trail, (∀ c ∈ trail, isBlank c = true) ∧ cs = trimEnd cs ++ trail := by
  obtain ⟨lead, hlead, hcs⟩ := exists_blanks_trimStart cs.reverse
  refine ⟨lead.reverse, fun c hc => hlead c (List.mem_reverse.mp hc), ?_⟩
  rw [trimEnd_eq, ← List.reverse_append, ← hcs, List.reverse_reverse]

/-- A text is what is left of it, between blanks. -/
theorem exists_blanks_trim (s : String) :
    ∃ lead trail, (∀ c ∈ lead, isBlank c = true) ∧ (∀ c ∈ trail, isBlank c = true) ∧
      s.toList = lead ++ ((trim s).toList ++ trail) := by
  obtain ⟨lead, hlead, hstart⟩ := exists_blanks_trimStart s.toList
  obtain ⟨trail, htrail, hend⟩ := exists_blanks_trimEnd (trimStart s.toList)
  refine ⟨lead, trail, hlead, htrail, ?_⟩
  rw [trim, String.toList_ofList, ← hend]
  exact hstart

end PaymentCredentials.Text
