import Mathlib.Data.List.TakeWhile
import Sluice.Text.Blank

/-! # Trimmed text

Trimming drops the white space around a text and nothing else. So white space around a text makes no
difference to what is left, and what is left once is left again.
-/

namespace Sluice.Text

/-- A text of nothing but white space. -/
def IsBlankText (cs : List Char) : Prop := ∀ c ∈ cs, isBlank c = true

instance (cs : List Char) : Decidable (IsBlankText cs) :=
  decidable_of_iff (cs.all isBlank = true) List.all_eq_true

variable {cs left right : List Char}

theorem dropBlank_append (h : IsBlankText left) (cs : List Char) :
    dropBlank (left ++ cs) = dropBlank cs :=
  List.dropWhile_append_of_pos h

/-- White space in front of a text that is not blank is all that is dropped there. -/
theorem dropBlank_append_of_not_blank (h : ¬ IsBlankText cs) (right : List Char) :
    dropBlank (cs ++ right) = dropBlank cs ++ right := by
  have hleft : (cs.dropWhile isBlank).isEmpty = false := by
    rw [List.isEmpty_eq_false_iff]
    exact fun hnil => h (dropBlank_eq_nil_iff.mp hnil)
  rw [dropBlank, List.dropWhile_append, hleft, if_neg Bool.false_ne_true, dropBlank]

theorem trimChars_eq_nil_iff : trimChars cs = [] ↔ IsBlankText cs := by
  rw [trimChars, dropBlankEnd, List.reverse_eq_nil_iff, dropBlank_eq_nil_iff]
  constructor
  · intro h
    by_contra hcs
    -- what is left in front begins with a character that is not blank
    have hne : dropBlank cs ≠ [] := fun hnil => hcs (dropBlank_eq_nil_iff.mp hnil)
    have hhead : isBlank ((dropBlank cs).head hne) = false := List.head_dropWhile_not isBlank hne
    rw [h _ (List.mem_reverse.mpr (List.head_mem hne))] at hhead
    cases hhead
  · intro h c hc
    rw [dropBlank_eq_nil_iff.mpr h] at hc
    simp at hc

/-- White space around a text makes no difference to what is left of it. -/
theorem trimChars_between (hleft : IsBlankText left) (hright : IsBlankText right)
    (cs : List Char) : trimChars (left ++ cs ++ right) = trimChars cs := by
  have hreverse : IsBlankText right.reverse := fun c hc => hright c (List.mem_reverse.mp hc)
  by_cases hcs : IsBlankText cs
  · rw [trimChars_eq_nil_iff.mpr hcs, trimChars_eq_nil_iff]
    intro c hc
    simp only [List.mem_append] at hc
    exact hc.elim (fun hc => hc.elim (hleft c) (hcs c)) (hright c)
  · rw [List.append_assoc, trimChars, dropBlank_append hleft, dropBlank_append_of_not_blank hcs,
      dropBlankEnd, List.reverse_append, dropBlank_append hreverse, trimChars, dropBlankEnd]

/-- A text is what is left of it with white space on either side. -/
theorem exists_trimChars (cs : List Char) :
    ∃ left right, IsBlankText left ∧ IsBlankText right ∧ cs = left ++ trimChars cs ++ right := by
  refine ⟨cs.takeWhile isBlank, ((dropBlank cs).reverse.takeWhile isBlank).reverse,
    fun c hc => List.mem_takeWhile_imp hc,
    fun c hc => List.mem_takeWhile_imp (List.mem_reverse.mp hc), ?_⟩
  have hback : (dropBlank cs).reverse.takeWhile isBlank ++ dropBlank (dropBlank cs).reverse =
      (dropBlank cs).reverse := List.takeWhile_append_dropWhile
  calc cs
      = cs.takeWhile isBlank ++ dropBlank cs := List.takeWhile_append_dropWhile.symm
    _ = cs.takeWhile isBlank ++ ((dropBlank cs).reverse.takeWhile isBlank ++
          dropBlank (dropBlank cs).reverse).reverse := by
        rw [hback, List.reverse_reverse]
    _ = cs.takeWhile isBlank ++ trimChars cs ++
          ((dropBlank cs).reverse.takeWhile isBlank).reverse := by
        rw [List.reverse_append, List.append_assoc, trimChars, dropBlankEnd]

theorem trimChars_trimChars (cs : List Char) : trimChars (trimChars cs) = trimChars cs := by
  obtain ⟨left, right, hleft, hright, hcs⟩ := exists_trimChars cs
  calc trimChars (trimChars cs)
      = trimChars (left ++ trimChars cs ++ right) := (trimChars_between hleft hright _).symm
    _ = trimChars cs := by rw [← hcs]

theorem trimChars_dropBlank (cs : List Char) : trimChars (dropBlank cs) = trimChars cs := by
  have hfront : IsBlankText (cs.takeWhile isBlank) := fun c hc => List.mem_takeWhile_imp hc
  calc trimChars (dropBlank cs)
      = trimChars (cs.takeWhile isBlank ++ dropBlank cs ++ []) :=
        (trimChars_between hfront (List.forall_mem_nil _) _).symm
    _ = trimChars cs := by
        rw [List.append_nil, dropBlank, List.takeWhile_append_dropWhile]

theorem trimChars_dropBlankEnd (cs : List Char) : trimChars (dropBlankEnd cs) = trimChars cs := by
  have hend : IsBlankText (cs.reverse.takeWhile isBlank).reverse :=
    fun c hc => List.mem_takeWhile_imp (List.mem_reverse.mp hc)
  calc trimChars (dropBlankEnd cs)
      = trimChars ([] ++ dropBlankEnd cs ++ (cs.reverse.takeWhile isBlank).reverse) :=
        (trimChars_between (List.forall_mem_nil _) hend _).symm
    _ = trimChars cs := by
        rw [List.nil_append, dropBlankEnd, ← List.reverse_append, dropBlank,
          List.takeWhile_append_dropWhile, List.reverse_reverse]

theorem length_trimChars_le (cs : List Char) : (trimChars cs).length ≤ cs.length := by
  obtain ⟨left, right, -, -, hcs⟩ := exists_trimChars cs
  have hlength := congrArg List.length hcs
  simp only [List.length_append] at hlength
  omega

/-- What is left of a text does not begin with white space. -/
theorem isBlank_of_trimChars_eq_cons {c : Char} {rest : List Char}
    (h : trimChars cs = c :: rest) : isBlank c = false := by
  rw [← Bool.not_eq_true]
  intro hc
  have hleft : IsBlankText [c] := List.forall_mem_singleton.mpr hc
  have hrest : trimChars rest = c :: rest := by
    calc trimChars rest
        = trimChars ([c] ++ rest ++ []) :=
          (trimChars_between hleft (List.forall_mem_nil _) rest).symm
      _ = trimChars (trimChars cs) := by rw [h, List.append_nil, List.singleton_append]
      _ = c :: rest := by rw [trimChars_trimChars, h]
  have hle := length_trimChars_le rest
  rw [hrest, List.length_cons] at hle
  omega

/-! ### Around a character that is not white space -/

section

variable {c : Char} (hc : isBlank c = false)

include hc

theorem dropBlank_append_cons (front behind : List Char) :
    dropBlank (front ++ c :: behind) = dropBlank front ++ c :: behind := by
  by_cases hfront : IsBlankText front
  · rw [dropBlank_append hfront, dropBlank_eq_nil_iff.mpr hfront, dropBlank,
      List.dropWhile_cons_of_neg (by simp [hc]), List.nil_append]
  · exact dropBlank_append_of_not_blank hfront _

theorem dropBlankEnd_append_cons (front behind : List Char) :
    dropBlankEnd (front ++ c :: behind) = front ++ c :: dropBlankEnd behind := by
  have hreverse : (front ++ c :: behind).reverse = behind.reverse ++ c :: front.reverse := by simp
  rw [dropBlankEnd, hreverse, dropBlank_append_cons hc]
  simp [dropBlankEnd]

theorem trimChars_append_cons (front behind : List Char) :
    trimChars (front ++ c :: behind) = dropBlank front ++ c :: dropBlankEnd behind := by
  rw [trimChars, dropBlank_append_cons hc, dropBlankEnd_append_cons hc]

end

end Sluice.Text
