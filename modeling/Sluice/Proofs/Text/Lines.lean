import Mathlib.Data.List.Induction
import Sluice.Text.Pieces

/-! # Lines

A text is cut into lines at its line feeds, so the lines of a text with a line feed in it are those
in front of the line feed and those behind it. A line has the number one more than there are line
feeds in front of it.
-/

namespace Sluice.Text

/-- A line of a text with its number from one: it reaches from the start of the text, or from behind
a line feed, up to the next line feed or the end. -/
def LineAt (cs : List Char) (number : Nat) (line : List Char) : Prop :=
  ∃ before behind, cs = before ++ line ++ behind ∧ number = before.count '\n' + 1 ∧ '\n' ∉ line ∧
    (before = [] ∨ before.getLast? = some '\n') ∧ (behind = [] ∨ behind.head? = some '\n')

variable {cs line : List Char}

theorem pieces_append_cons {isSeparator : Char → Bool} {c : Char} (hc : isSeparator c = true)
    (front behind : List Char) :
    pieces isSeparator (front ++ c :: behind) =
      pieces isSeparator front ++ pieces isSeparator behind := by
  induction front with
  | nil => simp [pieces, hc]
  | cons first front ih =>
      rw [List.cons_append, pieces, ih, pieces]
      cases hfront : pieces isSeparator front with
      | nil => exact absurd hfront (pieces_ne_nil isSeparator front)
      | cons piece others => split <;> rfl

theorem splitLines_append (front behind : List Char) :
    splitLines (front ++ '\n' :: behind) = splitLines front ++ splitLines behind :=
  pieces_append_cons (by decide) front behind

theorem splitLines_of_not_mem (h : '\n' ∉ line) : splitLines line = [line] := by
  induction line with
  | nil => rfl
  | cons c line ih =>
      obtain ⟨hc, hline⟩ := List.ne_and_not_mem_of_not_mem_cons h
      rw [splitLines] at ih ⊢
      rw [pieces, ih hline, if_neg (by simpa using hc.symm)]

/-- What holds of a text without line feeds, and of a line in front of a text of which it holds,
holds of every text. -/
@[elab_as_elim]
theorem lines_induction {motive : List Char → Prop} (last : ∀ line, '\n' ∉ line → motive line)
    (before : ∀ line rest, '\n' ∉ line → motive rest → motive (line ++ '\n' :: rest))
    (cs : List Char) : motive cs := by
  induction hlength : cs.length using Nat.strongRecOn generalizing cs with
  | _ length ih =>
      by_cases hmem : '\n' ∈ cs
      · obtain ⟨line, rest, rfl, hline⟩ := List.eq_append_cons_of_mem hmem
        refine before line rest hline (ih rest.length ?_ rest rfl)
        simp only [← hlength, List.length_append, List.length_cons]
        omega
      · exact last cs hmem

theorem splitLines_cons {line : List Char} (h : '\n' ∉ line) (rest : List Char) :
    splitLines (line ++ '\n' :: rest) = line :: splitLines rest := by
  rw [splitLines_append, splitLines_of_not_mem h, List.singleton_append]

theorem length_splitLines (cs : List Char) : (splitLines cs).length = cs.count '\n' + 1 := by
  induction cs using lines_induction with
  | last line hline =>
      rw [splitLines_of_not_mem hline, List.count_eq_zero.mpr hline, List.length_singleton]
  | before line rest hline ih =>
      rw [splitLines_cons hline, List.length_cons, ih, List.count_append, List.count_cons_self,
        List.count_eq_zero.mpr hline, Nat.zero_add]

theorem lineAt_of_getElem? {index : Nat} (h : (splitLines cs)[index]? = some line) :
    LineAt cs (index + 1) line := by
  -- a line at a time: the line feeds in front of a line count the lines before it
  induction cs using lines_induction generalizing index with
  | last cs hcs =>
      rw [splitLines_of_not_mem hcs, List.getElem?_singleton] at h
      split at h
      next hindex =>
        obtain rfl := Option.some.inj h
        exact ⟨[], [], by simp, by simp [hindex], hcs, .inl rfl, .inl rfl⟩
      next => cases h
  | before first rest hfirst ih =>
      rw [splitLines_cons hfirst] at h
      cases index with
      | zero =>
          obtain rfl := Option.some.inj h
          exact ⟨[], '\n' :: rest, by simp, by simp, hfirst, .inl rfl, .inr rfl⟩
      | succ index =>
          obtain ⟨before, behind, rfl, hnumber, hline, hbefore, hbehind⟩ := ih h
          refine ⟨first ++ '\n' :: before, behind, by simp, ?_, hline, .inr ?_, hbehind⟩
          · rw [hnumber, List.count_append, List.count_cons_self, List.count_eq_zero.mpr hfirst,
              Nat.zero_add]
          · rcases hbefore with rfl | hbefore
            · simp
            · rw [List.getLast?_append, List.getLast?_cons, hbefore]
              rfl

theorem getElem?_of_lineAt {number : Nat} (h : LineAt cs number line) :
    ∃ index, number = index + 1 ∧ (splitLines cs)[index]? = some line := by
  obtain ⟨before, behind, rfl, hnumber, hline, hbefore, hbehind⟩ := h
  refine ⟨before.count '\n', hnumber, ?_⟩
  have hlast : (splitLines (line ++ behind))[0]? = some line := by
    cases behind with
    | nil => rw [List.append_nil, splitLines_of_not_mem hline]; rfl
    | cons c behind =>
        obtain rfl : c = '\n' := by simpa using hbehind
        rw [splitLines_cons hline]
        rfl
  rcases List.eq_nil_or_concat before with rfl | ⟨front, c, rfl⟩
  · simpa using hlast
  · rw [List.concat_eq_append] at hbefore ⊢
    obtain rfl : c = '\n' := by simpa using hbefore
    rw [List.append_assoc, List.append_assoc, List.singleton_append, splitLines_append,
      List.count_append, List.getElem?_append_right, length_splitLines]
    · simpa using hlast
    · simp [length_splitLines]

/-- The lines of a text are its pieces between line feeds, in order. -/
theorem lineAt_succ_iff {index : Nat} :
    LineAt cs (index + 1) line ↔ (splitLines cs)[index]? = some line := by
  refine ⟨fun h => ?_, lineAt_of_getElem?⟩
  obtain ⟨index', hindex, hline⟩ := getElem?_of_lineAt h
  rwa [Nat.succ.inj hindex]

end Sluice.Text
