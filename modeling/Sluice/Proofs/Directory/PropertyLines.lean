import Sluice.Directory.Properties
import Sluice.Proofs.Keyed
import Sluice.Proofs.Text.Lines
import Sluice.Proofs.Text.Trimming

/-! # Property texts line by line

Whether a line is faulty, skipped or an entry is seen from that line alone. So the first faulty line
of a text decides the error, and two texts with a line feed between them are read like one after the
other, the entries of the second laid over those of the first.
-/

namespace Sluice.Properties

/-! ### What is to be shown -/

/-- A trimmed line is neither blank nor a comment. -/
def Counts (shown : List Char) : Prop :=
  shown ≠ [] ∧ shown.head? ≠ some '#' ∧ shown.head? ≠ some '!'

/-- A trimmed line counts and has no separator, or nothing but white space in front of the first
one. -/
inductive Offends (shown : List Char) : LineFault → Prop
  | noSeparator (hcounts : Counts shown) (hnone : '=' ∉ shown ∧ ':' ∉ shown) :
      Offends shown .noSeparator
  | emptyKey {front behind : List Char} {c : Char} (hcounts : Counts shown)
      (hshown : shown = front ++ c :: behind) (hc : c = '=' ∨ c = ':')
      (hfirst : '=' ∉ front ∧ ':' ∉ front) (hfront : Text.IsBlankText front) :
      Offends shown .emptyKey

/-- The first line of a text that offends, by its number from one. -/
def FirstOffence (cs : List Char) (number : Nat) (fault : LineFault) : Prop :=
  ∃ line, Text.LineAt cs number line ∧ Offends (Text.trimChars line) fault ∧
    ∀ earlier < number, ∀ other, Text.LineAt cs earlier other →
      ∀ fault, ¬ Offends (Text.trimChars other) fault

variable {line shown front behind : List Char} {fault : LineFault}

/-! ### One line -/

theorem isSkipped_eq_false_iff : isSkipped shown = false ↔ Counts shown := by
  cases shown <;> simp [isSkipped, Counts]

theorem isSeparator_iff {c : Char} : isSeparator c = true ↔ c = '=' ∨ c = ':' := by
  simp [isSeparator]

theorem forall_not_isSeparator_iff :
    (∀ c ∈ front, (!isSeparator c) = true) ↔ '=' ∉ front ∧ ':' ∉ front := by
  simp only [isSeparator, Bool.not_or, Bool.and_eq_true, Bool.not_eq_true',
    decide_eq_false_iff_not, imp_and, forall_and]
  exact and_congr List.forall_mem_ne' List.forall_mem_ne'

theorem exists_first_separator (h : ¬ ('=' ∉ shown ∧ ':' ∉ shown)) :
    ∃ front c behind, shown = front ++ c :: behind ∧ (c = '=' ∨ c = ':') ∧
      '=' ∉ front ∧ ':' ∉ front := by
  have hfront := forall_not_isSeparator_iff.mp fun c =>
    List.mem_takeWhile_imp (p := fun c => !isSeparator c) (l := shown) (x := c)
  have hcut := List.takeWhile_append_dropWhile (p := fun c => !isSeparator c) (l := shown)
  have hstop := List.head?_dropWhile_not (fun c => !isSeparator c) shown
  cases hrest : shown.dropWhile fun c => !isSeparator c with
  | nil =>
      rw [hrest, List.append_nil] at hcut
      exact absurd (hcut ▸ hfront) h
  | cons c behind =>
      rw [hrest] at hcut hstop
      exact ⟨_, c, behind, hcut.symm, isSeparator_iff.mp (by simpa using hstop), hfront⟩

theorem readLine_of_not_counts (h : ¬ Counts (Text.trimChars line)) : readLine line = .skipped := by
  rw [← isSkipped_eq_false_iff, Bool.not_eq_false] at h
  rw [readLine, if_pos h]

theorem readLine_of_no_separator (hcounts : Counts (Text.trimChars line))
    (hnone : '=' ∉ Text.trimChars line ∧ ':' ∉ Text.trimChars line) :
    readLine line = .faulty .noSeparator := by
  rw [← isSkipped_eq_false_iff] at hcounts
  have hrest : (Text.trimChars line).dropWhile (fun c => !isSeparator c) = [] :=
    List.dropWhile_eq_nil_iff.mpr (forall_not_isSeparator_iff.mpr hnone)
  simp only [readLine, hcounts, Bool.false_eq_true, if_false, hrest]

/-- The first separator of a line parts key and value. -/
theorem readLine_of_separator {c : Char} (hcounts : Counts (Text.trimChars line))
    (hshown : Text.trimChars line = front ++ c :: behind) (hc : c = '=' ∨ c = ':')
    (hfirst : '=' ∉ front ∧ ':' ∉ front) :
    readLine line =
      if Text.IsBlankText front then .faulty .emptyKey
      else .entry (String.ofList (Text.trimChars front))
        (String.ofList (Text.trimChars behind)) := by
  have hcut := forall_not_isSeparator_iff.mpr hfirst
  have hstop : ¬ (!isSeparator c) = true := by simp [isSeparator_iff.mpr hc]
  have htake : (front ++ c :: behind).takeWhile (fun c => !isSeparator c) = front := by
    rw [List.takeWhile_append_of_pos hcut, List.takeWhile_cons, if_neg hstop, List.append_nil]
  have hdrop : (front ++ c :: behind).dropWhile (fun c => !isSeparator c) = c :: behind := by
    rw [List.dropWhile_append_of_pos hcut, List.dropWhile_cons, if_neg hstop]
  rw [hshown, ← isSkipped_eq_false_iff] at hcounts
  simp only [readLine, hshown, hcounts, Bool.false_eq_true, if_false, htake, hdrop]
  split
  next hkey => rw [if_pos (Text.trimChars_eq_nil_iff.mp hkey)]
  next hkey => rw [if_neg fun hblank => hkey (Text.trimChars_eq_nil_iff.mpr hblank)]

theorem readLine_eq_faulty_iff :
    readLine line = .faulty fault ↔ Offends (Text.trimChars line) fault := by
  constructor
  · intro h
    by_cases hcounts : Counts (Text.trimChars line)
    · by_cases hnone : '=' ∉ Text.trimChars line ∧ ':' ∉ Text.trimChars line
      · rw [readLine_of_no_separator hcounts hnone] at h
        obtain rfl := Line.faulty.inj h
        exact .noSeparator hcounts hnone
      · obtain ⟨front, c, behind, hshown, hc, hfirst⟩ := exists_first_separator hnone
        rw [readLine_of_separator hcounts hshown hc hfirst] at h
        split at h
        next hfront =>
          obtain rfl := Line.faulty.inj h
          exact .emptyKey hcounts hshown hc hfirst hfront
        next => cases h
    · rw [readLine_of_not_counts hcounts] at h
      cases h
  · rintro (⟨hcounts, hnone⟩ | ⟨hcounts, hshown, hc, hfirst, hfront⟩)
    · exact readLine_of_no_separator hcounts hnone
    · rw [readLine_of_separator hcounts hshown hc hfirst, if_pos hfront]

/-! ### Many lines -/

/-- The entry that a line says, if it says one. -/
def Line.said : Line → Option (String × String)
  | .entry key value => some (key, value)
  | _ => none

/-- The entries of lines, in order. -/
def entriesOf (lines : List (List Char)) : List (String × String) :=
  lines.filterMap fun line => (readLine line).said

/-- None of the lines is faulty. -/
def AllSound (lines : List (List Char)) : Prop :=
  ∀ line ∈ lines, ∀ fault, readLine line ≠ .faulty fault

theorem allSound_append_iff {lines lines' : List (List Char)} :
    AllSound (lines ++ lines') ↔ AllSound lines ∧ AllSound lines' :=
  List.forall_mem_append

theorem entriesOf_append (lines lines' : List (List Char)) :
    entriesOf (lines ++ lines') = entriesOf lines ++ entriesOf lines' :=
  List.filterMap_append

theorem readLines_of_allSound {lines : List (List Char)} (h : AllSound lines) (number : Nat)
    (before : Properties) :
    readLines number before lines = .ok (before.insertAll (entriesOf lines)) := by
  induction lines generalizing number before with
  | nil => rfl
  | cons line rest ih =>
      obtain ⟨hline, hrest⟩ := List.forall_mem_cons.mp h
      cases hread : readLine line with
      | skipped => simp only [readLines, hread, ih hrest, entriesOf, List.filterMap_cons, Line.said]
      | entry key value =>
          simp only [readLines, hread, ih hrest, entriesOf, List.filterMap_cons, Line.said]
          rfl
      | faulty fault => exact absurd hread (hline fault)

theorem readLines_of_faulty {lines : List (List Char)} (h : AllSound lines)
    (hline : readLine line = .faulty fault) (number : Nat) (before : Properties)
    (behind : List (List Char)) :
    readLines number before (lines ++ line :: behind) = .error (number + lines.length, fault) := by
  induction lines generalizing number before with
  | nil => simp only [List.nil_append, readLines, hline, List.length_nil, Nat.add_zero]
  | cons first rest ih =>
      obtain ⟨hfirst, hrest⟩ := List.forall_mem_cons.mp h
      have hnumber : number + 1 + rest.length = number + (first :: rest).length := by
        rw [List.length_cons]
        omega
      cases hread : readLine first with
      | skipped => simp only [List.cons_append, readLines, hread, ih hrest, hnumber]
      | entry key value => simp only [List.cons_append, readLines, hread, ih hrest, hnumber]
      | faulty fault => exact absurd hread (hfirst fault)

/-- The first of some lines that is faulty stands behind `before`. -/
def FirstFaulty (lines before : List (List Char)) (fault : LineFault) : Prop :=
  ∃ line behind, lines = before ++ line :: behind ∧ AllSound before ∧ readLine line = .faulty fault

theorem allSound_or_firstFaulty (lines : List (List Char)) :
    AllSound lines ∨ ∃ before fault, FirstFaulty lines before fault := by
  induction lines with
  | nil => exact .inl (List.forall_mem_nil _)
  | cons line rest ih =>
      by_cases hline : ∃ fault, readLine line = .faulty fault
      · obtain ⟨fault, hline⟩ := hline
        exact .inr ⟨[], fault, line, rest, rfl, List.forall_mem_nil _, hline⟩
      · rw [not_exists] at hline
        rcases ih with hrest | ⟨before, fault, other, behind, rfl, hbefore, hother⟩
        · exact .inl (List.forall_mem_cons.mpr ⟨hline, hrest⟩)
        · exact .inr ⟨line :: before, fault, other, behind, rfl,
            List.forall_mem_cons.mpr ⟨hline, hbefore⟩, hother⟩

theorem parse_of_allSound {text : String} (h : AllSound (Text.splitLines text.toList)) :
    parse text = .ok (Keyed.ofList (entriesOf (Text.splitLines text.toList))) :=
  readLines_of_allSound h 1 Keyed.empty

theorem parse_of_firstFaulty {text : String} {before : List (List Char)}
    (h : FirstFaulty (Text.splitLines text.toList) before fault) :
    parse text = .error (before.length + 1, fault) := by
  obtain ⟨line, behind, hlines, hbefore, hline⟩ := h
  rw [parse, hlines, readLines_of_faulty hbefore hline, Nat.add_comm]

theorem parse_eq_ok_iff {text : String} {m : Properties} :
    parse text = .ok m ↔ AllSound (Text.splitLines text.toList) ∧
      m = Keyed.ofList (entriesOf (Text.splitLines text.toList)) := by
  rcases allSound_or_firstFaulty (Text.splitLines text.toList) with h | ⟨before, fault, h⟩
  · simp only [parse_of_allSound h, Except.ok.injEq, h, true_and, eq_comm]
  · rw [parse_of_firstFaulty h]
    obtain ⟨line, behind, hlines, -, hline⟩ := h
    constructor
    · nofun
    · rintro ⟨hsound, -⟩
      have hmem : line ∈ Text.splitLines text.toList := by simp [hlines]
      exact absurd hline (hsound line hmem fault)

theorem parse_eq_error_iff {text : String} {number : Nat} :
    parse text = .error (number, fault) ↔
      ∃ before, FirstFaulty (Text.splitLines text.toList) before fault ∧
        number = before.length + 1 := by
  constructor
  · intro h
    rcases allSound_or_firstFaulty (Text.splitLines text.toList) with
      hsound | ⟨before, other, hfirst⟩
    · rw [parse_of_allSound hsound] at h
      cases h
    · rw [parse_of_firstFaulty hfirst] at h
      obtain ⟨rfl, rfl⟩ := Prod.mk.inj (Except.error.inj h)
      exact ⟨before, hfirst, rfl⟩
  · rintro ⟨before, hfirst, rfl⟩
    exact parse_of_firstFaulty hfirst

/-! ### Where the first faulty line stands -/

theorem firstOffence_iff {cs : List Char} {number : Nat} :
    FirstOffence cs number fault ↔
      ∃ before, FirstFaulty (Text.splitLines cs) before fault ∧ number = before.length + 1 := by
  constructor
  · rintro ⟨line, hline, hoffends, hearlier⟩
    obtain ⟨index, rfl, hget⟩ := Text.getElem?_of_lineAt hline
    obtain ⟨hlt, hindex⟩ := List.getElem?_eq_some_iff.mp hget
    have hlines : Text.splitLines cs = (Text.splitLines cs).take index ++
        line :: (Text.splitLines cs).drop (index + 1) := by
      rw [← hindex, ← List.drop_eq_getElem_cons hlt, List.take_append_drop]
    have hlength : ((Text.splitLines cs).take index).length = index :=
      List.length_take_of_le (Nat.le_of_lt hlt)
    refine ⟨_, ⟨line, _, hlines, ?_, readLine_eq_faulty_iff.mpr hoffends⟩, by rw [hlength]⟩
    intro other hother fault hfaulty
    obtain ⟨earlier, hmin, hget⟩ := List.mem_take_iff_getElem.mp hother
    obtain ⟨hbefore, hbound⟩ := Nat.lt_min.mp hmin
    have hat : Text.LineAt cs (earlier + 1) other :=
      Text.lineAt_succ_iff.mpr (List.getElem?_eq_some_iff.mpr ⟨hbound, hget⟩)
    exact hearlier _ (Nat.succ_lt_succ hbefore) other hat fault (readLine_eq_faulty_iff.mp hfaulty)
  · rintro ⟨before, ⟨line, behind, hlines, hbefore, hline⟩, rfl⟩
    refine ⟨line, Text.lineAt_succ_iff.mpr ?_, readLine_eq_faulty_iff.mp hline, ?_⟩
    · rw [hlines, List.getElem?_append_right (Nat.le_refl _), Nat.sub_self, List.getElem?_cons_zero]
    · intro earlier hlt other hother fault hoffends
      obtain ⟨index, rfl, hget⟩ := Text.getElem?_of_lineAt hother
      rw [hlines, List.getElem?_append_left (Nat.lt_of_succ_lt_succ hlt)] at hget
      exact hbefore other (List.mem_of_getElem? hget) fault (readLine_eq_faulty_iff.mpr hoffends)

/-- A text is refused if any line of it offends. -/
theorem exists_firstOffence_iff {cs : List Char} :
    (∃ number fault, FirstOffence cs number fault) ↔
      ∃ number line fault, Text.LineAt cs number line ∧ Offends (Text.trimChars line) fault := by
  constructor
  · rintro ⟨number, fault, line, hline, hoffends, -⟩
    exact ⟨number, line, fault, hline, hoffends⟩
  · rintro ⟨number, line, fault, hline, hoffends⟩
    obtain ⟨index, rfl, hget⟩ := Text.getElem?_of_lineAt hline
    rcases allSound_or_firstFaulty (Text.splitLines cs) with hsound | ⟨before, other, hfirst⟩
    · exact absurd (readLine_eq_faulty_iff.mpr hoffends)
        (hsound line (List.mem_of_getElem? hget) fault)
    · exact ⟨_, other, firstOffence_iff.mpr ⟨before, hfirst, rfl⟩⟩

/-! ### Two texts with a line feed between them -/

theorem FirstFaulty.append {lines before : List (List Char)} (h : FirstFaulty lines before fault)
    (more : List (List Char)) : FirstFaulty (lines ++ more) before fault := by
  obtain ⟨line, behind, rfl, hbefore, hline⟩ := h
  exact ⟨line, behind ++ more, by simp, hbefore, hline⟩

theorem FirstFaulty.prepend {lines before sound : List (List Char)}
    (h : FirstFaulty lines before fault) (hsound : AllSound sound) :
    FirstFaulty (sound ++ lines) (sound ++ before) fault := by
  obtain ⟨line, behind, rfl, hbefore, hline⟩ := h
  exact ⟨line, behind, by simp, allSound_append_iff.mpr ⟨hsound, hbefore⟩, hline⟩

theorem splitLines_join (a b : String) :
    Text.splitLines (a ++ "\n" ++ b).toList =
      Text.splitLines a.toList ++ Text.splitLines b.toList := by
  rw [← Text.splitLines_append]
  simp

section

variable {a b : String} {m m' : Properties}

theorem parse_join_of_ok (ha : parse a = .ok m) (hb : parse b = .ok m') :
    parse (a ++ "\n" ++ b) = .ok (m.overlay m') := by
  obtain ⟨hsound, rfl⟩ := parse_eq_ok_iff.mp ha
  obtain ⟨hsound', rfl⟩ := parse_eq_ok_iff.mp hb
  have hboth : AllSound (Text.splitLines (a ++ "\n" ++ b).toList) := by
    rw [splitLines_join]
    exact allSound_append_iff.mpr ⟨hsound, hsound'⟩
  rw [parse_of_allSound hboth, splitLines_join, entriesOf_append]
  congr 1
  apply Keyed.ext_get?
  intro key
  rw [Keyed.get?_ofList_append, Keyed.get?_overlay]

theorem parse_join_of_error {e : Nat × LineFault} (ha : parse a = .error e) :
    parse (a ++ "\n" ++ b) = .error e := by
  obtain ⟨number, fault⟩ := e
  obtain ⟨before, hfirst, rfl⟩ := parse_eq_error_iff.mp ha
  have hboth : FirstFaulty (Text.splitLines (a ++ "\n" ++ b).toList) before fault := by
    rw [splitLines_join]
    exact hfirst.append _
  exact parse_of_firstFaulty hboth

/-- All the lines in front are counted, also those that are skipped. -/
theorem parse_join_of_error_behind {number : Nat} (ha : parse a = .ok m)
    (hb : parse b = .error (number, fault)) :
    parse (a ++ "\n" ++ b) = .error (number + 1 + a.toList.count '\n', fault) := by
  obtain ⟨hsound, -⟩ := parse_eq_ok_iff.mp ha
  obtain ⟨before, hfirst, rfl⟩ := parse_eq_error_iff.mp hb
  have hboth : FirstFaulty (Text.splitLines (a ++ "\n" ++ b).toList)
      (Text.splitLines a.toList ++ before) fault := by
    rw [splitLines_join]
    exact hfirst.prepend hsound
  rw [parse_of_firstFaulty hboth, List.length_append, Text.length_splitLines]
  congr 2
  omega

end

/-- A text is refused if a line of it offends, for the first one that does. What two texts say is
said by them together with a line feed between them, where the second is laid over the first; if
one of them is refused then so are both together, for the same line. -/
theorem parse_line_by_line :
    (∀ text : String,
      ((∃ e, parse text = .error e) ↔ ∃ number line fault,
        Text.LineAt text.toList number line ∧ Offends (Text.trimChars line) fault) ∧
      ∀ number fault, parse text = .error (number, fault) ↔
        FirstOffence text.toList number fault) ∧
    ∀ a b : String,
      (∀ m m', parse a = .ok m → parse b = .ok m' → ∃ both, parse (a ++ "\n" ++ b) = .ok both ∧
        ∀ key, both.get? key = (m'.get? key).or (m.get? key)) ∧
      (∀ e, parse a = .error e → parse (a ++ "\n" ++ b) = .error e) ∧
      ∀ m number fault, parse a = .ok m → parse b = .error (number, fault) →
        parse (a ++ "\n" ++ b) = .error (number + 1 + a.toList.count '\n', fault) := by
  have herror : ∀ (text : String) number fault, parse text = .error (number, fault) ↔
      FirstOffence text.toList number fault :=
    fun text number fault => parse_eq_error_iff.trans firstOffence_iff.symm
  refine ⟨fun text => ⟨?_, herror text⟩, fun a b => ⟨fun m m' ha hb => ?_,
    fun e ha => parse_join_of_error ha, fun m number fault ha hb => ?_⟩⟩
  · rw [← exists_firstOffence_iff, Prod.exists]
    simp only [herror]
  · exact ⟨m.overlay m', parse_join_of_ok ha hb, m.get?_overlay m'⟩
  · exact parse_join_of_error_behind ha hb

/-- A comment, blank lines and carriage returns count, and the white space in front of a separator
is no key. -/
theorem parse_line_by_line_crlf :
    let a := "# head\r\nk = 1\r\n\r\n"
    let b := "! more\nk: 2\n\t: 3\nrest"
    let m : Properties := ⟨[("k", "1")], by decide⟩
    parse a = .ok m ∧ parse b = .error (3, .emptyKey) ∧
      parse (a ++ "\n" ++ b) = .error (7, .emptyKey) ∧
      parse (b ++ "\n" ++ a) = .error (3, .emptyKey) ∧
      ∃ both, parse (a ++ "\n" ++ "k:2 # 3") = .ok both ∧ both.get? "k" = some "2 # 3" := by
  intro a b m
  have ha : parse a = .ok m := by decide
  have hb : parse b = .error (3, .emptyKey) := by decide
  have hlast : parse "k:2 # 3" = .ok ⟨[("k", "2 # 3")], by decide⟩ := by decide
  obtain ⟨-, hcompose⟩ := parse_line_by_line
  obtain ⟨both, hboth, hget⟩ := (hcompose a "k:2 # 3").1 m _ ha hlast
  have hcount : a.toList.count '\n' = 3 := by decide
  have hbehind := (hcompose a b).2.2 m 3 .emptyKey ha hb
  rw [hcount] at hbehind
  exact ⟨ha, hb, hbehind, (hcompose b a).2.1 _ hb, both, hboth, hget "k"⟩

end Sluice.Properties
