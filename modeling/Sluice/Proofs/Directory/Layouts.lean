import Sluice.Proofs.Directory.PropertyLines

/-! # Ways to write properties down

A map of properties can be written in many ways: its entries in any order, with either separator,
white space around every part, either kind of line end, and comments and blank lines in between.
Each of them is read as the map.
-/

namespace Sluice.Properties

/-! ### What is to be shown -/

/-- A key that can be written on a line of its own. -/
structure IsKey (key : String) : Prop where
  ne_empty : key ≠ ""
  trimmed : Text.trim key = key
  oneLine : '\n' ∉ key.toList
  noSeparator : '=' ∉ key.toList ∧ ':' ∉ key.toList
  noComment : key.toList.head? ≠ some '#' ∧ key.toList.head? ≠ some '!'

/-- A value that can be written on a line behind a separator. -/
structure IsValue (value : String) : Prop where
  trimmed : Text.trim value = value
  oneLine : '\n' ∉ value.toList

/-- White space without line feeds. -/
def IsPadding (cs : List Char) : Prop := ∀ c ∈ cs, Text.isBlank c = true ∧ c ≠ '\n'

instance (cs : List Char) : Decidable (IsPadding cs) := List.decidableBAll _ cs

/-- A line that says an entry, or a comment or a blank line. -/
inductive Writes : Option (String × String) → List Char → Prop
  | entry {key value : String} {left before behind right : List Char} {c : Char}
      (hleft : IsPadding left) (hbefore : IsPadding before) (hc : c = '=' ∨ c = ':')
      (hbehind : IsPadding behind) (hright : IsPadding right) :
      Writes (some (key, value))
        (left ++ key.toList ++ before ++ c :: (behind ++ value.toList ++ right))
  | comment {left text : List Char} {c : Char} (hleft : IsPadding left) (hc : c = '#' ∨ c = '!')
      (htext : '\n' ∉ text) : Writes none (left ++ c :: text)
  | blank {line : List Char} (hline : IsPadding line) : Writes none line

/-- A text of lines, each but the last with a line end, that says these entries in this order. Where
the text ends with a line end its last line is blank. -/
inductive Layout : List (String × String) → List Char → Prop
  | last {said : Option (String × String)} {line : List Char} (hline : Writes said line) :
      Layout said.toList line
  | line {said : Option (String × String)} {entries : List (String × String)}
      {line ending text : List Char} (hline : Writes said line)
      (hending : ending = ['\n'] ∨ ending = ['\r', '\n']) (htext : Layout entries text) :
      Layout (said.toList ++ entries) (line ++ ending ++ text)

variable {said : Option (String × String)} {entries : List (String × String)}
  {line text left : List Char}

/-! ### Padding -/

theorem IsPadding.isBlankText (h : IsPadding line) : Text.IsBlankText line := fun c hc => (h c hc).1

theorem IsPadding.oneLine (h : IsPadding line) : '\n' ∉ line := fun hmem => (h _ hmem).2 rfl

theorem isPadding_return : IsPadding ['\r'] := by decide

theorem IsPadding.append {right : List Char} (h : IsPadding line) (hright : IsPadding right) :
    IsPadding (line ++ right) :=
  List.forall_mem_append.mpr ⟨h, hright⟩

/-- A carriage return at the end of a line is white space around it. -/
theorem Writes.append_return (h : Writes said line) : Writes said (line ++ ['\r']) := by
  cases h with
  | @entry key value left before behind right c hleft hbefore hc hbehind hright =>
      have hentry : Writes (some (key, value)) (left ++ key.toList ++ before ++
          c :: (behind ++ value.toList ++ (right ++ ['\r']))) :=
        .entry hleft hbefore hc hbehind (hright.append isPadding_return)
      simpa using hentry
  | @comment left text c hleft hc htext =>
      have hcomment : Writes none (left ++ c :: (text ++ ['\r'])) :=
        .comment hleft hc (by simp [htext])
      simpa using hcomment
  | blank hline => exact .blank (hline.append isPadding_return)

/-! ### One line -/

theorem trimChars_of_trim {s : String} (h : Text.trim s = s) :
    Text.trimChars s.toList = s.toList := by
  have hchars := congrArg String.toList h
  rwa [Text.trim, String.toList_ofList] at hchars

theorem IsKey.exists_head {key : String} (h : IsKey key) :
    ∃ c rest, key.toList = c :: rest ∧ Text.isBlank c = false ∧ c ≠ '#' ∧ c ≠ '!' := by
  cases hkey : key.toList with
  | nil => exact absurd (String.toList_eq_nil_iff.mp hkey) h.ne_empty
  | cons c rest =>
      have htrimmed := trimChars_of_trim h.trimmed
      have hcomment := h.noComment
      rw [hkey] at htrimmed hcomment
      exact ⟨c, rest, rfl, Text.isBlank_of_trimChars_eq_cons htrimmed, by simpa using hcomment⟩

/-- What stands behind the white space at the start decides whether a line counts. -/
theorem counts_iff_of_padding {c : Char} (hleft : Text.IsBlankText left)
    (hc : Text.isBlank c = false) (rest : List Char) :
    Counts (Text.trimChars (left ++ c :: rest)) ↔ c ≠ '#' ∧ c ≠ '!' := by
  rw [Text.trimChars_append_cons hc, Text.dropBlank_eq_nil_iff.mpr hleft]
  simp [Counts]

/-- An entry is read as it was written, whatever white space stands around its parts. -/
theorem readLine_of_entry {key value : String} (hkey : IsKey key) (hvalue : IsValue value)
    {left before behind right : List Char} {c : Char} (hleft : Text.IsBlankText left)
    (hbefore : Text.IsBlankText before) (hc : c = '=' ∨ c = ':')
    (hbehind : Text.IsBlankText behind) (hright : Text.IsBlankText right) :
    readLine (left ++ key.toList ++ before ++ c :: (behind ++ value.toList ++ right)) =
      .entry key value := by
  have hcblank : Text.isBlank c = false := by rcases hc with rfl | rfl <;> decide
  have hcounts : Counts (Text.trimChars
      (left ++ key.toList ++ before ++ c :: (behind ++ value.toList ++ right))) := by
    obtain ⟨first, rest, hfirst, hblank, hcomment⟩ := hkey.exists_head
    have hcounts := (counts_iff_of_padding hleft hblank
      (rest ++ before ++ c :: (behind ++ value.toList ++ right))).mpr hcomment
    simpa [hfirst] using hcounts
  have hshown := Text.trimChars_append_cons hcblank (left ++ key.toList ++ before)
    (behind ++ value.toList ++ right)
  have hfront : Text.trimChars (Text.dropBlank (left ++ key.toList ++ before)) = key.toList := by
    rw [Text.trimChars_dropBlank, Text.trimChars_between hleft hbefore,
      trimChars_of_trim hkey.trimmed]
  have hvalue' : Text.trimChars (Text.dropBlankEnd (behind ++ value.toList ++ right)) =
      value.toList := by
    rw [Text.trimChars_dropBlankEnd, Text.trimChars_between hbehind hright,
      trimChars_of_trim hvalue.trimmed]
  have hfirst : ∀ mark, Text.isBlank mark = false → mark ∉ key.toList →
      mark ∉ Text.dropBlank (left ++ key.toList ++ before) := by
    intro mark hmark hnot hmem
    have hparts := (List.dropWhile_suffix _).subset hmem
    simp only [List.mem_append, hnot, or_false] at hparts
    rcases hparts with hmem | hmem
    · exact absurd (hleft mark hmem) (by simp [hmark])
    · exact absurd (hbefore mark hmem) (by simp [hmark])
  have hnone := hkey.noSeparator
  rw [readLine_of_separator hcounts hshown hc
    ⟨hfirst '=' (by decide) hnone.1, hfirst ':' (by decide) hnone.2⟩, if_neg, hfront, hvalue',
    String.ofList_toList, String.ofList_toList]
  intro hblank
  rw [← Text.trimChars_eq_nil_iff, hfront] at hblank
  exact hkey.ne_empty (String.toList_eq_nil_iff.mp hblank)

theorem readLine_of_writes (h : Writes said line)
    (hsaid : ∀ entry ∈ said, IsKey entry.1 ∧ IsValue entry.2) :
    readLine line = said.elim .skipped fun entry => .entry entry.1 entry.2 := by
  cases h with
  | @entry key value left before behind right c hleft hbefore hc hbehind hright =>
      obtain ⟨hkey, hvalue⟩ := hsaid _ rfl
      exact readLine_of_entry hkey hvalue hleft.isBlankText hbefore.isBlankText hc
        hbehind.isBlankText hright.isBlankText
  | @comment left text c hleft hc htext =>
      apply readLine_of_not_counts
      have hblank : Text.isBlank c = false := by rcases hc with rfl | rfl <;> decide
      rw [counts_iff_of_padding hleft.isBlankText hblank]
      rintro ⟨hhash, hmark⟩
      exact hc.elim hhash hmark
  | blank hline =>
      apply readLine_of_not_counts
      rw [Text.trimChars_eq_nil_iff.mpr hline.isBlankText]
      exact fun hcounts => hcounts.1 rfl

/-! ### Whole texts -/

theorem Writes.oneLine (h : Writes said line)
    (hsaid : ∀ entry ∈ said, IsKey entry.1 ∧ IsValue entry.2) : '\n' ∉ line := by
  cases h with
  | @entry key value left before behind right c hleft hbefore hc hbehind hright =>
      obtain ⟨hkey, hvalue⟩ := hsaid _ rfl
      have hne : '\n' ≠ c := by rcases hc with rfl | rfl <;> decide
      simp [hleft.oneLine, hkey.oneLine, hbefore.oneLine, hne, hbehind.oneLine, hvalue.oneLine,
        hright.oneLine]
  | @comment left text c hleft hc htext =>
      have hne : '\n' ≠ c := by rcases hc with rfl | rfl <;> decide
      simp [hleft.oneLine, hne, htext]
  | blank hline => exact hline.oneLine

theorem Writes.sound (h : Writes said line)
    (hsaid : ∀ entry ∈ said, IsKey entry.1 ∧ IsValue entry.2) :
    AllSound [line] ∧ entriesOf [line] = said.toList := by
  have hread := readLine_of_writes h hsaid
  constructor
  · refine List.forall_mem_singleton.mpr fun fault hfaulty => ?_
    rw [hread] at hfaulty
    cases said <;> cases hfaulty
  · rw [entriesOf, List.filterMap_cons, hread]
    cases said <;> rfl

/-- None of the lines of a layout is faulty, and they say the entries that it is a layout of. -/
theorem Layout.sound (h : Layout entries text)
    (hentries : ∀ entry ∈ entries, IsKey entry.1 ∧ IsValue entry.2) :
    AllSound (Text.splitLines text) ∧ entriesOf (Text.splitLines text) = entries := by
  induction h with
  | last hline =>
      simp only [Option.mem_toList] at hentries
      rw [Text.splitLines_of_not_mem (hline.oneLine hentries)]
      exact hline.sound hentries
  | @line said entries line ending text hline hending htext ih =>
      obtain ⟨hsaid, hentries⟩ := List.forall_mem_append.mp hentries
      simp only [Option.mem_toList] at hsaid
      -- with the carriage return that belongs to it, the line ends at a line feed in either case
      obtain ⟨whole, hwhole, hend⟩ :
          ∃ whole, Writes said whole ∧ line ++ ending = whole ++ ['\n'] := by
        rcases hending with rfl | rfl
        · exact ⟨line, hline, rfl⟩
        · exact ⟨line ++ ['\r'], hline.append_return, by simp⟩
      have hcut : Text.splitLines (line ++ ending ++ text) = [whole] ++ Text.splitLines text := by
        rw [hend, List.append_assoc, List.singleton_append,
          Text.splitLines_cons (hwhole.oneLine hsaid), List.singleton_append]
      obtain ⟨hsound, hread⟩ := hwhole.sound hsaid
      obtain ⟨hsounds, hreads⟩ := ih hentries
      rw [hcut, entriesOf_append, hread, hreads]
      exact ⟨allSound_append_iff.mpr ⟨hsound, hsounds⟩, rfl⟩

/-- A map with keys and values that can be written down is read from each of its layouts, whatever
the order of the entries. -/
theorem parse_of_layout {m : Properties}
    (hm : ∀ entry ∈ m.entries, IsKey entry.1 ∧ IsValue entry.2) {text : String}
    (hperm : entries.Perm m.entries) (htext : Layout entries text.toList) : parse text = .ok m := by
  have hentries : ∀ entry ∈ entries, IsKey entry.1 ∧ IsValue entry.2 :=
    fun entry hentry => hm entry (hperm.mem_iff.mp hentry)
  obtain ⟨hsound, hread⟩ := htext.sound hentries
  rw [parse_of_allSound hsound, hread, Keyed.ofList_of_perm hperm]

/-- Values that hold separators and look like comments, both kinds of line ends, and the entries in
another order than that of their keys. -/
theorem parse_of_layout_mixed :
    let m : Properties := ⟨[("region", "# eu = 1"), ("url", "mqtt://host:1883?a=b")], by decide⟩
    let text := "! brokers\r\n\turl\u00a0: mqtt://host:1883?a=b \r\n\n region=  # eu = 1"
    (∀ entry ∈ m.entries, IsKey entry.1 ∧ IsValue entry.2) ∧
      Layout [("url", "mqtt://host:1883?a=b"), ("region", "# eu = 1")] text.toList ∧
      parse text = .ok m := by
  intro m text
  have hm : ∀ entry ∈ m.entries, IsKey entry.1 ∧ IsValue entry.2 := by
    simp only [m, List.forall_mem_cons]
    exact ⟨⟨⟨by decide, by decide, by decide, by decide, by decide⟩, ⟨by decide, by decide⟩⟩,
      ⟨⟨by decide, by decide, by decide, by decide, by decide⟩, ⟨by decide, by decide⟩⟩,
      List.forall_mem_nil _⟩
  have hcomment : Writes none ([] ++ '!' :: " brokers".toList) :=
    .comment (by decide) (.inr rfl) (by decide)
  let url := ['\t'] ++ "url".toList ++ ['\u00a0'] ++
    ':' :: ([' '] ++ "mqtt://host:1883?a=b".toList ++ [' '])
  have hurl : Writes (some ("url", "mqtt://host:1883?a=b")) url :=
    .entry (by decide) (by decide) (.inr rfl) (by decide) (by decide)
  have hblank : Writes none [] := .blank (by decide)
  let region := [' '] ++ "region".toList ++ [] ++ '=' :: ([' ', ' '] ++ "# eu = 1".toList ++ [])
  have hregion : Writes (some ("region", "# eu = 1")) region :=
    .entry (by decide) (by decide) (.inl rfl) (by decide) (by decide)
  have hlayout : Layout [("url", "mqtt://host:1883?a=b"), ("region", "# eu = 1")] text.toList := by
    have htext : text.toList = [] ++ '!' :: " brokers".toList ++ ['\r', '\n'] ++
        (url ++ ['\r', '\n'] ++ ([] ++ ['\n'] ++ region)) := by decide
    have hlines := Layout.line hcomment (.inr rfl)
      (.line hurl (.inr rfl) (.line hblank (.inl rfl) (.last hregion)))
    rw [htext]
    exact hlines
  exact ⟨hm, hlayout, parse_of_layout hm (.swap _ _ _) hlayout⟩

end Sluice.Properties
