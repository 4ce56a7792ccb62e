import Mathlib.Data.List.Chain
import Sluice.Correlation.Template
import Sluice.Proofs.Text.Trimming

/-! # What templates are made of

A pattern is read from left to right. Outside a placeholder a dollar sign and an opening brace open
one, and the next closing brace closes it, whatever stands between them. A pattern is a template if
every placeholder that is opened in this way is closed and has a name. Then it is the written form
of its segments, but for white space just inside the braces, and the segments are in a normal form
in which no two lists of segments are written alike.
-/

namespace Sluice

namespace Segment

def isLiteral : Segment → Bool
  | .literal _ => true
  | .placeholder _ => false

/-- A segment as it is written in a pattern. -/
def written : Segment → String
  | .literal text => text
  | .placeholder name => "$\x7b" ++ name ++ "\x7d"

end Segment

namespace Template

/-- Text in which no placeholder is opened. -/
def IsPlain (cs : List Char) : Prop := ¬ ['$', '{'] <:+: cs

/-- A placeholder is opened outside any other one, and `rest` stands behind its opening brace. -/
inductive Opens : List Char → List Char → Prop
  | first {text rest : List Char} (h : IsPlain text) : Opens (text ++ '$' :: '{' :: rest) rest
  | later {text name cs rest : List Char} (h : IsPlain text) (hname : '}' ∉ name)
      (hrest : Opens cs rest) : Opens (text ++ '$' :: '{' :: (name ++ '}' :: cs)) rest

/-- Behind an opening brace stand a name, which is not all white space, and a closing brace. -/
def Closes (rest : List Char) : Prop :=
  ∃ name behind, rest = name ++ '}' :: behind ∧ '}' ∉ name ∧ ¬ Text.IsBlankText name

/-- The leftmost placeholder that is not closed or has no name: behind its opening brace stands all
that stands behind the opening brace of any other such placeholder. -/
structure FirstOffence (cs rest : List Char) : Prop where
  opens : Opens cs rest
  offends : ¬ Closes rest
  leftmost : ∀ other, Opens cs other → ¬ Closes other → other <:+ rest

end Template

/-- A literal that opens no placeholder, or a trimmed name that closes none. -/
def Segment.IsSound : Segment → Prop
  | .literal text => text.toList ≠ [] ∧ Template.IsPlain text.toList
  | .placeholder name =>
      name.toList ≠ [] ∧ Text.trimChars name.toList = name.toList ∧ '}' ∉ name.toList

instance : DecidablePred Segment.IsSound
  | .literal text => inferInstanceAs (Decidable (text.toList ≠ [] ∧ ¬ ['$', '{'] <:+: text.toList))
  | .placeholder name => inferInstanceAs (Decidable
      (name.toList ≠ [] ∧ Text.trimChars name.toList = name.toList ∧ '}' ∉ name.toList))

namespace Template

/-- Segments that are told apart by their written form: no two literals stand side by side. -/
structure IsNormal (segments : List Segment) : Prop where
  sound : ∀ segment ∈ segments, segment.IsSound
  apart : segments.IsChain fun a b => ¬ (a.isLiteral ∧ b.isLiteral)

instance (segments : List Segment) : Decidable (IsNormal segments) :=
  decidable_of_iff ((∀ segment ∈ segments, segment.IsSound) ∧
      segments.IsChain fun a b => ¬ (a.isLiteral ∧ b.isLiteral))
    ⟨fun h => ⟨h.1, h.2⟩, fun h => ⟨h.sound, h.apart⟩⟩

def written (segments : List Segment) : String := String.join (segments.map Segment.written)

/-- The text is what the segments are written as, but for white space just inside the braces. -/
inductive Spells : List Segment → List Char → Prop
  | nil : Spells [] []
  | literal (text : String) {segments : List Segment} {cs : List Char} (h : Spells segments cs) :
      Spells (.literal text :: segments) (text.toList ++ cs)
  | placeholder (name : String) {left right : List Char} (hleft : Text.IsBlankText left)
      (hright : Text.IsBlankText right) {segments : List Segment} {cs : List Char}
      (h : Spells segments cs) :
      Spells (.placeholder name :: segments)
        ('$' :: '{' :: (left ++ name.toList ++ right ++ '}' :: cs))

variable {text text' name name' cs cs' rest rest' found : List Char} {segments : List Segment}

/-! ### The first opening brace and the first closing brace -/

theorem isPlain_nil : IsPlain [] := by
  simp [IsPlain]

theorem exists_first_opening (h : ¬ IsPlain cs) :
    ∃ text rest, IsPlain text ∧ cs = text ++ '$' :: '{' :: rest := by
  induction cs with
  | nil => exact absurd isPlain_nil h
  | cons c cs ih =>
      by_cases hhere : ['$', '{'] <+: c :: cs
      · obtain ⟨rest, hrest⟩ := hhere
        exact ⟨[], rest, isPlain_nil, hrest.symm⟩
      · have hlater : ¬ IsPlain cs := fun hplain =>
          h fun hinfix => (List.infix_cons_iff.mp hinfix).elim hhere hplain
        obtain ⟨text, rest, htext, rfl⟩ := ih hlater
        refine ⟨c :: text, rest, ?_, rfl⟩
        intro hinfix
        rcases List.infix_cons_iff.mp hinfix with hfront | hinfix
        · exact hhere (hfront.trans (List.prefix_append (c :: text) _))
        · exact htext hinfix

theorem not_isPlain_append (text rest : List Char) : ¬ IsPlain (text ++ '$' :: '{' :: rest) :=
  fun h => h ⟨text, rest, by simp⟩

/-- Of two texts that are cut at their first mark the cut is the same. -/
theorem eq_of_first_mark {mark : List Char} {IsBefore : List Char → Prop}
    (hfirst : ∀ text more rest rest', IsBefore (text ++ more) →
      mark ++ rest = more ++ (mark ++ rest') → more = [])
    (h : IsBefore text) (h' : IsBefore text')
    (heq : text ++ (mark ++ rest) = text' ++ (mark ++ rest')) : text = text' ∧ rest = rest' := by
  rcases List.append_eq_append_iff.mp heq with ⟨more, rfl, hrest⟩ | ⟨more, rfl, hrest⟩
  · obtain rfl := hfirst text more rest rest' h' hrest
    exact ⟨(List.append_nil text).symm, List.append_cancel_left hrest⟩
  · obtain rfl := hfirst text' more rest' rest h hrest
    exact ⟨List.append_nil text', (List.append_cancel_left hrest).symm⟩

theorem eq_of_first_opening (h : IsPlain text) (h' : IsPlain text')
    (heq : text ++ '$' :: '{' :: rest = text' ++ '$' :: '{' :: rest') :
    text = text' ∧ rest = rest' := by
  apply @eq_of_first_mark _ _ _ _ ['$', '{'] IsPlain ?_ h h' heq
  intro text more rest rest' hplain hrest
  match more with
  | [] => rfl
  | [c] => simp at hrest
  | c :: d :: more =>
      simp only [List.cons_append, List.cons.injEq] at hrest
      obtain ⟨rfl, rfl, -⟩ := hrest
      exact absurd hplain (not_isPlain_append text more)

theorem eq_of_first_brace (h : '}' ∉ name) (h' : '}' ∉ name')
    (heq : name ++ '}' :: cs = name' ++ '}' :: cs') : name = name' ∧ cs = cs' := by
  apply @eq_of_first_mark _ _ _ _ ['}'] ('}' ∉ ·) ?_ h h' heq
  intro text more rest rest' hclear hrest
  match more with
  | [] => rfl
  | c :: more =>
      obtain ⟨rfl, -⟩ := List.cons.inj hrest
      simp at hclear

/-- What holds of plain text, of an opening that is not closed behind plain text, and of a closed
one before anything of which it holds, holds of every text. -/
@[elab_as_elim]
theorem induction {motive : List Char → Prop} (plain : ∀ text, IsPlain text → motive text)
    (unclosed : ∀ text rest, IsPlain text → '}' ∉ rest → motive (text ++ '$' :: '{' :: rest))
    (closed : ∀ text name rest, IsPlain text → '}' ∉ name → motive rest →
      motive (text ++ '$' :: '{' :: (name ++ '}' :: rest)))
    (cs : List Char) : motive cs := by
  induction hlength : cs.length using Nat.strong_induction_on generalizing cs with
  | _ length ih =>
      by_cases hplain : IsPlain cs
      · exact plain cs hplain
      · obtain ⟨text, rest, htext, rfl⟩ := exists_first_opening hplain
        by_cases hbrace : '}' ∈ rest
        · obtain ⟨name, behind, rfl, hname⟩ := List.eq_append_cons_of_mem hbrace
          refine closed text name behind htext hname (ih _ ?_ behind rfl)
          simp only [← hlength, List.length_append, List.length_cons]
          omega
        · exact unclosed text rest htext hbrace

/-! ### What is opened -/

theorem Opens.suffix (h : Opens cs rest) : rest <:+ cs := by
  induction h with
  | @first text rest h => exact ⟨text ++ ['$', '{'], by simp⟩
  | @later text name cs rest h hname hrest ih =>
      exact ih.trans ⟨text ++ '$' :: '{' :: name ++ ['}'], by simp⟩

theorem not_opens_of_isPlain (h : IsPlain cs) : ¬ Opens cs rest := by
  intro hopens
  cases hopens with
  | first => exact not_isPlain_append _ _ h
  | later => exact not_isPlain_append _ _ h

theorem opens_unclosed_iff (h : IsPlain text) (hrest : '}' ∉ rest) :
    Opens (text ++ '$' :: '{' :: rest) found ↔ found = rest := by
  constructor
  · intro hopens
    generalize hcs : text ++ '$' :: '{' :: rest = cs at hopens
    cases hopens with
    | first h' => exact (eq_of_first_opening h h' hcs).2.symm
    | later h' =>
        obtain ⟨-, rfl⟩ := eq_of_first_opening h h' hcs
        simp at hrest
  · rintro rfl
    exact .first h

theorem opens_closed_iff (h : IsPlain text) (hname : '}' ∉ name) :
    Opens (text ++ '$' :: '{' :: (name ++ '}' :: rest)) found ↔
      found = name ++ '}' :: rest ∨ Opens rest found := by
  constructor
  · intro hopens
    generalize hcs : text ++ '$' :: '{' :: (name ++ '}' :: rest) = cs at hopens
    cases hopens with
    | first h' => exact .inl (eq_of_first_opening h h' hcs).2.symm
    | later h' hname' hfound =>
        obtain ⟨-, hrest⟩ := eq_of_first_opening h h' hcs
        obtain ⟨-, rfl⟩ := eq_of_first_brace hname hname' hrest
        exact .inr hfound
  · rintro (rfl | hfound)
    · exact .first h
    · exact .later h hname hfound

theorem not_closes_of_not_mem (h : '}' ∉ rest) : ¬ Closes rest := by
  rintro ⟨name, behind, rfl, -, -⟩
  simp at h

theorem closes_iff (hname : '}' ∉ name) :
    Closes (name ++ '}' :: rest) ↔ ¬ Text.IsBlankText name := by
  constructor
  · rintro ⟨name', behind, heq, hname', hblank⟩
    obtain ⟨rfl, -⟩ := eq_of_first_brace hname hname' heq
    exact hblank
  · exact fun hblank => ⟨name, rest, rfl, hname, hblank⟩

/-! ### What is scanned -/

theorem literalThen_reverse (text : List Char) (segments : List Segment) :
    literalThen text.reverse segments =
      if text = [] then segments else .literal (String.ofList text) :: segments := by
  cases text <;> simp [literalThen]

theorem scan_literal_cons {acc : List Char} {c : Char} (h : ¬ ['$', '{'] <+: c :: cs) :
    scan (.literal acc) (c :: cs) = scan (.literal (c :: acc)) cs := by
  rw [scan]
  intro rest hc hcs
  exact h ⟨rest, by rw [hc, hcs]; rfl⟩

theorem scan_literal_append {acc : List Char} (h : IsPlain text)
    (hrest : rest = [] ∨ rest.head? = some '$') :
    scan (.literal acc) (text ++ rest) = scan (.literal (text.reverse ++ acc)) rest := by
  induction text generalizing acc with
  | nil => rfl
  | cons c text ih =>
      have htext : IsPlain text := fun hinfix => h (List.infix_cons_iff.mpr (.inr hinfix))
      rw [List.cons_append, scan_literal_cons, ih htext]
      · simp
      · intro hprefix
        -- what follows the text cannot complete an opening that the text begins
        match text with
        | [] =>
            rw [List.cons_prefix_cons] at hprefix
            rcases hrest with rfl | hrest
            · simp at hprefix
            · cases rest <;> simp_all
        | d :: text =>
            simp only [List.cons_append, List.cons_prefix_cons] at hprefix
            obtain ⟨rfl, rfl, -⟩ := hprefix
            exact not_isPlain_append [] text h

theorem scan_plain (h : IsPlain text) :
    scan (.literal []) text = .ok (literalThen text.reverse []) := by
  have hscan : scan (.literal []) (text ++ []) = scan (.literal (text.reverse ++ [])) [] :=
    scan_literal_append h (.inl rfl)
  simpa [scan] using hscan

theorem scan_opening (h : IsPlain text) :
    scan (.literal []) (text ++ '$' :: '{' :: rest) = scan (.placeholder text.reverse []) rest := by
  rw [scan_literal_append h (.inr rfl), List.append_nil, scan]

theorem scan_name {acc shown : List Char} (h : '}' ∉ name) :
    scan (.placeholder shown acc) (name ++ rest) =
      scan (.placeholder shown (name.reverse ++ acc)) rest := by
  induction name generalizing acc with
  | nil => rfl
  | cons c name ih =>
      obtain ⟨hc, hname⟩ := List.ne_and_not_mem_of_not_mem_cons h
      rw [List.cons_append, scan, if_neg (Ne.symm hc), ih hname]
      simp

theorem scan_unclosed (h : IsPlain text) (hrest : '}' ∉ rest) :
    scan (.literal []) (text ++ '$' :: '{' :: rest) = .error .unterminated := by
  have hname : scan (.placeholder text.reverse []) (rest ++ []) =
      scan (.placeholder text.reverse (rest.reverse ++ [])) [] := scan_name hrest
  rw [scan_opening h, ← List.append_nil rest, hname, scan]

theorem scan_closed (h : IsPlain text) (hname : '}' ∉ name) :
    scan (.literal []) (text ++ '$' :: '{' :: (name ++ '}' :: rest)) =
      if Text.IsBlankText name then .error .empty
      else (scan (.literal []) rest).map fun segments =>
        literalThen text.reverse
          (.placeholder (String.ofList (Text.trimChars name)) :: segments) := by
  rw [scan_opening h, scan_name hname, List.append_nil, scan, if_pos rfl, List.reverse_reverse]
  split
  next hnil => rw [if_pos (Text.trimChars_eq_nil_iff.mp hnil)]
  next hshown => rw [if_neg fun hblank => hshown (Text.trimChars_eq_nil_iff.mpr hblank)]

/-! ### Normal forms -/

namespace IsNormal

theorem nil : IsNormal [] := ⟨List.forall_mem_nil _, .nil⟩

theorem tail {segment : Segment} (h : IsNormal (segment :: segments)) : IsNormal segments :=
  ⟨(List.forall_mem_cons.mp h.sound).2, (List.isChain_cons.mp h.apart).2⟩

theorem cons {segment : Segment} (h : IsNormal segments) (hsound : segment.IsSound)
    (hapart : ∀ next ∈ segments.head?, ¬ (segment.isLiteral ∧ next.isLiteral)) :
    IsNormal (segment :: segments) :=
  ⟨List.forall_mem_cons.mpr ⟨hsound, h.sound⟩, List.isChain_cons.mpr ⟨hapart, h.apart⟩⟩

theorem placeholder (h : IsNormal segments) (hname : '}' ∉ name)
    (hblank : ¬ Text.IsBlankText name) :
    IsNormal (.placeholder (String.ofList (Text.trimChars name)) :: segments) := by
  refine h.cons ?_ (by simp [Segment.isLiteral])
  rw [Segment.IsSound, String.toList_ofList, Text.trimChars_trimChars]
  refine ⟨fun hnil => hblank (Text.trimChars_eq_nil_iff.mp hnil), rfl, fun hmem => hname ?_⟩
  obtain ⟨left, right, -, -, hparts⟩ := Text.exists_trimChars name
  rw [hparts]
  simp [hmem]

theorem literalThen (h : IsNormal segments) (htext : IsPlain text)
    (hhead : ∀ segment ∈ segments.head?, segment.isLiteral = false) :
    IsNormal (literalThen text.reverse segments) := by
  rw [literalThen_reverse]
  split
  next => exact h
  next hne =>
    refine h.cons ?_ fun next hnext => by simp [hhead next hnext]
    rw [Segment.IsSound, String.toList_ofList]
    exact ⟨hne, htext⟩

end IsNormal

theorem Spells.literalThen (h : Spells segments cs) (text : List Char) :
    Spells (literalThen text.reverse segments) (text ++ cs) := by
  rw [literalThen_reverse]
  split
  next hnil => simpa [hnil] using h
  next => simpa using h.literal (String.ofList text)

/-- What is scanned is in normal form, and the text is its written form. -/
theorem normal_of_scan : ∀ segments, scan (.literal []) cs = .ok segments →
    IsNormal segments ∧ Spells segments cs := by
  -- up to the first placeholder at a time, as the text is scanned
  induction cs using induction with
  | plain text htext =>
      intro segments hscan
      rw [scan_plain htext] at hscan
      obtain rfl := Except.ok.inj hscan
      have hspells := Spells.nil.literalThen text
      rw [List.append_nil] at hspells
      exact ⟨IsNormal.nil.literalThen htext (by simp), hspells⟩
  | unclosed text rest htext hrest =>
      intro segments hscan
      rw [scan_unclosed htext hrest] at hscan
      cases hscan
  | closed text name rest htext hname ih =>
      intro segments hscan
      rw [scan_closed htext hname] at hscan
      split at hscan
      next => cases hscan
      next hblank =>
        cases hbehind : scan (.literal []) rest with
        | error fault => rw [hbehind] at hscan; cases hscan
        | ok behind =>
            rw [hbehind] at hscan
            obtain rfl := Except.ok.inj hscan
            obtain ⟨hnormal, hspells⟩ := ih behind hbehind
            obtain ⟨left, right, hleft, hright, hparts⟩ := Text.exists_trimChars name
            have hplaceholder := hspells.placeholder
              (String.ofList (Text.trimChars name)) hleft hright
            rw [String.toList_ofList, ← hparts] at hplaceholder
            refine ⟨(hnormal.placeholder hname hblank).literalThen htext ?_,
              hplaceholder.literalThen text⟩
            simp [Segment.isLiteral]

/-- The written form of segments in normal form is scanned as these segments. Plain text in front
of them becomes a literal, unless they begin with one. -/
theorem scan_of_spells (hspells : Spells segments cs) (hnormal : IsNormal segments)
    (htext : IsPlain text)
    (hhead : text = [] ∨ ∀ segment ∈ segments.head?, segment.isLiteral = false) :
    scan (.literal []) (text ++ cs) = .ok (literalThen text.reverse segments) := by
  induction hspells generalizing text with
  | nil => rw [List.append_nil, scan_plain htext]
  | literal shown h ih =>
      obtain ⟨hne, hplain⟩ := hnormal.sound _ List.mem_cons_self
      obtain rfl : text = [] := hhead.resolve_right (by simp [Segment.isLiteral])
      have hbehind := (List.isChain_cons.mp hnormal.apart).1
      rw [List.nil_append, ih hnormal.tail hplain (.inr fun segment hsegment => by
        simpa [Segment.isLiteral] using hbehind segment hsegment), literalThen_reverse, if_neg hne]
      simp [literalThen]
  | @placeholder name left right hleft hright segments cs h ih =>
      obtain ⟨hne, htrimmed, hbrace⟩ := hnormal.sound _ List.mem_cons_self
      have hshown : Text.trimChars (left ++ name.toList ++ right) = name.toList :=
        (Text.trimChars_between hleft hright _).trans htrimmed
      have hblank : ¬ Text.IsBlankText (left ++ name.toList ++ right) := by
        rw [← Text.trimChars_eq_nil_iff, hshown]
        exact hne
      have hinner : '}' ∉ left ++ name.toList ++ right := by
        -- a brace is no white space
        have hclear : ∀ {blank : List Char}, Text.IsBlankText blank → '}' ∉ blank :=
          fun hblank hmem => absurd (hblank _ hmem) (by decide)
        simp [hclear hleft, hclear hright, hbrace]
      have hbehind := ih hnormal.tail isPlain_nil (.inl rfl)
      rw [List.nil_append] at hbehind
      rw [scan_closed htext hinner, if_neg hblank, hbehind, hshown, String.ofList_toList]
      rfl

theorem scan_eq_ok_iff :
    scan (.literal []) cs = .ok segments ↔ IsNormal segments ∧ Spells segments cs := by
  constructor
  · exact normal_of_scan segments
  · rintro ⟨hnormal, hspells⟩
    simpa [literalThen] using scan_of_spells hspells hnormal isPlain_nil (.inl rfl)

theorem spells_written (segments : List Segment) : Spells segments (written segments).toList := by
  induction segments with
  | nil => exact .nil
  | cons segment rest ih =>
      rw [written, List.map_cons, String.join_cons, ← written, String.toList_append]
      cases segment with
      | literal text => exact ih.literal text
      | placeholder name =>
          have hblank : Text.IsBlankText [] := List.forall_mem_nil _
          simpa [Segment.written] using ih.placeholder name hblank hblank

/-! ### What is accepted -/

theorem scan_isOk_iff :
    (∃ segments, scan (.literal []) cs = .ok segments) ↔ ∀ rest, Opens cs rest → Closes rest := by
  induction cs using induction with
  | plain text htext =>
      simp [scan_plain htext, not_opens_of_isPlain htext]
  | unclosed text rest htext hrest =>
      simp [scan_unclosed htext hrest, opens_unclosed_iff htext hrest, not_closes_of_not_mem hrest]
  | closed text name rest htext hname ih =>
      simp only [opens_closed_iff htext hname, forall_eq_or_imp, closes_iff hname, ← ih]
      rw [scan_closed htext hname]
      split
      next hblank => simp [hblank]
      next hblank => cases scan (.literal []) rest <;> simp [hblank, Except.map]

/-- A placeholder without a name offends in front of all that stands behind it. -/
theorem firstOffence_of_blank (rest : List Char) (h : IsPlain text) (hname : '}' ∉ name)
    (hblank : Text.IsBlankText name) :
    FirstOffence (text ++ '$' :: '{' :: (name ++ '}' :: rest)) (name ++ '}' :: rest) where
  opens := .first h
  offends hcloses := (closes_iff hname).mp hcloses hblank
  leftmost other hother _ := by
    rcases (opens_closed_iff h hname).mp hother with rfl | hother
    · exact List.suffix_rfl
    · exact hother.suffix.trans ⟨name ++ ['}'], by simp⟩

/-- A placeholder with a name does not offend. -/
theorem firstOffence_closed_iff (h : IsPlain text) (hname : '}' ∉ name)
    (hblank : ¬ Text.IsBlankText name) :
    FirstOffence (text ++ '$' :: '{' :: (name ++ '}' :: rest)) found ↔ FirstOffence rest found := by
  have hcloses : Closes (name ++ '}' :: rest) := (closes_iff hname).mpr hblank
  constructor
  · rintro ⟨hfound, hoffends, hleftmost⟩
    refine ⟨((opens_closed_iff h hname).mp hfound).resolve_left ?_, hoffends, ?_⟩
    · rintro rfl
      exact hoffends hcloses
    · exact fun other hother => hleftmost other (.later h hname hother)
  · rintro ⟨hfound, hoffends, hleftmost⟩
    refine ⟨.later h hname hfound, hoffends, fun other hother hbad => ?_⟩
    rcases (opens_closed_iff h hname).mp hother with rfl | hother
    · exact absurd hcloses hbad
    · exact hleftmost other hother hbad

theorem scan_eq_error_iff {fault : Fault} :
    scan (.literal []) cs = .error fault ↔
      ∃ rest, FirstOffence cs rest ∧ fault = if '}' ∈ rest then .empty else .unterminated := by
  induction cs using induction with
  | plain text htext =>
      have hnone : ¬ ∃ rest, FirstOffence text rest ∧
          fault = if '}' ∈ rest then .empty else .unterminated :=
        fun ⟨rest, h, _⟩ => not_opens_of_isPlain htext h.opens
      simp [scan_plain htext, hnone]
  | unclosed text rest htext hrest =>
      rw [scan_unclosed htext hrest]
      have hopens : ∀ found, Opens (text ++ '$' :: '{' :: rest) found ↔ found = rest :=
        fun _ => opens_unclosed_iff htext hrest
      constructor
      · rintro ⟨⟩
        -- the only mark there is, so nothing offends further to the left
        refine ⟨rest, ⟨(hopens rest).mpr rfl, not_closes_of_not_mem hrest, ?_⟩, by simp [hrest]⟩
        intro other hother _
        exact (hopens other).mp hother ▸ List.suffix_rfl
      · rintro ⟨found, hfound, rfl⟩
        obtain rfl := (hopens found).mp hfound.opens
        simp [hrest]
  | closed text name rest htext hname ih =>
      rw [scan_closed htext hname]
      split
      next hblank =>
        have hfirst := firstOffence_of_blank rest htext hname hblank
        constructor
        · rintro ⟨⟩
          exact ⟨_, hfirst, by simp⟩
        · rintro ⟨found, hfound, rfl⟩
          have hle := hfound.leftmost _ hfirst.opens hfirst.offends
          rw [if_pos (hle.subset (by simp))]
      next hblank =>
        simp only [firstOffence_closed_iff htext hname hblank, ← ih]
        cases scan (.literal []) rest <;> simp [Except.map]

/-- The error of a pattern in which something is wrong. -/
def Fault.under (pattern : String) : Fault → TemplateError
  | .unterminated => .unterminated pattern
  | .empty => .emptyPlaceholder pattern

theorem parse_eq_ok_iff {pattern : String} {t : Template} :
    parse pattern = .ok t ↔
      t.pattern = pattern ∧ scan (.literal []) pattern.toList = .ok t.segments := by
  obtain ⟨shown, segments⟩ := t
  rw [parse]
  split <;> simp [*, eq_comm]

theorem parse_eq_error_iff {pattern : String} {e : TemplateError} :
    parse pattern = .error e ↔
      ∃ fault, scan (.literal []) pattern.toList = .error fault ∧ e = fault.under pattern := by
  rw [parse]
  split <;> simp [*, Fault.under, eq_comm]

/-- A pattern is a template if and only if each placeholder that is opened in it is closed and has a
name, and otherwise the leftmost one that is not decides what is wrong. The segments of a template
are the only ones in normal form that are written as its pattern, and all segments in normal form
are those of the template that they are written as. -/
theorem parse_exact :
    (∀ pattern,
      ((∃ t, parse pattern = .ok t) ↔ ∀ rest, Opens pattern.toList rest → Closes rest) ∧
        (∀ e, parse pattern = .error e ↔ ∃ rest, FirstOffence pattern.toList rest ∧
          e = if '}' ∈ rest then .emptyPlaceholder pattern else .unterminated pattern) ∧
        ∀ t, parse pattern = .ok t ↔
          t.pattern = pattern ∧ IsNormal t.segments ∧ Spells t.segments pattern.toList) ∧
      ∀ segments, IsNormal segments →
        parse (written segments) = .ok ⟨written segments, segments⟩ := by
  refine ⟨fun pattern => ⟨?_, fun e => ?_, fun t => ?_⟩, fun segments hnormal => ?_⟩
  · rw [← scan_isOk_iff]
    constructor
    · rintro ⟨t, ht⟩
      exact ⟨t.segments, (parse_eq_ok_iff.mp ht).2⟩
    · rintro ⟨segments, hsegments⟩
      exact ⟨⟨pattern, segments⟩, parse_eq_ok_iff.mpr ⟨rfl, hsegments⟩⟩
  · have hunder : ∀ rest : List Char,
        Fault.under pattern (if '}' ∈ rest then .empty else .unterminated) =
          if '}' ∈ rest then .emptyPlaceholder pattern else .unterminated pattern :=
      fun rest => apply_ite (Fault.under pattern) _ _ _
    rw [parse_eq_error_iff]
    constructor
    · rintro ⟨fault, hfault, rfl⟩
      obtain ⟨rest, hrest, rfl⟩ := scan_eq_error_iff.mp hfault
      exact ⟨rest, hrest, hunder rest⟩
    · rintro ⟨rest, hrest, rfl⟩
      exact ⟨_, scan_eq_error_iff.mpr ⟨rest, hrest, rfl⟩, (hunder rest).symm⟩
  · rw [parse_eq_ok_iff, scan_eq_ok_iff]
  · exact parse_eq_ok_iff.mpr ⟨rfl, scan_eq_ok_iff.mpr ⟨hnormal, spells_written segments⟩⟩

/-- A dollar sign in front of a placeholder and a brace behind it are literals. White space around a
name is not written again. -/
theorem parse_exact_spaced :
    let segments := [.literal "a$", .placeholder "b", .literal "\x7d"]
    IsNormal segments ∧
      parse "a$$\x7b b \x7d\x7d" = .ok ⟨"a$$\x7b b \x7d\x7d", segments⟩ ∧
      parse (written segments) = .ok ⟨"a$$\x7bb\x7d\x7d", segments⟩ := by
  intro segments
  have hnormal : IsNormal segments := by decide
  have hblank : Text.IsBlankText [' '] := by decide
  have hspells : Spells segments "a$$\x7b b \x7d\x7d".toList :=
    ((Spells.nil.literal "\x7d").placeholder "b" hblank hblank).literal "a$"
  obtain ⟨hparse, hwritten⟩ := parse_exact
  exact ⟨hnormal, ((hparse _).2.2 ⟨_, segments⟩).mpr ⟨rfl, hnormal, hspells⟩,
    hwritten segments hnormal⟩

end Template

end Sluice
