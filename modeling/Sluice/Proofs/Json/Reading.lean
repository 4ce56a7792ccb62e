import Mathlib.Data.List.TakeDrop
import Sluice.Json.Printer
import Sluice.Json.Reader

/-! # Printed values are read back

A value is read as what was printed, whatever may stand behind it in a compact document. Each reader
gets one law about the texts it reads; that a text is read at all says that it is read in one way.
-/

namespace Sluice.Json

/-- What stands behind a value of a compact document: nothing, another member or the end of the
object. -/
def Ends : List Char → Prop
  | [] => True
  | c :: _ => c = ',' ∨ c = '\x7d'

/-- The text is read as `x`, and what stands behind it is left. -/
def Reader.Reads {α : Type} (r : Reader α) (text : List Char) (x : α) : Prop :=
  ∀ rest, Ends rest → r (text ++ rest) = .ok (x, rest)

namespace Reader.Reads

variable {α β : Type} {r : Reader α} {text : List Char} {x : α}

theorem map (f : α → β) (h : r.Reads text x) : Reads (r >>= fun x => pure (f x)) text (f x) := by
  intro rest hrest
  change (r (text ++ rest) >>= fun found => Except.ok (f found.1, found.2)) = _
  rw [h rest hrest]
  rfl

/-- A text is read in one way. -/
theorem unique {x' : α} (h : r.Reads text x) (h' : r.Reads text x') : x = x' := by
  have hread := h [] trivial
  rw [h' [] trivial] at hread
  exact (congrArg Prod.fst (Except.ok.inj hread)).symm

theorem readDocument (h : r.Reads text x) : readDocument r (String.ofList text) = .ok x := by
  have hread := h [] trivial
  rw [List.append_nil] at hread
  rw [Json.readDocument, String.toList_ofList, hread]
  rfl

end Reader.Reads

theorem bind_of_ok {α β : Type} {r : Reader α} {cs rest : List Char} {x : α}
    (h : r cs = .ok (x, rest)) (f : α → Reader β) : (r >>= f) cs = f x rest := by
  change (r cs >>= fun found => f found.1 found.2) = _
  rw [h]
  rfl

/-- A character that is no white space is the next token. -/
theorem token?_bind {β : Type} {c : Char} (hc : isSpace c = false) (f : Option Char → Reader β)
    (rest : List Char) : (token? >>= f) (c :: rest) = f (some c) (c :: rest) := by
  change f (((c :: rest).dropWhile isSpace).head?) ((c :: rest).dropWhile isSpace) = _
  rw [List.dropWhile_cons_of_neg (by simp [hc])]
  rfl

/-! ### Words -/

theorem reads_readBool (b : Bool) : readBool.Reads (Json.bool b).renderChars b := by
  intro rest _
  cases b <;> rfl

theorem reads_readOptional_none {α : Type} (r : Reader α) :
    (readOptional r).Reads Json.null.renderChars none :=
  fun _ _ => rfl

/-- A value that does not start like `null` is read as what it is. -/
theorem reads_readOptional {α : Type} {r : Reader α} {first : Char} {text : List Char} {x : α}
    (hspace : isSpace first = false) (hfirst : first ≠ 'n') (h : r.Reads (first :: text) x) :
    (readOptional r).Reads (first :: text) (some x) := by
  intro rest hrest
  rw [List.cons_append, readOptional, token?_bind hspace]
  generalize hfound : some first = found
  split
  next => exact absurd (Option.some.inj hfound) hfirst
  next => exact h.map some rest hrest

/-! ### Strings -/

theorem hexNumber?_control (n : Fin 32) :
    hexNumber? '0' '0' (Text.hexDigit (n / 16)) (Text.hexDigit (n % 16)) = some n.val := by
  revert n
  decide

theorem isHalf_control (n : Fin 32) : isLowHalf n = false ∧ isHighHalf n = false := by
  revert n
  decide

/-- What is printed for a character is a short escape, an escape by number, or the character. -/
theorem renderChar_cases (c : Char) :
    (∃ short, renderChar c = ['\\', short] ∧ short ≠ 'u' ∧ unescape? short = some c) ∨
      (∃ n : Fin 32, c = Char.ofNat n ∧
        renderChar c = ['\\', 'u', '0', '0', Text.hexDigit (n / 16), Text.hexDigit (n % 16)]) ∨
      (renderChar c = [c] ∧ c ≠ '"' ∧ c ≠ '\\' ∧ 0x20 ≤ c.toNat) := by
  unfold renderChar
  cases hshort : shortEscape? c with
  | some short =>
      refine .inl ⟨short, rfl, ?_⟩
      unfold shortEscape? at hshort
      split_ifs at hshort with h₁ h₂ h₃ h₄ h₅ h₆ h₇ <;> cases hshort <;> subst c <;> decide
  | none =>
      refine .inr ?_
      dsimp only
      split
      next hcontrol =>
        exact .inl ⟨⟨c.toNat, hcontrol⟩, (Char.ofNat_toNat c).symm, rfl⟩
      next hplain =>
        refine .inr ⟨rfl, ?_, ?_, Nat.le_of_not_lt hplain⟩
        · rintro rfl
          cases hshort
        · rintro rfl
          cases hshort

theorem readStringRest_renderChar (c : Char) (rest : List Char) :
    readStringRest (renderChar c ++ rest) =
      (readStringRest rest).map fun r => (c :: r.1, r.2) := by
  rcases renderChar_cases c with ⟨short, hrender, hshort, hvalue⟩ | ⟨n, rfl, hrender⟩ |
    ⟨hrender, hquote, hescape, hplain⟩
  · rw [hrender]
    simp [readStringRest, hshort, hvalue]
  · obtain ⟨hlow, hhigh⟩ := isHalf_control n
    rw [hrender]
    simp only [List.cons_append, List.nil_append, readStringRest]
    rw [hexNumber?_control]
    dsimp only
    rw [hlow, hhigh]
    rfl
  · rw [hrender]
    simp [readStringRest, hescape, Nat.not_lt.mpr hplain]

theorem skipStringRest_renderChar (c : Char) (rest : List Char) :
    skipStringRest (renderChar c ++ rest) = skipStringRest rest := by
  rcases renderChar_cases c with ⟨short, hrender, hshort, hvalue⟩ | ⟨n, -, hrender⟩ |
    ⟨hrender, hquote, hescape, hplain⟩
  · rw [hrender]
    simp [skipStringRest, hshort, hvalue]
  · rw [hrender]
    simp only [List.cons_append, List.nil_append, skipStringRest]
    rw [hexNumber?_control]
  · rw [hrender]
    simp [skipStringRest, hescape, Nat.not_lt.mpr hplain]

theorem readStringRest_flatMap (cs rest : List Char) :
    readStringRest (cs.flatMap renderChar ++ '"' :: rest) = .ok (cs, rest) := by
  induction cs with
  | nil => simp [readStringRest]
  | cons c cs ih =>
      rw [List.flatMap_cons, List.append_assoc, readStringRest_renderChar, ih]
      rfl

theorem skipStringRest_flatMap (cs rest : List Char) :
    skipStringRest (cs.flatMap renderChar ++ '"' :: rest) = .ok rest := by
  induction cs with
  | nil => simp [skipStringRest]
  | cons c cs ih => rw [List.flatMap_cons, List.append_assoc, skipStringRest_renderChar, ih]

theorem readString_append (s : String) (rest : List Char) :
    readString (renderString s ++ rest) = .ok (s, rest) := by
  rw [renderString, List.cons_append, List.append_assoc]
  change (readStringRest (s.toList.flatMap renderChar ++ '"' :: rest)).map _ = _
  rw [readStringRest_flatMap, Except.map, String.ofList_toList]

theorem reads_readString (s : String) : readString.Reads (Json.string s).renderChars s := by
  intro rest _
  exact readString_append s rest

/-! ### Numbers -/

theorem digitChar_ne_zero {n : Nat} (hpos : 0 < n) (hlt : n < 10) : Nat.digitChar n ≠ '0' := by
  have hdigits : ∀ d : Fin 10, 0 < d.val → Nat.digitChar d ≠ '0' := by decide
  exact hdigits ⟨n, hlt⟩ hpos

/-- The digits of a number start with a zero only if there is no other digit. -/
theorem toDigits_eq_cons {n : Nat} (hpos : 0 < n) :
    ∃ c digits, Nat.toDigits 10 n = c :: digits ∧ c ≠ '0' := by
  induction n using Nat.strongRecOn with
  | ind n ih =>
      by_cases hlt : n < 10
      · exact ⟨_, [], Nat.toDigits_of_lt_base hlt, digitChar_ne_zero hpos hlt⟩
      · obtain ⟨c, digits, hdigits, hc⟩ := ih (n / 10) (by omega) (by omega)
        refine ⟨c, digits ++ [Nat.digitChar (n % 10)], ?_, hc⟩
        rw [Nat.toDigits_of_base_le (by decide) (by omega), hdigits]
        rfl

theorem spanDigits_toDigits (n : Nat) {rest : List Char} (hrest : Ends rest) :
    spanDigits (Nat.toDigits 10 n ++ rest) = (Nat.toDigits 10 n, rest) := by
  have hdigits : ∀ c ∈ Nat.toDigits 10 n, c.isDigit = true :=
    fun c hc => Nat.isDigit_of_mem_toDigits (by decide) (by decide) hc
  have hstop : rest.takeWhile Char.isDigit = [] ∧ rest.dropWhile Char.isDigit = rest := by
    cases rest with
    | nil => exact ⟨rfl, rfl⟩
    | cons c rest => rcases hrest with rfl | rfl <;> exact ⟨rfl, rfl⟩
  rw [spanDigits, List.span_eq_takeWhile_dropWhile, List.takeWhile_append_of_pos hdigits,
    List.dropWhile_append_of_pos hdigits, hstop.1, hstop.2, List.append_nil]

theorem takeDigits_eq {digits : List Char} {significand : Nat}
    (h : Nat.ofDigitChars 10 digits significand < significandBound) :
    takeDigits significand digits = (Nat.ofDigitChars 10 digits significand, digits.length) := by
  induction digits generalizing significand with
  | nil => rfl
  | cons c digits ih =>
      have hnext : digitsValue [c] + 10 * significand = 10 * significand + (c.toNat - '0'.toNat) := by
        simp [digitsValue, Nat.add_comm]
      rw [Nat.ofDigitChars_cons] at h ⊢
      have hle : 10 * significand + (c.toNat - '0'.toNat) < significandBound := by
        refine Nat.lt_of_le_of_lt ?_ h
        rw [Nat.ofDigitChars_eq_ofDigitChars_zero]
        exact Nat.le_trans (Nat.le_mul_of_pos_left _ (Nat.pow_pos (by decide))) (Nat.le_add_right ..)
      rw [takeDigits, hnext]
      dsimp only
      rw [if_pos hle, ih h, List.length_cons]

theorem readFraction_toDigits {n : Nat} (hn : n < significandBound) (negative : Bool)
    {rest : List Char} (hrest : Ends rest) :
    readFraction negative (Nat.toDigits 10 n) rest =
      if !negative then .ok (.whole n, rest)
      else if 0 < n ∧ n ≤ Nat.pow 2 63 then .ok (.whole (-(n : Int)), rest)
      else .ok (.fractional, rest) := by
  have hvalue : Nat.ofDigitChars 10 (Nat.toDigits 10 n) 0 = n := Nat.ofDigitChars_ten_toDigits
  have htake := takeDigits_eq (hvalue.symm ▸ hn)
  rw [hvalue] at htake
  rw [readFraction, htake]
  dsimp only
  rw [Nat.sub_self]
  cases rest with
  | nil => rfl
  | cons c rest => rcases hrest with rfl | rfl <;> rfl

theorem readNumberRest_toDigits {n : Nat} (negative : Bool) {rest : List Char}
    (hrest : Ends rest) :
    readNumberRest negative (Nat.toDigits 10 n ++ rest) =
      readFraction negative (Nat.toDigits 10 n) rest := by
  rw [readNumberRest, spanDigits_toDigits n hrest]
  rcases Nat.eq_zero_or_pos n with rfl | hpos
  · rfl
  · obtain ⟨c, digits, hdigits, hc⟩ := toDigits_eq_cons hpos
    rw [hdigits]
    simp [hc]

theorem isSpace_of_isDigit {c : Char} (hc : c.isDigit = true) : isSpace c = false := by
  by_contra hspace
  rw [Bool.not_eq_false, isSpace] at hspace
  simp only [Bool.or_eq_true, decide_eq_true_eq] at hspace
  rcases hspace with ((rfl | rfl) | rfl) | rfl <;> cases hc

/-- The first character of the digits of a number. -/
theorem exists_digit (n : Nat) :
    ∃ c digits, Nat.toDigits 10 n = c :: digits ∧ c.isDigit = true := by
  rcases hdigits : Nat.toDigits 10 n with - | ⟨c, digits⟩
  · exact absurd hdigits Nat.toDigits_ne_nil
  · exact ⟨c, digits, rfl, Nat.isDigit_of_mem_toDigits (by decide) (by decide)
      (hdigits ▸ List.mem_cons_self)⟩

theorem renderNumber_natCast (n : Nat) : renderNumber n = Nat.toDigits 10 n := by
  change (toString n).toList = _
  rw [Nat.toString_eq_ofList_toDigits, String.toList_ofList]

theorem renderNumber_neg {n : Nat} (hpos : 0 < n) :
    renderNumber (-(n : Int)) = '-' :: Nat.toDigits 10 n := by
  change (Int.repr _).toList = _
  rw [Int.repr_eq_if, if_neg (by omega), Int.neg_neg, Int.toNat_natCast,
    Nat.repr_eq_ofList_toDigits, String.toList_append, String.toList_ofList, String.toList_ofList]
  rfl

/-- A printed number starts with a sign or a digit. -/
theorem renderNumber_eq_cons (n : Int) :
    ∃ c text, renderNumber n = c :: text ∧ (c = '-' ∨ c.isDigit = true) := by
  obtain ⟨k, rfl | rfl⟩ := n.eq_nat_or_neg
  · obtain ⟨c, digits, hdigits, hc⟩ := exists_digit k
    exact ⟨c, digits, (renderNumber_natCast k).trans hdigits, .inr hc⟩
  · rcases Nat.eq_zero_or_pos k with rfl | hpos
    · exact ⟨'0', [], rfl, .inr rfl⟩
    · exact ⟨'-', _, renderNumber_neg hpos, .inl rfl⟩

theorem readNumber_natCast {n : Nat} (hn : n < significandBound) {rest : List Char}
    (hrest : Ends rest) : readNumber (renderNumber n ++ rest) = .ok (.whole n, rest) := by
  have hread : readNumber (renderNumber n ++ rest) =
      readNumberRest false (renderNumber n ++ rest) := by
    obtain ⟨c, digits, hdigits, hc⟩ := exists_digit n
    rw [renderNumber_natCast, hdigits, List.cons_append, readNumber]
    rintro _ heq
    obtain ⟨rfl, -⟩ := List.cons.inj heq
    cases hc
  rw [hread, renderNumber_natCast, readNumberRest_toDigits false hrest,
    readFraction_toDigits hn false hrest]
  rfl

/-- A whole number of 64 bits, with or without sign, is read as it is printed. -/
theorem readNumber_renderNumber {n : Int} (hlow : -(Nat.pow 2 63 : Nat) ≤ n)
    (hhigh : n < (Nat.pow 2 64 : Nat)) {rest : List Char} (hrest : Ends rest) :
    readNumber (renderNumber n ++ rest) = .ok (.whole n, rest) := by
  obtain ⟨k, rfl | rfl⟩ := n.eq_nat_or_neg
  · exact readNumber_natCast (Int.ofNat_lt.mp hhigh) hrest
  · rcases Nat.eq_zero_or_pos k with rfl | hpos
    · exact readNumber_natCast (by decide) hrest
    · have hk : k ≤ Nat.pow 2 63 := by omega
      have hbound : k < significandBound := Nat.lt_of_le_of_lt hk (by decide)
      rw [renderNumber_neg hpos, List.cons_append]
      change readNumberRest true _ = _
      rw [readNumberRest_toDigits true hrest, readFraction_toDigits hbound true hrest]
      simp [hpos, hk]

theorem reads_readWhole {least greatest n : Int} (hleast : least ≤ n) (hgreatest : n ≤ greatest)
    (hlow : -(Nat.pow 2 63 : Nat) ≤ n) (hhigh : n < (Nat.pow 2 64 : Nat)) :
    (readWhole least greatest).Reads (Json.number n).renderChars n := by
  intro rest hrest
  obtain ⟨c, text, htext, hc⟩ := renderNumber_eq_cons n
  have hspace : isSpace c = false := by
    rcases hc with rfl | hc
    · rfl
    · exact isSpace_of_isDigit hc
  have hread := readNumber_renderNumber hlow hhigh hrest
  change readWhole least greatest (renderNumber n ++ rest) = _
  rw [htext, List.cons_append] at hread ⊢
  rw [readWhole, token?_bind hspace]
  dsimp only
  rw [if_pos hc, bind_of_ok hread]
  dsimp only
  rw [if_pos ⟨hleast, hgreatest⟩]
  rfl

/-! ### Names -/

theorem reads_readName {α : Type} {table : List (String × α)} {name : String} {x : α}
    (h : Keyed.findIn name table = some x) :
    (readName table).Reads (Json.string name).renderChars x := by
  intro rest _
  change readName.named table (renderString name ++ rest) = _
  rw [readName.named, bind_of_ok (readString_append name rest), h]
  rfl

/-! ### Values that nobody asks for -/

/-- A value without members. -/
def IsPlain : Json → Prop
  | .null => True
  | .bool _ => True
  | .string _ => True
  | _ => False

theorem skip_of_isPlain {j : Json} (h : j.IsPlain) (rest : List Char) :
    skip (j.renderChars ++ rest) = .ok ((), rest) := by
  cases j with
  | null => rfl
  | bool b => cases b <;> rfl
  | string s =>
      change (skipValue _ (renderString s ++ rest)).map _ = _
      rw [renderString, List.cons_append, List.append_assoc]
      change (skipStringRest (s.toList.flatMap renderChar ++ '"' :: rest)).map _ = _
      rw [skipStringRest_flatMap]
      rfl
  | number n => cases h
  | array items => cases h
  | object members => cases h

end Sluice.Json
