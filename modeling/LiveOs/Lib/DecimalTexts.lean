import Mathlib.Data.List.TakeDrop
import LiveOs.Lib.PyNumbers

/-!
# Plain decimal texts

Digits, perhaps with a minus in front and with a point among them, are read as the number that they
write, whatever digits of other scripts count as.
-/

namespace LiveOs.Lib

/-- The characters of a plain decimal text. -/
def isPlainChar (c : Char) : Bool := c.isDigit || c = '-' || c = '.'

section

variable {u : DecimalDigits} {cs int frac : List Char} {negative : Bool}

theorem isDigit_iff {c : Char} : c.isDigit = true ↔ 48 ≤ c.toNat ∧ c.toNat ≤ 57 := by
  simp only [Char.isDigit, Bool.and_eq_true, decide_eq_true_eq, UInt32.le_iff_toNat_le]
  exact Iff.rfl

theorem toNat_of_plain {c : Char} (h : isPlainChar c = true) :
    48 ≤ c.toNat ∧ c.toNat ≤ 57 ∨ c.toNat = 45 ∨ c.toNat = 46 := by
  simp only [isPlainChar, Bool.or_eq_true, decide_eq_true_eq] at h
  rcases h with (h | rfl) | rfl
  · exact .inl (isDigit_iff.1 h)
  · exact .inr (.inl rfl)
  · exact .inr (.inr rfl)

theorem isSpace_of_plain {c : Char} (h : isPlainChar c = true) : isSpace c = false := by
  have hn := toNat_of_plain h
  simp only [isSpace, Bool.or_eq_false_iff, Bool.and_eq_false_iff, decide_eq_false_iff_not,
    beq_eq_false_iff_ne]
  omega

theorem toAscii_of_plain {c : Char} (h : isPlainChar c = true) : u.toAscii c = c := by
  have hn := toNat_of_plain h
  rw [DecimalDigits.toAscii, u.ascii c (by omega)]
  by_cases hd : c.isDigit = true
  · obtain ⟨hlo, hhi⟩ := isDigit_iff.1 hd
    have hzero : '0'.toNat = 48 := rfl
    rw [if_pos hd, Option.elim_some, hzero]
    apply Char.toNat_inj.1
    rw [Nat.toNat_digitChar_of_lt_ten (by omega)]
    omega
  · rw [if_neg hd, Option.elim_none]

theorem strip_of_plain (h : ∀ c ∈ cs, isPlainChar c = true) :
    strip (String.ofList cs) = String.ofList cs := by
  have hdrop : ∀ ds : List Char, (∀ c ∈ ds, isPlainChar c = true) → ds.dropWhile isSpace = ds := by
    intro ds hds
    cases ds with
    | nil => rfl
    | cons d ds => rw [List.dropWhile_cons_of_neg (by simp [isSpace_of_plain (hds d List.mem_cons_self)])]
  rw [strip, String.toList_ofList, hdrop cs h, hdrop _ fun c hc => h c (List.mem_reverse.1 hc),
    List.reverse_reverse]

/-- What `decimalOfText` reads of a plain text is the text. -/
theorem cleaned_of_plain (h : ∀ c ∈ cs, isPlainChar c = true) :
    ((strip (String.ofList cs)).toList.filter (· ≠ '_')).map u.toAscii = cs := by
  rw [strip_of_plain h, String.toList_ofList]
  have hfilter : cs.filter (· ≠ '_') = cs := by
    refine List.filter_eq_self.2 fun c hc => ?_
    have hn := toNat_of_plain (h c hc)
    simp only [ne_eq, decide_not, Bool.not_eq_eq_eq_not, Bool.not_true, decide_eq_false_iff_not]
    rintro rfl
    revert hn
    decide
  rw [hfilter]
  conv_rhs => rw [← List.map_id cs]
  exact List.map_congr_left fun c hc => toAscii_of_plain (h c hc)

theorem readSign_of_digit {c : Char} (h : c.isDigit = true) :
    readSign (c :: cs) = (false, c :: cs) := by
  unfold readSign
  split
  · rename_i heq
    obtain ⟨rfl, -⟩ := List.cons.inj heq
    cases h
  · rename_i heq
    obtain ⟨rfl, -⟩ := List.cons.inj heq
    cases h
  · rfl

/-- Nothing that starts with a digit is the name of an infinity or of a NaN. -/
theorem isNonFinite_of_digit {c : Char} (h : c.isDigit = true) : isNonFinite (c :: cs) = false := by
  have hlower : c.toLower = c := by
    obtain ⟨hlo, hhi⟩ := isDigit_iff.1 h
    refine dif_neg ?_
    rintro ⟨hup, -⟩
    have hge : 65 ≤ c.toNat := UInt32.le_iff_toNat_le.1 hup
    omega
  have hne : ∀ d : Char, d.isDigit = false → c ≠ d := by
    rintro d hd rfl
    rw [h] at hd
    cases hd
  simp only [isNonFinite, List.map_cons, hlower]
  simp [hne 'i' (by decide), (hne 'n' (by decide)).symm, (hne 's' (by decide)).symm]

theorem span_digits (rest : List Char) (h : ∀ c ∈ cs, c.isDigit = true)
    (hrest : ∀ c ∈ rest.head?, c.isDigit = false) : (cs ++ rest).span Char.isDigit = (cs, rest) := by
  rw [List.span_eq_takeWhile_dropWhile]
  induction cs with
  | nil =>
    cases rest with
    | nil => rfl
    | cons c rest =>
      have hc := hrest c rfl
      simp [hc]
  | cons c cs ih =>
    have hc := h c List.mem_cons_self
    have ih := ih fun d hd => h d (List.mem_cons_of_mem _ hd)
    simp only [List.cons_append, List.takeWhile_cons, List.dropWhile_cons, hc, if_true]
    simp only [Prod.mk.injEq] at ih ⊢
    exact ⟨by rw [ih.1], ih.2⟩

/-- The characters of a number: a sign, digits, and perhaps a point and further digits. -/
def plainChars (negative : Bool) (int frac : List Char) : List Char :=
  (if negative then ['-'] else []) ++ (int ++ if frac = [] then [] else '.' :: frac)

/-- **Plain texts are read as what they write.** -/
theorem decimalOfText_plain (hint : ∀ c ∈ int, c.isDigit = true) (hne : int ≠ [])
    (hfrac : ∀ c ∈ frac, c.isDigit = true) :
    decimalOfText u (String.ofList (plainChars negative int frac)) =
      some (.finite (signed negative (natOfDigits (int ++ frac))) (-frac.length)) := by
  have hplain : ∀ c ∈ plainChars negative int frac, isPlainChar c = true := by
    intro c hc
    simp only [plainChars, List.mem_append] at hc
    rcases hc with hc | hc | hc
    · cases negative with
      | true =>
        obtain rfl := List.mem_singleton.1 hc
        rfl
      | false => cases hc
    · simp [isPlainChar, hint c hc]
    · by_cases hnil : frac = []
      · simp [hnil] at hc
      · rw [if_neg hnil] at hc
        rcases List.mem_cons.1 hc with rfl | hc
        · rfl
        · simp [isPlainChar, hfrac c hc]
  obtain ⟨d, ds, rfl⟩ := List.exists_cons_of_ne_nil hne
  have hd : d.isDigit = true := hint d List.mem_cons_self
  have hsign : readSign (plainChars negative (d :: ds) frac) =
      (negative, (d :: ds) ++ if frac = [] then [] else '.' :: frac) := by
    cases negative with
    | true => rfl
    | false => exact readSign_of_digit hd
  unfold decimalOfText
  rw [cleaned_of_plain hplain, hsign]
  have hnon : isNonFinite ((d :: ds) ++ if frac = [] then [] else '.' :: frac) = false :=
    isNonFinite_of_digit hd
  by_cases hnil : frac = []
  · subst hnil
    have hspan := span_digits [] hint (by simp)
    simp only [if_true] at hnon ⊢
    simp only [hnon, hspan]
    simp [readFraction, readExponent]
  · simp only [hnil, if_false] at hnon ⊢
    simp only [hnon, span_digits ('.' :: frac) hint (by simp)]
    have hspan : frac.span Char.isDigit = (frac, []) := by
      simpa using span_digits [] hfrac (by simp)
    simp only [readFraction, hspan]
    simp [readExponent]

end

theorem natOfDigits_eq (cs : List Char) : natOfDigits cs = Nat.ofDigitChars 10 cs 0 := rfl

end LiveOs.Lib
