import LiveOs.Lib.PyJson

/-!
# JSON text determines the document

`Json.text` is uniquely decodable: the text of a document followed by anything that can follow a
document inside a larger one determines both (`Json.text_append_inj`). In particular distinct
documents have distinct texts (`Json.text_injective`).
-/

namespace LiveOs.Lib

namespace Json

/-! ## Strings -/

/-- The value of a lower-case hexadecimal digit. -/
def hexVal (c : Char) : Nat := if c.toNat < 58 then c.toNat - 48 else c.toNat - 87

theorem hexVal_digitChar : ∀ d, d < 16 → hexVal (Nat.digitChar d) = d := by decide

/-- The first character of a string body, with the text after it. -/
def unescape : List Char → Option (Char × List Char)
  | '\\' :: '"' :: r => some ('"', r)
  | '\\' :: '\\' :: r => some ('\\', r)
  | '\\' :: 'b' :: r => some (Char.ofNat 8, r)
  | '\\' :: 'f' :: r => some (Char.ofNat 12, r)
  | '\\' :: 'n' :: r => some ('\n', r)
  | '\\' :: 'r' :: r => some ('\r', r)
  | '\\' :: 't' :: r => some ('\t', r)
  | '\\' :: 'u' :: _ :: _ :: a :: b :: r => some (Char.ofNat (16 * hexVal a + hexVal b), r)
  | c :: r => some (c, r)
  | [] => none

theorem unescape_escapeChar (c : Char) (r : List Char) :
    unescape (escapeChar c ++ r) = some (c, r) := by
  unfold escapeChar
  split
  · subst c; rfl
  split
  · subst c; rfl
  split
  · rename_i h; rw [← Char.ofNat_toNat c, h]; rfl
  split
  · rename_i h; rw [← Char.ofNat_toNat c, h]; rfl
  split
  · subst c; rfl
  split
  · subst c; rfl
  split
  · subst c; rfl
  split
  · rename_i h
    have ha := hexVal_digitChar (c.toNat / 16 % 16) (by omega)
    have hb := hexVal_digitChar (c.toNat % 16) (by omega)
    have hc : 16 * (c.toNat / 16 % 16) + c.toNat % 16 = c.toNat := by omega
    simp only [hexDigits, List.nil_append, List.cons_append, unescape, ha, hb, hc, Char.ofNat_toNat]
  · rename_i hq hb _ _ _ _ _ _
    simp only [List.cons_append, List.nil_append]
    rw [unescape.eq_def]
    split <;> simp_all

theorem escapeChar_append_inj {c d : Char} {r s : List Char}
    (h : escapeChar c ++ r = escapeChar d ++ s) : c = d ∧ r = s := by
  have e := congrArg unescape h
  rw [unescape_escapeChar, unescape_escapeChar] at e
  simpa using e

theorem escapeChar_append_ne_quote (c : Char) (r s : List Char) :
    escapeChar c ++ r ≠ '"' :: s := by
  intro h
  unfold escapeChar at h
  split at h
  · exact absurd (List.cons.inj h).1 (by decide)
  · rename_i hq
    repeat' split at h
    all_goals first
      | exact absurd (List.cons.inj h).1 (by decide)
      | exact hq (List.cons.inj h).1

theorem escape_append_inj {r s : List Char} : ∀ {cs ds : List Char},
    cs.flatMap escapeChar ++ '"' :: r = ds.flatMap escapeChar ++ '"' :: s → cs = ds ∧ r = s
  | [], [], h => ⟨rfl, by simpa using h⟩
  | [], d :: ds, h => by
    rw [List.flatMap_cons, List.append_assoc] at h
    exact absurd h.symm (escapeChar_append_ne_quote d _ _)
  | c :: cs, [], h => by
    rw [List.flatMap_cons, List.append_assoc] at h
    exact absurd h (escapeChar_append_ne_quote c _ _)
  | c :: cs, d :: ds, h => by
    rw [List.flatMap_cons, List.flatMap_cons, List.append_assoc, List.append_assoc] at h
    obtain ⟨hc, ht⟩ := escapeChar_append_inj h
    obtain ⟨hs, hr⟩ := escape_append_inj ht
    exact ⟨by rw [hc, hs], hr⟩

theorem strText_append_inj {s t : String} {r r' : List Char}
    (h : strText s ++ r = strText t ++ r') : s = t ∧ r = r' := by
  simp only [strText, List.cons_append, List.append_assoc, List.nil_append, List.cons.injEq,
    true_and] at h
  obtain ⟨hs, hr⟩ := escape_append_inj h
  exact ⟨String.toList_inj.1 hs, hr⟩

/-! ## Scalars -/

/-- The characters of scalar tokens: none of them delimits or opens anything. -/
def isTokenChar (c : Char) : Bool := c != ',' && c != ']' && c != '\x7d' && c != '"' && c != '['
  && c != '\x7b' && c != ':'

theorem isIntChar_of_mem_toString {i : Int} {c : Char} (h : c ∈ (toString i).toList) :
    isIntChar c = true := by
  rw [Int.toString_eq_repr, Int.repr_eq_if] at h
  have digits : ∀ n : Nat, c ∈ n.repr.toList → isIntChar c = true := by
    intro n hn
    rw [Nat.toList_repr] at hn
    simp [isIntChar, Nat.isDigit_of_mem_toDigits (by omega) (by omega) hn]
  split at h
  · exact digits _ h
  · rw [String.toList_append, List.mem_append] at h
    rcases h with h | h
    · have : c = '-' := by simpa using h
      subst this; rfl
    · exact digits _ h

theorem toNat_repr_inj {m n : Nat} (h : m.repr = n.repr) : m = n := by
  have e := congrArg (fun s => Nat.ofDigitChars 10 s.toList 0) h
  simpa only [Nat.toList_repr, Nat.ofDigitChars_ten_toDigits] using e

theorem minus_not_mem_repr (n : Nat) : '-' ∉ n.repr.toList := by
  intro h
  rw [Nat.toList_repr] at h
  exact absurd (Nat.isDigit_of_mem_toDigits (by omega) (by omega) h) (by decide)

theorem int_toString_inj {i j : Int} (h : toString i = toString j) : i = j := by
  rw [Int.toString_eq_repr, Int.toString_eq_repr, Int.repr_eq_if, Int.repr_eq_if] at h
  split at h <;> split at h
  · have := toNat_repr_inj h; omega
  · exfalso
    apply minus_not_mem_repr i.toNat
    rw [h, String.toList_append]
    exact List.mem_append_left _ (by simp)
  · exfalso
    apply minus_not_mem_repr j.toNat
    rw [← h, String.toList_append]
    exact List.mem_append_left _ (by simp)
  · have e : ((-i).toNat).repr = ((-j).toNat).repr := by
      have := congrArg String.toList h
      rw [String.toList_append, String.toList_append] at this
      exact String.toList_inj.1 (List.append_cancel_left this)
    have := toNat_repr_inj e
    omega

theorem isTokenChar_of_isIntChar {c : Char} (h : isIntChar c = true) : isTokenChar c = true := by
  unfold isIntChar at h
  unfold isTokenChar
  simp only [Bool.or_eq_true, beq_iff_eq] at h
  rcases h with h | rfl
  · simp only [Bool.and_eq_true, bne_iff_ne, ne_eq]
    refine ⟨⟨⟨⟨⟨⟨?_, ?_⟩, ?_⟩, ?_⟩, ?_⟩, ?_⟩, ?_⟩ <;> rintro rfl <;> exact absurd h (by decide)
  · rfl

theorem isTokenChar_of_isFloatChar {c : Char} (h : isFloatChar c = true) :
    isTokenChar c = true := by
  unfold isFloatChar at h
  rw [List.contains_iff_mem] at h
  exact List.all_eq_true.1 (by decide) c h

/-- A scalar token holds token characters only. -/
theorem isTokenChar_of_mem_jsonText {s : Scalar} {c : Char} (h : c ∈ s.jsonText.toList) :
    isTokenChar c = true := by
  cases s with
  | none => exact List.all_eq_true.1 (by decide) c h
  | bool b => cases b <;> exact List.all_eq_true.1 (by decide) c h
  | int i => exact isTokenChar_of_isIntChar (isIntChar_of_mem_toString h)
  | float f => exact isTokenChar_of_isFloatChar (List.all_eq_true.1 f.chars c h)

theorem jsonText_ne_nil (s : Scalar) : s.jsonText.toList ≠ [] := by
  cases s with
  | none => decide
  | bool b => cases b <;> decide
  | int i =>
    intro h
    have e : toString i = "" := String.toList_inj.1 h
    rw [Int.toString_eq_repr, Int.repr_eq_if] at e
    split at e
    · exact Nat.repr_ne_empty e
    · have := congrArg String.toList e
      simp at this
  | float f =>
    intro h
    have := f.notInt
    rw [show f.text.toList = [] from h] at this
    simp at this

theorem float_text_ne_int (f : PyFloat) (i : Int) : f.text ≠ toString i := by
  intro h
  obtain ⟨c, hc, hn⟩ := List.any_eq_true.1 f.notInt
  rw [h] at hc
  rw [isIntChar_of_mem_toString hc] at hn
  exact absurd hn (by decide)

theorem float_text_ne_word (f : PyFloat) {w : String}
    (hw : w.toList.all isFloatChar = false) : f.text ≠ w := by
  rintro rfl
  rw [f.chars] at hw
  cases hw

theorem int_toString_ne_word (i : Int) {w : String} (hw : w.toList.all isIntChar = false) :
    toString i ≠ w := by
  rintro rfl
  rw [List.all_eq_true.2 fun c hc => isIntChar_of_mem_toString hc] at hw
  cases hw

/-- Distinct scalars have distinct tokens. -/
theorem jsonText_inj {s t : Scalar} (h : s.jsonText = t.jsonText) : s = t := by
  cases s with
  | none =>
    cases t with
    | none => rfl
    | bool b => cases b <;> exact absurd h (by decide)
    | int i => exact absurd h.symm (int_toString_ne_word i (by decide))
    | float f => exact absurd h.symm (float_text_ne_word f (by decide))
  | bool b =>
    cases t with
    | none => cases b <;> exact absurd h (by decide)
    | bool b' => cases b <;> cases b' <;> first | rfl | exact absurd h (by decide)
    | int i =>
      cases b <;> exact absurd h.symm (int_toString_ne_word i (by decide))
    | float f => cases b <;> exact absurd h.symm (float_text_ne_word f (by decide))
  | int i =>
    cases t with
    | none => exact absurd h (int_toString_ne_word i (by decide))
    | bool b => cases b <;> exact absurd h (int_toString_ne_word i (by decide))
    | int j => rw [int_toString_inj h]
    | float f => exact absurd h.symm (float_text_ne_int f i)
  | float f =>
    cases t with
    | none => exact absurd h (float_text_ne_word f (by decide))
    | bool b => cases b <;> exact absurd h (float_text_ne_word f (by decide))
    | int i => exact absurd h (float_text_ne_int f i)
    | float g =>
      obtain ⟨s, _, _⟩ := f
      obtain ⟨t, _, _⟩ := g
      simp only [Scalar.jsonText] at h
      subst h
      rfl

/-! ## Documents -/

/-- What can follow a document inside a larger one: nothing, a comma or a closing bracket. -/
def Ends (r : List Char) : Prop := ∀ c ∈ r.head?, c = ',' ∨ c = ']' ∨ c = '\x7d'

theorem ends_nil : Ends [] := by simp [Ends]

theorem Ends.head_not_token {r : List Char} (h : Ends r) : ∀ c ∈ r.head?, isTokenChar c = false := by
  intro c hc
  rcases h c hc with rfl | rfl | rfl <;> rfl

/-- A token is cut off where the first character outside tokens stands. -/
theorem takeWhile_token {t r : List Char} (ht : ∀ c ∈ t, isTokenChar c = true)
    (hr : ∀ c ∈ r.head?, isTokenChar c = false) : (t ++ r).takeWhile isTokenChar = t := by
  rw [List.takeWhile_append_of_pos ht]
  cases r with
  | nil => simp
  | cons c r => simp [hr c rfl]

theorem scalar_append_inj {s t : Scalar} {r r' : List Char} (hr : Ends r) (hr' : Ends r')
    (h : s.jsonText.toList ++ r = t.jsonText.toList ++ r') : s = t ∧ r = r' := by
  have e := congrArg (List.takeWhile isTokenChar) h
  rw [takeWhile_token (fun _ hc => isTokenChar_of_mem_jsonText hc) hr.head_not_token,
    takeWhile_token (fun _ hc => isTokenChar_of_mem_jsonText hc) hr'.head_not_token] at e
  refine ⟨jsonText_inj (String.toList_inj.1 e), ?_⟩
  rw [e] at h
  exact List.append_cancel_left h

/-- The first character of a text tells the kind of document. -/
inductive Opens : Json → Char → Prop
  | scalar {s : Scalar} {c : Char} (h : isTokenChar c = true) : Opens (.scalar s) c
  | str {s : String} : Opens (.str s) '"'
  | arr {xs : List Json} : Opens (.arr xs) '['
  | obj {es : List (String × Json)} : Opens (.obj es) '\x7b'

theorem text_opens (j : Json) : ∃ c r, j.text = c :: r ∧ Opens j c := by
  cases j with
  | scalar s =>
    cases h : s.jsonText.toList with
    | nil => exact absurd h (jsonText_ne_nil s)
    | cons c r =>
      refine ⟨c, r, by rw [text, h], .scalar ?_⟩
      exact isTokenChar_of_mem_jsonText (s := s) (by rw [h]; exact List.mem_cons_self)
  | str s => exact ⟨_, _, by rw [text, strText]; rfl, .str⟩
  | arr xs =>
    cases xs with
    | nil => exact ⟨_, _, rfl, .arr⟩
    | cons x xs => exact ⟨_, _, by rw [text]; rfl, .arr⟩
  | obj es =>
    cases es with
    | nil => exact ⟨_, _, rfl, .obj⟩
    | cons e es => exact ⟨_, _, by rw [text]; rfl, .obj⟩

/-- No text starts with a closing bracket. -/
theorem text_append_ne_close (j : Json) {r s : List Char} : j.text ++ r ≠ ']' :: s := by
  obtain ⟨c, t, h, ho⟩ := text_opens j
  rw [h]
  intro e
  obtain ⟨rfl, _⟩ := List.cons.inj e
  cases ho with
  | scalar h => exact absurd h (by decide)

theorem ends_items (xs : List Json) (r : List Char) : Ends (text.items xs ++ ']' :: r) := by
  intro c hc
  cases xs with
  | nil => exact .inr (.inl (Option.some.inj hc).symm)
  | cons x xs => exact .inl (Option.some.inj hc).symm

theorem ends_members (es : List (String × Json)) (r : List Char) :
    Ends (text.members es ++ '\x7d' :: r) := by
  intro c hc
  cases es with
  | nil => exact .inr (.inr (Option.some.inj hc).symm)
  | cons e es => exact .inl (Option.some.inj hc).symm

theorem items_append_inj {r r' : List Char} : ∀ {xs ys : List Json},
    (∀ x ∈ xs, ∀ (y : Json) {s s' : List Char}, Ends s → Ends s' →
      x.text ++ s = y.text ++ s' → x = y ∧ s = s') →
    text.items xs ++ ']' :: r = text.items ys ++ ']' :: r' → xs = ys ∧ r = r'
  | [], [], _, h => ⟨rfl, by simpa [text.items] using h⟩
  | [], y :: ys, _, h => by simp [text.items] at h
  | x :: xs, [], _, h => by simp [text.items] at h
  | x :: xs, y :: ys, hx, h => by
    simp only [text.items, List.cons_append, List.append_assoc, List.cons.injEq, true_and] at h
    obtain ⟨e, ht⟩ := hx x List.mem_cons_self y (ends_items _ _) (ends_items _ _) h
    obtain ⟨es, hr⟩ := items_append_inj (fun z hz => hx z (List.mem_cons_of_mem _ hz)) ht
    exact ⟨by rw [e, es], hr⟩

theorem members_append_inj {r r' : List Char} : ∀ {es fs : List (String × Json)},
    (∀ e ∈ es, ∀ (y : Json) {s s' : List Char}, Ends s → Ends s' →
      e.2.text ++ s = y.text ++ s' → e.2 = y ∧ s = s') →
    text.members es ++ '\x7d' :: r = text.members fs ++ '\x7d' :: r' → es = fs ∧ r = r'
  | [], [], _, h => ⟨rfl, by simpa [text.members] using h⟩
  | [], f :: fs, _, h => by simp [text.members] at h
  | e :: es, [], _, h => by simp [text.members] at h
  | (k, v) :: es, (k', v') :: fs, he, h => by
    simp only [text.members, List.cons_append, List.append_assoc, List.cons.injEq, true_and] at h
    obtain ⟨hk, ht⟩ := strText_append_inj h
    obtain ⟨hv, hs⟩ := he (k, v) List.mem_cons_self v' (ends_members _ _) (ends_members _ _)
      (List.cons.inj ht).2
    obtain ⟨hes, hr⟩ := members_append_inj (fun z hz => he z (List.mem_cons_of_mem _ hz)) hs
    exact ⟨by rw [hk, show v = v' from hv, hes], hr⟩

/-- **Unique decoding.** A text followed by something that can follow a document determines the
document and what follows. -/
theorem text_append_inj (a : Json) : ∀ (b : Json) {r r' : List Char}, Ends r → Ends r' →
    a.text ++ r = b.text ++ r' → a = b ∧ r = r' := by
  -- two documents whose texts agree open with one character, so they are of one kind
  have kind : ∀ {a b : Json} {r r' : List Char}, a.text ++ r = b.text ++ r' →
      ∃ c, Opens a c ∧ Opens b c := by
    intro a b r r' h
    obtain ⟨c, s, ha, ho⟩ := text_opens a
    obtain ⟨d, t, hb, ho'⟩ := text_opens b
    rw [ha, hb] at h
    obtain ⟨rfl, _⟩ := List.cons.inj h
    exact ⟨c, ho, ho'⟩
  induction a with
  | scalar s =>
    intro b r r' hr hr' h
    obtain ⟨c, ho, ho'⟩ := kind h
    cases ho with
    | scalar hc =>
      cases ho' with
      | scalar _ =>
        obtain ⟨rfl, rfl⟩ := scalar_append_inj hr hr' (by simpa only [text] using h)
        exact ⟨rfl, rfl⟩
      | str => exact absurd hc (by decide)
      | arr => exact absurd hc (by decide)
      | obj => exact absurd hc (by decide)
  | str s =>
    intro b r r' _ _ h
    obtain ⟨c, ho, ho'⟩ := kind h
    cases ho with
    | str =>
      cases ho' with
      | scalar hc => exact absurd hc (by decide)
      | str =>
        obtain ⟨rfl, rfl⟩ := strText_append_inj (by simpa only [text] using h)
        exact ⟨rfl, rfl⟩
  | arr xs ih =>
    intro b r r' _ _ h
    obtain ⟨c, ho, ho'⟩ := kind h
    cases ho with
    | arr =>
      cases ho' with
      | scalar hc => exact absurd hc (by decide)
      | @arr ys =>
        cases xs with
        | nil =>
          cases ys with
          | nil => exact ⟨rfl, by simpa [text] using h⟩
          | cons y ys =>
            simp only [text, List.cons_append, List.append_assoc, List.cons.injEq, true_and,
              List.nil_append] at h
            exact absurd h.symm (text_append_ne_close y)
        | cons x xs =>
          cases ys with
          | nil =>
            simp only [text, List.cons_append, List.append_assoc, List.cons.injEq, true_and,
              List.nil_append] at h
            exact absurd h (text_append_ne_close x)
          | cons y ys =>
            -- the brackets apart, both sides are lists of items with a leading comma
            have h' : text.items (x :: xs) ++ ']' :: r = text.items (y :: ys) ++ ']' :: r' := by
              simp only [text, text.items, List.cons_append, List.append_assoc, List.cons.injEq,
                true_and, List.nil_append] at h ⊢
              exact h
            obtain ⟨e, rfl⟩ := items_append_inj (fun z hz b => ih z hz b) h'
            exact ⟨by rw [e], rfl⟩
  | obj es ih =>
    intro b r r' _ _ h
    obtain ⟨c, ho, ho'⟩ := kind h
    cases ho with
    | obj =>
      cases ho' with
      | scalar hc => exact absurd hc (by decide)
      | @obj fs =>
        cases es with
        | nil =>
          cases fs with
          | nil => exact ⟨rfl, by simpa [text] using h⟩
          | cons f fs => simp [text, strText] at h
        | cons e es =>
          cases fs with
          | nil => simp [text, strText] at h
          | cons f fs =>
            have h' : text.members (e :: es) ++ '\x7d' :: r =
                text.members (f :: fs) ++ '\x7d' :: r' := by
              simp only [text, text.members, List.cons_append, List.append_assoc,
                List.cons.injEq, true_and, List.nil_append] at h ⊢
              exact h
            obtain ⟨e', rfl⟩ := members_append_inj (fun z hz b => ih z hz b) h'
            exact ⟨by rw [e'], rfl⟩

/-- Distinct documents have distinct texts. -/
theorem text_injective {a b : Json} (h : a.text = b.text) : a = b :=
  (text_append_inj a b ends_nil ends_nil (by rw [h])).1

/-! ## Objects one after another -/

/-- The text of an object with members, by the text of its members. -/
theorem text_obj_cons (e : String × Json) (es : List (String × Json)) :
    ',' :: (Json.obj (e :: es)).text.tail = text.members (e :: es) ++ ['\x7d'] := by
  simp [text, text.members]

theorem text_obj_head (e : String × Json) (es : List (String × Json)) :
    (Json.obj (e :: es)).text = '\x7b' :: (Json.obj (e :: es)).text.tail := by
  simp [text]

/-- An object closes itself, so that anything can follow it. -/
theorem obj_append_inj {e f : String × Json} {es fs : List (String × Json)} {r r' : List Char}
    (h : (Json.obj (e :: es)).text ++ r = (Json.obj (f :: fs)).text ++ r') :
    e :: es = f :: fs ∧ r = r' := by
  rw [text_obj_head e, text_obj_head f, List.cons_append, List.cons_append] at h
  have hmembers : text.members (e :: es) ++ '\x7d' :: r = text.members (f :: fs) ++ '\x7d' :: r' := by
    have htail := congrArg (List.cons ',') (List.cons.inj h).2
    rwa [← List.cons_append, ← List.cons_append, text_obj_cons, text_obj_cons, List.append_assoc,
      List.append_assoc] at htail
  exact members_append_inj (fun x _ y _ _ hs hs' => text_append_inj x.2 y hs hs') hmembers

/-- Texts of objects written one after another determine the objects. -/
theorem flatten_texts_inj : ∀ {xs ys : List (List (String × Json))}, (∀ x ∈ xs, x ≠ []) →
    (∀ y ∈ ys, y ≠ []) → (xs.map fun x => (Json.obj x).text).flatten =
      (ys.map fun y => (Json.obj y).text).flatten → xs = ys
  | [], [], _, _, _ => rfl
  | [], y :: ys, _, hy, h => by
    obtain ⟨f, fs, rfl⟩ := List.exists_cons_of_ne_nil (hy y List.mem_cons_self)
    rw [List.map_cons, List.flatten_cons, text_obj_head] at h
    cases h
  | x :: xs, [], hx, _, h => by
    obtain ⟨e, es, rfl⟩ := List.exists_cons_of_ne_nil (hx x List.mem_cons_self)
    rw [List.map_cons, List.flatten_cons, text_obj_head] at h
    cases h
  | x :: xs, y :: ys, hx, hy, h => by
    obtain ⟨e, es, rfl⟩ := List.exists_cons_of_ne_nil (hx x List.mem_cons_self)
    obtain ⟨f, fs, rfl⟩ := List.exists_cons_of_ne_nil (hy y List.mem_cons_self)
    rw [List.map_cons, List.map_cons, List.flatten_cons, List.flatten_cons] at h
    obtain ⟨hhead, htail⟩ := obj_append_inj h
    rw [hhead, flatten_texts_inj (fun x hmem => hx x (List.mem_cons_of_mem _ hmem))
      (fun y hmem => hy y (List.mem_cons_of_mem _ hmem)) htail]

end Json

end LiveOs.Lib
