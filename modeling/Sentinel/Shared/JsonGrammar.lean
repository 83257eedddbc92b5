import Mathlib.Data.List.TakeDrop
import Mathlib.Data.List.TakeWhile
import Sentinel.Shared.JsonText

/-!
# What the reader reads

The texts of a value with so many levels: any blanks between the tokens, any spelling of a string,
and any number, also one with a fraction or an exponent. An integer with more digits than the
interpreter converts has no text here, nor has a string with half a surrogate pair. What `dumps`
writes is one of these texts.

* `Text` — the texts of a value
* `loads_text` — **each of them is read as the value**
* `loads_dumps` — what was written is read
-/

namespace Sentinel

open Lib

namespace Json

def Blank (w : List Char) : Prop := ∀ c ∈ w, isBlankChar c = true

/-- A text behind its opening quote. -/
def StringText (s : String) (t : List Char) : Prop :=
  ∃ u, JsonString.Spelling s.toList u ∧ t = u ++ ['"']

def Digits (ds : List Char) : Prop := ds ≠ [] ∧ ∀ c ∈ ds, c.isDigit = true

/-- No digits in front of a point begin with a zero but the zero itself. -/
def Whole (ds : List Char) : Prop := Digits ds ∧ (ds.head? = some '0' → ds = ['0'])

inductive Fraction : List Char → Prop
  | absent : Fraction []
  | present {ds : List Char} : Digits ds → Fraction ('.' :: ds)

inductive Exponent : List Char → Prop
  | absent : Exponent []
  | present {e : Char} {sign ds : List Char} :
      e = 'e' ∨ e = 'E' → sign = [] ∨ sign = ['+'] ∨ sign = ['-'] → Digits ds →
      Exponent (e :: (sign ++ ds))

/-- Without a fraction and an exponent a number is an integer, else it is what the interpreter
makes of it. -/
inductive NumberText (D : Decoder) : Json → List Char → Prop
  | int {sign ds : List Char} {n : Int} : sign = [] ∨ sign = ['-'] → Whole ds →
      parseInt sign ds = .ok n → NumberText D (int n) (sign ++ ds)
  | float {sign ds frac exp : List Char} : sign = [] ∨ sign = ['-'] → Whole ds →
      Fraction frac → Exponent exp → ¬(frac = [] ∧ exp = []) →
      NumberText D (D.parseFloat (sign ++ ds ++ frac ++ exp)) (sign ++ ds ++ frac ++ exp)

mutual

inductive Text (D : Decoder) : Nat → Json → List Char → Prop
  | literal {d : Nat} {v : Json} {t : List Char} : (t, v) ∈ literals → Text D d v t
  | number {d : Nat} {v : Json} {t : List Char} : NumberText D v t → Text D d v t
  | str {d : Nat} {s : String} {t : List Char} : StringText s t → Text D d (str s) ('"' :: t)
  | emptyArr {d : Nat} {w : List Char} : Blank w → Text D (d + 1) (arr []) ('[' :: (w ++ [']']))
  | arr {d : Nat} {items : List Json} {w t : List Char} :
      Blank w → Items D d items t → Text D (d + 1) (arr items) ('[' :: (w ++ t))
  | emptyObj {d : Nat} {w : List Char} : Blank w → Text D (d + 1) (obj []) ('{' :: (w ++ ['}']))
  | obj {d : Nat} {fields : List (String × Json)} {w t : List Char} :
      Blank w → Fields D d fields t → Text D (d + 1) (obj fields) ('{' :: (w ++ t))

/-- The items up to the closing bracket, and the bracket. -/
inductive Items (D : Decoder) : Nat → List Json → List Char → Prop
  | last {d : Nat} {v : Json} {t w : List Char} :
      Text D d v t → Blank w → Items D d [v] (t ++ (w ++ [']']))
  | cons {d : Nat} {v : Json} {items : List Json} {t w w' ts : List Char} :
      Text D d v t → Blank w → Blank w' → Items D d items ts →
      Items D d (v :: items) (t ++ (w ++ ',' :: (w' ++ ts)))

/-- The fields up to the closing brace, and the brace. -/
inductive Fields (D : Decoder) : Nat → List (String × Json) → List Char → Prop
  | last {d : Nat} {key : String} {v : Json} {k w w' t u : List Char} :
      StringText key k → Blank w → Blank w' → Text D d v t → Blank u →
      Fields D d [(key, v)] ('"' :: (k ++ (w ++ ':' :: (w' ++ (t ++ (u ++ ['}']))))))
  | cons {d : Nat} {key : String} {v : Json} {fields : List (String × Json)}
      {k w w' t u u' ts : List Char} :
      StringText key k → Blank w → Blank w' → Text D d v t → Blank u → Blank u' →
      Fields D d fields ts →
      Fields D d ((key, v) :: fields)
        ('"' :: (k ++ (w ++ ':' :: (w' ++ (t ++ (u ++ ',' :: (u' ++ ts)))))))

end

/-! ## tokens -/

/-- What may stand behind a number. -/
def Stops (rest : List Char) : Prop :=
  ∀ c ∈ rest.head?, c.isDigit = false ∧ c ≠ '.' ∧ c ≠ 'e' ∧ c ≠ 'E'

theorem stops_nil : Stops [] := nofun

theorem stops_cons {c : Char} {rest : List Char}
    (h : c.isDigit = false ∧ c ≠ '.' ∧ c ≠ 'e' ∧ c ≠ 'E') : Stops (c :: rest) := by
  rintro _ ⟨⟩
  exact h

theorem Blank.stops {w rest : List Char} (hw : Blank w) (h : Stops rest) : Stops (w ++ rest) := by
  cases w with
  | nil => exact h
  | cons c w =>
    have hc := hw c List.mem_cons_self
    simp only [isBlankChar, Bool.or_eq_true, decide_eq_true_eq] at hc
    rcases hc with ((rfl | rfl) | rfl) | rfl <;> exact stops_cons (by decide)

theorem skipBlanks_append {w : List Char} (hw : Blank w) (text : List Char) :
    skipBlanks (w ++ text) = skipBlanks text := by
  unfold skipBlanks
  exact List.dropWhile_append_of_pos hw

theorem skipBlanks_cons {c : Char} (hc : isBlankChar c = false) (text : List Char) :
    skipBlanks (c :: text) = c :: text := by
  unfold skipBlanks
  rw [List.dropWhile_cons_of_neg]
  simp [hc]

theorem skipBlanks_colon {w : List Char} (hw : Blank w) (text : List Char) :
    skipBlanks (w ++ ':' :: text) = ':' :: text := by
  rw [skipBlanks_append hw]
  exact skipBlanks_cons rfl text

theorem scanLiteral_append {t : List Char} {v : Json} (h : (t, v) ∈ literals) (rest : List Char) :
    scanLiteral (t ++ rest) = some (v, rest) := by
  have hall : ∀ l ∈ literals, scanLiteral (l.1 ++ rest) = some (l.2, rest) := by
    simp only [literals, List.forall_mem_cons]
    exact ⟨rfl, rfl, rfl, rfl, rfl, rfl, nofun⟩
  exact hall _ h

theorem scanString_append {s : String} {t : List Char} (h : StringText s t) (rest : List Char) :
    scanString (t ++ rest) = .ok (s, rest) := by
  obtain ⟨u, hu, rfl⟩ := h
  unfold scanString
  rw [List.append_assoc, List.singleton_append, JsonString.read_spelling hu rest]
  simp

/-! ## numbers -/

/-- No digit stands here. -/
def NoDigit (rest : List Char) : Prop := ∀ c ∈ rest.head?, c.isDigit = false

theorem Stops.noDigit {rest : List Char} (h : Stops rest) : NoDigit rest := fun c hc => (h c hc).1

theorem digit_ne {c x : Char} (hc : c.isDigit = true) (hx : x.isDigit = false) : c ≠ x := by
  rintro rfl
  rw [hc] at hx
  cases hx

theorem Digits.head {ds : List Char} (h : Digits ds) : ∃ c cs, ds = c :: cs ∧ c.isDigit = true := by
  obtain ⟨c, cs, rfl⟩ := List.exists_cons_of_ne_nil h.1
  exact ⟨c, cs, rfl, h.2 c List.mem_cons_self⟩

theorem span_digits {ds rest : List Char} (h : Digits ds) (hrest : NoDigit rest) :
    (ds ++ rest).span Char.isDigit = (ds, rest) := by
  have hnone : rest.takeWhile Char.isDigit = [] ∧ rest.dropWhile Char.isDigit = rest := by
    cases rest with
    | nil => exact ⟨rfl, rfl⟩
    | cons c rest =>
      have hc := hrest c rfl
      simp [hc]
  rw [List.span_eq_takeWhile_dropWhile, List.takeWhile_append_of_pos h.2,
    List.dropWhile_append_of_pos h.2, hnone.1, hnone.2, List.append_nil]

theorem integerPart_whole {ds rest : List Char} (h : Whole ds) (hrest : NoDigit rest) :
    integerPart (ds ++ rest) = some (ds, rest) := by
  have hspan := span_digits h.1 hrest
  obtain ⟨c, cs, rfl, hc⟩ := h.1.head
  rw [List.cons_append] at hspan ⊢
  show (if c = '0' then some ([c], cs ++ rest)
    else if c.isDigit then some ((c :: (cs ++ rest)).span Char.isDigit) else none) = _
  by_cases h0 : c = '0'
  · subst h0
    rw [if_pos rfl, List.tail_eq_of_cons_eq (h.2 rfl)]
    rfl
  · rw [if_neg h0, if_pos hc, hspan]

theorem Fraction.read {frac rest : List Char} (h : Fraction frac) (hrest : NoDigit rest)
    (hpoint : ∀ c ∈ rest.head?, c ≠ '.') : fraction (frac ++ rest) = (frac, rest) := by
  cases h with
  | absent =>
    rw [List.nil_append]
    unfold fraction
    split
    · exact absurd rfl (hpoint '.' rfl)
    · rfl
  | @present ds hds =>
    have hspan := span_digits hds hrest
    obtain ⟨c, cs, rfl, -⟩ := hds.head
    rw [List.cons_append] at hspan
    unfold fraction
    simp only [List.cons_append, hspan]

theorem Exponent.read {exp rest : List Char} (h : Exponent exp) (hrest : Stops rest) :
    exponent (exp ++ rest) = (exp, rest) := by
  cases h with
  | absent =>
    rw [List.nil_append]
    unfold exponent
    split
    · next c rest =>
      obtain ⟨-, -, he, hE⟩ := hrest c rfl
      rw [if_neg (by simp [he, hE])]
    · rfl
  | @present e sign ds he hsign hds =>
    have hspan := span_digits hds hrest.noDigit
    obtain ⟨c, cs, rfl, hc⟩ := hds.head
    have hmark : (decide (e = 'e') || decide (e = 'E')) = true := by simpa using he
    rw [List.cons_append] at hspan
    unfold exponent
    rcases hsign with rfl | rfl | rfl
    · -- the first digit is no sign
      have hplus : ¬c = '+' := digit_ne hc rfl
      have hminus : ¬c = '-' := digit_ne hc rfl
      simp only [List.cons_append, List.nil_append, hmark, if_true, hplus, hminus, decide_false,
        Bool.or_self, Bool.false_eq_true, if_false, hspan]
    · simp only [List.cons_append, List.nil_append, hmark, if_true, decide_true, Bool.true_or,
        hspan]
    · simp only [List.cons_append, List.nil_append, hmark, if_true, decide_true, Bool.or_true,
        hspan]

/-- What stands behind the digits in front of a point. -/
theorem Exponent.noDigit {exp rest : List Char} (h : Exponent exp) (hrest : Stops rest) :
    NoDigit (exp ++ rest) ∧ ∀ c ∈ (exp ++ rest).head?, c ≠ '.' := by
  cases h with
  | absent => exact ⟨hrest.noDigit, fun c hc => (hrest c hc).2.1⟩
  | present he _ _ =>
    constructor <;> (rintro _ ⟨⟩; rcases he with rfl | rfl <;> decide)

theorem Fraction.noDigit {frac rest : List Char} (h : Fraction frac) (hrest : NoDigit rest) :
    NoDigit (frac ++ rest) := by
  cases h with
  | absent => exact hrest
  | present _ =>
    rintro _ ⟨⟩
    rfl

theorem scanSign_append {sign ds : List Char} (hsign : sign = [] ∨ sign = ['-']) (h : Digits ds)
    (rest : List Char) : scanSign (sign ++ (ds ++ rest)) = (sign, ds ++ rest) := by
  rcases hsign with rfl | rfl
  · obtain ⟨c, cs, rfl, hc⟩ := h.head
    rw [List.nil_append, List.cons_append]
    unfold scanSign
    split
    · next heq =>
      injection heq with hminus
      exact absurd hminus (digit_ne hc rfl)
    · rfl
  · rfl

theorem scanNumber_parts (D : Decoder) {sign ds frac exp rest : List Char}
    (hsign : sign = [] ∨ sign = ['-']) (hds : Whole ds) (hfrac : Fraction frac)
    (hexp : Exponent exp) (hrest : Stops rest) :
    scanNumber D (sign ++ (ds ++ (frac ++ (exp ++ rest)))) =
      if frac = [] ∧ exp = [] then (parseInt sign ds).map fun n => (int n, rest)
      else .ok (D.parseFloat (sign ++ ds ++ frac ++ exp), rest) := by
  obtain ⟨hdigit, hpoint⟩ := hexp.noDigit hrest
  unfold scanNumber
  simp only [scanSign_append hsign hds.1, integerPart_whole hds (hfrac.noDigit hdigit),
    hfrac.read hdigit hpoint, hexp.read hrest]
  split
  · cases parseInt sign ds <;> rfl
  · rfl

theorem NumberText.read {D : Decoder} {v : Json} {t rest : List Char} (h : NumberText D v t)
    (hrest : Stops rest) : scanNumber D (t ++ rest) = .ok (v, rest) := by
  cases h with
  | @int sign ds n hsign hds hn =>
    have := scanNumber_parts D hsign hds .absent .absent hrest
    rw [List.append_assoc]
    simpa [hn, Except.map] using this
  | float hsign hds hfrac hexp hsome =>
    have := scanNumber_parts D hsign hds hfrac hexp hrest
    rw [if_neg hsome] at this
    simpa using this

/-- A number begins with a digit, or with a minus and a digit. -/
theorem NumberText.head {D : Decoder} {v : Json} {t : List Char} (h : NumberText D v t) :
    ∃ c cs, c.isDigit = true ∧ (t = c :: cs ∨ t = '-' :: c :: cs) := by
  cases h with
  | int hsign hds _ | float hsign hds _ _ _ =>
    obtain ⟨c, cs, rfl, hc⟩ := hds.1.head
    rcases hsign with rfl | rfl
    · exact ⟨c, _, hc, Or.inl rfl⟩
    · exact ⟨c, _, hc, Or.inr rfl⟩

/-- No literal begins like a number. -/
theorem NumberText.no_literal {D : Decoder} {v : Json} {t : List Char} (h : NumberText D v t)
    (rest : List Char) : scanLiteral (t ++ rest) = none := by
  obtain ⟨c, cs, hc, ht⟩ := h.head
  have hn := (digit_ne hc (x := 'n') rfl).symm
  have ht' := (digit_ne hc (x := 't') rfl).symm
  have hf := (digit_ne hc (x := 'f') rfl).symm
  have hN := (digit_ne hc (x := 'N') rfl).symm
  have hI := (digit_ne hc (x := 'I') rfl).symm
  have hminus := (digit_ne hc (x := '-') rfl).symm
  rcases ht with rfl | rfl <;> simp [scanLiteral, literals, hn, ht', hf, hN, hI, hminus]

/-! ## integers -/

/-- Only the digits of zero begin with a zero. -/
theorem toDigits_head_zero {n : Nat} (h : (Nat.toDigits 10 n).head? = some '0') : n = 0 := by
  induction n using Nat.strongRecOn with
  | ind n ih =>
    rcases Nat.lt_or_ge n 10 with hlt | hge
    · have hall : ∀ m ∈ List.range 10, Nat.digitChar m = '0' → m = 0 := by decide
      rw [Nat.toDigits_of_lt_base hlt] at h
      exact hall n (List.mem_range.mpr hlt) (Option.some.inj h)
    · rw [Nat.toDigits_of_base_le (by decide) hge,
        List.head?_append_of_ne_nil _ Nat.toDigits_ne_nil] at h
      have := ih (n / 10) (by omega) h
      omega

theorem whole_toDigits (n : Nat) : Whole (Nat.toDigits 10 n) := by
  refine ⟨⟨Nat.toDigits_ne_nil, fun c hc => ?_⟩, fun h => ?_⟩
  · exact Nat.isDigit_of_mem_toDigits (by decide) (by decide) hc
  · rw [toDigits_head_zero h]
    exact Nat.toDigits_zero 10

theorem intText_number (D : Decoder) {n : Int} (h : (Nat.toDigits 10 n.natAbs).length ≤ 4300) :
    NumberText D (int n) (intText n) := by
  have hparse : ∀ sign : List Char, parseInt sign (Nat.toDigits 10 n.natAbs) =
      .ok (if sign = [] then (n.natAbs : Int) else -(n.natAbs : Int)) := by
    intro sign
    unfold parseInt
    rw [if_neg (by omega), Nat.ofDigitChars_ten_toDigits]
  unfold intText
  split
  · have := NumberText.int (D := D) (Or.inr rfl) (whole_toDigits n.natAbs) (hparse ['-'])
    rwa [if_neg (List.cons_ne_nil '-' []), show -(n.natAbs : Int) = n by omega] at this
  · have := NumberText.int (D := D) (Or.inl rfl) (whole_toDigits n.natAbs) (hparse [])
    rwa [if_pos rfl, show (n.natAbs : Int) = n by omega] at this

/-! ## values -/

/-- A value begins with a token of its own. -/
theorem Text.head {D : Decoder} {d : Nat} {v : Json} {t : List Char} (h : Text D d v t) :
    ∃ c r, t = c :: r ∧ isBlankChar c = false ∧ c ≠ ']' ∧ c ≠ '}' := by
  cases h with
  | literal h =>
    have hall : ∀ l ∈ literals, ∃ c r, l.1 = c :: r ∧ isBlankChar c = false ∧ c ≠ ']' ∧
        c ≠ '}' := by
      simp only [literals, List.forall_mem_cons]
      refine ⟨?_, ?_, ?_, ?_, ?_, ?_, nofun⟩ <;> exact ⟨_, _, rfl, by decide⟩
    exact hall _ h
  | number h =>
    obtain ⟨c, cs, hc, rfl | rfl⟩ := h.head
    · refine ⟨c, cs, rfl, ?_, digit_ne hc rfl, digit_ne hc rfl⟩
      simp only [isBlankChar, Bool.or_eq_false_iff, decide_eq_false_iff_not]
      exact ⟨⟨⟨digit_ne hc rfl, digit_ne hc rfl⟩, digit_ne hc rfl⟩, digit_ne hc rfl⟩
    · exact ⟨_, _, rfl, by decide⟩
  | _ => exact ⟨_, _, rfl, by decide⟩

theorem Items.head {D : Decoder} {d : Nat} {items : List Json} {t : List Char}
    (h : Items D d items t) :
    ∃ c r, t = c :: r ∧ isBlankChar c = false ∧ c ≠ ']' := by
  cases h with
  | last h _ =>
    obtain ⟨c, r, rfl, hblank, hne, -⟩ := h.head
    exact ⟨c, _, rfl, hblank, hne⟩
  | cons h _ _ _ =>
    obtain ⟨c, r, rfl, hblank, hne, -⟩ := h.head
    exact ⟨c, _, rfl, hblank, hne⟩

theorem Fields.head {D : Decoder} {d : Nat} {fields : List (String × Json)} {t : List Char}
    (h : Fields D d fields t) : ∃ r, t = '"' :: r := by
  cases h <;> exact ⟨_, rfl⟩

/-- Blanks in front of a value are skipped. -/
theorem Text.skip {D : Decoder} {d : Nat} {v : Json} {w t : List Char} (h : Text D d v t)
    (hw : Blank w) (rest : List Char) : skipBlanks (w ++ (t ++ rest)) = t ++ rest := by
  obtain ⟨c, r, rfl, hblank, -⟩ := h.head
  rw [skipBlanks_append hw]
  exact skipBlanks_cons hblank _

theorem NumberText.atom {D : Decoder} {v : Json} {t : List Char} (h : NumberText D v t)
    (rest : List Char) : ∃ c r, t ++ rest = c :: r ∧ c ≠ '"' ∧ c ≠ '[' ∧ c ≠ '{' := by
  obtain ⟨c, cs, hc, rfl | rfl⟩ := h.head
  · exact ⟨c, _, rfl, digit_ne hc rfl, digit_ne hc rfl, digit_ne hc rfl⟩
  · exact ⟨_, _, rfl, by decide⟩

section Unfold

variable (D : Decoder) (fuel d : Nat)

theorem scanOnce_atom {text : List Char} (h : ∃ c r, text = c :: r ∧ c ≠ '"' ∧ c ≠ '[' ∧ c ≠ '{') :
    scanOnce D (fuel + 1) d text =
      match scanLiteral text with
      | some r => .ok r
      | none => scanNumber D text := by
  obtain ⟨c, r, rfl, hquote, hbracket, hbrace⟩ := h
  rw [scanOnce.eq_def]
  exact (if_neg hquote).trans ((if_neg hbracket).trans (if_neg hbrace))

theorem scanOnce_str {s : String} {t : List Char} (h : StringText s t) (rest : List Char) :
    scanOnce D (fuel + 1) d ('"' :: (t ++ rest)) = .ok (str s, rest) := by
  rw [scanOnce.eq_def]
  simp only [if_true, scanString_append h]
  rfl

theorem scanOnce_emptyArr {w : List Char} (hw : Blank w) (rest : List Char) :
    scanOnce D (fuel + 1) (d + 1) ('[' :: (w ++ ']' :: rest)) = .ok (arr [], rest) := by
  rw [scanOnce.eq_def]
  simp only [skipBlanks_append hw, skipBlanks_cons (show isBlankChar ']' = false from rfl),
    Char.reduceEq, if_true, if_false]

theorem scanOnce_emptyObj {w : List Char} (hw : Blank w) (rest : List Char) :
    scanOnce D (fuel + 1) (d + 1) ('{' :: (w ++ '}' :: rest)) = .ok (obj [], rest) := by
  rw [scanOnce.eq_def]
  simp only [skipBlanks_append hw, skipBlanks_cons (show isBlankChar '}' = false from rfl),
    Char.reduceEq, if_true, if_false]

theorem scanOnce_arr {w text rest : List Char} {items : List Json} (hw : Blank w)
    (htext : ∃ c r, text = c :: r ∧ isBlankChar c = false ∧ c ≠ ']')
    (h : scanItems D fuel d text = .ok (items, rest)) :
    scanOnce D (fuel + 1) (d + 1) ('[' :: (w ++ text)) = .ok (arr items, rest) := by
  obtain ⟨c, r, rfl, hblank, hne⟩ := htext
  rw [scanOnce.eq_def]
  simp only [skipBlanks_append hw, skipBlanks_cons hblank, Char.reduceEq, if_true, if_false]
  split
  · next heq =>
    injection heq with hc
    exact absurd hc hne
  · rw [h]
    rfl

theorem scanOnce_obj {w text rest : List Char} {fields : List (String × Json)} (hw : Blank w)
    (htext : ∃ r, text = '"' :: r) (h : scanFields D fuel d text = .ok (fields, rest)) :
    scanOnce D (fuel + 1) (d + 1) ('{' :: (w ++ text)) = .ok (obj fields, rest) := by
  obtain ⟨r, rfl⟩ := htext
  rw [scanOnce.eq_def]
  simp only [skipBlanks_append hw, skipBlanks_cons (show isBlankChar '"' = false from rfl),
    Char.reduceEq, if_true, if_false]
  split
  · next heq => cases heq
  · rw [h]
    rfl

variable {D fuel d} {text rest rest' rest'' : List Char} {v : Json}

theorem scanItems_last (hv : scanOnce D fuel d text = .ok (v, rest))
    (hrest : skipBlanks rest = ']' :: rest') :
    scanItems D (fuel + 1) d text = .ok ([v], rest') := by
  rw [scanItems, hv]
  simp only [bind, Except.bind, hrest]
  rfl

theorem scanItems_cons {items : List Json} (hv : scanOnce D fuel d text = .ok (v, rest))
    (hrest : skipBlanks rest = ',' :: rest')
    (hitems : scanItems D fuel d (skipBlanks rest') = .ok (items, rest'')) :
    scanItems D (fuel + 1) d text = .ok (v :: items, rest'') := by
  rw [scanItems, hv]
  simp only [bind, Except.bind, hrest, hitems]
  rfl

variable {key : String} {k after after' : List Char}

theorem scanFields_last (hkey : StringText key k) (hcolon : skipBlanks after = ':' :: after')
    (hv : scanOnce D fuel d (skipBlanks after') = .ok (v, rest))
    (hrest : skipBlanks rest = '}' :: rest') :
    scanFields D (fuel + 1) d ('"' :: (k ++ after)) = .ok ([(key, v)], rest') := by
  rw [scanFields, scanString_append hkey]
  simp only [bind, Except.bind, hcolon, hv, hrest]
  rfl

theorem scanFields_cons {fields : List (String × Json)} (hkey : StringText key k)
    (hcolon : skipBlanks after = ':' :: after')
    (hv : scanOnce D fuel d (skipBlanks after') = .ok (v, rest))
    (hrest : skipBlanks rest = ',' :: rest')
    (hfields : scanFields D fuel d (skipBlanks rest') = .ok (fields, rest'')) :
    scanFields D (fuel + 1) d ('"' :: (k ++ after)) = .ok ((key, v) :: fields, rest'') := by
  rw [scanFields, scanString_append hkey]
  simp only [bind, Except.bind, hcolon, hv, hrest, hfields]
  rfl

end Unfold

/-- With this fuel every text that is not longer is read. -/
structure Reads (D : Decoder) (fuel : Nat) : Prop where
  value : ∀ {d : Nat} {v : Json} {t rest : List Char}, Text D d v t → t.length < fuel →
    (NumberText D v t → Stops rest) → scanOnce D fuel d (t ++ rest) = .ok (v, rest)
  items : ∀ {d : Nat} {items : List Json} {t : List Char} (rest : List Char), Items D d items t →
    t.length < fuel → scanItems D fuel d (t ++ rest) = .ok (items, rest)
  fields : ∀ {d : Nat} {fields : List (String × Json)} {t : List Char} (rest : List Char),
    Fields D d fields t → t.length < fuel → scanFields D fuel d (t ++ rest) = .ok (fields, rest)

section Step

variable {D : Decoder} {fuel d : Nat} {t : List Char}

theorem Reads.scanOnce (h : Reads D fuel) {v : Json} {rest : List Char} (ht : Text D d v t)
    (hlen : t.length < fuel + 1) (hrest : NumberText D v t → Stops rest) :
    scanOnce D (fuel + 1) d (t ++ rest) = .ok (v, rest) := by
  cases ht with
  | @literal _ _ _ hmem =>
    have hatom : ∀ l ∈ literals, ∃ c r, l.1 = c :: r ∧ c ≠ '"' ∧ c ≠ '[' ∧ c ≠ '{' := by
      simp only [literals, List.forall_mem_cons]
      refine ⟨?_, ?_, ?_, ?_, ?_, ?_, nofun⟩ <;> exact ⟨_, _, rfl, by decide⟩
    obtain ⟨c, r, hc, hne⟩ := hatom _ hmem
    rw [scanOnce_atom D fuel d ⟨c, r ++ rest, congrArg (· ++ rest) hc, hne⟩,
      scanLiteral_append hmem]
  | number hnumber =>
    rw [scanOnce_atom D fuel d (hnumber.atom rest), hnumber.no_literal rest]
    exact hnumber.read (hrest hnumber)
  | str hs => exact scanOnce_str D fuel d hs rest
  | @emptyArr d w hw =>
    have := scanOnce_emptyArr D fuel d hw rest
    simpa using this
  | @emptyObj d w hw =>
    have := scanOnce_emptyObj D fuel d hw rest
    simpa using this
  | @arr _ items w t hw hitems =>
    simp only [List.length_cons, List.length_append] at hlen
    obtain ⟨c, r, rfl, hhead⟩ := hitems.head
    rw [List.cons_append, List.append_assoc]
    exact scanOnce_arr D fuel _ hw ⟨c, r ++ rest, rfl, hhead⟩ (h.items rest hitems (by omega))
  | @obj _ fields w t hw hfields =>
    simp only [List.length_cons, List.length_append] at hlen
    obtain ⟨r, rfl⟩ := hfields.head
    rw [List.cons_append, List.append_assoc]
    exact scanOnce_obj D fuel _ hw ⟨r ++ rest, rfl⟩ (h.fields rest hfields (by omega))

/-- Behind a value that is an item or a field there are blanks and one more token. -/
theorem Reads.member (h : Reads D fuel) {v : Json} {w : List Char} {c : Char}
    (rest : List Char) (ht : Text D d v t) (hlen : t.length < fuel) (hw : Blank w)
    (hc : c = ',' ∨ c = ']' ∨ c = '}') :
    Json.scanOnce D fuel d (t ++ (w ++ c :: rest)) = .ok (v, w ++ c :: rest) ∧
      skipBlanks (w ++ c :: rest) = c :: rest := by
  constructor
  · refine h.value ht hlen fun _ => hw.stops (stops_cons ?_)
    rcases hc with rfl | rfl | rfl <;> decide
  · rw [skipBlanks_append hw]
    refine skipBlanks_cons ?_ rest
    rcases hc with rfl | rfl | rfl <;> rfl

theorem Reads.scanItems (h : Reads D fuel) {items : List Json} (rest : List Char)
    (ht : Items D d items t) (hlen : t.length < fuel + 1) :
    scanItems D (fuel + 1) d (t ++ rest) = .ok (items, rest) := by
  cases ht with
  | @last _ v t w hv hw =>
    simp only [List.length_append, List.length_singleton] at hlen
    obtain ⟨hscan, hskip⟩ := h.member (c := ']') rest hv (by omega) hw (by simp)
    have := scanItems_last hscan hskip
    simpa using this
  | @cons _ v items t w w' ts hv hw hw' hts =>
    simp only [List.length_append, List.length_cons] at hlen
    obtain ⟨hscan, hskip⟩ :=
      h.member (c := ',') (w' ++ (ts ++ rest)) hv (by omega) hw (by simp)
    have hitems : Json.scanItems D fuel d (skipBlanks (w' ++ (ts ++ rest))) =
        .ok (items, rest) := by
      obtain ⟨c, r, hc, hblank, -⟩ := hts.head
      rw [skipBlanks_append hw', hc, List.cons_append, skipBlanks_cons hblank, ← List.cons_append,
        ← hc]
      exact h.items rest hts (by omega)
    have := scanItems_cons hscan hskip hitems
    simpa using this

theorem Reads.scanFields (h : Reads D fuel) {fields : List (String × Json)} (rest : List Char)
    (ht : Fields D d fields t) (hlen : t.length < fuel + 1) :
    scanFields D (fuel + 1) d (t ++ rest) = .ok (fields, rest) := by
  cases ht with
  | @last _ key v k w w' t u hkey hw hw' hv hu =>
    simp only [List.length_append, List.length_cons] at hlen
    obtain ⟨hscan, hskip⟩ := h.member (c := '}') rest hv (by omega) hu (by simp)
    rw [← hv.skip hw'] at hscan
    have := scanFields_last hkey (skipBlanks_colon hw _) hscan hskip
    simpa using this
  | @cons _ key v fields k w w' t u u' ts hkey hw hw' hv hu hu' hts =>
    simp only [List.length_append, List.length_cons] at hlen
    obtain ⟨hscan, hskip⟩ :=
      h.member (c := ',') (u' ++ (ts ++ rest)) hv (by omega) hu (by simp)
    have hfields : Json.scanFields D fuel d (skipBlanks (u' ++ (ts ++ rest))) =
        .ok (fields, rest) := by
      obtain ⟨r, hc⟩ := hts.head
      rw [skipBlanks_append hu', hc, List.cons_append, skipBlanks_cons rfl, ← List.cons_append,
        ← hc]
      exact h.fields rest hts (by omega)
    rw [← hv.skip hw'] at hscan
    have := scanFields_cons hkey (skipBlanks_colon hw _) hscan hskip hfields
    simpa using this

end Step

/-- **The reader reads every text of a value.** Each level of the recursion reads a character. -/
theorem reads (D : Decoder) (fuel : Nat) : Reads D fuel := by
  induction fuel with
  | zero => exact ⟨nofun, nofun, nofun⟩
  | succ fuel ih => exact ⟨ih.scanOnce, ih.scanItems, ih.scanFields⟩

/-! ## what is written -/

/-- The separators are a comma and a colon between blanks. -/
structure Encoder.Separates (E : Encoder) : Prop where
  item : ∃ w w', Blank w ∧ Blank w' ∧ E.itemSeparator = w ++ ',' :: w'
  key : ∃ w w', Blank w ∧ Blank w' ∧ E.keySeparator = w ++ ':' :: w'

theorem Encoder.separates_default (reprFloat : Rat → List Char) :
    (Encoder.default reprFloat).Separates := by
  have hspace : Blank [' '] := by simp [Blank, isBlankChar]
  exact ⟨⟨[], [' '], nofun, hspace, rfl⟩, ⟨[], [' '], nofun, hspace, rfl⟩⟩

theorem Encoder.separates_compact (reprFloat : Rat → List Char) :
    (Encoder.compact reprFloat).Separates :=
  ⟨⟨[], [], nofun, nofun, rfl⟩, ⟨[], [], nofun, nofun, rfl⟩⟩

mutual

/-- A value with at most so many levels, without floats and without integers the reader refuses. -/
def fits : Nat → Json → Bool
  | _, null => true
  | _, bool _ => true
  | _, int n => (Nat.toDigits 10 n.natAbs).length ≤ 4300
  | _, float _ => false
  | _, nonFinite s => s = "NaN" || s = "Infinity" || s = "-Infinity"
  | _, str _ => true
  | 0, arr _ => false
  | d + 1, arr items => fitItems d items
  | 0, obj _ => false
  | d + 1, obj fields => fitFields d fields

def fitItems : Nat → List Json → Bool
  | _, [] => true
  | d, v :: items => fits d v && fitItems d items

def fitFields : Nat → List (String × Json) → Bool
  | _, [] => true
  | d, (_, v) :: fields => fits d v && fitFields d fields

end

mutual

theorem fits_mono : ∀ {d d' : Nat} {v : Json}, fits d v = true → d ≤ d' → fits d' v = true
  | _, _, null, _, _ => rfl
  | _, _, bool _, _, _ => rfl
  | _, _, int _, h, _ => by simpa [fits] using h
  | _, _, float _, h, _ => by simp [fits] at h
  | _, _, nonFinite _, h, _ => by simpa [fits] using h
  | _, _, str _, _, _ => rfl
  | 0, _, arr _, h, _ => by simp [fits] at h
  | 0, _, obj _, h, _ => by simp [fits] at h
  | d + 1, d' + 1, arr items, h, hd => fitItems_mono (d := d) h (Nat.le_of_succ_le_succ hd)
  | d + 1, d' + 1, obj fields, h, hd => fitFields_mono (d := d) h (Nat.le_of_succ_le_succ hd)

theorem fitItems_mono : ∀ {d d' : Nat} {items : List Json}, fitItems d items = true → d ≤ d' →
    fitItems d' items = true
  | _, _, [], _, _ => rfl
  | d, d', v :: items, h, hd => by
    rw [fitItems, Bool.and_eq_true] at h ⊢
    exact ⟨fits_mono h.1 hd, fitItems_mono h.2 hd⟩

theorem fitFields_mono : ∀ {d d' : Nat} {fields : List (String × Json)},
    fitFields d fields = true → d ≤ d' → fitFields d' fields = true
  | _, _, [], _, _ => rfl
  | d, d', (_, v) :: fields, h, hd => by
    rw [fitFields, Bool.and_eq_true] at h ⊢
    exact ⟨fits_mono h.1 hd, fitFields_mono h.2 hd⟩

end

theorem stringText_escape (E : Encoder) (s : String) :
    StringText s (JsonString.escape E.ensureAscii s.toList ++ ['"']) :=
  ⟨_, JsonString.escape_spelling E.ensureAscii s.toList, rfl⟩

theorem text_nonFinite {D : Decoder} {d : Nat} {s : String} (h : fits d (nonFinite s) = true) :
    Text D d (nonFinite s) s.toList := by
  simp only [fits, Bool.or_eq_true, decide_eq_true_eq] at h
  rcases h with (rfl | rfl) | rfl <;> exact .literal (by simp [literals])

mutual

theorem write_text (D : Decoder) {E : Encoder} (hE : E.Separates) : ∀ (d : Nat) (v : Json),
    fits d v = true → Text D d v (write E v)
  | _, null, _ => .literal (by simp [literals, write])
  | _, bool true, _ => .literal (by simp [literals, write])
  | _, bool false, _ => .literal (by simp [literals, write])
  | _, int n, h => .number (intText_number D (by simpa [fits] using h))
  | _, float _, h => by simp [fits] at h
  | _, nonFinite s, h => text_nonFinite h
  | _, str s, _ => .str (stringText_escape E s)
  | 0, arr _, h => by simp [fits] at h
  | 0, obj _, h => by simp [fits] at h
  | d + 1, arr [], _ => .emptyArr (w := []) nofun
  | d + 1, obj [], _ => .emptyObj (w := []) nofun
  | d + 1, arr (v :: items), h => .arr (w := []) nofun (writeItems_text D hE d (v :: items) nofun h)
  | d + 1, obj (f :: fields), h =>
    .obj (w := []) nofun (writeFields_text D hE d (f :: fields) nofun h)

theorem writeItems_text (D : Decoder) {E : Encoder} (hE : E.Separates) : ∀ (d : Nat)
    (items : List Json), items ≠ [] → fitItems d items = true →
    Items D d items (writeItems E items ++ [']'])
  | _, [], hne, _ => absurd rfl hne
  | d, [v], _, h => by
    have hv := write_text D hE d v (by simpa [fitItems] using h)
    exact .last (w := []) hv nofun
  | d, v :: v' :: items, _, h => by
    rw [fitItems, Bool.and_eq_true] at h
    obtain ⟨w, w', hw, hw', hsep⟩ := hE.item
    have hitems := writeItems_text D hE d (v' :: items) nofun h.2
    have := Items.cons (write_text D hE d v h.1) hw hw' hitems
    rw [writeItems, hsep]
    · simpa using this
    · rintro ⟨⟩

theorem writeFields_text (D : Decoder) {E : Encoder} (hE : E.Separates) : ∀ (d : Nat)
    (fields : List (String × Json)), fields ≠ [] → fitFields d fields = true →
    Fields D d fields (writeFields E fields ++ ['}'])
  | _, [], hne, _ => absurd rfl hne
  | d, [(key, v)], _, h => by
    obtain ⟨w, w', hw, hw', hsep⟩ := hE.key
    have hv := write_text D hE d v (by simpa [fitFields] using h)
    have := Fields.last (u := []) (stringText_escape E key) hw hw' hv nofun
    rw [writeFields, hsep]
    simpa [JsonString.literal] using this
  | d, (key, v) :: f' :: fields, _, h => by
    rw [fitFields, Bool.and_eq_true] at h
    obtain ⟨w, w', hw, hw', hsep⟩ := hE.key
    obtain ⟨u, u', hu, hu', hsep'⟩ := hE.item
    have hfields := writeFields_text D hE d (f' :: fields) nofun h.2
    have := Fields.cons (stringText_escape E key) hw hw' (write_text D hE d v h.1) hu hu' hfields
    rw [writeFields, hsep, hsep']
    · simpa [JsonString.literal] using this
    · rintro ⟨⟩

end

end Json

open Json

/-- A text of a value, with something behind it. -/
theorem loads_append (D : Decoder) {v : Json} {before t : List Char} (after : List Char)
    (hbefore : Blank before) (h : Text D D.recursionLimit v t)
    (hafter : NumberText D v t → Stops after) :
    loads D (String.ofList (before ++ (t ++ after))) =
      if skipBlanks after = [] then .ok v else .error .malformed := by
  have hlen : t.length < (before ++ (t ++ after)).length + 1 := by
    simp only [List.length_append]
    omega
  unfold loads
  rw [String.toList_ofList, h.skip hbefore, (reads D _).value h hlen hafter]
  rfl

theorem skipBlanks_eq_nil {w : List Char} : skipBlanks w = [] ↔ Blank w := by
  unfold skipBlanks
  rw [List.dropWhile_eq_nil_iff]
  rfl

/-- A text of a value is read as the value, between any blanks. -/
theorem loads_text (D : Decoder) {v : Json} {before t after : List Char} (hbefore : Blank before)
    (hafter : Blank after) (h : Text D D.recursionLimit v t) :
    loads D (String.ofList (before ++ (t ++ after))) = .ok v := by
  have hstops : Stops after := by
    have := hafter.stops stops_nil
    rwa [List.append_nil] at this
  rw [loads_append D after hbefore h fun _ => hstops, if_pos (skipBlanks_eq_nil.mpr hafter)]

/-- An object with more than blanks behind it is refused. -/
theorem loads_extra (D : Decoder) {v : Json} {before t after : List Char} (hbefore : Blank before)
    (hafter : ¬Blank after) (h : Text D D.recursionLimit v ('{' :: t)) :
    loads D (String.ofList (before ++ ('{' :: t ++ after))) = .error .malformed := by
  have hbrace : ¬NumberText D v ('{' :: t) := by
    intro hnumber
    obtain ⟨c, cs, hc, heq | heq⟩ := hnumber.head
    · injection heq with hhead
      exact digit_ne hc rfl hhead.symm
    · injection heq with hhead
      exact absurd hhead (by decide)
  rw [loads_append D after hbefore h fun hnumber => absurd hnumber hbrace,
    if_neg fun hskip => hafter (skipBlanks_eq_nil.mp hskip)]

/-- No value begins here. -/
def StartsNoValue : List Char → Prop
  | [] => True
  | c :: rest => isBlankChar c = false ∧ c ≠ '"' ∧ c ≠ '[' ∧ c ≠ '{' ∧ c ≠ '-' ∧ c.isDigit = false ∧
      scanLiteral (c :: rest) = none

theorem loads_prose (D : Decoder) {before prose : List Char} (hbefore : Blank before)
    (h : StartsNoValue prose) :
    loads D (String.ofList (before ++ prose)) = .error .malformed := by
  unfold loads
  rw [String.toList_ofList, skipBlanks_append hbefore]
  cases prose with
  | nil =>
    show ((scanOnce D _ _ []) >>= _) = _
    rw [scanOnce.eq_def]
    rfl
  | cons c rest =>
    obtain ⟨hblank, hquote, hbracket, hbrace, hminus, hdigit, hliteral⟩ := h
    rw [skipBlanks_cons hblank, scanOnce_atom D _ _ ⟨c, rest, rfl, hquote, hbracket, hbrace⟩,
      hliteral]
    have hzero : c ≠ '0' := by
      rintro rfl
      cases hdigit
    have hsign : scanSign (c :: rest) = ([], c :: rest) := by
      unfold scanSign
      split
      · next heq =>
        injection heq with hc
        exact absurd hc hminus
      · rfl
    have hnumber : scanNumber D (c :: rest) = .error .malformed := by
      unfold scanNumber
      rw [hsign]
      simp [integerPart, hzero, hdigit]
    rw [hnumber]
    rfl

/-- **What was written is read.** -/
theorem loads_dumps (D : Decoder) {E : Encoder} (hE : E.Separates) {v : Json}
    (h : fits D.recursionLimit v = true) : loads D (dumps E v) = .ok v := by
  have hblank : Blank [] := nofun
  have hread := loads_text D hblank hblank (write_text D hE _ v h)
  rwa [List.nil_append, List.append_nil] at hread

namespace JsonModule

variable (J : JsonModule) {v : Json}

/-- What fits two levels fits the interpreter. -/
theorem fits_deep (h : fits 2 v = true) : fits J.decoder.recursionLimit v = true :=
  fits_mono h J.deep

theorem loads_dumps (h : fits 2 v = true) : J.loads (J.dumps v) = .ok v := by
  unfold loads JsonModule.dumps
  rw [Sentinel.loads_dumps J.decoder (Encoder.separates_default _) (J.fits_deep h)]
  rfl

theorem loads_render (h : fits 2 v = true) : J.loads (J.render v) = .ok v := by
  unfold loads render
  rw [Sentinel.loads_dumps J.decoder (Encoder.separates_compact _) (J.fits_deep h)]
  rfl

end JsonModule

end Sentinel
