import Mathlib.Init

/-!
# String literals of JSON

A text between quotes, as the encoder and the scanner of Python's `json` write and read it. The
encoder escapes everything that is not printable ASCII, or only what it must. An escape stands for
one UTF-16 unit, so a character beyond the first plane is two escapes, which the scanner puts
together again.

* `escape`, `literal` — what is written, in either mode
* `scan` — the units up to the closing quote, and the rest
* `join`, `ofPoints` — from units to code points, and to characters
* `Spelling` — the ways to write a text
* `read_spelling`, `escape_spelling` — each of them is read, and what was written is one of them
-/

namespace Lib.JsonString

abbrev quote : Char := '\x22'

abbrev backslash : Char := '\x5c'

/-! ## writing -/

/-- `\uXXXX`, with digits in lower case. -/
def unitEscape (n : Nat) : List Char :=
  [backslash, 'u', Nat.digitChar (n / 4096 % 16), Nat.digitChar (n / 256 % 16),
    Nat.digitChar (n / 16 % 16), Nat.digitChar (n % 16)]

/-- The UTF-16 units of a code point. -/
def unitsOf (n : Nat) : List Nat :=
  if n < 0x10000 then [n]
  else [0xD800 + (n - 0x10000) / 0x400, 0xDC00 + (n - 0x10000) % 0x400]

/-- The letters behind a backslash, with the units they stand for. -/
def letters : List (Char × Nat) :=
  [(quote, 0x22), (backslash, 0x5C), ('n', 0x0A), ('r', 0x0D), ('t', 0x09), ('f', 0x0C),
    ('b', 0x08)]

/-- Whether a character is written as it is: with `ascii` only if it is printable ASCII. -/
def isPlain (ascii : Bool) (c : Char) : Bool :=
  c ≠ quote && c ≠ backslash && 0x20 ≤ c.toNat && (!ascii || c.toNat ≤ 0x7E)

def escapeChar (ascii : Bool) (c : Char) : List Char :=
  if isPlain ascii c then [c]
  else
    match letters.find? fun l => l.2 = c.toNat with
    | some l => [backslash, l.1]
    | none => (unitsOf c.toNat).flatMap unitEscape

def escape (ascii : Bool) (text : List Char) : List Char := text.flatMap (escapeChar ascii)

def literal (ascii : Bool) (text : List Char) : List Char :=
  quote :: escape ascii text ++ [quote]

/-! ## reading -/

def hexValue (c : Char) : Option Nat :=
  let n := c.toNat
  if 0x30 ≤ n ∧ n ≤ 0x39 then some (n - 0x30)
  else if 0x61 ≤ n ∧ n ≤ 0x66 then some (n - 0x61 + 10)
  else if 0x41 ≤ n ∧ n ≤ 0x46 then some (n - 0x41 + 10)
  else none

def hexUnit (a b c d : Char) : Option Nat := do
  let a ← hexValue a
  let b ← hexValue b
  let c ← hexValue c
  let d ← hexValue d
  return ((a * 16 + b) * 16 + c) * 16 + d

/-- The unit of a letter behind a backslash. The scanner also knows the slash. -/
def unescape (c : Char) : Option Nat :=
  if c = '/' then some 0x2F else (letters.find? fun l => l.1 = c).map Prod.snd

/-- The units up to the closing quote and the text behind it. A control character and a wrong
escape end the scan. -/
def scan : List Char → Option (List Nat × List Char)
  | [] => none
  | c :: rest =>
    if c = quote then some ([], rest)
    else if c = backslash then
      match rest with
      | [] => none
      | 'u' :: a :: b :: c :: d :: rest =>
        match hexUnit a b c d with
        | none => none
        | some n => (scan rest).map fun r => (n :: r.1, r.2)
      | letter :: rest =>
        match unescape letter with
        | none => none
        | some n => (scan rest).map fun r => (n :: r.1, r.2)
    else if c.toNat < 0x20 then none
    else (scan rest).map fun r => (c.toNat :: r.1, r.2)

def isHigh (n : Nat) : Bool := 0xD800 ≤ n && n ≤ 0xDBFF

def isLow (n : Nat) : Bool := 0xDC00 ≤ n && n ≤ 0xDFFF

/-- A high surrogate and the low one behind it are one code point. -/
def join : List Nat → List Nat
  | [] => []
  | [n] => [n]
  | h :: l :: rest =>
    if isHigh h && isLow l then (0x10000 + (h - 0xD800) * 0x400 + (l - 0xDC00)) :: join rest
    else h :: join (l :: rest)

/-- The characters, if no surrogate is left. -/
def ofPoints (points : List Nat) : Option (List Char) :=
  points.mapM fun n => if h : n.isValidChar then some (Char.ofNatAux n h) else none

/-- The literal behind an opening quote, as characters. -/
def read (text : List Char) : Option (Option (List Char) × List Char) :=
  (scan text).map fun r => (ofPoints (join r.1), r.2)

/-! ## the ways to write a text -/

inductive UnitSpelling : Nat → List Char → Prop
  | mk {a b c d : Char} {n : Nat} :
      hexUnit a b c d = some n → UnitSpelling n [backslash, 'u', a, b, c, d]

/-- A character stands for itself, or behind a backslash there is its letter, or there are its
units in hexadecimal. -/
inductive CharSpelling : Char → List Char → Prop
  | plain {c : Char} : c ≠ quote → c ≠ backslash → 0x20 ≤ c.toNat → CharSpelling c [c]
  | letter {c l : Char} : unescape l = some c.toNat → CharSpelling c [backslash, l]
  | unit {c : Char} {t : List Char} :
      unitsOf c.toNat = [c.toNat] → UnitSpelling c.toNat t → CharSpelling c t
  | pair {c : Char} {high low : Nat} {t t' : List Char} :
      unitsOf c.toNat = [high, low] → UnitSpelling high t → UnitSpelling low t' →
      CharSpelling c (t ++ t')

inductive Spelling : List Char → List Char → Prop
  | nil : Spelling [] []
  | cons {c : Char} {text t ts : List Char} :
      CharSpelling c t → Spelling text ts → Spelling (c :: text) (t ++ ts)

/-! ## one character -/

theorem hexValue_digitChar {n : Nat} (h : n < 16) : hexValue (Nat.digitChar n) = some n := by
  have hall : ∀ m ∈ List.range 16, hexValue (Nat.digitChar m) = some m := by decide
  exact hall n (List.mem_range.mpr h)

theorem hexUnit_digits {n : Nat} (h : n < 0x10000) :
    hexUnit (Nat.digitChar (n / 4096 % 16)) (Nat.digitChar (n / 256 % 16))
      (Nat.digitChar (n / 16 % 16)) (Nat.digitChar (n % 16)) = some n := by
  have hmod : ∀ m : Nat, m % 16 < 16 := fun m => Nat.mod_lt m (by omega)
  unfold hexUnit
  rw [hexValue_digitChar (hmod _), hexValue_digitChar (hmod _), hexValue_digitChar (hmod _),
    hexValue_digitChar (hmod _)]
  show some _ = some n
  congr 1
  omega

theorem unitEscape_spelling {n : Nat} (h : n < 0x10000) : UnitSpelling n (unitEscape n) :=
  .mk (hexUnit_digits h)

theorem UnitSpelling.scan {n : Nat} {t : List Char} (h : UnitSpelling n t) (rest : List Char) :
    scan (t ++ rest) = (JsonString.scan rest).map fun r => (n :: r.1, r.2) := by
  obtain ⟨hunit⟩ := h
  show JsonString.scan (backslash :: 'u' :: _ :: _ :: _ :: _ :: rest) = _
  rw [scan.eq_def]
  simp only [hunit, if_pos, if_neg (show backslash ≠ quote by decide)]

theorem unitsOf_lt {n : Nat} (h : n < 0x110000) : ∀ m ∈ unitsOf n, m < 0x10000 := by
  intro m hm
  unfold unitsOf at hm
  split at hm
  · rw [List.mem_singleton.mp hm]
    assumption
  · simp only [List.mem_cons, List.not_mem_nil, or_false] at hm
    omega

/-- A character is no surrogate. -/
theorem toNat_valid (c : Char) :
    (c.toNat < 0xD800 ∨ 0xDFFF < c.toNat) ∧ c.toNat < 0x110000 := by
  have h : c.toNat < 0xD800 ∨ 0xDFFF < c.toNat ∧ c.toNat < 0x110000 := c.valid
  omega

theorem scan_letter {l : Char} {n : Nat} (h : unescape l = some n) (rest : List Char) :
    scan (backslash :: l :: rest) = (scan rest).map fun r => (n :: r.1, r.2) := by
  have hu : l ≠ 'u' := by
    rintro rfl
    cases h
  rw [scan.eq_def]
  simp only [if_neg (show backslash ≠ quote by decide), if_pos]
  split
  · next heq => cases heq
  · next heq =>
    injection heq with hletter
    exact absurd hletter hu
  · next heq =>
    injection heq with hletter hrest
    subst hletter hrest
    rw [h]

/-- A unit that is no high surrogate stands for itself. -/
theorem join_cons {n : Nat} (h : isHigh n = false) (units : List Nat) :
    join (n :: units) = n :: join units := by
  cases units with
  | nil => rfl
  | cons m units => rw [join, h, Bool.false_and, if_neg (by decide)]

theorem join_char (c : Char) (units : List Nat) :
    join (c.toNat :: units) = c.toNat :: join units := by
  have hhigh : isHigh c.toNat = false := by
    have := toNat_valid c
    simp only [isHigh, Bool.and_eq_false_iff, decide_eq_false_iff_not]
    omega
  exact join_cons hhigh units

theorem join_unitsOf (c : Char) (units : List Nat) :
    join (unitsOf c.toNat ++ units) = c.toNat :: join units := by
  obtain ⟨hsurrogate, hlt⟩ := toNat_valid c
  unfold unitsOf
  split
  · exact join_char c units
  · have hpair : isHigh (0xD800 + (c.toNat - 0x10000) / 0x400) = true ∧
        isLow (0xDC00 + (c.toNat - 0x10000) % 0x400) = true := by
      simp only [isHigh, isLow, Bool.and_eq_true, decide_eq_true_eq]
      omega
    have hsum : 0x10000 + (0xD800 + (c.toNat - 0x10000) / 0x400 - 0xD800) * 0x400 +
        (0xDC00 + (c.toNat - 0x10000) % 0x400 - 0xDC00) = c.toNat := by omega
    rw [List.cons_append, List.singleton_append, join, hpair.1, hpair.2, Bool.true_and, if_pos rfl,
      hsum]

/-- However a character is written, its units are scanned, and join to it. -/
theorem CharSpelling.scan {c : Char} {t : List Char} (h : CharSpelling c t) : ∃ units,
    (∀ more, join (units ++ more) = c.toNat :: join more) ∧
    ∀ rest, scan (t ++ rest) = (JsonString.scan rest).map fun r => (units ++ r.1, r.2) := by
  cases h with
  | plain hquote hslash hcontrol =>
    refine ⟨[c.toNat], join_char c, fun rest => ?_⟩
    show JsonString.scan (c :: rest) = _
    rw [scan.eq_def]
    simp only [if_neg hquote, if_neg hslash, if_neg (show ¬c.toNat < 0x20 by omega)]
    rfl
  | letter hletter => exact ⟨[c.toNat], join_char c, scan_letter hletter⟩
  | unit _ ht => exact ⟨[c.toNat], join_char c, ht.scan⟩
  | @pair high low t t' hunits ht ht' =>
    refine ⟨[high, low], fun more => ?_, fun rest => ?_⟩
    · rw [← hunits]
      exact join_unitsOf c more
    · rw [List.append_assoc, ht.scan, ht'.scan, Option.map_map]
      rfl

theorem escapeChar_spelling (ascii : Bool) (c : Char) : CharSpelling c (escapeChar ascii c) := by
  unfold escapeChar
  split
  · next hplain =>
    simp only [isPlain, Bool.and_eq_true, decide_eq_true_eq] at hplain
    obtain ⟨⟨⟨hquote, hslash⟩, hcontrol⟩, -⟩ := hplain
    exact .plain hquote hslash hcontrol
  · split
    · next l hl =>
      have hunit : l.2 = c.toNat := by simpa using List.find?_some hl
      have hletter : ∀ l ∈ letters, unescape l.1 = some l.2 := by decide
      exact .letter (hunit ▸ hletter l (List.mem_of_find?_eq_some hl))
    · have hlt := unitsOf_lt (toNat_valid c).2
      by_cases hone : c.toNat < 0x10000
      · have hunits : unitsOf c.toNat = [c.toNat] := if_pos hone
        rw [hunits, List.flatMap_singleton]
        exact .unit hunits (unitEscape_spelling hone)
      · have hunits : unitsOf c.toNat = _ := if_neg hone
        rw [hunits] at hlt ⊢
        rw [List.flatMap_cons, List.flatMap_singleton]
        exact .pair hunits (unitEscape_spelling (hlt _ List.mem_cons_self))
          (unitEscape_spelling (hlt _ (List.mem_cons_of_mem _ List.mem_cons_self)))

/-! ## the whole text -/

theorem Spelling.scan {text t : List Char} (h : Spelling text t) : ∃ units,
    join units = text.map Char.toNat ∧
    ∀ rest, scan (t ++ quote :: rest) = some (units, rest) := by
  induction h with
  | nil =>
    refine ⟨[], rfl, fun rest => ?_⟩
    rw [List.nil_append, scan.eq_def]
    simp only [if_pos]
  | cons hc _ ih =>
    obtain ⟨units, hjoin, hscan⟩ := hc.scan
    obtain ⟨units', hjoin', hscan'⟩ := ih
    refine ⟨units ++ units', by rw [hjoin, hjoin', List.map_cons], fun rest => ?_⟩
    rw [List.append_assoc, hscan, hscan']
    rfl

theorem escape_spelling (ascii : Bool) (text : List Char) : Spelling text (escape ascii text) := by
  induction text with
  | nil => exact .nil
  | cons c text ih =>
    rw [escape, List.flatMap_cons]
    exact .cons (escapeChar_spelling ascii c) ih

theorem ofPoints_toNat (text : List Char) : ofPoints (text.map Char.toNat) = some text := by
  unfold ofPoints
  induction text with
  | nil => rfl
  | cons c text ih =>
    rw [List.map_cons, List.mapM_cons, ih, dif_pos (show c.toNat.isValidChar from c.valid)]
    rfl

/-- **However a text is written, it is read**, and the rest is left. -/
theorem read_spelling {text t : List Char} (h : Spelling text t) (rest : List Char) :
    read (t ++ quote :: rest) = some (some text, rest) := by
  obtain ⟨units, hjoin, hscan⟩ := h.scan
  unfold read
  rw [hscan, Option.map_some, hjoin, ofPoints_toNat]

end Lib.JsonString
