import Sentinel.Recovery.Engines

/-!
# What becomes of the output of the model

The engine reads a response that may be anything. It is to turn every text into a proposal, and
to propose nothing but what the text says about the requested fields.

* `LoadsError` — the ways in which `json.loads` refuses a text
* `Sanitised` — what a proposal has to do with the parsed text
* `sanitised_iff` — the reading gives such a proposal exactly if the text is parsed or malformed
* `not_sanitised_digits` — a number of 4301 digits is neither
-/

namespace Sentinel

open Lib ClaudeVisionRecoveryEngine

inductive LoadsError
  /-- `JSONDecodeError`. -/
  | malformed
  /-- `RecursionError`: the values are nested too deep for the interpreter. -/
  | tooDeep
  /-- `ValueError`: an integer has more digits than the interpreter converts. -/
  | tooLong
deriving DecidableEq, Repr

def LoadsError.raised : LoadsError → PyError
  | malformed => .jsonDecodeError
  | tooDeep => .other "RecursionError"
  | tooLong => .valueError "Exceeds the limit (4300 digits) for integer string conversion"

/-- The parser as the engine calls it. -/
def raising (loads : String → Except LoadsError Json) (text : String) : Except PyError Json :=
  (loads text).mapError LoadsError.raised

/-- The proposal has what the text says about the requested fields, and nothing else. -/
structure Sanitised (parsed : Except LoadsError Json) (expectedSchema : Dict String FieldType)
    (proposal : SelectorProposal) : Prop where
  restricted : ∀ fields, parsed = .ok (.obj fields) → ∀ f v,
    proposal.selectors.get? f = some v ↔
      f ∈ expectedSchema.keys ∧ (Dict.ofList fields).get? f = some (.str v)
  otherwise : (∀ fields, parsed ≠ .ok (.obj fields)) → proposal.selectors = Dict.empty
  confident : proposal.isConfident = true ↔ proposal.selectors ≠ Dict.empty

section Reading

variable {loads : String → Except LoadsError Json} {content : List ContentBlock}
  {expectedSchema : Dict String FieldType}

theorem Sanitised.unconfident {parsed : Except LoadsError Json}
    (h : ∀ fields, parsed ≠ .ok (.obj fields)) :
    Sanitised parsed expectedSchema { isConfident := false } :=
  ⟨fun fields hparsed => absurd hparsed (h fields), fun _ => rfl, by simp⟩

/-- An object is read as its restriction. -/
theorem parseResponse_obj {fields : List (String × Json)}
    (h : loads (textContent content) = .ok (.obj fields)) : ∃ proposal,
      parseResponse (raising loads) content expectedSchema = .ok proposal ∧
        Sanitised (loads (textContent content)) expectedSchema proposal := by
  have hget : ∀ f v, (validSelectors (Dict.ofList fields) expectedSchema).get? f = some v ↔ _ :=
    fun f v => get?_validSelectors
  unfold parseResponse raising
  rw [h]
  simp only [Except.mapError]
  split
  · next hempty =>
    rw [List.isEmpty_iff, ← Dict.eq_empty_iff] at hempty
    rw [hempty] at hget
    refine ⟨_, rfl, fun fields' he => ?_, fun _ => rfl, by simp⟩
    cases he
    exact hget
  · next hsome =>
    rw [List.isEmpty_iff, ← Dict.eq_empty_iff] at hsome
    refine ⟨_, rfl, fun fields' he => ?_, fun hno => absurd rfl (hno fields), by simp [hsome]⟩
    cases he
    exact hget

/-- **The output of the model is sanitised**, and the reading raises nothing, exactly if the text
is parsed or malformed. -/
theorem sanitised_iff (loads : String → Except LoadsError Json) (content : List ContentBlock)
    (expectedSchema : Dict String FieldType) :
    (∃ proposal, parseResponse (raising loads) content expectedSchema = .ok proposal ∧
      Sanitised (loads (textContent content)) expectedSchema proposal) ↔
    ∀ e, loads (textContent content) = .error e → e = .malformed := by
  cases h : loads (textContent content) with
  | error e =>
    have hraise : raising loads (textContent content) = .error e.raised := by
      unfold raising
      rw [h]
      rfl
    unfold parseResponse
    rw [hraise]
    cases e with
    | malformed =>
      refine ⟨fun _ e he => ?_, fun _ => ⟨_, rfl, Sanitised.unconfident nofun⟩⟩
      cases he
      rfl
    | tooDeep => exact ⟨nofun, fun hall => absurd (hall _ rfl) nofun⟩
    | tooLong => exact ⟨nofun, fun hall => absurd (hall _ rfl) nofun⟩
  | ok json =>
    refine ⟨fun _ => nofun, fun _ => ?_⟩
    rw [← h]
    cases json with
    | obj fields => exact parseResponse_obj h
    | _ =>
      refine ⟨_, ?_, Sanitised.unconfident ?_⟩
      · unfold parseResponse raising
        rw [h]
        rfl
      · rw [h]
        exact nofun

end Reading

/-! ## a number that is too long -/

/-- The parser on the texts that are an integer; it takes every other text for malformed. -/
def integerLoads (text : String) : Except LoadsError Json :=
  if text.toList ≠ [] ∧ text.toList.all Char.isDigit ∧ (text.toList.head? = some '0' → text = "0")
  then
    if 4300 < text.toList.length then .error .tooLong
    else .ok (.int (text.toNat?.getD 0))
  else .error .malformed

/-- A response of one text block with `n` digits. -/
def longNumber (n : Nat) : List ContentBlock :=
  [⟨some "text", String.ofList (List.replicate n '1')⟩]

theorem integerLoads_longNumber {n : Nat} (hn : 4300 < n) :
    integerLoads (textContent (longNumber n)) = .error .tooLong := by
  have htext : (textContent (longNumber n)).toList = List.replicate n '1' := by
    simp [textContent, longNumber, String.join]
  have hpos : n ≠ 0 := by omega
  unfold integerLoads
  rw [htext, List.length_replicate, if_pos, if_pos hn]
  refine ⟨by simp [hpos], by simp, fun hzero => ?_⟩
  rw [List.head?_replicate, if_neg hpos] at hzero
  cases hzero

theorem parseResponse_longNumber {n : Nat} (hn : 4300 < n)
    (expectedSchema : Dict String FieldType) :
    parseResponse (raising integerLoads) (longNumber n) expectedSchema =
      .error LoadsError.tooLong.raised := by
  unfold parseResponse raising
  rw [integerLoads_longNumber hn]
  rfl

/-- Reading it raises the `ValueError` of the parser. -/
theorem not_sanitised_digits :
    parseResponse (raising integerLoads) (longNumber 4301) (Dict.fromKeys ["title"] .str) =
      .error LoadsError.tooLong.raised ∧
    ¬∃ proposal, parseResponse (raising integerLoads) (longNumber 4301)
        (Dict.fromKeys ["title"] .str) = .ok proposal ∧
      Sanitised (integerLoads (textContent (longNumber 4301))) (Dict.fromKeys ["title"] .str)
        proposal := by
  have hraise := parseResponse_longNumber (n := 4301) (by decide) (Dict.fromKeys ["title"] .str)
  refine ⟨hraise, fun ⟨proposal, hok, _⟩ => ?_⟩
  rw [hraise] at hok
  cases hok

end Sentinel
