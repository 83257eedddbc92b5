import Sentinel.Recovery.Engines
import Sentinel.Shared.JsonGrammar

/-!
# Replies of the model as texts

The prompt asks for a JSON object and nothing else, without a fence or an explanation. A reply
that obeys is read, in whatever layout the object is written, if the interpreter can hold it; one
that does not is no proposal.

* `Reply` — a bare object, an object with an explanation behind it, or something else
* `reply_read` — **the proposal is what a bare object says**, and nothing otherwise
-/

namespace Sentinel

open Lib ClaudeVisionRecoveryEngine

/-- A reply, and the fields of the object if it is nothing but one. -/
inductive Reply (D : Decoder) : List Char → Option (List (String × Json)) → Prop
  | bare {before t after : List Char} {fields : List (String × Json)} :
      Json.Blank before → Json.Text D D.recursionLimit (.obj fields) ('{' :: t) →
      Json.Blank after → Reply D (before ++ ('{' :: t ++ after)) (some fields)
  | explained {before t after : List Char} {fields : List (String × Json)} :
      Json.Blank before → Json.Text D D.recursionLimit (.obj fields) ('{' :: t) →
      ¬Json.Blank after → Reply D (before ++ ('{' :: t ++ after)) none
  | prose {before rest : List Char} :
      Json.Blank before → StartsNoValue rest → Reply D (before ++ rest) none

section Reading

variable {J : JsonModule} {text : List Char} {said : Option (List (String × Json))}

/-- Only a bare object is parsed. -/
theorem Reply.loads (h : Reply J.decoder text said) :
    J.loads (String.ofList text) =
      match said with
      | some fields => .ok (.obj fields)
      | none => .error .jsonDecodeError := by
  unfold JsonModule.loads
  cases h with
  | bare hbefore ht hafter =>
    rw [loads_text J.decoder hbefore hafter ht]
    rfl
  | explained hbefore ht hafter =>
    rw [loads_extra J.decoder hbefore hafter ht]
    rfl
  | prose hbefore hprose =>
    rw [loads_prose J.decoder hbefore hprose]
    rfl

/-- **A proposal says what a bare object says** of the requested fields. Any other reply is read
as well, but proposes nothing. -/
theorem reply_read {content : List ContentBlock} (expectedSchema : Dict String FieldType)
    (h : Reply J.decoder (textContent content).toList said) :
    ∃ proposal, parseResponse J.loads content expectedSchema = .ok proposal ∧
      (∀ f v, proposal.selectors.get? f = some v ↔ f ∈ expectedSchema.keys ∧
        ∃ fields, said = some fields ∧ (Dict.ofList fields).get? f = some (.str v)) ∧
      (proposal.isConfident = true ↔ proposal.selectors ≠ Dict.empty) := by
  have hloads := h.loads
  rw [String.ofList_toList] at hloads
  unfold parseResponse
  rw [hloads]
  cases said with
  | none => exact ⟨_, rfl, by simp, by simp⟩
  | some fields =>
    have hget : ∀ f v, (validSelectors (Dict.ofList fields) expectedSchema).get? f = some v ↔
        f ∈ expectedSchema.keys ∧ ∃ fields', some fields = some fields' ∧
          (Dict.ofList fields').get? f = some (.str v) := by
      intro f v
      rw [get?_validSelectors]
      simp
    simp only
    split
    · next hempty =>
      rw [List.isEmpty_iff, ← Dict.eq_empty_iff] at hempty
      rw [hempty] at hget
      exact ⟨_, rfl, hget, by simp⟩
    · next hsome =>
      rw [List.isEmpty_iff, ← Dict.eq_empty_iff] at hsome
      exact ⟨_, rfl, hget, by simp [hsome]⟩

end Reading

/-- A reply with one field that was asked for and one that was not. -/
def chattyFields : List (String × Json) := [("title", .str "h1[é]"), ("note", .null)]

def chattyReply : List ContentBlock :=
  [⟨some "text", String.ofList
    ('\n' :: (Json.write (.default plainJson.reprFloat) (.obj chattyFields) ++ ['\n']))⟩]

theorem reply_read_chatty : ∃ proposal,
    parseResponse plainJson.loads chattyReply (Dict.fromKeys ["title", "price"] .str) =
      .ok proposal ∧
    proposal.selectors.get? "title" = some "h1[é]" ∧ proposal.selectors.get? "note" = none := by
  have hnewline : Json.Blank ['\n'] := by simp [Json.Blank, Json.isBlankChar]
  have hreply : Reply plainJson.decoder (textContent chattyReply).toList
      (some chattyFields) := by
    have htext := Json.write_text plainJson.decoder
      (Json.Encoder.separates_default plainJson.reprFloat) plainJson.decoder.recursionLimit
      (.obj chattyFields) (by decide)
    have := Reply.bare hnewline htext hnewline
    simpa [textContent, chattyReply, String.join, Json.write] using this
  obtain ⟨proposal, hread, hget, -⟩ := reply_read (Dict.fromKeys ["title", "price"] .str) hreply
  refine ⟨proposal, hread, (hget "title" "h1[é]").mpr ⟨by decide, _, rfl, by decide⟩, ?_⟩
  cases hnote : proposal.selectors.get? "note" with
  | none => rfl
  | some v => exact absurd ((hget "note" v).mp hnote).1 (by decide)

end Sentinel
