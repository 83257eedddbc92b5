import Sentinel.Recovery.State

/-!
# The recovery engines

The two implementations of `RecoveryEnginePort`. Whatever the model writes, what is proposed are
texts for requested fields.

* `ClaudeVisionRecoveryEngine.proposeSelectors` — the request to the model, and the reading of its
  response
* `MockRecoveryEngine.proposal` — the engine used without an API key
* `Proposes` — what an engine may answer
* `Proposes.keys` — an engine proposes selectors for requested fields only
-/

namespace Sentinel

open Lib

namespace ClaudeVisionRecoveryEngine

/-- A content block of a response; `type` is `none` where the block has no such attribute. -/
structure ContentBlock where
  type : Option String
  text : String

def textContent (content : List ContentBlock) : String :=
  String.join ((content.filter fun block => block.type == some "text").map ContentBlock.text)

def buildUserPrompt (repr : Dict String String → String) (expectedSchema : Dict String FieldType)
    (rejectionHistory : List RejectionReason) : String :=
  let fields := ", ".intercalate expectedSchema.keys
  let prompt := "Requested fields: " ++ fields ++ "."
  if rejectionHistory.isEmpty then prompt
  else prompt ++ " Previous rejected attempts (avoid repeating these):\n" ++
    "\n".intercalate (rejectionHistory.map (RejectionReason.text repr))

/-- The fields of a parsed object that were requested and are texts. -/
def validSelectors (parsed : Dict String Json) (expectedSchema : Dict String FieldType) :
    Dict String String :=
  Dict.ofList (parsed.entries.filterMap fun item =>
    if item.1 ∈ expectedSchema.keys then Json.asStrField item else none)

/-- `jsonLoads` is the JSON parser. -/
def parseResponse (jsonLoads : String → Except PyError Json) (content : List ContentBlock)
    (expectedSchema : Dict String FieldType) : Except PyError SelectorProposal :=
  match jsonLoads (textContent content) with
  | .error .jsonDecodeError => .ok { isConfident := false }
  | .error .typeError => .ok { isConfident := false }
  | .error e => .error e
  | .ok (.obj fields) =>
    let selectors := validSelectors (Dict.ofList fields) expectedSchema
    if selectors.entries.isEmpty then .ok { isConfident := false }
    else .ok { isConfident := true, selectors := selectors }
  | .ok _ => .ok { isConfident := false }

def systemPrompt : String :=
  "You are analyzing a screenshot of a web page where a data extraction " ++
  "selector has stopped working. Propose CSS selectors for the requested " ++
  "fields based on what you see in the image. Respond with ONLY a JSON " ++
  "object mapping each requested field name to a CSS selector string, " ++
  "nothing else - no markdown fences, no explanation. If you cannot " ++
  "confidently identify a selector for a field, omit it from the object."

/-- The arguments of `messages.create` that are not fixed by the shape of the message: `data` is the
image, and `text` what stands below it. -/
structure MessagesRequest where
  model : String := "claude-sonnet-4-6"
  maxTokens : Nat := 1024
  system : String := systemPrompt
  data : Json
  text : String

/-- `create` is the client of the model. -/
def proposeSelectors (create : MessagesRequest → Except PyError (List ContentBlock))
    (jsonLoads : String → Except PyError Json) (repr : Dict String String → String)
    (screenshotBase64 : Json) (expectedSchema : Dict String FieldType)
    (rejectionHistory : List RejectionReason) : Except PyError SelectorProposal := do
  let response ← create
    { data := screenshotBase64, text := buildUserPrompt repr expectedSchema rejectionHistory }
  parseResponse jsonLoads response expectedSchema

/-- Selecting fields of an object repeats no key. -/
theorem validFields_nodup (parsed : Dict String Json) (expectedSchema : Dict String FieldType) :
    ((parsed.entries.filterMap fun item =>
      if item.1 ∈ expectedSchema.keys then Json.asStrField item else none).map Prod.fst).Nodup := by
  refine List.Nodup.sublist ?_ parsed.nodup
  induction parsed.entries with
  | nil => exact List.Sublist.refl _
  | cons item l ih =>
    rw [List.filterMap_cons]
    split
    · exact ih.cons _
    · next field h =>
      split at h
      · have hk : field.1 = item.1 := by
          unfold Json.asStrField at h
          obtain ⟨text, -, rfl⟩ := Option.map_eq_some_iff.mp h
          rfl
        rw [List.map_cons, List.map_cons, hk]
        exact ih.cons_cons _
      · cases h

/-- A field of the result is a field of the object that was requested and is a text. -/
theorem get?_validSelectors {parsed : Dict String Json} {expectedSchema : Dict String FieldType}
    {f v : String} : (validSelectors parsed expectedSchema).get? f = some v ↔
      f ∈ expectedSchema.keys ∧ parsed.get? f = some (.str v) := by
  have hitem : ∀ item : String × Json, (if item.1 ∈ expectedSchema.keys then
      Json.asStrField item else none) = some (f, v) ↔
        f ∈ expectedSchema.keys ∧ item = (f, .str v) := by
    rintro ⟨k, json⟩
    unfold Json.asStrField Json.asStr
    by_cases hk : k ∈ expectedSchema.keys
    · rw [if_pos hk]
      constructor
      · intro h
        cases json <;> simp_all
      · rintro ⟨-, h⟩
        cases h
        rfl
    · rw [if_neg hk]
      constructor
      · intro h
        cases h
      · rintro ⟨hf, h⟩
        cases h
        exact absurd hf hk
  unfold validSelectors
  rw [← Dict.mem_entries_iff, Dict.entries_ofList (validFields_nodup parsed expectedSchema),
    List.mem_filterMap]
  simp only [hitem]
  rw [← Dict.mem_entries_iff]
  constructor
  · rintro ⟨_, hmem, hf, rfl⟩
    exact ⟨hf, hmem⟩
  · rintro ⟨hf, hmem⟩
    exact ⟨_, hmem, hf, rfl⟩

theorem validSelectors_keys {parsed : Dict String Json} {expectedSchema : Dict String FieldType} :
    ∀ k ∈ (validSelectors parsed expectedSchema).keys, k ∈ expectedSchema.keys := by
  intro k hk
  obtain ⟨v, hv⟩ := Dict.mem_keys_iff_get?.mp hk
  exact (get?_validSelectors.mp hv).1

theorem parseResponse_keys {jsonLoads : String → Except PyError Json} {content : List ContentBlock}
    {expectedSchema : Dict String FieldType} {proposal : SelectorProposal}
    (h : parseResponse jsonLoads content expectedSchema = .ok proposal) :
    ∀ k ∈ proposal.selectors.keys, k ∈ expectedSchema.keys := by
  unfold parseResponse at h
  split at h
  · cases h; simp
  · cases h; simp
  · cases h
  · dsimp only at h
    split at h
    · cases h; simp
    · cases h; exact validSelectors_keys
  · cases h; simp

end ClaudeVisionRecoveryEngine

namespace MockRecoveryEngine

/-- The proposal, by whether the random draw fell below the success rate. -/
def proposal (isConfident : Bool) (expectedSchema : Dict String FieldType) : SelectorProposal :=
  if isConfident then
    { isConfident := true
      selectors := Dict.ofList (expectedSchema.keys.map fun fieldName =>
        (fieldName, ".css-selector-for-" ++ fieldName)) }
  else { isConfident := false }

theorem proposal_keys {isConfident : Bool} {expectedSchema : Dict String FieldType} :
    ∀ k ∈ (proposal isConfident expectedSchema).selectors.keys, k ∈ expectedSchema.keys := by
  intro k hk
  cases isConfident with
  | false => simp [proposal] at hk
  | true =>
    have hk' : k ∈ (Dict.ofList (expectedSchema.keys.map fun fieldName =>
      (fieldName, ".css-selector-for-" ++ fieldName))).keys := hk
    simpa [Dict.mem_keys_ofList] using hk'

end MockRecoveryEngine

/-- What an engine may answer to a request for selectors: the reading of any response of the
model, either draw of the mock, or an exception. -/
inductive Proposes (jsonLoads : String → Except PyError Json)
    (expectedSchema : Dict String FieldType) : Except PyError SelectorProposal → Prop
  | claude (content : List ClaudeVisionRecoveryEngine.ContentBlock) :
      Proposes jsonLoads expectedSchema
        (ClaudeVisionRecoveryEngine.parseResponse jsonLoads content expectedSchema)
  | mock (isConfident : Bool) :
      Proposes jsonLoads expectedSchema
        (.ok (MockRecoveryEngine.proposal isConfident expectedSchema))
  | raises (e : PyError) : Proposes jsonLoads expectedSchema (.error e)

/-- Whatever the model responds, to whatever prompt. -/
theorem Proposes.proposeSelectors
    (create : ClaudeVisionRecoveryEngine.MessagesRequest →
      Except PyError (List ClaudeVisionRecoveryEngine.ContentBlock))
    (jsonLoads : String → Except PyError Json) (repr : Dict String String → String)
    (screenshotBase64 : Json) (expectedSchema : Dict String FieldType)
    (rejectionHistory : List RejectionReason) :
    Proposes jsonLoads expectedSchema (ClaudeVisionRecoveryEngine.proposeSelectors create jsonLoads
      repr screenshotBase64 expectedSchema rejectionHistory) := by
  unfold ClaudeVisionRecoveryEngine.proposeSelectors
  cases create _ with
  | ok content => exact Proposes.claude content
  | error e => exact Proposes.raises e

/-- **Only requested fields are proposed.** -/
theorem Proposes.keys {jsonLoads : String → Except PyError Json}
    {expectedSchema : Dict String FieldType} {proposal : SelectorProposal}
    (h : Proposes jsonLoads expectedSchema (.ok proposal)) :
    ∀ k ∈ proposal.selectors.keys, k ∈ expectedSchema.keys := by
  generalize hr : (Except.ok proposal : Except PyError SelectorProposal) = r at h
  cases h with
  | claude content => exact ClaudeVisionRecoveryEngine.parseResponse_keys hr.symm
  | mock isConfident =>
    cases hr
    exact MockRecoveryEngine.proposal_keys
  | raises e => cases hr

end Sentinel
