import Sentinel.Shared.Job

/-!
# HTTP between the services

A client posts a JSON document to a path and gets a status and a body back, or an exception.

* `HttpPort` — the client
* `decodeExtraction` — the answer to an extraction request, as both clients of the worker read it
* `Readable` — the answers that can be read
-/

namespace Sentinel

open Lib

/-- `body` is `none` where the body is not JSON or no client reads it. -/
structure HttpResponse where
  status : Nat
  body : Option Json := none
deriving DecidableEq

namespace HttpResponse

def isSuccess (response : HttpResponse) : Bool := 200 ≤ response.status && response.status < 300

def raiseForStatus (response : HttpResponse) : Except PyError Unit :=
  if response.isSuccess then .ok () else .error .httpError

def json (response : HttpResponse) : Except PyError Json :=
  match response.body with
  | some payload => .ok payload
  | none => .error .jsonDecodeError

end HttpResponse

/-- The text under a key of a request body. -/
def strField (body : Dict String Json) (key : String) : Option String :=
  (body.get? key).bind Json.asStr

/-- The fields of a request body; only an object has any. -/
def bodyFields : Json → Option (Dict String Json)
  | .obj fields => some (Dict.ofList fields)
  | _ => none

inductive HttpOp
  | post (path : String) (json : Json)
deriving DecidableEq

abbrev HttpPort : Signature where
  Op := HttpOp
  Ans := fun _ => HttpResponse

abbrev HttpProg := Prog HttpPort PyError

abbrev HttpPort.post (path : String) (json : Json) : HttpProg HttpResponse :=
  @Prog.perform HttpPort PyError (.post path json)

/--
The result in the payload of an extraction; `mk` builds the record of the client in question. An
unknown failure reason counts as a failed extraction.
-/
def decodeExtraction {R : Type} (mk : Bool → Json → Option FailureReason → R) (payload : Json) :
    Except PyError R := do
  let rawFailureReason ← payload.item "failure_reason"
  match FailureReason.ofJson rawFailureReason with
  | .error _ => return mk false (.obj []) (some .httpError)
  | .ok failureReason => do
    let success ← payload.item "success"
    let data ← payload.item "data"
    return mk success.truthy data failureReason

/-- A decoded payload has a failure reason that is unknown, or all three fields. -/
theorem decodeExtraction_eq_ok {R : Type} {mk : Bool → Json → Option FailureReason → R}
    {payload : Json} {result : R} :
    decodeExtraction mk payload = .ok result ↔
      ∃ raw, payload.item "failure_reason" = .ok raw ∧
        ((∃ e, FailureReason.ofJson raw = .error e) ∧
            result = mk false (.obj []) (some .httpError) ∨
          ∃ failureReason success data, FailureReason.ofJson raw = .ok failureReason ∧
            payload.item "success" = .ok success ∧ payload.item "data" = .ok data ∧
            result = mk success.truthy data failureReason) := by
  unfold decodeExtraction
  cases hraw : payload.item "failure_reason" with
  | error e => simp [bind, Except.bind]
  | ok raw =>
    cases hreason : FailureReason.ofJson raw with
    | error e => simp [bind, Except.bind, hreason, pure, Except.pure, eq_comm]
    | ok failureReason =>
      cases hsuccess : payload.item "success" with
      | error e => simp [bind, Except.bind, hreason]
      | ok success =>
        cases hdata : payload.item "data" with
        | error e => simp [bind, Except.bind, hreason]
        | ok data => simp [bind, Except.bind, hreason, pure, Except.pure, eq_comm]

/-- A payload a client of the worker can decode. -/
def Readable (payload : Json) : Prop :=
  ∃ raw, payload.item "failure_reason" = .ok raw ∧
    ((∃ e, FailureReason.ofJson raw = .error e) ∨
      ∃ success data, payload.item "success" = .ok success ∧ payload.item "data" = .ok data)

theorem decodeExtraction_readable {R : Type} {mk : Bool → Json → Option FailureReason → R}
    {payload : Json} : (∃ result, decodeExtraction mk payload = .ok result) ↔ Readable payload := by
  constructor
  · rintro ⟨result, h⟩
    obtain ⟨raw, hraw, ⟨he, -⟩ | ⟨_, success, data, -, hsuccess, hdata, -⟩⟩ :=
      decodeExtraction_eq_ok.mp h
    · exact ⟨raw, hraw, Or.inl he⟩
    · exact ⟨raw, hraw, Or.inr ⟨success, data, hsuccess, hdata⟩⟩
  · rintro ⟨raw, hraw, he | ⟨success, data, hsuccess, hdata⟩⟩
    · exact ⟨_, decodeExtraction_eq_ok.mpr ⟨raw, hraw, Or.inl ⟨he, rfl⟩⟩⟩
    · cases hreason : FailureReason.ofJson raw with
      | error e => exact ⟨_, decodeExtraction_eq_ok.mpr ⟨raw, hraw, Or.inl ⟨⟨e, hreason⟩, rfl⟩⟩⟩
      | ok failureReason =>
        exact ⟨_, decodeExtraction_eq_ok.mpr
          ⟨raw, hraw, Or.inr ⟨failureReason, success, data, hreason, hsuccess, hdata, rfl⟩⟩⟩

theorem decodeExtraction_ok {R : Type} (mk : Bool → Json → Option FailureReason → R)
    {payload raw success data : Json} {failureReason : Option FailureReason}
    (hraw : payload.item "failure_reason" = .ok raw)
    (hreason : FailureReason.ofJson raw = .ok failureReason)
    (hsuccess : payload.item "success" = .ok success) (hdata : payload.item "data" = .ok data) :
    decodeExtraction mk payload = .ok (mk success.truthy data failureReason) := by
  unfold decodeExtraction
  rw [hraw, hsuccess, hdata]
  simp only [bind, Except.bind, hreason]
  rfl

end Sentinel
