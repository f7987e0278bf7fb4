import RxLisk.Foundation.Json

/-!
# Responses of a node

A response is serialised into a value or an error, and the completion handler turns the result into
one event for the subscriber.  The serialiser of the library decodes the received body with a
`JSONDecoder`; what it calls of Alamofire and of Foundation is a parameter.

The handler runs on the list of events that the subscriber has seen, and a force-unwrap of `nil`
traps.  It prints the body before it reports an error, and for that it unwraps the text of the body.
-/

namespace RxLisk

open SwiftString

inductive LiskError where
  | incorrectResponse
  | parse
  | unknown
deriving DecidableEq

inductive AlamofireDecodableError where
  | invalidKeyPath
  | emptyKeyPath
  | invalidJSON
deriving DecidableEq

/-- An error of a response.  The connection, a failed validation and the other layers have errors of
their own. -/
inductive ResponseError (Other : Type) where
  | decoding (error : DecodingError)
  | decodable (error : AlamofireDecodableError)
  | other (error : Other)
deriving DecidableEq

/-- Alamofire's `Result<T>`. -/
inductive Result (T Other : Type) where
  | success (value : T)
  | failure (error : ResponseError Other)
deriving DecidableEq

/-- The members of `DataResponse<T>` that the handler reads. -/
structure DataResponse (T Other : Type) where
  data : Option (List UInt8)
  result : Result T Other

/-- What a `Single` delivers. -/
inductive SingleEvent (T : Type) where
  | success (value : T)
  | error (error : LiskError)
deriving DecidableEq

variable {T Other : Type}

namespace Result

def value : Result T Other → Option T
  | .success value => some value
  | .failure _ => none

def error : Result T Other → Option (ResponseError Other)
  | .success _ => none
  | .failure error => some error

/-- The result of a `do` block whose errors are caught and returned. -/
def ofExcept : Except (ResponseError Other) T → Result T Other
  | .ok value => .success value
  | .error error => .failure error

end Result

/-- `as? DecodingError`. -/
def ResponseError.asDecodingError : ResponseError Other → Option DecodingError
  | .decoding error => some error
  | .decodable _ => none
  | .other _ => none

/-! ## The serialiser -/

/-- The functions of Alamofire and Foundation that the serialiser calls. -/
structure Serialization (Response Object Other : Type) where
  serializeResponseData : Option Response → Option (List UInt8) → Result (List UInt8) Other
  serializeResponseJSON : Option Response → Option (List UInt8) → Result Object Other
  valueForKeyPath : Object → SwiftString → Option Object
  isValidJSONObject : Object → Bool
  dataWithJSONObject : Object → Except (ResponseError Other) (List UInt8)

/-- `decoder.decode(T.self, from: data)`. -/
abbrev JSONDecoder (T Other : Type) := List UInt8 → Except (ResponseError Other) T

namespace DataRequest

variable {Response Object : Type} (alamofire : Serialization Response Object Other)

def decode (decoder : JSONDecoder T Other) (response : Option Response)
    (data : Option (List UInt8)) : Result T Other :=
  match alamofire.serializeResponseData response data with
  | .success data => .ofExcept (decoder data)
  | .failure error => .failure error

def decodeByKeyPath (keyPath : SwiftString) (decoder : JSONDecoder T Other)
    (response : Option Response) (data : Option (List UInt8)) : Result T Other :=
  match alamofire.serializeResponseJSON response data with
  | .success json =>
    match alamofire.valueForKeyPath json keyPath with
    | none => .failure (.decodable .invalidKeyPath)
    | some nestedJson =>
      if alamofire.isValidJSONObject nestedJson then
        .ofExcept (alamofire.dataWithJSONObject nestedJson >>= decoder)
      else .failure (.decodable .invalidJSON)
  | .failure error => .failure error

/-- An error of the request goes through, and the body is decoded only without one. -/
def decodableSerializer (keyPath : Option SwiftString) (decoder : JSONDecoder T Other)
    (response : Option Response) (data : Option (List UInt8))
    (error : Option (ResponseError Other)) : Result T Other :=
  match error, keyPath with
  | some error, _ => .failure error
  | none, some keyPath =>
    if keyPath = [] then .failure (.decodable .emptyKeyPath)
    else decodeByKeyPath alamofire keyPath decoder response data
  | none, none => decode alamofire decoder response data

end DataRequest

/-! ## The completion handler -/

namespace Network

/-- `subscribe(event)`. -/
def subscribe (event : SingleEvent T) : StateT (List (SingleEvent T)) Option Unit :=
  modify (· ++ [event])

/-- `print(String(data: response.data!, encoding: .utf8)!)`, without the console. -/
def printData (response : DataResponse T Other) : StateT (List (SingleEvent T)) Option Unit := do
  let data ← StateT.lift response.data
  let _ ← StateT.lift (scalarsOfData data)

def completionHandler (response : DataResponse T Other) :
    StateT (List (SingleEvent T)) Option Unit :=
  match response.result.error.bind ResponseError.asDecodingError with
  -- parse error
  | some _ => do
    printData response
    subscribe (.error .parse)
  -- response error
  | none =>
    match response.result.value with
    | some value => subscribe (.success value)
    | none => do
      printData response
      subscribe (.error .incorrectResponse)

/-- The handler on a received body, with the serialiser of `request`. -/
def complete {Response Object : Type} (alamofire : Serialization Response Object Other)
    (decoder : JSONDecoder T Other) (response : Option Response) (body : List UInt8)
    (error : Option (ResponseError Other)) : StateT (List (SingleEvent T)) Option Unit :=
  completionHandler
    { data := some body
      result := DataRequest.decodableSerializer alamofire none decoder response (some body) error }

end Network

/-- The event that reports a result. -/
def Result.event : Result T Other → SingleEvent T
  | .success value => .success value
  | .failure (.decoding _) => .error .parse
  | .failure (.decodable _) => .error .incorrectResponse
  | .failure (.other _) => .error .incorrectResponse

theorem Result.ofExcept_eq_success_iff {outcome : Except (ResponseError Other) T} {value : T} :
    ofExcept outcome = .success value ↔ outcome = .ok value := by
  cases outcome with
  | ok decoded => simp [ofExcept]
  | error error => simp [ofExcept]

/-- The serialiser succeeds when the request did and the decoder reads the serialised body. -/
theorem DataRequest.decodableSerializer_eq_success_iff {Response Object : Type}
    {alamofire : Serialization Response Object Other} {decoder : JSONDecoder T Other}
    {response : Option Response} {data : Option (List UInt8)}
    {error : Option (ResponseError Other)} {value : T} :
    decodableSerializer alamofire none decoder response data error = .success value ↔
      error = none ∧ ∃ serialized,
        alamofire.serializeResponseData response data = .success serialized ∧
          decoder serialized = .ok value := by
  cases error with
  | some error => simp [decodableSerializer]
  | none =>
    rw [decodableSerializer, decode]
    cases alamofire.serializeResponseData response data with
    | success serialized => simp [Result.ofExcept_eq_success_iff]
    | failure error => simp

namespace Network

variable {body : List UInt8} {result : Result T Other}

/-! ## When the handler returns -/

/-- Printing changes no event, and traps on a body that is no text. -/
theorem run_printData (events : List (SingleEvent T)) :
    (printData { data := some body, result := result }).run events =
      (scalarsOfData body).map fun _ ↦ ((), events) := by
  cases h : scalarsOfData body with
  | none => simp [printData, h]
  | some scalars => simp [printData, h]

theorem run_completionHandler_failure (error : ResponseError Other)
    (events : List (SingleEvent T)) :
    (completionHandler { data := some body, result := Result.failure error }).run events =
      (scalarsOfData body).map fun _ ↦ ((), events ++ [(Result.failure error).event]) := by
  have hprint (reported : LiskError) :
      (printData { data := some body, result := Result.failure (T := T) error } >>=
        fun _ ↦ subscribe (.error reported)).run events =
      (scalarsOfData body).map fun _ ↦ ((), events ++ [.error reported]) := by
    rw [StateT.run_bind, run_printData]
    cases scalarsOfData body with
    | none => rfl
    | some scalars => rfl
  cases error with
  | decoding error => exact hprint .parse
  | decodable error => exact hprint .incorrectResponse
  | other error => exact hprint .incorrectResponse

/-- A value, or the text of the body, is enough for one event. -/
theorem run_completionHandler_eq_some
    (h : (∃ value, result = .success value) ∨ IsUtf8 body) (events : List (SingleEvent T)) :
    (completionHandler { data := some body, result := result }).run events =
      some ((), events ++ [result.event]) := by
  cases result with
  | success value => rfl
  | failure error =>
    have htext : IsUtf8 body := by simpa using h
    obtain ⟨scalars, hscalars⟩ :=
      Option.isSome_iff_exists.mp ((isSome_scalarsOfData_iff body).mpr htext)
    rw [run_completionHandler_failure, hscalars]
    rfl

theorem run_completionHandler_eq_none
    (h : ¬((∃ value, result = .success value) ∨ IsUtf8 body)) (events : List (SingleEvent T)) :
    (completionHandler { data := some body, result := result }).run events = none := by
  cases result with
  | success value => exact absurd (Or.inl ⟨value, rfl⟩) h
  | failure error =>
    have hbinary : scalarsOfData body = none := by
      rw [← Option.not_isSome_iff_eq_none, isSome_scalarsOfData_iff]
      exact fun htext ↦ h (Or.inr htext)
    rw [run_completionHandler_failure, hbinary]
    rfl

/-- With the serialiser of `request`, each response either adds its one event or traps. -/
theorem run_complete_iff {Response Object : Type}
    (alamofire : Serialization Response Object Other) (decoder : JSONDecoder T Other)
    (response : Option Response) (error : Option (ResponseError Other))
    (events : List (SingleEvent T)) :
    (∃ event, (complete alamofire decoder response body error).run events =
      some ((), events ++ [event])) ↔
        (error = none ∧ ∃ serialized value,
          alamofire.serializeResponseData response (some body) = .success serialized ∧
            decoder serialized = .ok value) ∨ IsUtf8 body := by
  have hvalue : (∃ value, DataRequest.decodableSerializer alamofire none decoder response
      (some body) error = .success value) ↔ error = none ∧ ∃ serialized value,
        alamofire.serializeResponseData response (some body) = .success serialized ∧
          decoder serialized = .ok value := by
    simp only [DataRequest.decodableSerializer_eq_success_iff]
    tauto
  rw [← hvalue]
  constructor
  · rintro ⟨event, hevent⟩
    by_contra htrap
    rw [complete, run_completionHandler_eq_none htrap] at hevent
    cases hevent
  · intro h
    exact ⟨_, run_completionHandler_eq_some h events⟩

/-- The handler ends in the one event of the result exactly when the serialiser gave a value or the
body is the UTF-8 encoding of some text.  Otherwise it traps before the event. -/
theorem completionHandler_delivers_iff (body : List UInt8) (result : Result T Other) :
    (completionHandler { data := some body, result := result }).run [] =
        some ((), [result.event]) ↔
      (∃ value, result = .success value) ∨ ∃ scalars : List Char,
        body = scalars.flatMap String.utf8EncodeChar := by
  constructor
  · intro h
    by_contra htrap
    rw [run_completionHandler_eq_none htrap] at h
    cases h
  · intro h
    exact run_completionHandler_eq_some h []

/-- A body of one byte that no text has, rejected by the decoder. -/
theorem binary_body_traps :
    ¬∀ (body : List UInt8) (result : Result Bool Unit),
      (completionHandler { data := some body, result := result }).run [] =
        some ((), [result.event]) := by
  intro h
  have hreturns := h [0xFF] (.failure (.decoding (.dataCorrupted [])))
  have hbinary : scalarsOfData [0xFF] = none := by decide
  rw [run_completionHandler_failure, hbinary] at hreturns
  cases hreturns

end Network

end RxLisk
