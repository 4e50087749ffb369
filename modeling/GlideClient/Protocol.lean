import GlideClient.Wire.Frame
import Mathlib.Logic.Equiv.List

namespace GlideClient

open Wire

namespace response

inductive RequestErrorType where
  | Unspecified
  | ExecAbort
  | Timeout
  | Disconnect
  deriving DecidableEq, Repr

structure RequestError where
  type : Option RequestErrorType
  message : Option String
  deriving DecidableEq, Repr

inductive ConstantResponse where
  | OK
  deriving DecidableEq, Repr

inductive RespPointer where
  | number (value : Nat)
  | long (high low : Int)
  deriving DecidableEq, Repr

structure Response where
  callbackIdx : Nat
  respPointer : Option RespPointer
  constantResponse : Option ConstantResponse
  requestError : Option RequestError
  closingError : Option String
  deriving DecidableEq, Repr

end response

namespace redis_request

structure Command where
  requestType : Nat
  args : List String
  deriving DecidableEq, Repr

structure ScriptInvocation where
  hash : String
  keys : Option (List String)
  args : Option (List String)
  deriving DecidableEq, Repr

inductive SimpleRoutes where
  | AllNodes
  | AllPrimaries
  | Random
  deriving DecidableEq, Repr

inductive SlotTypes where
  | Primary
  | Replica
  deriving DecidableEq, Repr

inductive SlotRoute where
  | SlotKeyRoute (slotType : SlotTypes) (slotKey : String)
  | SlotIdRoute (slotType : SlotTypes) (slotId : Int)
  deriving DecidableEq, Repr

structure Routes where
  simpleRoutes : Option SimpleRoutes := none
  slotKeyRoute : Option SlotRoute := none
  slotIdRoute : Option SlotRoute := none
  deriving DecidableEq, Repr

inductive RequestBody where
  | singleCommand (command : Command)
  | transaction (commands : List Command)
  | scriptInvocation (invocation : ScriptInvocation)
  deriving DecidableEq, Repr

structure RedisRequest where
  callbackIdx : Nat
  body : RequestBody
  route : Option Routes
  deriving DecidableEq, Repr

end redis_request

inductive ErrorClass where
  | RequestError
  | ConnectionError
  | ExecAbortError
  | TimeoutError
  | ClosingError
  deriving DecidableEq, Repr

structure RedisError where
  errorClass : ErrorClass
  message : Option String
  deriving DecidableEq, Repr

inductive ReturnValue where
  | ok
  | null
  | fromSplitPointer (high low : Int)
  deriving DecidableEq, Repr

inductive Outcome where
  | resolved (value : ReturnValue)
  | rejected (error : RedisError)
  deriving DecidableEq, Repr

open response

def getRequestErrorClass : Option RequestErrorType → ErrorClass
  | some .Disconnect => .ConnectionError
  | some .ExecAbort => .ExecAbortError
  | some .Timeout => .TimeoutError
  | some .Unspecified => .RequestError
  | none => .RequestError

def splitPointer : RespPointer → Int × Int
  | .number value => (0,value)
  | .long high low => (high,low)

def responseOutcome (message : Response) : Outcome :=
  match message.requestError, message.respPointer with
  | some e, _ => .rejected ⟨getRequestErrorClass e.type,e.message⟩
  | none, some p => .resolved (.fromSplitPointer (splitPointer p).1 (splitPointer p).2)
  | none, none => .resolved (if message.constantResponse = some .OK then .ok else .null)

namespace response

def RequestErrorType.toFin : RequestErrorType → Fin 4
  | .Unspecified => 0
  | .ExecAbort => 1
  | .Timeout => 2
  | .Disconnect => 3

def RequestErrorType.ofFin (i : Fin 4) : RequestErrorType :=
  match i with
  | 0 => .Unspecified
  | 1 => .ExecAbort
  | 2 => .Timeout
  | 3 => .Disconnect

abbrev Code := ℕ × Option (ℕ ⊕ ℤ × ℤ) × Bool × Option (Option (Fin 4) × Option (List ℕ)) × Option (List ℕ)

def codeString (s : String) : List ℕ := s.data.map Char.toNat

def decodeString (l : List ℕ) : String := ⟨l.map Char.ofNat⟩

theorem decodeString_codeString (s : String) : decodeString (codeString s) = s := by
  obtain ⟨l⟩ := s
  simp [decodeString, codeString, Function.comp_def, Char.ofNat_toNat]

theorem RequestErrorType.ofFin_toFin (t : RequestErrorType) : ofFin t.toFin = t := by
  cases t <;> rfl

def Response.toCode (r : Response) : Code :=
  (r.callbackIdx,
    r.respPointer.map (fun | .number v => .inl v | .long h l => .inr (h,l)),
    r.constantResponse.isSome,
    r.requestError.map (fun e => (e.type.map RequestErrorType.toFin,e.message.map codeString)),
    r.closingError.map codeString)

def Response.ofCode (c : Code) : Response :=
  ⟨c.1,c.2.1.map (fun | .inl v => .number v | .inr (h,l) => .long h l),
    if c.2.2.1 then some .OK else none,
    c.2.2.2.1.map (fun e => ⟨e.1.map RequestErrorType.ofFin,e.2.map decodeString⟩),
    c.2.2.2.2.map decodeString⟩

theorem Response.ofCode_toCode (r : Response) : Response.ofCode r.toCode = r := by
  obtain ⟨i,p,c,e,m⟩ := r
  simp only [Response.toCode, Response.ofCode, Option.map_map, Response.mk.injEq, true_and]
  refine ⟨?_,?_,?_,?_⟩
  · rcases p with _ | _ | _ <;> rfl
  · rcases c with _ | ⟨⟩ <;> rfl
  · rcases e with _ | ⟨t,msg⟩
    · rfl
    · rcases t with _ | t <;> rcases msg with _ | _ <;>
        simp [RequestErrorType.ofFin_toFin, decodeString_codeString]
  · rcases m with _ | _ <;> simp [decodeString_codeString]

instance : Encodable Response :=
  Encodable.ofLeftInjection Response.toCode (some ∘ Response.ofCode) fun r =>
    congrArg some (Response.ofCode_toCode r)

def decodeSample (b : Bytes) : Except String Response :=
  match readVarint b with
  | some (n,[]) => (Encodable.decode n : Option Response).elim (.error "invalid response") .ok
  | _ => .error "invalid response"

theorem decodeSample_encode (r : Response) : decodeSample (writeVarint32 (Encodable.encode r)) = .ok r := by
  have h := readVarint_writeVarint32 (Encodable.encode r) []
  rw [List.append_nil] at h
  rw [decodeSample, h]
  simp only [Encodable.encodek, Option.elim]

def sampleCodec : MessageCodec Response :=
  ⟨fun r => writeVarint32 (Encodable.encode r),decodeSample,decodeSample_encode⟩

end response

theorem getRequestErrorClass_is_request_error (t : Option RequestErrorType) :
    getRequestErrorClass t ≠ .ClosingError := by
  rcases t with _ | ⟨_ | _ | _ | _⟩ <;> simp [getRequestErrorClass]

end GlideClient
