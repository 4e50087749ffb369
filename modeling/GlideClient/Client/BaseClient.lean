import GlideClient.Client.Session
import GlideClient.Client.Writer

namespace GlideClient

open Wire response redis_request

namespace connection_request

inductive ReadFrom where
  | Primary
  | PreferReplica
  | LowestLatency
  | AZAffinity
  deriving DecidableEq, Repr

inductive TlsMode where
  | NoTls
  | SecureTls
  | InsecureTls
  deriving DecidableEq, Repr

inductive ProtocolVersion where
  | RESP3
  | RESP2
  deriving DecidableEq, Repr

structure NodeAddress where
  host : String
  port : Option Nat
  deriving DecidableEq, Repr

structure AuthenticationInfo where
  password : String
  username : Option String
  deriving DecidableEq, Repr

structure ConnectionRequest where
  protocol : Option ProtocolVersion
  clientName : Option String
  addresses : List NodeAddress
  tlsMode : TlsMode
  requestTimeout : Option Nat
  clusterModeEnabled : Bool
  readFrom : Option ReadFrom
  authenticationInfo : Option AuthenticationInfo
  deriving DecidableEq, Repr

end connection_request

open connection_request

inductive ReadFrom where
  | primary
  | preferReplica
  deriving DecidableEq, Repr

structure RedisCredentials where
  username : Option String
  password : String
  deriving DecidableEq, Repr

structure BaseClientConfiguration where
  addresses : List NodeAddress
  useTLS : Option Bool
  credentials : Option RedisCredentials
  requestTimeout : Option Nat
  readFrom : Option ReadFrom
  serverProtocol : Option ProtocolVersion
  clientName : Option String
  deriving DecidableEq, Repr

structure ScriptOptions where
  keys : Option (List String)
  args : Option (List String)
  deriving DecidableEq, Repr

def MAP_READ_FROM_STRATEGY : ReadFrom → connection_request.ReadFrom
  | .primary => .Primary
  | .preferReplica => .PreferReplica

def createClientRequest (options : BaseClientConfiguration) : ConnectionRequest where
  protocol := options.serverProtocol
  clientName := options.clientName
  addresses := options.addresses
  tlsMode := if options.useTLS = some true then .SecureTls else .NoTls
  requestTimeout := options.requestTimeout
  clusterModeEnabled := false
  readFrom := options.readFrom.map MAP_READ_FROM_STRATEGY
  authenticationInfo := options.credentials.map fun c => ⟨c.password,c.username⟩

structure ProtobufMessage where
  encodeRedisRequest : RedisRequest → Bytes
  encodeConnectionRequest : ConnectionRequest → Bytes
  response : FrameCodec Response

structure BaseClient extends Dispatcher, Writer where
  remainingReadData : Option Bytes
  socketEnded : Bool
  deriving DecidableEq, Repr

inductive ReadResult where
  | returned (c : BaseClient)
  | typeError (c : BaseClient)
  deriving DecidableEq, Repr

def closedClientError : RedisError :=
  ⟨.ClosingError,some "Unable to execute requests; the client is closed. Please create a new client."⟩

namespace BaseClient

variable (pb : ProtobufMessage)

def create : BaseClient := ⟨Dispatcher.fresh,Writer.empty,none,false⟩

def writeOrBufferRedisRequest (callbackIdx : Nat) (command : RequestBody) (route : Option Routes)
    (c : BaseClient) : BaseClient :=
  { c with toWriter := c.toWriter.writeOrBufferRequest (pb.encodeRedisRequest ⟨callbackIdx,command,route⟩) }

def createWritePromise (command : RequestBody) (route : Option Routes) (c : BaseClient) :
    Except RedisError Nat × BaseClient :=
  if c.isClosed then (.error closedClientError,c)
  else
    (.ok c.created,writeOrBufferRedisRequest pb c.newWritePromise.1 command route
      { c with toDispatcher := c.newWritePromise.2 })

def invokeScript (hash : String) (option : Option ScriptOptions) (c : BaseClient) :
    Except RedisError Nat × BaseClient :=
  createWritePromise pb (.scriptInvocation ⟨hash,option.bind (·.keys),option.bind (·.args)⟩) none c

def connectToServer (createClientRequest : BaseClientConfiguration → ConnectionRequest)
    (options : BaseClientConfiguration) (c : BaseClient) : Nat × BaseClient :=
  (c.created,
    { c with toDispatcher := c.registerCallbacks 0,
             toWriter := c.toWriter.writeOrBufferRequest
               (pb.encodeConnectionRequest (createClientRequest options)) })

def close (errorMessage : Option String) (c : BaseClient) : BaseClient :=
  { c with toDispatcher := c.toDispatcher.close errorMessage, socketEnded := true }

def writeCompleted (c : BaseClient) : Option BaseClient :=
  c.toWriter.writeCompleted.map fun w => { c with toWriter := w }

def remainder (q : Bytes) : Option Bytes := if q = [] then none else some q

def readLoop (c : BaseClient) : Bytes → ReadResult
  | [] => .returned { c with remainingReadData := none }
  | b :: bs =>
    match h : pb.response.decodeDelimited (b :: bs) with
    | .rangeError => .returned { c with remainingReadData := some (b :: bs) }
    | .failed err => .returned (c.close (some ("Failed to decode the response: " ++ err)))
    | .decoded message rest =>
      match message.closingError with
      | some e => .returned (c.close (some e))
      | none =>
        match c.dispatch message with
        | none => .typeError c
        | some d =>
          have := pb.response.decodeDelimited_shortens h
          readLoop { c with toDispatcher := d } rest
termination_by buf => buf.length

def handleReadData (data : Bytes) (c : BaseClient) : ReadResult :=
  readLoop pb c (match c.remainingReadData with
    | some r => r ++ data
    | none => data)

end BaseClient

def ProtobufMessage.sample : ProtobufMessage := ⟨fun _ => [],fun _ => [],sampleCodec.delimited⟩

end GlideClient
