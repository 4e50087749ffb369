import GlideClient.Client.BaseClient

namespace GlideClient

open redis_request connection_request

namespace redis_request

structure SlotKeyRouteFields where
  slotType : Option SlotTypes
  slotKey : Option String
  deriving DecidableEq, Repr

structure SlotIdRouteFields where
  slotType : Option SlotTypes
  slotId : Option Int
  deriving DecidableEq, Repr

structure RoutesFields where
  simpleRoutes : Option SimpleRoutes
  slotKeyRoute : Option SlotKeyRouteFields
  slotIdRoute : Option SlotIdRouteFields
  deriving DecidableEq, Repr

/-- Modelled from the spec: the generated SlotKeyRoute.encode, which writes the slotType and
slotKey properties of the object it is given, whatever that object's own message type. -/
def SlotKeyRoute.encode : SlotRoute → SlotKeyRouteFields
  | .SlotKeyRoute slotType slotKey => ⟨some slotType,some slotKey⟩
  | .SlotIdRoute slotType _ => ⟨some slotType,none⟩

/-- Modelled from the spec: the generated SlotIdRoute.encode, which writes the slotType and
slotId properties of the object it is given, whatever that object's own message type. -/
def SlotIdRoute.encode : SlotRoute → SlotIdRouteFields
  | .SlotKeyRoute slotType _ => ⟨some slotType,none⟩
  | .SlotIdRoute slotType slotId => ⟨some slotType,some slotId⟩

/-- Modelled from the spec: the generated Routes.encode, which serializes each field with the
encoder of its declared message type. -/
def Routes.encode (r : Routes) : RoutesFields :=
  ⟨r.simpleRoutes,r.slotKeyRoute.map SlotKeyRoute.encode,r.slotIdRoute.map SlotIdRoute.encode⟩

end redis_request

namespace RedisClusterClient

inductive SlotIdType where
  | primarySlotId
  | replicaSlotId
  deriving DecidableEq, Repr

structure SlotIdTypes where
  type : SlotIdType
  id : Int
  deriving DecidableEq, Repr

inductive SlotKeyType where
  | primarySlotKey
  | replicaSlotKey
  deriving DecidableEq, Repr

structure SlotKeyTypes where
  type : SlotKeyType
  key : String
  deriving DecidableEq, Repr

inductive SingleNodeRoute where
  | randomNode
  | slotId (route : SlotIdTypes)
  | slotKey (route : SlotKeyTypes)
  deriving DecidableEq, Repr

inductive Routes where
  | single (route : SingleNodeRoute)
  | allPrimaries
  | allNodes
  deriving DecidableEq, Repr

def toProtobufRoute : Option Routes → Option redis_request.Routes
  | none => none
  | some .allPrimaries => some { simpleRoutes := some .AllPrimaries }
  | some .allNodes => some { simpleRoutes := some .AllNodes }
  | some (.single .randomNode) => some { simpleRoutes := some .Random }
  | some (.single (.slotKey ⟨.primarySlotKey,key⟩)) => some { slotKeyRoute := some (.SlotKeyRoute .Primary key) }
  | some (.single (.slotKey ⟨.replicaSlotKey,key⟩)) => some { slotKeyRoute := some (.SlotKeyRoute .Replica key) }
  | some (.single (.slotId ⟨.primarySlotId,id⟩)) => some { slotKeyRoute := some (.SlotIdRoute .Primary id) }
  | some (.single (.slotId ⟨.replicaSlotId,id⟩)) => some { slotKeyRoute := some (.SlotIdRoute .Replica id) }

def createClientRequest (options : BaseClientConfiguration) : ConnectionRequest :=
  { GlideClient.createClientRequest options with clusterModeEnabled := true }

def customCommand (pb : ProtobufMessage) (command : Command) (route : Option Routes) (c : BaseClient) :
    Except RedisError Nat × BaseClient :=
  BaseClient.createWritePromise pb (.singleCommand command) (toProtobufRoute route) c

def exec (pb : ProtobufMessage) (commands : List Command) (route : Option SingleNodeRoute) (c : BaseClient) :
    Except RedisError Nat × BaseClient :=
  BaseClient.createWritePromise pb (.transaction commands) (toProtobufRoute (route.map .single)) c

def serialize (route : Routes) : Option RoutesFields := (toProtobufRoute (some route)).map redis_request.Routes.encode

theorem serialize_eq_iff (r r' : Routes) :
    serialize r = serialize r' ↔
      r = r' ∨ ∃ type id id', r = .single (.slotId ⟨type,id⟩) ∧ r' = .single (.slotId ⟨type,id'⟩) := by
  rcases r with ((_|⟨(_|_),i⟩|⟨(_|_),k⟩)|_|_) <;> rcases r' with ((_|⟨(_|_),i'⟩|⟨(_|_),k'⟩)|_|_) <;>
    simp [serialize, toProtobufRoute, redis_request.Routes.encode, redis_request.SlotKeyRoute.encode]

theorem slot_id_routes_serialize_alike :
    (toProtobufRoute (some (.single (.slotId ⟨.primarySlotId,5⟩)))).map redis_request.Routes.encode =
      (toProtobufRoute (some (.single (.slotId ⟨.primarySlotId,7⟩)))).map redis_request.Routes.encode :=
  rfl

end RedisClusterClient

end GlideClient
