/-
Module: BoxProbe.Protocol.MessageType
Purpose: The message types of the control box's frontend protocol and their numbers.
Main exports: MessageType, MessageType.code, MessageType.ofCode?, MessageType.name
-/

/-!
Every frame of the protocol is one flat object whose integer type says what it means.  The numbers
run from 0 to 25 without a gap; any other integer is a frame of unknown meaning.
-/

namespace BoxProbe

/-- What a frame is for. -/
inductive MessageType where
  | text
  | qrCode
  | acknowledge
  | entityListChanged
  | getEntityList
  | getAllData
  | setConsumptionLimit
  | getConsumptionLimit
  | setProductionLimit
  | getProductionLimit
  | setConsumptionFailsafeValue
  | getConsumptionFailsafeValue
  | setConsumptionFailsafeDuration
  | getConsumptionFailsafeDuration
  | setProductionFailsafeValue
  | getProductionFailsafeValue
  | setProductionFailsafeDuration
  | getProductionFailsafeDuration
  | getConsumptionNominalMax
  | getProductionNominalMax
  | getConsumptionHeartbeat
  | stopConsumptionHeartbeat
  | startConsumptionHeartbeat
  | getProductionHeartbeat
  | stopProductionHeartbeat
  | startProductionHeartbeat
deriving DecidableEq, Repr

namespace MessageType

/-- All types, by ascending number. -/
def all : List MessageType :=
  [.text, .qrCode, .acknowledge, .entityListChanged, .getEntityList, .getAllData,
    .setConsumptionLimit, .getConsumptionLimit, .setProductionLimit, .getProductionLimit,
    .setConsumptionFailsafeValue, .getConsumptionFailsafeValue,
    .setConsumptionFailsafeDuration, .getConsumptionFailsafeDuration,
    .setProductionFailsafeValue, .getProductionFailsafeValue,
    .setProductionFailsafeDuration, .getProductionFailsafeDuration,
    .getConsumptionNominalMax, .getProductionNominalMax,
    .getConsumptionHeartbeat, .stopConsumptionHeartbeat, .startConsumptionHeartbeat,
    .getProductionHeartbeat, .stopProductionHeartbeat, .startProductionHeartbeat]

/-- The number of a type on the wire. -/
def code : MessageType → Nat
  | .text => 0
  | .qrCode => 1
  | .acknowledge => 2
  | .entityListChanged => 3
  | .getEntityList => 4
  | .getAllData => 5
  | .setConsumptionLimit => 6
  | .getConsumptionLimit => 7
  | .setProductionLimit => 8
  | .getProductionLimit => 9
  | .setConsumptionFailsafeValue => 10
  | .getConsumptionFailsafeValue => 11
  | .setConsumptionFailsafeDuration => 12
  | .getConsumptionFailsafeDuration => 13
  | .setProductionFailsafeValue => 14
  | .getProductionFailsafeValue => 15
  | .setProductionFailsafeDuration => 16
  | .getProductionFailsafeDuration => 17
  | .getConsumptionNominalMax => 18
  | .getProductionNominalMax => 19
  | .getConsumptionHeartbeat => 20
  | .stopConsumptionHeartbeat => 21
  | .startConsumptionHeartbeat => 22
  | .getProductionHeartbeat => 23
  | .stopProductionHeartbeat => 24
  | .startProductionHeartbeat => 25

/-- The type of a number, if it is one of the protocol. -/
def ofCode? (n : Int) : Option MessageType :=
  if n < 0 then none else all[n.toNat]?

/-- The name of a type in messages for people. -/
def name : MessageType → String
  | .text => "TEXT"
  | .qrCode => "QR_CODE"
  | .acknowledge => "ACKNOWLEDGE"
  | .entityListChanged => "ENTITY_LIST_CHANGED"
  | .getEntityList => "GET_ENTITY_LIST"
  | .getAllData => "GET_ALL_DATA"
  | .setConsumptionLimit => "SET_CONSUMPTION_LIMIT"
  | .getConsumptionLimit => "GET_CONSUMPTION_LIMIT"
  | .setProductionLimit => "SET_PRODUCTION_LIMIT"
  | .getProductionLimit => "GET_PRODUCTION_LIMIT"
  | .setConsumptionFailsafeValue => "SET_CONSUMPTION_FAILSAFE_VALUE"
  | .getConsumptionFailsafeValue => "GET_CONSUMPTION_FAILSAFE_VALUE"
  | .setConsumptionFailsafeDuration => "SET_CONSUMPTION_FAILSAFE_DURATION"
  | .getConsumptionFailsafeDuration => "GET_CONSUMPTION_FAILSAFE_DURATION"
  | .setProductionFailsafeValue => "SET_PRODUCTION_FAILSAFE_VALUE"
  | .getProductionFailsafeValue => "GET_PRODUCTION_FAILSAFE_VALUE"
  | .setProductionFailsafeDuration => "SET_PRODUCTION_FAILSAFE_DURATION"
  | .getProductionFailsafeDuration => "GET_PRODUCTION_FAILSAFE_DURATION"
  | .getConsumptionNominalMax => "GET_CONSUMPTION_NOMINAL_MAX"
  | .getProductionNominalMax => "GET_PRODUCTION_NOMINAL_MAX"
  | .getConsumptionHeartbeat => "GET_CONSUMPTION_HEARTBEAT"
  | .stopConsumptionHeartbeat => "STOP_CONSUMPTION_HEARTBEAT"
  | .startConsumptionHeartbeat => "START_CONSUMPTION_HEARTBEAT"
  | .getProductionHeartbeat => "GET_PRODUCTION_HEARTBEAT"
  | .stopProductionHeartbeat => "STOP_PRODUCTION_HEARTBEAT"
  | .startProductionHeartbeat => "START_PRODUCTION_HEARTBEAT"

/-- The number of a type is its place in the list of all types. -/
theorem all_getElem?_code (t : MessageType) : all[t.code]? = some t := by
  cases t <;> rfl

theorem ofCode?_code (t : MessageType) : ofCode? t.code = some t := by
  cases t <;> rfl

end MessageType

end BoxProbe
