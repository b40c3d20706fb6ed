import TransitRouting.Wire.Protobuf

/-!
# The routing messages

The messages of the routing protocol as they travel: a `Request` names two link ends (by id or
by integer code), optional points that override the links' own, a departure time and the
simulation clock; a `Response` echoes the request id and lists plan elements.

```
Request  { bytes request_id = 1; string mode = 2; string person_id = 3;
           oneof from_link { string from_link_id = 4; uint32 from_link_code = 10; }
           oneof to_link { string to_link_id = 5; uint32 to_link_code = 11; }
           Coord from_coord = 6; Coord to_coord = 7; uint32 departure_time = 8; uint32 now = 9; }
Coord    { double x = 1; double y = 2; }
Response { bytes request_id = 1; repeated PlanElement elements = 2; }
PlanElement { oneof element { Activity activity = 1; Leg leg = 2; } }
Activity { string act_type = 1; string link_id = 2; double x = 3; double y = 4;
           optional uint32 start_time = 5; optional uint32 end_time = 6;
           optional uint32 max_dur = 7; }
Leg      { string mode = 1; optional string routing_mode = 2; uint32 trav_time = 3;
           optional uint32 dep_time = 4; map<string, AttributeValue> attributes = 5;
           oneof route { GenericRoute generic_route = 6; NetworkRoute network_route = 7;
                         PtRoute pt_route = 8; } }
AttributeValue { oneof value { string string_value = 1; double double_value = 2;
                 int32 int_value = 3; bool bool_value = 4; } }
GenericRoute { string start_link = 1; string end_link = 2; double distance = 3;
               optional uint32 trav_time = 4; }
NetworkRoute { GenericRoute delegate = 1; repeated string route = 2; }
PtRouteDescription { string access_facility_id = 1; string egress_facility_id = 2;
                     uint32 boarding_time = 3; string transit_line_id = 4;
                     string transit_route_id = 5; }
PtRoute  { GenericRoute delegate = 1; PtRouteDescription information = 2; }
```

Writing follows proto3: plain fields equal to their default are left out, optional fields,
oneof members and message fields are written whenever present, and fields go in tag order. A
map entry is a small message with the key as field 1 (left out when empty) and the value as
field 2.

Reading a request merges fields as they come: a later scalar replaces an earlier one, a later
oneof member replaces the other member, and a repeated message field merges into the message
read so far.

## What this module delivers

- `Wire.Request` and `Wire.Request.decode`.
- `Wire.Response` and its parts, with `encode` for each.
-/

set_option autoImplicit false

namespace TransitRouting.Wire

open Protobuf

/-- A point on the wire. -/
structure Point where
  x : Float := 0
  y : Float := 0

/-- How a request names a link: by id or by its integer code. -/
inductive LinkRef where
  | id (s : String)
  | code (n : Nat)

/-- A routing request. -/
structure Request where
  requestId : List UInt8 := []
  mode : String := ""
  personId : String := ""
  fromLink : Option LinkRef := none
  toLink : Option LinkRef := none
  fromCoord : Option Point := none
  toCoord : Option Point := none
  departureTime : Nat := 0
  now : Nat := 0

/-! ## Reading requests -/

/-- One field of a point. -/
def Point.field (p : Point) (tag : Nat) (w : WireType) (depth : Nat) : Decoder Point :=
  match tag with
  | 1 => within "Coord" "x" do return { p with x := ← doubleField w }
  | 2 => within "Coord" "y" do return { p with y := ← doubleField w }
  | _ => do skip depth w tag; return p

/-- One field of a request. -/
def Request.field (r : Request) (tag : Nat) (w : WireType) (depth : Nat) : Decoder Request :=
  match tag with
  | 1 => within "Request" "request_id" do return { r with requestId := ← bytesField w }
  | 2 => within "Request" "mode" do return { r with mode := ← stringField w }
  | 3 => within "Request" "person_id" do return { r with personId := ← stringField w }
  | 4 => within "Request" "from_link" do return { r with fromLink := some (.id (← stringField w)) }
  | 10 => within "Request" "from_link" do
    return { r with fromLink := some (.code (← uint32Field w)) }
  | 5 => within "Request" "to_link" do return { r with toLink := some (.id (← stringField w)) }
  | 11 => within "Request" "to_link" do return { r with toLink := some (.code (← uint32Field w)) }
  | 6 => within "Request" "from_coord" do
    return { r with fromCoord := some (← nested w depth (r.fromCoord.getD {}) Point.field) }
  | 7 => within "Request" "to_coord" do
    return { r with toCoord := some (← nested w depth (r.toCoord.getD {}) Point.field) }
  | 8 => within "Request" "departure_time" do return { r with departureTime := ← uint32Field w }
  | 9 => within "Request" "now" do return { r with now := ← uint32Field w }
  | _ => do skip depth w tag; return r

/-- Read a request. -/
def Request.decode (bytes : List UInt8) : Except DecodeError Request :=
  (fields {} Request.field).run' bytes

/-! ## Responses -/

/-- A typed attribute value on the wire. -/
inductive AttributeValue where
  | string (s : String)
  | double (x : Float)
  | int (i : Int)
  | bool (b : Bool)

/-- Route data shared by every kind of route. -/
structure GenericRoute where
  startLink : String
  endLink : String
  distance : Float
  travTime : Option Nat

/-- The transit part of a transit route. -/
structure PtRouteDescription where
  accessFacilityId : String
  egressFacilityId : String
  boardingTime : Nat
  transitLineId : String
  transitRouteId : String

/-- The route of a leg. -/
inductive LegRoute where
  | generic (r : GenericRoute)
  | network (delegate : GenericRoute) (route : List String)
  | pt (delegate : GenericRoute) (information : PtRouteDescription)

/-- A leg. -/
structure Leg where
  mode : String
  routingMode : Option String
  travTime : Nat
  depTime : Option Nat
  attributes : List (String × AttributeValue)
  route : LegRoute

/-- An activity. -/
structure Activity where
  actType : String
  linkId : String
  x : Float
  y : Float
  startTime : Option Nat
  endTime : Option Nat
  maxDur : Option Nat

/-- A plan element. -/
inductive PlanElement where
  | activity (a : Activity)
  | leg (l : Leg)

/-- A response. -/
structure Response where
  requestId : List UInt8
  elements : List PlanElement

/-! ## Writing -/

/-- The bytes of a text. -/
def textBytes (s : String) : List UInt8 := s.toUTF8.toList

/-- A plain string field. -/
def stringScalar (tag : Nat) (s : String) : List UInt8 := scalarDelimited tag (textBytes s)

/-- An optional unsigned field. -/
def optionalVarint (tag : Nat) : Option Nat → List UInt8
  | some n => varintField tag n
  | none => []

/-- The bytes of an attribute value. -/
def AttributeValue.encode : AttributeValue → List UInt8
  | .string s => delimitedField 1 (textBytes s)
  | .double x => doubleBytes 2 x
  | .int i => varintField 3 (int32Bits i)
  | .bool b => varintField 4 (if b then 1 else 0)

/-- The bytes of a map entry from a key to an attribute value. -/
def attributeEntry (key : String) (value : AttributeValue) : List UInt8 :=
  stringScalar 1 key ++ messageField 2 value.encode

/-- The bytes of a generic route. -/
def GenericRoute.encode (r : GenericRoute) : List UInt8 :=
  stringScalar 1 r.startLink ++ stringScalar 2 r.endLink ++ scalarDouble 3 r.distance ++
    optionalVarint 4 r.travTime

/-- The bytes of a transit route description. -/
def PtRouteDescription.encode (d : PtRouteDescription) : List UInt8 :=
  stringScalar 1 d.accessFacilityId ++ stringScalar 2 d.egressFacilityId ++
    scalarVarint 3 d.boardingTime ++ stringScalar 4 d.transitLineId ++
    stringScalar 5 d.transitRouteId

/-- The bytes of a leg's route, as the member of the leg's oneof. -/
def LegRoute.encode : LegRoute → List UInt8
  | .generic r => messageField 6 r.encode
  | .network delegate route =>
    messageField 7 (messageField 1 delegate.encode ++
      (route.map fun s => delimitedField 2 (textBytes s)).flatten)
  | .pt delegate information =>
    messageField 8 (messageField 1 delegate.encode ++ messageField 2 information.encode)

/-- The bytes of a leg. -/
def Leg.encode (l : Leg) : List UInt8 :=
  stringScalar 1 l.mode ++
    (match l.routingMode with
      | some m => delimitedField 2 (textBytes m)
      | none => []) ++
    scalarVarint 3 l.travTime ++ optionalVarint 4 l.depTime ++
    (l.attributes.map fun (k, v) => messageField 5 (attributeEntry k v)).flatten ++
    l.route.encode

/-- The bytes of an activity. -/
def Activity.encode (a : Activity) : List UInt8 :=
  stringScalar 1 a.actType ++ stringScalar 2 a.linkId ++ scalarDouble 3 a.x ++
    scalarDouble 4 a.y ++ optionalVarint 5 a.startTime ++ optionalVarint 6 a.endTime ++
    optionalVarint 7 a.maxDur

/-- The bytes of a plan element. -/
def PlanElement.encode : PlanElement → List UInt8
  | .activity a => messageField 1 a.encode
  | .leg l => messageField 2 l.encode

/-- The bytes of a response. -/
def Response.encode (r : Response) : List UInt8 :=
  scalarDelimited 1 r.requestId ++
    (r.elements.map fun e => messageField 2 e.encode).flatten

end TransitRouting.Wire
