import RoomCall.Description.Kind

/-!
# Capture devices

The inventory lists the microphones and cameras of a device in the order in which they were last
plugged in. Users know devices by name, notifications by identifier. A preferred device is used if
it is there; otherwise the first one is.
-/

namespace RoomCall

/-- A microphone. -/
structure Microphone where
  id : String
  name : String
  deriving DecidableEq, Inhabited, Repr

/-- A resolution of a camera and the frame rates it has there. -/
structure CaptureMode where
  resolution : String
  frameRates : List String
  deriving DecidableEq, Inhabited, Repr

/-- A camera. -/
structure Camera where
  id : String
  name : String
  modes : List CaptureMode := []
  deriving DecidableEq, Inhabited, Repr

def Microphone.ofJson? (value : Json) : Option Microphone := do
  let fields ← Json.fields? ["id", "name"] value
  let id ← fields.required "id" Json.text?
  let name ← fields.required "name" Json.text?
  return ⟨id, name⟩

def CaptureMode.ofJson? (value : Json) : Option CaptureMode := do
  let fields ← Json.fields? ["resolution", "frame_rates"] value
  let resolution ← fields.required "resolution" Json.text?
  let frameRates ← fields.required "frame_rates" (Json.list? Json.text?)
  return ⟨resolution, frameRates⟩

def CaptureMode.toJson (mode : CaptureMode) : Json :=
  Json.ofMembers
    [("resolution", .string mode.resolution),
      ("frame_rates", .array (mode.frameRates.map Json.string))]

def Camera.ofJson? (value : Json) : Option Camera := do
  let fields ← Json.fields? ["id", "name", "caps"] value
  let id ← fields.required "id" Json.text?
  let name ← fields.required "name" Json.text?
  let modes ← fields.defaulted "caps" (Json.list? CaptureMode.ofJson?) []
  return ⟨id, name, modes⟩

def Camera.toJson (camera : Camera) : Json :=
  Json.ofMembers
    [("id", .string camera.id), ("name", .string camera.name),
      ("caps", .array (camera.modes.map CaptureMode.toJson))]

/-- A device that was plugged in or went away. -/
inductive Hotplug where
  | microphone (device : Microphone)
  | camera (device : Camera)
  | removed (id : String)
  deriving DecidableEq, Repr

/-- The capture devices of one device. -/
structure Inventory where
  microphones : List Microphone := []
  cameras : List Camera := []
  deriving DecidableEq, Inhabited, Repr

/-- Reads what was plugged in or went away; of several the microphone counts, then the camera. -/
def Hotplug.ofJson? (value : Json) : Option Hotplug := do
  let fields ← Json.fields? ["audio", "video", "removed"] value
  match fields.value? "audio", fields.value? "video" with
  | some device, _ => (Microphone.ofJson? device).map .microphone
  | none, some device => (Camera.ofJson? device).map .camera
  | none, none => (fields.required "removed" Json.text?).map .removed

namespace Inventory

def ofJson? (value : Json) : Option Inventory := do
  let fields ← Json.fields? ["audio", "video"] value
  let microphones ← fields.defaulted "audio" (Json.list? Microphone.ofJson?) []
  let cameras ← fields.defaulted "video" (Json.list? Camera.ofJson?) []
  return ⟨microphones, cameras⟩

/-- The inventory after a notification, and whether it changed anything. A device that is plugged
in again takes the last place. -/
def apply (inventory : Inventory) : Hotplug → Inventory × Bool
  | .microphone device =>
      let others := inventory.microphones.filter fun known => known.id ≠ device.id
      ({ inventory with microphones := others ++ [device] }, true)
  | .camera device =>
      let others := inventory.cameras.filter fun known => known.id ≠ device.id
      ({ inventory with cameras := others ++ [device] }, true)
  | .removed id =>
      let microphones := inventory.microphones.filter fun known => known.id ≠ id
      let cameras := inventory.cameras.filter fun known => known.id ≠ id
      ({ microphones := microphones, cameras := cameras },
        microphones.length + cameras.length ≠
          inventory.microphones.length + inventory.cameras.length)

/-- Whether there is a microphone. -/
def hasMicrophone (inventory : Inventory) : Bool :=
  !inventory.microphones.isEmpty

/-- Whether there is a camera. -/
def hasCamera (inventory : Inventory) : Bool :=
  !inventory.cameras.isEmpty

/-- The names of the devices for a medium, in the order of the inventory. -/
def deviceNames (inventory : Inventory) : Medium → List String
  | .audio => inventory.microphones.map Microphone.name
  | .video => inventory.cameras.map Camera.name

/-- A list with the first occurrence of an item moved to the front. -/
def promote (item : String) (items : List String) : List String :=
  if items.contains item then item :: items.erase item else items

/-- The names of the devices for a medium, with the preferred one first if it is there. -/
def names (inventory : Inventory) (medium : Medium) (preferred : Option String) : List String :=
  match preferred with
  | some name => promote name (inventory.deviceNames medium)
  | none => inventory.deviceNames medium

/-- The first camera with a name. -/
def camera? (inventory : Inventory) (name : String) : Option Camera :=
  inventory.cameras.find? fun camera => camera.name = name

/-- The resolutions of a camera. -/
def resolutions (inventory : Inventory) (name : String) : List String :=
  match inventory.camera? name with
  | some camera => camera.modes.map CaptureMode.resolution
  | none => []

/-- The frame rates of a camera at a resolution. -/
def frameRates (inventory : Inventory) (name resolution : String) : List String :=
  match inventory.camera? name with
  | some camera =>
      match camera.modes.find? fun mode => mode.resolution = resolution with
      | some mode => mode.frameRates
      | none => []
  | none => []

/-- The first device with a preferred name if there is one, otherwise the first device. -/
def preferred? {α : Type} (nameOf : α → String) (devices : List α) (name : Option String) :
    Option α :=
  (name >>= fun name => devices.find? fun device => nameOf device = name) <|> devices.head?

/-- The name of the device to capture a medium from: the preferred one if it is there, otherwise the
first. -/
def choose (inventory : Inventory) (medium : Medium) (preferred : Option String) :
    Option String :=
  match medium with
  | .audio => (preferred? Microphone.name inventory.microphones preferred).map Microphone.name
  | .video => (preferred? Camera.name inventory.cameras preferred).map Camera.name

end Inventory

end RoomCall
