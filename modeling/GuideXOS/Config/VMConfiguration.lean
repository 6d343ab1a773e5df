import GuideXOS.Config.JsonUtils

/-!
# `VMConfiguration` — configurations, and how they are written and read

Each part of a configuration writes its members in a fixed order and reads them in any order; a member that is not
there keeps its default, and the value of a key that is not known is left where it is.
-/

namespace GuideXOS.Config
open Core Lib.Reading JsonParser

/-! ## The parts -/

structure CPUConfiguration where
  isaType : Text := text "IA-64"
  cpuCount : UInt64 := 1
  clockFrequency : UInt64 := 0
  enableProfiling : Bool := false
  deriving DecidableEq

def CPUConfiguration.toJson (config : CPUConfiguration) (builder : JsonBuilder) : JsonBuilder :=
  builder.beginObject
    |>.writeString (text "isaType") config.isaType
    |>.writeNumber (text "cpuCount") config.cpuCount.toNat
    |>.writeNumber (text "clockFrequency") config.clockFrequency.toNat
    |>.writeBool (text "enableProfiling") config.enableProfiling
    |>.endObject

variable (key : Text)

def CPUConfiguration.readMember (config : CPUConfiguration) : Parser CPUConfiguration :=
  if key = text "isaType" then do return { config with isaType := ← parseString }
  else if key = text "cpuCount" then do return { config with cpuCount := ← parseNumber }
  else if key = text "clockFrequency" then do return { config with clockFrequency := ← parseNumber }
  else if key = text "enableProfiling" then do return { config with enableProfiling := ← parseBool }
  else return config

def CPUConfiguration.fromJson : Parser CPUConfiguration := readObject readMember {}

structure MemoryConfiguration where
  memorySize : UInt64 := 16 * 1024 * 1024
  enableMMU : Bool := true
  enablePaging : Bool := false
  pageSize : UInt64 := 4096
  deriving DecidableEq

def MemoryConfiguration.toJson (config : MemoryConfiguration) (builder : JsonBuilder) : JsonBuilder :=
  builder.beginObject
    |>.writeNumber (text "memorySize") config.memorySize.toNat
    |>.writeBool (text "enableMMU") config.enableMMU
    |>.writeBool (text "enablePaging") config.enablePaging
    |>.writeNumber (text "pageSize") config.pageSize.toNat
    |>.endObject

def MemoryConfiguration.readMember (config : MemoryConfiguration) : Parser MemoryConfiguration :=
  if key = text "memorySize" then do return { config with memorySize := ← parseNumber }
  else if key = text "enableMMU" then do return { config with enableMMU := ← parseBool }
  else if key = text "enablePaging" then do return { config with enablePaging := ← parseBool }
  else if key = text "pageSize" then do return { config with pageSize := ← parseNumber }
  else return config

def MemoryConfiguration.fromJson : Parser MemoryConfiguration := readObject readMember {}

structure StorageConfiguration where
  deviceId : Text := text "disk0"
  deviceType : Text := text "raw"
  imagePath : Text := []
  readOnly : Bool := false
  sizeBytes : UInt64 := 0
  blockSize : UInt32 := 512
  deriving DecidableEq

def StorageConfiguration.toJson (config : StorageConfiguration) (builder : JsonBuilder) : JsonBuilder :=
  builder.beginObject
    |>.writeString (text "deviceId") config.deviceId
    |>.writeString (text "deviceType") config.deviceType
    |>.writeString (text "imagePath") config.imagePath
    |>.writeBool (text "readOnly") config.readOnly
    |>.writeNumber (text "sizeBytes") config.sizeBytes.toNat
    |>.writeNumber (text "blockSize") config.blockSize.toNat
    |>.endObject

def StorageConfiguration.readMember (config : StorageConfiguration) : Parser StorageConfiguration :=
  if key = text "deviceId" then do return { config with deviceId := ← parseString }
  else if key = text "deviceType" then do return { config with deviceType := ← parseString }
  else if key = text "imagePath" then do return { config with imagePath := ← parseString }
  else if key = text "readOnly" then do return { config with readOnly := ← parseBool }
  else if key = text "sizeBytes" then do return { config with sizeBytes := ← parseNumber }
  else if key = text "blockSize" then do return { config with blockSize := (← parseNumber).toUInt32 }
  else return config

def StorageConfiguration.fromJson : Parser StorageConfiguration := readObject readMember {}

structure BootConfiguration where
  bootDevice : Text := text "disk0"
  kernelPath : Text := []
  initrdPath : Text := []
  bootArgs : Text := []
  entryPoint : UInt64 := 0
  directBoot : Bool := false
  deriving DecidableEq

def BootConfiguration.toJson (config : BootConfiguration) (builder : JsonBuilder) : JsonBuilder :=
  builder.beginObject
    |>.writeString (text "bootDevice") config.bootDevice
    |>.writeString (text "kernelPath") config.kernelPath
    |>.writeString (text "initrdPath") config.initrdPath
    |>.writeString (text "bootArgs") config.bootArgs
    |>.writeNumber (text "entryPoint") config.entryPoint.toNat
    |>.writeBool (text "directBoot") config.directBoot
    |>.endObject

def BootConfiguration.readMember (config : BootConfiguration) : Parser BootConfiguration :=
  if key = text "bootDevice" then do return { config with bootDevice := ← parseString }
  else if key = text "kernelPath" then do return { config with kernelPath := ← parseString }
  else if key = text "initrdPath" then do return { config with initrdPath := ← parseString }
  else if key = text "bootArgs" then do return { config with bootArgs := ← parseString }
  else if key = text "entryPoint" then do return { config with entryPoint := ← parseNumber }
  else if key = text "directBoot" then do return { config with directBoot := ← parseBool }
  else return config

def BootConfiguration.fromJson : Parser BootConfiguration := readObject readMember {}

structure NetworkConfiguration where
  interfaceId : Text := text "eth0"
  interfaceType : Text := text "user"
  macAddress : Text := []
  enableDHCP : Bool := true
  ipAddress : Text := []
  gateway : Text := []
  deriving DecidableEq

def NetworkConfiguration.toJson (config : NetworkConfiguration) (builder : JsonBuilder) : JsonBuilder :=
  builder.beginObject
    |>.writeString (text "interfaceId") config.interfaceId
    |>.writeString (text "interfaceType") config.interfaceType
    |>.writeString (text "macAddress") config.macAddress
    |>.writeBool (text "enableDHCP") config.enableDHCP
    |>.writeString (text "ipAddress") config.ipAddress
    |>.writeString (text "gateway") config.gateway
    |>.endObject

def NetworkConfiguration.readMember (config : NetworkConfiguration) : Parser NetworkConfiguration :=
  if key = text "interfaceId" then do return { config with interfaceId := ← parseString }
  else if key = text "interfaceType" then do return { config with interfaceType := ← parseString }
  else if key = text "macAddress" then do return { config with macAddress := ← parseString }
  else if key = text "enableDHCP" then do return { config with enableDHCP := ← parseBool }
  else if key = text "ipAddress" then do return { config with ipAddress := ← parseString }
  else if key = text "gateway" then do return { config with gateway := ← parseString }
  else return config

def NetworkConfiguration.fromJson : Parser NetworkConfiguration := readObject readMember {}

/-! ## The configuration of a machine -/

structure VMConfiguration where
  name : Text := text "vm"
  description : Text := []
  uuid : Text := []
  cpu : CPUConfiguration := {}
  memory : MemoryConfiguration := {}
  storageDevices : List StorageConfiguration := []
  boot : BootConfiguration := {}
  networkInterfaces : List NetworkConfiguration := []
  enableDebugger : Bool := false
  enableSnapshots : Bool := true
  autoStart : Bool := false
  maxCycles : UInt64 := 0
  deriving DecidableEq

/-- The elements of an array, each on a line of its own. -/
def writeElements {α : Type} (toJson : α → JsonBuilder → JsonBuilder) (elements : List α) (builder : JsonBuilder) :
    JsonBuilder :=
  (elements.foldl (fun builder element => toJson element builder.writeArrayElement) builder.beginArray).endArray

def VMConfiguration.write (config : VMConfiguration) (builder : JsonBuilder) : JsonBuilder :=
  builder.beginObject
    |>.writeString (text "name") config.name
    |>.writeString (text "description") config.description
    |>.writeString (text "uuid") config.uuid
    |>.writeKey (text "cpu") |> config.cpu.toJson
    |>.writeKey (text "memory") |> config.memory.toJson
    |>.writeKey (text "storageDevices") |> writeElements StorageConfiguration.toJson config.storageDevices
    |>.writeKey (text "boot") |> config.boot.toJson
    |>.writeKey (text "networkInterfaces") |> writeElements NetworkConfiguration.toJson config.networkInterfaces
    |>.writeBool (text "enableDebugger") config.enableDebugger
    |>.writeBool (text "enableSnapshots") config.enableSnapshots
    |>.writeBool (text "autoStart") config.autoStart
    |>.writeNumber (text "maxCycles") config.maxCycles.toNat
    |>.endObject

/-- **`toJson`**. -/
def VMConfiguration.toJson (config : VMConfiguration) : Text := (config.write {}).buffer

def VMConfiguration.readMember (config : VMConfiguration) : Parser VMConfiguration :=
  if key = text "name" then do return { config with name := ← parseString }
  else if key = text "description" then do return { config with description := ← parseString }
  else if key = text "uuid" then do return { config with uuid := ← parseString }
  else if key = text "cpu" then do return { config with cpu := ← CPUConfiguration.fromJson }
  else if key = text "memory" then do return { config with memory := ← MemoryConfiguration.fromJson }
  else if key = text "storageDevices" then do
    return { config with storageDevices := ← readArray StorageConfiguration.fromJson config.storageDevices }
  else if key = text "boot" then do return { config with boot := ← BootConfiguration.fromJson }
  else if key = text "networkInterfaces" then do
    return { config with networkInterfaces := ← readArray NetworkConfiguration.fromJson config.networkInterfaces }
  else if key = text "enableDebugger" then do return { config with enableDebugger := ← parseBool }
  else if key = text "enableSnapshots" then do return { config with enableSnapshots := ← parseBool }
  else if key = text "autoStart" then do return { config with autoStart := ← parseBool }
  else if key = text "maxCycles" then do return { config with maxCycles := ← parseNumber }
  else return config

/-- **`fromJson`**. -/
def VMConfiguration.fromJson (json : Text) : Except JsonError VMConfiguration :=
  (readObject readMember {} ⟨0, json⟩).map Prod.fst

end GuideXOS.Config
