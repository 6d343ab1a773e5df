import GuideXOS.Config.JsonReading
import GuideXOS.Config.VMConfiguration

/-!
# `RoundTrip` — a configuration that is written and read again

The builder lays out the members of an object and the elements of an array as `Layout.lay` does (`leave_foldl`), so
what it writes of a configuration is the text of its items, and the parser gives what the items give. The one way the
round trip fails is a string with a byte that is not plain (`fromJson_toJson_iff`).
-/

namespace GuideXOS.Config
open Core Lib.Reading JsonParser

/-! ## What the builder writes -/

namespace JsonBuilder

variable {builder : JsonBuilder} (key : Text)

/-- One item, on a line of its own. -/
def writeItem (builder : JsonBuilder) (item : Text) : JsonBuilder := builder.writeArrayElement.put item

@[simp] theorem indentLevel_put (bytes : Text) : (builder.put bytes).indentLevel = builder.indentLevel := rfl

theorem put_put (bytes bytes' : Text) : (builder.put bytes).put bytes' = builder.put (bytes ++ bytes') := by
  rw [put, put, put, List.append_assoc]

@[simp] theorem indentLevel_writeArrayElement : builder.writeArrayElement.indentLevel = builder.indentLevel := by
  unfold writeArrayElement writeComma
  split <;> rfl

@[simp] theorem indentLevel_writeItem (item : Text) : (builder.writeItem item).indentLevel = builder.indentLevel := by
  rw [writeItem, indentLevel_put, indentLevel_writeArrayElement]

@[simp] theorem indentLevel_writeKey : (builder.writeKey key).indentLevel = builder.indentLevel :=
  indentLevel_writeArrayElement

theorem put_writeKey (value : Text) : (builder.writeKey key).put value = builder.writeItem (member key value) := by
  show (builder.writeArrayElement.put _).put value = _
  rw [put_put, writeItem, member, quoted]
  congr 1
  simp only [List.append_assoc, List.cons_append, List.nil_append]

theorem writeString_eq (value : Text) : builder.writeString key value = builder.writeItem (member key (quoted value)) :=
  put_writeKey key (quoted value)

theorem writeNumber_eq (value : Nat) :
    builder.writeNumber key value = builder.writeItem (member key (decimal value)) := put_writeKey key (decimal value)

theorem writeBool_eq (value : Bool) :
    builder.writeBool key value = builder.writeItem (member key (if value then text "true" else text "false")) :=
  put_writeKey key _

/-- The items after the first. -/
theorem foldl_writeItem {outer : List Bool} {level : Nat} {buffer : Text} (items : List Text) :
    items.foldl writeItem ⟨buffer, false :: outer, level⟩ =
      ⟨buffer ++ items.flatMap fun item => comma :: (line level ++ item), false :: outer, level⟩ := by
  induction items generalizing buffer with
  | nil => rw [List.flatMap_nil, List.append_nil]; rfl
  | cons item items ih =>
      have hitem : writeItem ⟨buffer, false :: outer, level⟩ item =
          ⟨buffer ++ (comma :: (line level ++ item)), false :: outer, level⟩ := by
        simp only [writeItem, writeArrayElement, writeComma, writeIndent, put, line, List.append_assoc, List.cons_append,
          List.nil_append]
      rw [List.foldl_cons, hitem, ih, List.flatMap_cons, List.append_assoc]

end JsonBuilder

variable (level : Nat) {config : VMConfiguration}

/-- Items that are laid out: the first, and the others each after a comma. -/
theorem lay_cons (item : Text) (items : List Text) :
    (layoutAt level).lay (item :: items) =
      line (level + 1) ++ (item ++ ((items.flatMap fun item => comma :: (line (level + 1) ++ item)) ++ line level)) := by
  rw [Layout.lay]
  congr 2
  induction items generalizing item with
  | nil => rfl
  | cons item items ih =>
      rw [if_neg (List.cons_ne_nil _ _), Layout.lay, ih item, List.flatMap_cons]
      simp only [layoutAt, List.append_assoc, List.cons_append, List.nil_append]

namespace JsonBuilder

/-- **Brackets.** What is written between an opening and a closing bracket. -/
theorem leave_foldl (builder : JsonBuilder) (opening closing : UInt8) (items : List Text) :
    (items.foldl writeItem (builder.enter opening)).leave closing =
      builder.put ([opening] ++ ((layoutAt builder.indentLevel).lay items ++ [closing])) := by
  cases items with
  | nil =>
      simp only [List.foldl_nil, enter, leave, put, writeIndent, Layout.lay, layoutAt, line, List.tail_cons,
        Nat.add_sub_cancel, List.append_assoc, List.cons_append, List.nil_append]
  | cons item items =>
      have hfirst : writeItem (builder.enter opening) item = ⟨builder.buffer ++ ([opening] ++
          (line (builder.indentLevel + 1) ++ item)), false :: builder.isFirstElement, builder.indentLevel + 1⟩ := by
        simp only [writeItem, writeArrayElement, writeComma, enter, writeIndent, put, line, List.append_assoc,
          List.cons_append, List.nil_append]
      rw [List.foldl_cons, hfirst, foldl_writeItem, lay_cons]
      simp only [leave, put, writeIndent, line, List.tail_cons, Nat.add_sub_cancel, List.append_assoc, List.cons_append,
        List.nil_append]

end JsonBuilder

/-! ## The parts -/

/-- A part of a configuration: how it is written and read, and the items that both go by. The items may depend on the
    level the part is written at. -/
structure Part (α : Type) where
  initial : α
  toJson : α → JsonBuilder → JsonBuilder
  readMember : Text → α → Parser α
  items : Nat → α → List (Item UInt8 α)
  strings : α → List Text
  writes : ∀ config builder, toJson config builder =
    (((items builder.indentLevel config).map Item.text).foldl JsonBuilder.writeItem builder.beginObject).endObject
  reads : ∀ level config, ∀ i ∈ items level config, Reads readMember i
  ok_iff : ∀ level config, (∀ i ∈ items level config, i.ok) ↔ ∀ str ∈ strings config, PlainText str
  updates : ∀ level config, (items level config).foldl (fun config i => i.update config) initial = config

namespace Part

variable {α : Type} (part : Part α)

/-- The text of a part, written at a level. -/
def written (level : Nat) (config : α) : Text := objectText level ((part.items level config).map Item.text)

theorem toJson_eq (config : α) (builder : JsonBuilder) :
    part.toJson config builder = builder.put (part.written builder.indentLevel config) := by
  rw [part.writes]
  exact builder.leave_foldl 0x7B 0x7D _

/-- **A part** is read back exactly if its strings are plain. -/
theorem gives {w : Text} (hw : Spaces w) (level : Nat) (config : α) :
    Gives invalidEscape (readObject part.readMember part.initial) (w ++ part.written level config) Anything
      (∀ str ∈ part.strings config, PlainText str) config := by
  have hread := gives_readObject hw level (part.reads level config) part.initial
  rw [part.updates] at hread
  exact hread.congr (part.ok_iff level config)

end Part

/-- A number of 32 bits, read as one of 64. -/
theorem ofNat_toUInt32 (n : UInt32) : (UInt64.ofNat n.toNat).toUInt32 = n := by
  refine UInt32.toNat_inj.mp ?_
  rw [UInt64.toNat_toUInt32, UInt64.toNat_ofNat_of_lt' (Nat.lt_trans n.toNat_lt (by decide))]
  exact Nat.mod_eq_of_lt n.toNat_lt

def cpuPart : Part CPUConfiguration where
  initial := {}
  toJson := CPUConfiguration.toJson
  readMember := CPUConfiguration.readMember
  items _ config := [
    stringItem (text "isaType") config.isaType fun isaType config => { config with isaType := isaType },
    numberItem (text "cpuCount") config.cpuCount.toNat fun cpuCount config => { config with cpuCount := cpuCount },
    numberItem (text "clockFrequency") config.clockFrequency.toNat fun clockFrequency config => { config with clockFrequency := clockFrequency },
    boolItem (text "enableProfiling") config.enableProfiling fun enableProfiling config => { config with enableProfiling := enableProfiling }]
  strings config := [config.isaType]
  writes config builder := by
    simp only [CPUConfiguration.toJson, JsonBuilder.writeString_eq, JsonBuilder.writeNumber_eq, JsonBuilder.writeBool_eq]
    rfl
  reads _ config := by
    simp only [List.forall_mem_cons]
    exact ⟨reads_string (by decide +kernel) _ fun _ => rfl,
      reads_number (by decide +kernel) (UInt64.toNat_lt _) fun _ => rfl,
      reads_number (by decide +kernel) (UInt64.toNat_lt _) fun _ => rfl,
      reads_bool (by decide +kernel) _ fun _ => rfl, List.forall_mem_nil _⟩
  ok_iff _ config := by simp [stringItem, numberItem, boolItem]
  updates _ config := by simp only [stringItem, numberItem, boolItem, List.foldl_cons, List.foldl_nil, UInt64.ofNat_toNat]

def memoryPart : Part MemoryConfiguration where
  initial := {}
  toJson := MemoryConfiguration.toJson
  readMember := MemoryConfiguration.readMember
  items _ config := [
    numberItem (text "memorySize") config.memorySize.toNat fun memorySize config => { config with memorySize := memorySize },
    boolItem (text "enableMMU") config.enableMMU fun enableMMU config => { config with enableMMU := enableMMU },
    boolItem (text "enablePaging") config.enablePaging fun enablePaging config => { config with enablePaging := enablePaging },
    numberItem (text "pageSize") config.pageSize.toNat fun pageSize config => { config with pageSize := pageSize }]
  strings _ := []
  writes config builder := by
    simp only [MemoryConfiguration.toJson, JsonBuilder.writeNumber_eq, JsonBuilder.writeBool_eq]
    rfl
  reads _ config := by
    simp only [List.forall_mem_cons]
    exact ⟨reads_number (by decide +kernel) (UInt64.toNat_lt _) fun _ => rfl,
      reads_bool (by decide +kernel) _ fun _ => rfl,
      reads_bool (by decide +kernel) _ fun _ => rfl,
      reads_number (by decide +kernel) (UInt64.toNat_lt _) fun _ => rfl, List.forall_mem_nil _⟩
  ok_iff _ config := by simp [numberItem, boolItem]
  updates _ config := by simp only [numberItem, boolItem, List.foldl_cons, List.foldl_nil, UInt64.ofNat_toNat]

def storagePart : Part StorageConfiguration where
  initial := {}
  toJson := StorageConfiguration.toJson
  readMember := StorageConfiguration.readMember
  items _ config := [
    stringItem (text "deviceId") config.deviceId fun deviceId config => { config with deviceId := deviceId },
    stringItem (text "deviceType") config.deviceType fun deviceType config => { config with deviceType := deviceType },
    stringItem (text "imagePath") config.imagePath fun imagePath config => { config with imagePath := imagePath },
    boolItem (text "readOnly") config.readOnly fun readOnly config => { config with readOnly := readOnly },
    numberItem (text "sizeBytes") config.sizeBytes.toNat fun sizeBytes config => { config with sizeBytes := sizeBytes },
    numberItem (text "blockSize") config.blockSize.toNat fun blockSize config => { config with blockSize := blockSize.toUInt32 }]
  strings config := [config.deviceId, config.deviceType, config.imagePath]
  writes config builder := by
    simp only [StorageConfiguration.toJson, JsonBuilder.writeString_eq, JsonBuilder.writeNumber_eq, JsonBuilder.writeBool_eq]
    rfl
  reads _ config := by
    simp only [List.forall_mem_cons]
    exact ⟨reads_string (by decide +kernel) _ fun _ => rfl,
      reads_string (by decide +kernel) _ fun _ => rfl,
      reads_string (by decide +kernel) _ fun _ => rfl,
      reads_bool (by decide +kernel) _ fun _ => rfl,
      reads_number (by decide +kernel) (UInt64.toNat_lt _) fun _ => rfl,
      reads_number (by decide +kernel) (Nat.lt_trans (UInt32.toNat_lt _) (by decide)) fun _ => rfl, List.forall_mem_nil _⟩
  ok_iff _ config := by simp [stringItem, numberItem, boolItem]
  updates _ config := by simp only [stringItem, numberItem, boolItem, List.foldl_cons, List.foldl_nil, UInt64.ofNat_toNat, ofNat_toUInt32]

def bootPart : Part BootConfiguration where
  initial := {}
  toJson := BootConfiguration.toJson
  readMember := BootConfiguration.readMember
  items _ config := [
    stringItem (text "bootDevice") config.bootDevice fun bootDevice config => { config with bootDevice := bootDevice },
    stringItem (text "kernelPath") config.kernelPath fun kernelPath config => { config with kernelPath := kernelPath },
    stringItem (text "initrdPath") config.initrdPath fun initrdPath config => { config with initrdPath := initrdPath },
    stringItem (text "bootArgs") config.bootArgs fun bootArgs config => { config with bootArgs := bootArgs },
    numberItem (text "entryPoint") config.entryPoint.toNat fun entryPoint config => { config with entryPoint := entryPoint },
    boolItem (text "directBoot") config.directBoot fun directBoot config => { config with directBoot := directBoot }]
  strings config := [config.bootDevice, config.kernelPath, config.initrdPath, config.bootArgs]
  writes config builder := by
    simp only [BootConfiguration.toJson, JsonBuilder.writeString_eq, JsonBuilder.writeNumber_eq, JsonBuilder.writeBool_eq]
    rfl
  reads _ config := by
    simp only [List.forall_mem_cons]
    exact ⟨reads_string (by decide +kernel) _ fun _ => rfl,
      reads_string (by decide +kernel) _ fun _ => rfl,
      reads_string (by decide +kernel) _ fun _ => rfl,
      reads_string (by decide +kernel) _ fun _ => rfl,
      reads_number (by decide +kernel) (UInt64.toNat_lt _) fun _ => rfl,
      reads_bool (by decide +kernel) _ fun _ => rfl, List.forall_mem_nil _⟩
  ok_iff _ config := by simp [stringItem, numberItem, boolItem]
  updates _ config := by simp only [stringItem, numberItem, boolItem, List.foldl_cons, List.foldl_nil, UInt64.ofNat_toNat]

def networkPart : Part NetworkConfiguration where
  initial := {}
  toJson := NetworkConfiguration.toJson
  readMember := NetworkConfiguration.readMember
  items _ config := [
    stringItem (text "interfaceId") config.interfaceId fun interfaceId config => { config with interfaceId := interfaceId },
    stringItem (text "interfaceType") config.interfaceType fun interfaceType config => { config with interfaceType := interfaceType },
    stringItem (text "macAddress") config.macAddress fun macAddress config => { config with macAddress := macAddress },
    boolItem (text "enableDHCP") config.enableDHCP fun enableDHCP config => { config with enableDHCP := enableDHCP },
    stringItem (text "ipAddress") config.ipAddress fun ipAddress config => { config with ipAddress := ipAddress },
    stringItem (text "gateway") config.gateway fun gateway config => { config with gateway := gateway }]
  strings config := [config.interfaceId, config.interfaceType, config.macAddress, config.ipAddress, config.gateway]
  writes config builder := by
    simp only [NetworkConfiguration.toJson, JsonBuilder.writeString_eq, JsonBuilder.writeBool_eq]
    rfl
  reads _ config := by
    simp only [List.forall_mem_cons]
    exact ⟨reads_string (by decide +kernel) _ fun _ => rfl,
      reads_string (by decide +kernel) _ fun _ => rfl,
      reads_string (by decide +kernel) _ fun _ => rfl,
      reads_bool (by decide +kernel) _ fun _ => rfl,
      reads_string (by decide +kernel) _ fun _ => rfl,
      reads_string (by decide +kernel) _ fun _ => rfl, List.forall_mem_nil _⟩
  ok_iff _ config := by simp [stringItem, boolItem]
  updates _ config := by simp only [stringItem, boolItem, List.foldl_cons, List.foldl_nil]

/-! ## Parts in a configuration -/

section Nested

variable {α β : Type} (part : Part β)

/-- Elements are written as items, each a part one level down. -/
theorem writeElements_eq (elements : List β) (builder : JsonBuilder) :
    writeElements part.toJson elements builder =
      builder.put (arrayText builder.indentLevel (elements.map (part.written (builder.indentLevel + 1)))) := by
  have hitems : ∀ inner : JsonBuilder, inner.indentLevel = builder.indentLevel + 1 →
      elements.foldl (fun inner element => part.toJson element inner.writeArrayElement) inner =
        (elements.map (part.written (builder.indentLevel + 1))).foldl JsonBuilder.writeItem inner := by
    induction elements with
    | nil => exact fun _ _ => rfl
    | cons element elements ih =>
        intro inner hlevel
        rw [List.foldl_cons, List.map_cons, List.foldl_cons, part.toJson_eq,
          JsonBuilder.indentLevel_writeArrayElement, hlevel]
        exact ih _ ((JsonBuilder.indentLevel_writeItem _).trans hlevel)
  rw [writeElements, hitems builder.beginArray rfl]
  exact builder.leave_foldl 0x5B 0x5D _

def partItem (key : Text) (level : Nat) (config : β) (set : β → α → α) : Item UInt8 α :=
  ⟨member key (part.written level config), ∀ str ∈ part.strings config, PlainText str, set config⟩

def arrayItem (key : Text) (level : Nat) (elements : List β) (add : List β → α → α) : Item UInt8 α :=
  ⟨member key (arrayText level (elements.map (part.written (level + 1)))),
    ∀ element ∈ elements, ∀ str ∈ part.strings element, PlainText str, add elements⟩

variable {part} {readMember : Text → α → Parser α} {key : Text}

theorem reads_part (hkey : PlainText key) (level : Nat) (config : β) {set : β → α → α}
    (hread : ∀ whole, readMember key whole =
      readObject part.readMember part.initial >>= fun config => pure (set config whole)) :
    Reads readMember (partItem part key level config set) := by
  refine reads_member hkey fun whole => ?_
  rw [hread]
  exact ((part.gives spaces_space level config).map (set · whole)).weaken fun _ _ => trivial

theorem reads_array (before : α → List β) (set : List β → α → α) (hkey : PlainText key) (level : Nat)
    (elements : List β) (hread : ∀ whole, readMember key whole =
      readArray (readObject part.readMember part.initial) (before whole) >>= fun elements => pure (set elements whole)) :
    Reads readMember (arrayItem part key level elements fun elements whole => set (before whole ++ elements) whole) := by
  refine reads_member hkey fun whole => ?_
  rw [hread]
  have helements := gives_readArray spaces_space level (fun config (_ : config ∈ elements) =>
    ⟨fun _ => ⟨_, rfl⟩, part.gives spaces_nil (level + 1) config⟩) (before whole)
  exact (helements.map (set · whole)).weaken fun _ _ => trivial

end Nested

theorem reads_storageDevices (devices : List StorageConfiguration) :
    Reads VMConfiguration.readMember (arrayItem storagePart (text "storageDevices") level devices fun devices whole =>
      { whole with storageDevices := whole.storageDevices ++ devices }) :=
  reads_array VMConfiguration.storageDevices (fun devices whole => { whole with storageDevices := devices })
    (by decide +kernel) level devices fun _ => rfl

theorem reads_networkInterfaces (interfaces : List NetworkConfiguration) :
    Reads VMConfiguration.readMember (arrayItem networkPart (text "networkInterfaces") level interfaces
      fun interfaces whole => { whole with networkInterfaces := whole.networkInterfaces ++ interfaces }) :=
  reads_array VMConfiguration.networkInterfaces (fun interfaces whole => { whole with networkInterfaces := interfaces })
    (by decide +kernel) level interfaces fun _ => rfl

def machinePart : Part VMConfiguration where
  initial := {}
  toJson := VMConfiguration.write
  readMember := VMConfiguration.readMember
  items level config := [
    stringItem (text "name") config.name fun name config => { config with name := name },
    stringItem (text "description") config.description fun description config =>
      { config with description := description },
    stringItem (text "uuid") config.uuid fun uuid config => { config with uuid := uuid },
    partItem cpuPart (text "cpu") (level + 1) config.cpu fun cpu config => { config with cpu := cpu },
    partItem memoryPart (text "memory") (level + 1) config.memory fun memory config => { config with memory := memory },
    arrayItem storagePart (text "storageDevices") (level + 1) config.storageDevices fun devices config =>
      { config with storageDevices := config.storageDevices ++ devices },
    partItem bootPart (text "boot") (level + 1) config.boot fun boot config => { config with boot := boot },
    arrayItem networkPart (text "networkInterfaces") (level + 1) config.networkInterfaces fun interfaces config =>
      { config with networkInterfaces := config.networkInterfaces ++ interfaces },
    boolItem (text "enableDebugger") config.enableDebugger fun b config => { config with enableDebugger := b },
    boolItem (text "enableSnapshots") config.enableSnapshots fun b config => { config with enableSnapshots := b },
    boolItem (text "autoStart") config.autoStart fun b config => { config with autoStart := b },
    numberItem (text "maxCycles") config.maxCycles.toNat fun n config => { config with maxCycles := n }]
  strings config := [config.name, config.description, config.uuid] ++ cpuPart.strings config.cpu ++
    memoryPart.strings config.memory ++ config.storageDevices.flatMap storagePart.strings ++
    bootPart.strings config.boot ++ config.networkInterfaces.flatMap networkPart.strings
  writes config builder := by
    have hcpu : ∀ config builder, CPUConfiguration.toJson config builder = _ := cpuPart.toJson_eq
    have hmemory : ∀ config builder, MemoryConfiguration.toJson config builder = _ := memoryPart.toJson_eq
    have hboot : ∀ config builder, BootConfiguration.toJson config builder = _ := bootPart.toJson_eq
    have hstorage : ∀ elements builder, writeElements StorageConfiguration.toJson elements builder = _ :=
      writeElements_eq storagePart
    have hnetwork : ∀ elements builder, writeElements NetworkConfiguration.toJson elements builder = _ :=
      writeElements_eq networkPart
    simp only [VMConfiguration.write, JsonBuilder.writeString_eq, JsonBuilder.writeNumber_eq, JsonBuilder.writeBool_eq,
      hcpu, hmemory, hboot, hstorage, hnetwork, JsonBuilder.put_writeKey, JsonBuilder.indentLevel_writeKey,
      JsonBuilder.indentLevel_writeItem]
    rfl
  reads level config := by
    simp only [List.forall_mem_cons]
    exact ⟨reads_string (by decide +kernel) _ fun _ => rfl,
      reads_string (by decide +kernel) _ fun _ => rfl,
      reads_string (by decide +kernel) _ fun _ => rfl,
      reads_part (by decide +kernel) _ _ fun _ => rfl,
      reads_part (by decide +kernel) _ _ fun _ => rfl,
      reads_storageDevices _ _,
      reads_part (by decide +kernel) _ _ fun _ => rfl,
      reads_networkInterfaces _ _,
      reads_bool (by decide +kernel) _ fun _ => rfl,
      reads_bool (by decide +kernel) _ fun _ => rfl,
      reads_bool (by decide +kernel) _ fun _ => rfl,
      reads_number (by decide +kernel) (UInt64.toNat_lt _) fun _ => rfl, List.forall_mem_nil _⟩
  ok_iff level config := by
    simp only [stringItem, partItem, arrayItem, boolItem, numberItem, List.forall_mem_cons, List.forall_mem_append,
      List.forall_mem_flatMap, List.not_mem_nil, false_implies, implies_true, and_true, and_assoc]
  updates level config := by
    simp only [stringItem, partItem, arrayItem, boolItem, numberItem, List.foldl_cons, List.foldl_nil,
      List.nil_append, UInt64.ofNat_toNat]

/-! ## The round trip -/

/-- The strings of a configuration. -/
def VMConfiguration.strings (config : VMConfiguration) : List Text := machinePart.strings config

theorem toJson_eq (config : VMConfiguration) : config.toJson = machinePart.written 0 config :=
  congrArg JsonBuilder.buffer (machinePart.toJson_eq config {})

/-- A configuration with plain strings is read back as it was. -/
theorem fromJson_toJson (h : ∀ str ∈ config.strings, PlainText str) :
    VMConfiguration.fromJson config.toJson = .ok config := by
  have hgives := (machinePart.gives spaces_nil 0 config).good h 0 [] trivial
  obtain ⟨pos, hread⟩ := hgives
  rw [List.append_nil, List.nil_append] at hread
  rw [VMConfiguration.fromJson, toJson_eq]
  exact congrArg (Except.map Prod.fst) hread

/-- A byte that is not plain makes the parser throw. -/
theorem fromJson_toJson_error (h : ¬ ∀ str ∈ config.strings, PlainText str) :
    VMConfiguration.fromJson config.toJson = .error invalidEscape := by
  have hread := (machinePart.gives spaces_nil 0 config).bad h 0 [] trivial
  rw [List.append_nil, List.nil_append] at hread
  rw [VMConfiguration.fromJson, toJson_eq]
  exact congrArg (Except.map Prod.fst) hread

/-- **The round trip** of a configuration succeeds exactly if the bytes of its strings are written as themselves or
    with an escape of one letter. -/
theorem fromJson_toJson_iff (config : VMConfiguration) :
    VMConfiguration.fromJson config.toJson = .ok config ↔ ∀ str ∈ config.strings, PlainText str := by
  by_cases hplain : ∀ str ∈ config.strings, PlainText str
  · exact ⟨fun _ => hplain, fromJson_toJson⟩
  · rw [fromJson_toJson_error hplain]
    exact ⟨nofun, fun h => absurd h hplain⟩

/-- A description in which one byte is not ASCII. -/
def cafe : VMConfiguration := { description := text "caf" ++ [0xC3, 0xA9] }

/-- **A string that is not ASCII** is not read back. -/
theorem cafe_lost : ¬ ∀ config : VMConfiguration, VMConfiguration.fromJson config.toJson = .ok config := by
  intro h
  have hplain : ¬ ∀ str ∈ cafe.strings, PlainText str := by decide +kernel
  have herror := fromJson_toJson_error hplain
  rw [h cafe] at herror
  cases herror

end GuideXOS.Config
