import GuideXOS.Machine.Boot
import GuideXOS.Machine.CpuLockstep
import GuideXOS.Machine.Debugger

/-!
# `Nops` — a machine in a memory of nops

An engine for the smallest programs: bundle after bundle of nops. Machines on it are the concrete cases of what is proved
of every engine.
-/

namespace GuideXOS.Machine
open Lib GuideXOS.Core GuideXOS.Isa GuideXOS.Vm

/-- Three nops. -/
def nops : Bundle Unit := ⟨[(), (), ()], [false, false, true]⟩

/-- A plugin that goes from slot to slot, and fetches where it has to. -/
def stepNop (plugin : IA64ISAPlugin Unit) : IA64ISAPlugin Unit :=
  let slot := if plugin.state.bundleValid then plugin.state.currentSlot else 0
  if slot < 2 then
    { plugin with state := { plugin.state with currentBundle := nops, bundleValid := true, currentSlot := slot + 1 } }
  else
    { plugin with state := { plugin.state with
        cpu := plugin.state.cpu.setIP (plugin.state.cpu.ip + 16)
        currentBundle := nops, bundleValid := false, currentSlot := 0 } }

/-- What executes a memory of nops; writes are not kept. -/
def nopEngine : Engine Unit where
  pluginStep plugin w := (.result .CONTINUE, stepNop plugin, w, [])
  fetchBundle _ _ := some nops
  isUnknown _ := false
  executeInstruction _ cpu inputs w := (cpu, inputs, false, w, [])
  write w _ _ := some w

/-- A machine as `init` leaves it. -/
def nopMachine (numCPUs : Nat) (usePlugin : Bool) : VirtualMachine Unit :=
  (VirtualMachine.constructed ⟨numCPUs, usePlugin, fun _ _ => true⟩ { data := List.replicate 16 0 }).init.2

theorem fetchesAnew_nopEngine : nopEngine.FetchesAnew := by
  intro p bundle slot w hinvalid
  simp [nopEngine, stepNop, IA64ISAPlugin.withFetched, hinvalid]

theorem keepsMemorySize_nopEngine : nopEngine.KeepsMemorySize := ⟨fun _ _ => rfl, fun _ _ _ _ => rfl⟩

end GuideXOS.Machine
