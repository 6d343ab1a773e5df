import GuideXOS.Machine.Cpu

/-!
# `CpuLockstep` — processors that go on alike

`CPU.Matches` relates two processors that agree on everything an instruction can see; a step keeps them related
(`CPU.Matches.step`). The shadow registers of a processor on a plugin are left out of it.

What was fetched may be different where it is no longer valid. With `stale` this is so for plugins, which then fetch anew
(`Engine.FetchesAnew`). With `lost` the second processor may have nothing where the first one, without a plugin, has a
bundle: that one fetches anew unless its next bundle cannot be read (`CPU.ReadsItsBundle`).
-/

namespace GuideXOS.Isa

/-- A plugin with another bundle and slot. -/
def IA64ISAPlugin.withFetched {I : Type} (p : IA64ISAPlugin I) (bundle : Bundle I) (slot : Nat) : IA64ISAPlugin I :=
  { p with state := { p.state with currentBundle := bundle, currentSlot := slot } }

end GuideXOS.Isa

namespace GuideXOS.Machine
open Lib GuideXOS.Core GuideXOS.Isa GuideXOS.Vm

variable {I : Type} {engine : Engine I} {stale lost : Prop}

/-! ## Plugins -/

/-- Where the bundle of a plugin is not valid, its step reads neither the bundle nor the slot. -/
def Engine.FetchesAnew (engine : Engine I) : Prop :=
  ∀ (p : IA64ISAPlugin I) bundle slot w, p.state.bundleValid = false →
    engine.pluginStep (p.withFetched bundle slot) w = engine.pluginStep p w

/-- Two plugins that no step tells apart. -/
def SamePlugin (stale : Prop) (p q : IA64ISAPlugin I) : Prop :=
  p = q ∨ stale ∧ p.state.bundleValid = false ∧ ∃ bundle slot, q = p.withFetched bundle slot

namespace SamePlugin
variable {p q : IA64ISAPlugin I} {w : World}
variable (h : SamePlugin stale p q)
include h

theorem cpu : p.cpu = q.cpu := by
  rcases h with rfl | ⟨-, -, bundle, slot, rfl⟩ <;> rfl

theorem pluginStep (hanew : stale → engine.FetchesAnew) : engine.pluginStep p w = engine.pluginStep q w := by
  rcases h with rfl | ⟨hstale, hinvalid, bundle, slot, rfl⟩
  · rfl
  · exact (hanew hstale p bundle slot w hinvalid).symm

/-- An operation that leaves what was fetched alone keeps plugins the same. -/
theorem map {f : IA64ISAPlugin I → IA64ISAPlugin I}
    (hf : ∀ p bundle slot, f (p.withFetched bundle slot) = (f p).withFetched bundle slot)
    (hvalid : ∀ p, (f p).state.bundleValid = p.state.bundleValid) : SamePlugin stale (f p) (f q) := by
  rcases h with rfl | ⟨hstale, hinvalid, bundle, slot, rfl⟩
  · exact .inl rfl
  · exact .inr ⟨hstale, (hvalid p).trans hinvalid, bundle, slot, hf p bundle slot⟩

theorem setCpu (cpu : CPUState) : SamePlugin stale (p.setCpu cpu) (q.setCpu cpu) :=
  h.map (f := fun p => p.setCpu cpu) (fun _ _ _ => rfl) fun _ => rfl

theorem queueInterrupt (vector : UInt8) : SamePlugin stale (p.queueInterrupt vector) (q.queueInterrupt vector) := by
  refine h.map (f := fun p => p.queueInterrupt vector) ?_ ?_
  · intro p bundle slot
    unfold IA64ISAPlugin.queueInterrupt
    split <;> rfl
  · intro p
    unfold IA64ISAPlugin.queueInterrupt
    split <;> rfl

theorem updateIntervalTimer : SamePlugin stale p.updateIntervalTimer q.updateIntervalTimer := by
  refine h.map ?_ ?_
  · intro p bundle slot
    unfold IA64ISAPlugin.updateIntervalTimer IA64ISAPlugin.withFetched
    dsimp only
    split
    · rfl
    · split <;> rfl
  · intro p
    unfold IA64ISAPlugin.updateIntervalTimer
    dsimp only
    split
    · rfl
    · split <;> rfl

theorem advanceITC : SamePlugin stale (p.advanceITC 1) (q.advanceITC 1) := by
  unfold IA64ISAPlugin.advanceITC
  rw [h.cpu]
  exact (h.setCpu _).updateIntervalTimer

end SamePlugin

/-! ## Processors -/

/-- Two processors that go on alike. -/
structure CPU.Matches (stale lost : Prop) (c d : CPU I) : Prop where
  isaPlugin : Option.Rel (SamePlugin stale) c.isaPlugin d.isaPlugin
  state : c.isaPlugin = none → c.state = d.state
  halted : c.halted = d.halted
  currentBundle : c.currentBundle = d.currentBundle ∨
    lost ∧ c.bundleValid = false ∧ d.currentBundle.instructions = []
  currentSlot : c.currentSlot = d.currentSlot
  bundleValid : c.bundleValid = d.bundleValid
  pendingInterrupts : c.pendingInterrupts = d.pendingInterrupts
  interruptVectorBase : c.interruptVectorBase = d.interruptVectorBase
  pendingCallInputs : c.isaPlugin = none → c.pendingCallInputs = d.pendingCallInputs

namespace CPU

/-- A processor whose bundle is not valid executes one it can read, not what is left of the one before. -/
def ReadsItsBundle (engine : Engine I) (w : World) (c : CPU I) : Prop :=
  c.isaPlugin = none → c.bundleValid = false →
    (engine.fetchBundle w c.servicePendingInterrupt.state.ip).isSome ∨ c.currentBundle.instructions = []

theorem isaPlugin_servicePendingInterrupt (c : CPU I) : c.servicePendingInterrupt.isaPlugin = c.isaPlugin := by
  unfold servicePendingInterrupt
  split <;> rfl

theorem currentBundle_servicePendingInterrupt (c : CPU I) :
    c.servicePendingInterrupt.currentBundle = c.currentBundle := by
  unfold servicePendingInterrupt
  split <;> rfl

theorem bundleValid_servicePendingInterrupt {c : CPU I} (h : c.bundleValid = false) :
    c.servicePendingInterrupt.bundleValid = false := by
  unfold servicePendingInterrupt
  split
  · rfl
  · exact h

/-- Nothing to read and nothing left: the step fails. -/
theorem stepLegacy_of_nothing {c : CPU I} {w : World} (hinvalid : c.bundleValid = false)
    (hempty : c.currentBundle.instructions = [])
    (hfetch : engine.fetchBundle w c.servicePendingInterrupt.state.ip = none) :
    c.stepLegacy engine w =
      (.returned false, { c.servicePendingInterrupt with bundleValid := false, currentSlot := 0 }, w, []) := by
  have hbundle : c.servicePendingInterrupt.currentBundle.instructions = [] := by
    rw [currentBundle_servicePendingInterrupt, hempty]
  unfold stepLegacy fetchIfNeeded
  simp [bundleValid_servicePendingInterrupt hinvalid, hfetch, hbundle]

namespace Matches
variable {c d : CPU I} {w : World}

/-- Both are without a plugin, or on plugins that are the same. -/
theorem plugins (h : c.Matches stale lost d) : (c.isaPlugin = none ∧ d.isaPlugin = none) ∨
    ∃ p q, c.isaPlugin = some p ∧ d.isaPlugin = some q ∧ SamePlugin stale p q := by
  have hplugin := h.isaPlugin
  generalize c.isaPlugin = a at hplugin ⊢
  generalize d.isaPlugin = b at hplugin ⊢
  cases hplugin with
  | none => exact .inl ⟨rfl, rfl⟩
  | some hpq => exact .inr ⟨_, _, rfl, rfl, hpq⟩

theorem refl (c : CPU I) : c.Matches stale lost c where
  isaPlugin := by
    cases c.isaPlugin with
    | none => exact .none
    | some p => exact .some (.inl rfl)
  state := fun _ => rfl
  halted := rfl
  currentBundle := .inl rfl
  currentSlot := rfl
  bundleValid := rfl
  pendingInterrupts := rfl
  interruptVectorBase := rfl
  pendingCallInputs := fun _ => rfl

variable (h : c.Matches stale lost d)
include h

theorem getState : c.getState = d.getState := by
  unfold CPU.getState
  rcases h.plugins with ⟨hc, hd⟩ | ⟨p, q, hc, hd, hpq⟩
  · rw [hc, hd]
    exact h.state hc
  · rw [hc, hd]
    exact hpq.cpu

/-- A processor without a valid bundle is at a boundary whatever its bundle is. -/
theorem isAtBundleBoundary : c.isAtBundleBoundary = d.isAtBundleBoundary := by
  unfold CPU.isAtBundleBoundary
  rcases h.currentBundle with hbundle | ⟨-, hinvalid, -⟩
  · rw [h.bundleValid, h.currentSlot, hbundle]
  · rw [← h.bundleValid, hinvalid]
    rfl

theorem areInterruptsEnabled : c.areInterruptsEnabled = d.areInterruptsEnabled := by
  unfold CPU.areInterruptsEnabled
  rcases h.plugins with ⟨hc, hd⟩ | ⟨p, q, hc, hd, hpq⟩
  · rw [hc, hd]
    show (c.state.psr &&& 1 != 0) = (d.state.psr &&& 1 != 0)
    rw [h.state hc]
  · rw [hc, hd]
    show (p.cpu.psr &&& IA64_PSR_I != 0) = (q.cpu.psr &&& IA64_PSR_I != 0)
    rw [hpq.cpu]

/-- With plugins that are the same. -/
theorem withPlugin {p q : IA64ISAPlugin I} (hpq : SamePlugin stale p q) :
    Matches stale lost { c with isaPlugin := some p } { d with isaPlugin := some q } :=
  { h with
    isaPlugin := .some hpq
    state := fun hnone => nomatch hnone
    pendingCallInputs := fun hnone => nomatch hnone }

theorem queueInterrupt (vector : UInt8) : (c.queueInterrupt vector).Matches stale lost (d.queueInterrupt vector) := by
  unfold CPU.queueInterrupt
  rcases h.plugins with ⟨hc, hd⟩ | ⟨p, q, hc, hd, hpq⟩
  · rw [hc, hd]
    exact { h with
      isaPlugin := .none
      state := fun _ => h.state hc
      pendingCallInputs := fun _ => h.pendingCallInputs hc
      pendingInterrupts := congrArg (· ++ [vector]) h.pendingInterrupts }
  · rw [hc, hd]
    exact h.withPlugin (hpq.queueInterrupt vector)

theorem servicePendingInterrupt : c.servicePendingInterrupt.Matches stale lost d.servicePendingInterrupt := by
  unfold CPU.servicePendingInterrupt
  rw [← h.areInterruptsEnabled, ← h.pendingInterrupts]
  cases c.areInterruptsEnabled with
  | false => exact h
  | true =>
      cases hpending : c.pendingInterrupts with
      | nil => exact h
      | cons vector pending =>
          refine { h with state := ?_, currentBundle := ?_, currentSlot := rfl, bundleValid := rfl, pendingInterrupts := rfl }
          · intro hnone
            show (((c.state.setAR 0 _).setAR 1 _).setIP _) = (((d.state.setAR 0 _).setAR 1 _).setIP _)
            rw [h.state hnone, h.interruptVectorBase]
          · exact h.currentBundle.imp id fun ⟨hlost, _, hempty⟩ => ⟨hlost, rfl, hempty⟩

/-- Without a plugin nothing but the bundle may be different. -/
theorem eq_of_bundle (hc : c.isaPlugin = none) (hbundle : c.currentBundle = d.currentBundle) :
    c = d := by
  have hd : d.isaPlugin = none := by
    rcases h.plugins with ⟨-, hd⟩ | ⟨p, q, hp, -, -⟩
    · exact hd
    · rw [hc] at hp
      cases hp
  obtain ⟨-, hstate, hhalted, -, hslot, hvalid, hpending, hbase, hinputs⟩ := h
  have hs := hstate hc
  have hi := hinputs hc
  cases c
  cases d
  simp_all

/-! ### The engines -/

theorem advanceITC : c.advanceITC.Matches stale lost d.advanceITC := by
  unfold CPU.advanceITC
  rcases h.plugins with ⟨hc, hd⟩ | ⟨p, q, hc, hd, hpq⟩
  · rw [hc, hd]
    exact { h with
      isaPlugin := .none
      state := fun _ => h.state hc
      pendingCallInputs := fun _ => h.pendingCallInputs hc }
  · rw [hc, hd]
    exact h.withPlugin hpq.advanceITC

theorem finish (r : ISAExecutionResult) :
    (c.finish r).1 = (d.finish r).1 ∧ (c.finish r).2.Matches stale lost (d.finish r).2 := by
  cases r with
  | CONTINUE => exact ⟨rfl, h.advanceITC⟩
  | INTERRUPT => exact ⟨rfl, h.advanceITC⟩
  | SYSCALL => exact ⟨rfl, h.advanceITC⟩
  | HALT => exact ⟨rfl, { h with halted := rfl }⟩
  | EXCEPTION => exact ⟨rfl, h⟩
  | BREAKPOINT => exact ⟨rfl, h⟩

theorem stepPlugin {p q : IA64ISAPlugin I} (hpq : SamePlugin stale p q) (hanew : stale → engine.FetchesAnew) :
    (c.stepPlugin engine p w).1 = (d.stepPlugin engine q w).1 ∧
      (c.stepPlugin engine p w).2.1.Matches stale lost (d.stepPlugin engine q w).2.1 ∧
      (c.stepPlugin engine p w).2.2 = (d.stepPlugin engine q w).2.2 := by
  unfold CPU.stepPlugin
  rw [← h.halted, hpq.pluginStep hanew]
  by_cases hhalted : c.halted = true
  · rw [if_pos hhalted, if_pos hhalted]
    exact ⟨rfl, h, rfl⟩
  · rw [if_neg hhalted, if_neg hhalted]
    rcases engine.pluginStep q w with ⟨ending, plugin, w, effects⟩
    have hset := h.servicePendingInterrupt.withPlugin (p := plugin) (.inl rfl)
    cases ending with
    | threw what => exact ⟨rfl, hset, rfl⟩
    | result r => exact ⟨(hset.finish r).1, (hset.finish r).2, rfl⟩

/-- A bundle that is read is the same one for both. -/
theorem fetchIfNeeded (hnone : c.isaPlugin = none)
    (hreads : c.currentBundle = d.currentBundle ∨ (engine.fetchBundle w c.state.ip).isSome) :
    c.fetchIfNeeded engine w = d.fetchIfNeeded engine w := by
  rcases h.currentBundle with hbundle | ⟨hlost, hinvalid, hempty⟩
  · rw [h.eq_of_bundle hnone hbundle]
  rcases hreads with hbundle | hsome
  · rw [h.eq_of_bundle hnone hbundle]
  unfold CPU.fetchIfNeeded
  obtain ⟨bundle, hfetch⟩ := Option.isSome_iff_exists.mp hsome
  rw [← h.bundleValid, hinvalid, ← h.state hnone, hfetch]
  simp only [Bool.not_false, Bool.true_or, if_true]
  have hfetched : Matches stale lost { c with currentBundle := bundle, bundleValid := true, currentSlot := 0 }
      { d with state := c.state, currentBundle := bundle, bundleValid := true, currentSlot := 0 } :=
    { h with state := fun _ => rfl, currentBundle := .inl rfl, currentSlot := rfl, bundleValid := rfl }
  exact hfetched.eq_of_bundle hnone rfl

theorem stepLegacy (hnone : c.isaPlugin = none) (hreads : lost → c.ReadsItsBundle engine w) :
    (c.stepLegacy engine w).1 = (d.stepLegacy engine w).1 ∧
      (c.stepLegacy engine w).2.1.Matches stale lost (d.stepLegacy engine w).2.1 ∧
      (c.stepLegacy engine w).2.2 = (d.stepLegacy engine w).2.2 := by
  have hs := h.servicePendingInterrupt
  have hsnone : c.servicePendingInterrupt.isaPlugin = none := (isaPlugin_servicePendingInterrupt c).trans hnone
  rcases h.currentBundle with hbundle | ⟨hlost, hinvalid, hempty⟩
  · rw [h.eq_of_bundle hnone hbundle]
    exact ⟨rfl, refl _, rfl⟩
  cases hfetch : engine.fetchBundle w c.servicePendingInterrupt.state.ip with
  | some bundle =>
      unfold CPU.stepLegacy
      rw [hs.fetchIfNeeded hsnone (.inr (by rw [hfetch]; rfl))]
      exact ⟨rfl, refl _, rfl⟩
  | none =>
      -- neither of the two has an instruction to execute
      have hnothing : c.currentBundle.instructions = [] :=
        (hreads hlost hnone hinvalid).resolve_left (by rw [hfetch]; exact Bool.false_ne_true)
      rw [stepLegacy_of_nothing hinvalid hnothing hfetch,
        stepLegacy_of_nothing (h.bundleValid ▸ hinvalid) hempty (hs.state hsnone ▸ hfetch)]
      refine ⟨rfl, { hs with currentBundle := ?_, currentSlot := rfl, bundleValid := rfl }, rfl⟩
      exact hs.currentBundle.imp id fun ⟨hlost, _, hempty⟩ => ⟨hlost, rfl, hempty⟩

/-- **The step lemma of a processor.** -/
theorem step (hanew : stale → engine.FetchesAnew) (hreads : lost → c.ReadsItsBundle engine w) :
    (c.step engine w).1 = (d.step engine w).1 ∧ (c.step engine w).2.1.Matches stale lost (d.step engine w).2.1 ∧
      (c.step engine w).2.2 = (d.step engine w).2.2 := by
  unfold CPU.step
  rcases h.plugins with ⟨hc, hd⟩ | ⟨p, q, hc, hd, hpq⟩
  · rw [hc, hd]
    exact h.stepLegacy hc hreads
  · rw [hc, hd]
    exact h.stepPlugin hpq hanew

end Matches

end CPU

end GuideXOS.Machine
