import Mathlib
import AcpBridge.Config.Read

/-!
# Layered configuration

A configuration is the defaults with the global file laid over them, then the working
directory's file, then the environment. Laying a file over what came before (`Config.merge`)
takes each of the file's settings unless it is that setting's default: setting by setting it is
one operation, `overDefault` (`merge_eq`). For the switch that defaults to on this is `&&`, for
those that default to off it is `||`, and for the log directory, which defaults to none, the
file's directory counts when it is set (`merge_fieldwise`).

The laws of `overDefault` carry over to whole configurations: laying over is associative and
idempotent, and the defaults are its identity on both sides (`merge_assoc`, `merge_self`,
`defaults_merge`). It is not commutative.

A setting is away from its default after a merge exactly when one of the two layers holds it
away (`mem_changed_merge`), so no later file can set a value back to its default. The
environment can, and only for the settings it reads: streaming, the notification log and the
metrics namespace (`mem_changed_withEnv`, `withEnv_restores`).

`config_layering` states all of this together with how loading goes: a missing file is skipped,
and the first file present that cannot be read or is no configuration stops loading with its
failure.
-/

namespace AcpBridge
namespace Config

attribute [ext] Config

/-! ## One setting laid over another -/

section OverDefault

variable {α : Type} [DecidableEq α] (d : α)

def overDefault (base overlay : α) : α := if overlay = d then base else overlay

theorem overDefault_assoc (a b c : α) :
    overDefault d (overDefault d a b) c = overDefault d a (overDefault d b c) := by
  unfold overDefault
  by_cases hc : c = d <;> by_cases hb : b = d <;> simp [hc, hb]

@[simp] theorem overDefault_self (a : α) : overDefault d a a = a := by
  unfold overDefault
  split <;> simp_all

@[simp] theorem overDefault_default_left (a : α) : overDefault d d a = a := by
  unfold overDefault
  split <;> simp_all

theorem overDefault_ne (a b : α) :
    decide (overDefault d a b ≠ d) = (decide (a ≠ d) || decide (b ≠ d)) := by
  unfold overDefault
  by_cases hb : b = d <;> simp [hb]

end OverDefault

theorem overDefault_true (a b : Bool) : overDefault true a b = (a && b) := by
  cases a <;> cases b <;> rfl

theorem overDefault_false (a b : Bool) : overDefault false a b = (a || b) := by
  cases a <;> cases b <;> rfl

theorem overDefault_none {β : Type} [DecidableEq β] (a b : Option β) :
    overDefault none a b = b.or a := by
  cases b <;> simp [overDefault]

/-! ## Configurations laid over one another -/

theorem merge_eq (a b : Config) :
    a.merge b =
      { streamingEnabled :=
          overDefault defaults.streamingEnabled a.streamingEnabled b.streamingEnabled
        metricsNamespace :=
          overDefault defaults.metricsNamespace a.metricsNamespace b.metricsNamespace
        channelCapacity := overDefault defaults.channelCapacity a.channelCapacity b.channelCapacity
        debug := overDefault defaults.debug a.debug b.debug
        debugLog := overDefault defaults.debugLog a.debugLog b.debugLog
        debugLogDir := overDefault defaults.debugLogDir a.debugLogDir b.debugLogDir } := by
  have hswitch : ∀ x y : Bool, (x || y) = overDefault false x y := fun x y => by
    cases x <;> cases y <;> rfl
  refine Config.ext ?_ ?_ ?_ ?_ ?_ ?_
  · show (if b.streamingEnabled != true then _ else _) = _
    cases b.streamingEnabled <;> rfl
  · show (if b.metricsNamespace != defaults.metricsNamespace then _ else _) = _
    by_cases h : b.metricsNamespace = defaults.metricsNamespace <;> simp [overDefault, h]
  · show (if b.channelCapacity != defaults.channelCapacity then _ else _) = _
    by_cases h : b.channelCapacity = defaults.channelCapacity <;> simp [overDefault, h]
  · exact hswitch _ _
  · exact hswitch _ _
  · show (b.debugLogDir.orElse fun _ => a.debugLogDir) = _
    cases b.debugLogDir <;> rfl

theorem merge_fieldwise (a b : Config) :
    a.merge b =
      { streamingEnabled := a.streamingEnabled && b.streamingEnabled
        metricsNamespace := if b.metricsNamespace ≠ defaults.metricsNamespace then b.metricsNamespace
          else a.metricsNamespace
        channelCapacity := if b.channelCapacity ≠ defaults.channelCapacity then b.channelCapacity
          else a.channelCapacity
        debug := a.debug || b.debug
        debugLog := a.debugLog || b.debugLog
        debugLogDir := b.debugLogDir.or a.debugLogDir } := by
  rw [merge_eq]
  refine Config.ext ?_ ?_ ?_ ?_ ?_ ?_ <;>
    simp only [overDefault_true, overDefault_false, overDefault_none, defaults]
  · unfold overDefault
    split <;> simp_all
  · unfold overDefault
    split <;> simp_all

theorem merge_assoc (a b c : Config) : (a.merge b).merge c = a.merge (b.merge c) := by
  simp only [merge_eq, overDefault_assoc]

@[simp] theorem merge_self (a : Config) : a.merge a = a := by
  simp only [merge_eq, overDefault_self]

@[simp] theorem defaults_merge (a : Config) : defaults.merge a = a := by
  rw [merge_eq]
  simp only [overDefault_default_left]

/-! ## Which settings a configuration changes -/

/-- The settings by name, each with the test that a configuration holds it away from its
default. -/
def settingChanged : List (String × (Config → Bool)) :=
  [("streaming_enabled", fun c => decide (c.streamingEnabled ≠ defaults.streamingEnabled)),
   ("metrics_namespace", fun c => decide (c.metricsNamespace ≠ defaults.metricsNamespace)),
   ("channel_capacity", fun c => decide (c.channelCapacity ≠ defaults.channelCapacity)),
   ("debug", fun c => decide (c.debug ≠ defaults.debug)),
   ("debug_log", fun c => decide (c.debugLog ≠ defaults.debugLog)),
   ("debug_log_dir", fun c => decide (c.debugLogDir ≠ defaults.debugLogDir))]

def changed (c : Config) : List String := (settingChanged.filter (·.2 c)).map (·.1)

def envSettings : List String := ["streaming_enabled", "debug_log", "metrics_namespace"]

theorem mem_changed {c : Config} {k : String} :
    k ∈ c.changed ↔ ∃ t ∈ settingChanged, t.2 c = true ∧ t.1 = k := by
  simp [changed, and_assoc]

theorem settingChanged_merge (a b : Config) :
    ∀ t ∈ settingChanged, t.2 (a.merge b) = (t.2 a || t.2 b) := by
  simp only [settingChanged, List.forall_mem_cons, List.not_mem_nil, IsEmpty.forall_iff,
    implies_true, and_true, merge_eq]
  exact ⟨overDefault_ne _ _ _, overDefault_ne _ _ _, overDefault_ne _ _ _,
    overDefault_ne _ _ _, overDefault_ne _ _ _, overDefault_ne _ _ _⟩

theorem mem_changed_merge (a b : Config) (k : String) :
    k ∈ (a.merge b).changed ↔ k ∈ a.changed ∨ k ∈ b.changed := by
  simp only [mem_changed]
  constructor
  · rintro ⟨t, ht, hset, rfl⟩
    rw [settingChanged_merge a b t ht, Bool.or_eq_true] at hset
    exact hset.imp (fun h => ⟨t, ht, h, rfl⟩) (fun h => ⟨t, ht, h, rfl⟩)
  · rintro (⟨t, ht, hset, rfl⟩ | ⟨t, ht, hset, rfl⟩) <;>
      exact ⟨t, ht, by simp [settingChanged_merge a b t ht, hset], rfl⟩

theorem withEnv_frame (c : Config) (lookup : String → Option String) :
    (c.withEnv lookup).channelCapacity = c.channelCapacity ∧ (c.withEnv lookup).debug = c.debug ∧
      (c.withEnv lookup).debugLogDir = c.debugLogDir := by
  unfold withEnv
  -- each stage sets streaming, the log switch or the namespace, and only the namespace stage
  -- tests its value further
  rcases lookup namespaceVar with _ | ns
  · split <;> split <;> exact ⟨rfl, rfl, rfl⟩
  · by_cases hempty : ns.isEmpty = true
    · simp only [hempty, if_true]
      split <;> split <;> exact ⟨rfl, rfl, rfl⟩
    · simp only [hempty, Bool.false_eq_true, if_false]
      split <;> split <;> exact ⟨rfl, rfl, rfl⟩

theorem mem_changed_withEnv {c : Config} {k : String} (lookup : String → Option String)
    (hk : k ∈ c.changed) (hnot : k ∉ envSettings) : k ∈ (c.withEnv lookup).changed := by
  obtain ⟨hcap, hdebug, hdir⟩ := withEnv_frame c lookup
  obtain ⟨t, ht, hset, rfl⟩ := mem_changed.mp hk
  refine mem_changed.mpr ⟨t, ht, ?_, rfl⟩
  simp only [settingChanged, List.mem_cons, List.not_mem_nil, or_false] at ht
  rcases ht with rfl | rfl | rfl | rfl | rfl | rfl
  · exact absurd (by decide) hnot
  · exact absurd (by decide) hnot
  · simpa [hcap] using hset
  · simpa [hdebug] using hset
  · exact absurd (by decide) hnot
  · simpa [hdir] using hset

/-- The environment that sets streaming, the notification log and the namespace to their
defaults. -/
def restoringEnv (var : String) : Option String :=
  if var = streamingVar then some "true"
  else if var = debugLogVar then some "false"
  else if var = namespaceVar then some defaults.metricsNamespace
  else none

theorem withEnv_restores (c : Config) : ∀ k ∈ envSettings, k ∉ (c.withEnv restoringEnv).changed := by
  have henv : c.withEnv restoringEnv =
      { c with streamingEnabled := true, debugLog := false,
               metricsNamespace := defaults.metricsNamespace } := by
    have hstreaming : (restoringEnv streamingVar).bind parseFlag = some true := by decide
    have hlog : (restoringEnv debugLogVar).bind parseFlag = some false := by decide
    have hns : restoringEnv namespaceVar = some defaults.metricsNamespace := by decide
    simp only [withEnv, hstreaming, hlog, hns]
    rfl
  intro k hk hmem
  obtain ⟨t, ht, hset, rfl⟩ := mem_changed.mp hmem
  simp only [settingChanged, List.mem_cons, List.not_mem_nil, or_false] at ht
  rcases ht with rfl | rfl | rfl | rfl | rfl | rfl <;> simp_all [envSettings, defaults]

/-! ## Loading -/

theorem load_layers (g w : Except FileFault Entry) (lookup : String → Option String) :
    (∀ e, ofEntry g = .error e → load g w lookup = .error e) ∧
    (∀ og e, ofEntry g = .ok og → ofEntry w = .error e → load g w lookup = .error e) ∧
    (∀ og ow, ofEntry g = .ok og → ofEntry w = .ok ow →
      load g w lookup =
        .ok (let c := og.elim defaults defaults.merge
             (ow.elim c c.merge).withEnv lookup)) := by
  refine ⟨fun e hg => ?_, fun og e hg hw => ?_, fun og ow hg hw => ?_⟩
  · rw [load, hg]
    rfl
  · rw [load, hg]
    show (do let w ← ofEntry w; pure _) = _
    rw [hw]
    rfl
  · rw [load, hg]
    show (do let w ← ofEntry w; pure _) = _
    rw [hw]
    -- a missing file adds nothing to the layers folded over the defaults
    cases og <;> cases ow <;> rfl

/-- Configuration layering. Loading lays the global file, then the working directory's file, over
the defaults, a missing file skipped, and then applies the environment; the first file present
that cannot be read or is no configuration stops loading with its failure. A file is laid over
what came before setting by setting: streaming by `&&`, debugging and the log by `||`, and the
namespace, the queue's capacity and the log directory are the file's where it sets them. So
laying over is associative and idempotent, with the defaults as identity on both sides, and a
file equal to the defaults (`{}`) changes nothing. A setting is away from its default after a
merge exactly when one of the layers holds it away, so no later file sets it back; the
environment can, for the three settings it reads, and changes no other. -/
theorem config_layering :
    (∀ (g w : Except FileFault Entry) (lookup : String → Option String),
      (∀ e, ofEntry g = .error e → load g w lookup = .error e) ∧
      (∀ og e, ofEntry g = .ok og → ofEntry w = .error e → load g w lookup = .error e) ∧
      (∀ og ow, ofEntry g = .ok og → ofEntry w = .ok ow →
        load g w lookup =
          .ok (let c := og.elim defaults defaults.merge
               (ow.elim c c.merge).withEnv lookup))) ∧
    (∀ a b : Config,
      a.merge b =
        { streamingEnabled := a.streamingEnabled && b.streamingEnabled
          metricsNamespace :=
            if b.metricsNamespace ≠ defaults.metricsNamespace then b.metricsNamespace
            else a.metricsNamespace
          channelCapacity :=
            if b.channelCapacity ≠ defaults.channelCapacity then b.channelCapacity
            else a.channelCapacity
          debug := a.debug || b.debug
          debugLog := a.debugLog || b.debugLog
          debugLogDir := b.debugLogDir.or a.debugLogDir }) ∧
    (∀ a b c : Config, (a.merge b).merge c = a.merge (b.merge c)) ∧
    (∀ a : Config, a.merge a = a ∧ defaults.merge a = a ∧ a.merge defaults = a) ∧
    ofText "\x7b\x7d" = .ok defaults ∧
    (∀ (a b : Config) (k : String), k ∈ (a.merge b).changed ↔ k ∈ a.changed ∨ k ∈ b.changed) ∧
    (∀ (c : Config) (lookup : String → Option String), ∀ k ∈ c.changed, k ∉ envSettings →
      k ∈ (c.withEnv lookup).changed) ∧
    (∀ c : Config, ∀ k ∈ envSettings, k ∉ (c.withEnv restoringEnv).changed) :=
  ⟨load_layers, merge_fieldwise, merge_assoc,
    fun a => ⟨merge_self a, defaults_merge a, merge_defaults a⟩, by decide +kernel,
    mem_changed_merge, fun _ lookup _ hk hnot => mem_changed_withEnv lookup hk hnot,
    withEnv_restores⟩

/-- A global file `{}` and a working directory's file that turns debugging on load as their
layers over the defaults; a directory where the global file should be stops loading. -/
theorem config_layering_debug_file :
    (ofEntry (.ok (.file "\x7b\x7d")) = .ok (some defaults) ∧
      ofEntry (.ok (.file "\x7b\"debug\": true\x7d")) = .ok (some { debug := true }) ∧
      load (.ok (.file "\x7b\x7d")) (.ok (.file "\x7b\"debug\": true\x7d")) (fun _ => none) =
        .ok (let c := (some defaults).elim defaults defaults.merge
             ((some ({ debug := true } : Config)).elim c c.merge).withEnv fun _ => none)) ∧
    (ofEntry (.ok .directory) = .error (.file FileFault.isDirectory.message) ∧
      load (.ok .directory) (.ok (.file "\x7b\x7d")) (fun _ => none) =
        .error (.file FileFault.isDirectory.message)) := by
  have hg : ofEntry (.ok (.file "\x7b\x7d")) = .ok (some defaults) := by decide +kernel
  have hw : ofEntry (.ok (.file "\x7b\"debug\": true\x7d")) = .ok (some { debug := true }) := by
    decide +kernel
  have hdir : ofEntry (.ok .directory) = .error (.file FileFault.isDirectory.message) := by
    decide +kernel
  exact ⟨⟨hg, hw, (config_layering.1 _ _ _).2.2 _ _ hg hw⟩, hdir,
    (config_layering.1 _ _ _).1 _ hdir⟩

end Config
end AcpBridge
