import HistoryMetrics.Mining.Miner
import HistoryMetrics.Proofs.Metric.Resolution
import HistoryMetrics.Proofs.Mining.Passes

/-! # Analyses that leave the types in place

    A plug-in has the whole source file in its hands. The built-in ones only store values in it: the
    types keep their names and their order. If all plug-ins and detectors of a miner do so, then the
    types of an analysed file are those that were read.

    - `SameTypes`: what such an analysis leaves as it was
    - `Miner.KeepsTypes`, `keepsTypes_of_make`: the built-in plug-ins and detectors are of this kind
-/

namespace HistoryMetrics

open HistoryMetrics.Action

/-! ## Types in place -/

/-- The types of a source file by name, with the place of the file. -/
def SourceOutline.typeNames (o : SourceOutline) : List (String × String) :=
  o.types.map fun t => (o.path, t.name)

/-- **The types are in place**: what is stored on them may have changed. -/
def SameTypes (a b : Analysis) : Prop := b.outline.typeNames = a.outline.typeNames

instance : Std.Refl SameTypes := ⟨fun _ => rfl⟩

instance : IsTrans Analysis SameTypes := ⟨fun _ _ _ hab hbc => hbc.trans hab⟩

theorem sameTypes_logged (a : Analysis) (r : LogRecord) : SameTypes a (a.logged r) := rfl

theorem sameTypes_withTypes {a : Analysis} {ts : List TypeOutline}
    (h : ts.map TypeOutline.name = a.outline.types.map TypeOutline.name) :
    SameTypes a (a.withTypes ts) := by
  have hpairs := congrArg (List.map fun name => (a.outline.path, name)) h
  rw [List.map_map, List.map_map] at hpairs
  exact hpairs

/-! ### Plug-ins and detectors of a miner -/

/-- Storing a metric on types does not rename them, also when it fails. -/
theorem map_name_storeTypes (id : String) (measure : TypeOutline → Except Fault Value)
    (ts : List TypeOutline) :
    (storeTypes id measure ts).1.map TypeOutline.name = ts.map TypeOutline.name := by
  induction ts with
  | nil => rfl
  | cons t ts ih =>
    unfold storeTypes
    cases measure t with
    | error e => rfl
    | ok v =>
      show (t.store id v).name :: _ = t.name :: _
      rw [ih]
      rfl

theorem Plugin.sameTypes_ofMethods (id name : String) (measure : Method → Value) :
    Moves SameTypes (ofMethods id name measure).calculate := by
  intro a
  refine sameTypes_withTypes ?_
  rw [List.map_map]
  rfl

theorem Plugin.sameTypes_ofTypes (id name : String) (requires : List String)
    (measure : TypeOutline → Except Fault Value) :
    Moves SameTypes (ofTypes id name requires measure).calculate :=
  fun a => sameTypes_withTypes (map_name_storeTypes id measure a.outline.types)

/-- **The built-in metrics leave the types in place.** -/
theorem Plugin.sameTypes_builtins : ∀ p ∈ builtins, Moves SameTypes p.calculate := by
  simp only [builtins, List.forall_mem_cons]
  refine ⟨sameTypes_ofTypes _ _ _ _, sameTypes_ofMethods _ _ _, sameTypes_ofMethods _ _ _,
    sameTypes_ofMethods _ _ _, sameTypes_ofMethods _ _ _, sameTypes_ofMethods _ _ _,
    sameTypes_ofTypes _ _ _ _, sameTypes_ofTypes _ _ _ _, sameTypes_ofTypes _ _ _ _,
    sameTypes_ofTypes _ _ _ _, sameTypes_ofTypes _ _ _ _, ?_⟩
  exact fun p hp => absurd hp List.not_mem_nil

/-- **The plug-ins of an engine leave the types in place**: those of its order and those of its
    registry. -/
structure Engine.KeepsTypes (e : Engine) : Prop where
  order : ∀ p ∈ e.order, Moves SameTypes p.calculate
  registry : ∀ p ∈ e.registry.plugins, Moves SameTypes p.calculate

theorem Engine.KeepsTypes.compute {e : Engine} (h : e.KeepsTypes) (targets : Option (List String)) :
    Moves SameTypes (e.compute targets) := by
  refine moves_compute sameTypes_logged fun plan hplan p hp => ?_
  -- without targets the plan is the order of the engine, otherwise it is found in the registry
  cases targets with
  | none =>
    cases hplan
    exact h.order p hp
  | some ts => exact h.registry p (mem_of_resolve_ok hplan hp)

theorem Engine.keepsTypes_of_make {r : Registry} {e : Engine} (hmake : make r = .ok e)
    (h : ∀ p ∈ r.plugins, Moves SameTypes p.calculate) : e.KeepsTypes := by
  unfold make at hmake
  cases horder : r.resolve none with
  | error p =>
    rw [horder] at hmake
    cases hmake
  | ok order =>
    rw [horder] at hmake
    cases hmake
    exact ⟨fun p hp => h p (mem_of_resolve_ok horder hp), h⟩

theorem Engine.keepsTypes_standard : Engine.standard.KeepsTypes := by
  unfold Engine.standard
  cases hmake : make .standard with
  | ok e => exact keepsTypes_of_make hmake Plugin.sameTypes_builtins
  | error p => exact ⟨fun p hp => absurd hp List.not_mem_nil, Plugin.sameTypes_builtins⟩

namespace Miner

variable {σ : Type}

/-- The engine and the detectors of a miner that was made. -/
theorem engine_of_make {config : Config} {provider : Provider σ} {sink : Sink σ}
    {registry : Registry} {given : Option (List Detector)} {m : Miner σ}
    (h : make config provider sink registry given = .ok m) :
    Engine.make registry = .ok m.engine ∧ m.detectors = given.getD (detectorsFor config) := by
  unfold make at h
  cases hmake : Engine.make registry with
  | error p =>
    rw [hmake] at h
    cases h
  | ok e =>
    rw [hmake] at h
    cases h
    exact ⟨rfl, rfl⟩

/-- **All that a miner runs on a source file leaves the types in place.** -/
structure KeepsTypes (m : Miner σ) : Prop where
  engine : m.engine.KeepsTypes
  detectors : ∀ d ∈ m.detectors, ∀ i, Moves SameTypes (d.detect i)

/-- **A miner with the built-in metrics and detectors leaves the types in place.** -/
theorem keepsTypes_of_make {config : Config} {provider : Provider σ} {sink : Sink σ} {m : Miner σ}
    (h : make config provider sink .standard none = .ok m) : m.KeepsTypes := by
  obtain ⟨hmake, hds⟩ := engine_of_make h
  refine ⟨Engine.keepsTypes_of_make hmake Plugin.sameTypes_builtins, fun d hd i => ?_⟩
  have hbuiltin : ∃ t, d = .builtin t none := by
    simp only [hds, Option.getD_none, detectorsFor] at hd
    split at hd
    · obtain ⟨t, _, rfl⟩ := List.mem_map.1 hd
      exact ⟨t, rfl⟩
    · exact absurd hd List.not_mem_nil
  obtain ⟨t, rfl⟩ := hbuiltin
  -- it has no engine of its own
  have hengine : ((Detector.builtin t none).engine.getD .standard).KeepsTypes :=
    Engine.keepsTypes_standard
  exact Detector.moves_detectByRule (fun targets => hengine.compute (some targets)) i

end Miner

end HistoryMetrics
