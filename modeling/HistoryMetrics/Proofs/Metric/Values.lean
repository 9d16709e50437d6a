import HistoryMetrics.Proofs.Metric.Reference

/-! # Stored values

    Metrics hold on a source file when the values stored for them are those of the structure. What
    holds and what is stored for other metrics together say all that is stored.

    - `SourceOutline.Holds`: some metrics hold
    - `SourceOutline.without`: the rest of a source file, without the values of some metrics
    - `SourceOutline.typeValue`, `SourceOutline.methodValue`: what is stored, by places
    - `SourceOutline.SameValues`, `sameValues_of_holds`: the same values, perhaps in another order
    - `SourceOutline.SameValuesFor`, `sameValuesFor_of_holds`: the same values for some metrics
-/

namespace HistoryMetrics

/-! ## Stored metrics -/

namespace Metrics

/-- Some metrics are stored with the values of a reference, as far as it has any. -/
def Holds (m : Metrics) (ids : List String) (reference : String → Option Value) : Prop :=
  ∀ id ∈ ids, ∀ v, reference id = some v → m.get? id = some v

/-- The metrics that are not to be dropped. -/
def without (m : Metrics) (drop : String → Bool) : Metrics := m.filter fun e => !drop e.1

variable {m : Metrics} {ids : List String} {reference : String → Option Value}

theorem holds_nil (m : Metrics) (reference : String → Option Value) : m.Holds [] reference :=
  fun _ hid => absurd hid List.not_mem_nil

theorem Holds.mono {ids' : List String} (h : m.Holds ids reference) (hids : ∀ id ∈ ids', id ∈ ids) :
    m.Holds ids' reference :=
  fun id hid => h id (hids id hid)

theorem Holds.set (h : m.Holds ids reference) {id : String} {v : Value} (hv : reference id = some v) :
    (m.set id v).Holds (id :: ids) reference := by
  intro id' hid' v' hv'
  by_cases heq : id' = id
  · subst heq
    rw [hv] at hv'
    cases hv'
    exact get?_set_self m id' v
  · rw [get?_set_of_ne m v heq]
    exact h id' ((List.mem_cons.1 hid').resolve_left heq) v' hv'

/-- A metric that holds is found by those who read it. -/
theorem Holds.require_eq (h : m.Holds ids reference) {id : String} (hid : id ∈ ids) {v : Value}
    (hv : reference id = some v) : m.require id = .ok v := by
  rw [require, h id hid v hv]

/-- A metric without a reference need not be stored. -/
theorem Holds.skip (h : m.Holds ids reference) {id : String} (hid : reference id = none) :
    m.Holds (id :: ids) reference := by
  intro id' hid' v' hv'
  rcases List.mem_cons.1 hid' with rfl | hid'
  · rw [hid] at hv'
    cases hv'
  · exact h id' hid' v' hv'

@[simp] theorem without_set (m : Metrics) {drop : String → Bool} {id : String} (v : Value)
    (h : drop id = true) : (m.set id v).without drop = m.without drop := by
  induction m with
  | nil => simp [set, without, h]
  | cons e rest ih =>
    by_cases he : e.1 = id
    · simp [set, without, he, h]
    · simp only [without] at ih
      simp [set, without, he, List.filter_cons, ih]

theorem get?_without (m : Metrics) {drop : String → Bool} {id : String} (h : drop id = false) :
    (m.without drop).get? id = m.get? id := by
  induction m with
  | nil => rfl
  | cons e rest ih =>
    obtain ⟨key, old⟩ := e
    simp only [without, get?] at ih ⊢
    by_cases he : key = id
    · simp [he, h]
    · have hb : (id == key) = false := by simpa using Ne.symm he
      cases hdrop : drop key <;> simp [List.lookup_cons, hdrop, hb, ih]

end Metrics

/-- Is this one of some ids, and of the kind that `isOwn` tells? -/
def isAmong (isOwn : String → Bool) (ids : List String) (id : String) : Bool :=
  ids.contains id && isOwn id

theorem isAmong_iff {isOwn : String → Bool} {ids : List String} {id : String} :
    isAmong isOwn ids id = true ↔ id ∈ ids ∧ isOwn id = true := by
  simp [isAmong]

@[simp] theorem isAmong_nil (isOwn : String → Bool) (id : String) : isAmong isOwn [] id = false :=
  rfl

theorem isAmong_congr (isOwn : String → Bool) {ids ids' : List String}
    (h : ∀ id, id ∈ ids ↔ id ∈ ids') : isAmong isOwn ids = isAmong isOwn ids' := by
  funext id
  simp only [isAmong, List.contains_eq_mem, h]

/-! ## Methods -/

namespace Method

/-- Some metrics hold on a method. -/
def Holds (ids : List String) (m : Method) : Prop := m.metrics.Holds ids m.reference

/-- A method without the values of some metrics of methods. -/
def without (ids : List String) (m : Method) : Method :=
  { m with metrics := m.metrics.without (isAmong isMethodMetric ids) }

@[simp] theorem bare_store (m : Method) (id : String) (v : Value) : (m.store id v).bare = m.bare :=
  rfl

@[simp] theorem bare_without (m : Method) (ids : List String) : (m.without ids).bare = m.bare := rfl

@[simp] theorem reference_store (m : Method) (id : String) (v : Value) (id' : String) :
    (m.store id v).reference id' = m.reference id' := by
  rw [← reference_bare, bare_store, reference_bare]

theorem without_store {ids : List String} {id : String} (hid : id ∈ ids)
    (h : isMethodMetric id = true) (m : Method) (v : Value) :
    (m.store id v).without ids = m.without ids := by
  simp only [without, store, Metrics.without_set _ _ (isAmong_iff.2 ⟨hid, h⟩)]

theorem without_congr {ids ids' : List String} (h : ∀ id, id ∈ ids ↔ id ∈ ids') (m : Method) :
    m.without ids = m.without ids' := by
  rw [without, isAmong_congr _ h, without]

@[simp] theorem without_nil (m : Method) : m.without [] = m := by
  simp [without, Metrics.without]

theorem Holds.store {ids : List String} {m : Method} (h : m.Holds ids) {id : String} {v : Value}
    (hv : m.reference id = some v) : (m.store id v).Holds (id :: ids) := by
  intro id' hid' v' hv'
  rw [reference_store] at hv'
  exact Metrics.Holds.set h hv id' hid' v' hv'

end Method

/-! ## Types -/

namespace TypeOutline

/-- Some metrics hold on a type and on its methods. -/
structure Holds (ids : List String) (t : TypeOutline) : Prop where
  metrics : t.metrics.Holds ids t.reference
  methods : ∀ m ∈ t.methods, m.Holds ids

/-- A type without the values of some metrics. -/
def without (ids : List String) (t : TypeOutline) : TypeOutline :=
  { t with
    methods := t.methods.map (Method.without ids)
    metrics := t.metrics.without (isAmong isTypeMetric ids) }

@[simp] theorem bare_store (t : TypeOutline) (id : String) (v : Value) :
    (t.store id v).bare = t.bare := rfl

@[simp] theorem bare_without (t : TypeOutline) (ids : List String) :
    (t.without ids).bare = t.bare := by
  simp only [bare, without, List.map_map]
  rfl

@[simp] theorem bare_storeMethods (t : TypeOutline) (id : String) (measure : Method → Value) :
    (t.storeMethods id measure).bare = t.bare := by
  simp only [bare, storeMethods, List.map_map]
  rfl

@[simp] theorem reference_store (t : TypeOutline) (id : String) (v : Value) (id' : String) :
    (t.store id v).reference id' = t.reference id' := by
  rw [← reference_bare, bare_store, reference_bare]

@[simp] theorem reference_storeMethods (t : TypeOutline) (id : String) (measure : Method → Value)
    (id' : String) : (t.storeMethods id measure).reference id' = t.reference id' := by
  rw [← reference_bare, bare_storeMethods, reference_bare]

variable {ids : List String} {t : TypeOutline}

theorem Holds.store (h : t.Holds ids) {id : String} {v : Value} (hv : t.reference id = some v)
    (hmethods : ∀ m ∈ t.methods, m.reference id = none) : (t.store id v).Holds (id :: ids) where
  metrics := by
    intro id' hid' v' hv'
    rw [reference_store] at hv'
    exact h.metrics.set hv id' hid' v' hv'
  methods := fun m hm => Metrics.Holds.skip (h.methods m hm) (hmethods m hm)

theorem Holds.storeMethods (h : t.Holds ids) {id : String} {measure : Method → Value}
    (hv : ∀ m ∈ t.methods, m.reference id = some (measure m)) (ht : t.reference id = none) :
    (t.storeMethods id measure).Holds (id :: ids) where
  metrics := by
    refine Metrics.Holds.skip ?_ (by rwa [reference_storeMethods])
    intro id' hid' v' hv'
    rw [reference_storeMethods] at hv'
    exact h.metrics id' hid' v' hv'
  methods := by
    intro m' hm'
    obtain ⟨m, hm, rfl⟩ := List.mem_map.1 hm'
    exact (h.methods m hm).store (hv m hm)

theorem without_store {id : String} (hid : id ∈ ids) (ht : isTypeMetric id = true) (v : Value) :
    (t.store id v).without ids = t.without ids := by
  simp only [without, store, Metrics.without_set _ _ (isAmong_iff.2 ⟨hid, ht⟩)]

theorem without_congr {ids ids' : List String} (h : ∀ id, id ∈ ids ↔ id ∈ ids') (t : TypeOutline) :
    t.without ids = t.without ids' := by
  rw [without, isAmong_congr _ h, funext (Method.without_congr h), without]

@[simp] theorem without_nil (t : TypeOutline) : t.without [] = t := by
  simp [without, Metrics.without, funext Method.without_nil]

theorem without_storeMethods {id : String} (hid : id ∈ ids) (hm : isMethodMetric id = true)
    (measure : Method → Value) : (t.storeMethods id measure).without ids = t.without ids := by
  simp only [without, storeMethods, List.map_map, Function.comp_def, Method.without_store hid hm]

end TypeOutline

/-! ## Source files -/

namespace SourceOutline

/-- **Some metrics hold on a source file**: what is stored for them, on each type or on each method,
    is what the structure gives. -/
def Holds (ids : List String) (o : SourceOutline) : Prop := ∀ t ∈ o.types, t.Holds ids

/-- **A source file without the values of some metrics.** All else is there. -/
def without (ids : List String) (o : SourceOutline) : SourceOutline :=
  { o with types := o.types.map (TypeOutline.without ids) }

/-- What is stored for a metric on the type at a place. -/
def typeValue (o : SourceOutline) (place : Nat) (id : String) : Option Value :=
  o.types[place]?.bind fun t => t.metrics.get? id

/-- What is stored for a metric on the method at a place in the type at another. -/
def methodValue (o : SourceOutline) (place methodPlace : Nat) (id : String) : Option Value :=
  o.types[place]?.bind fun t => t.methods[methodPlace]?.bind fun m => m.metrics.get? id

/-- **The same structure with the same values**, perhaps stored in another order. -/
structure SameValues (o o' : SourceOutline) : Prop where
  bare : o.bare = o'.bare
  typeValue : ∀ place id, o.typeValue place id = o'.typeValue place id
  methodValue : ∀ place methodPlace id,
    o.methodValue place methodPlace id = o'.methodValue place methodPlace id

/-- **The same structure with the same values for some metrics.** -/
structure SameValuesFor (ids : List String) (o o' : SourceOutline) : Prop where
  bare : o.bare = o'.bare
  typeValue : ∀ place, ∀ id ∈ ids, isTypeMetric id = true →
    o.typeValue place id = o'.typeValue place id
  methodValue : ∀ place methodPlace, ∀ id ∈ ids, isMethodMetric id = true →
    o.methodValue place methodPlace id = o'.methodValue place methodPlace id

@[simp] theorem bare_without (o : SourceOutline) (ids : List String) :
    (o.without ids).bare = o.bare := by
  simp [bare, without, Function.comp_def]

@[simp] theorem without_nil (o : SourceOutline) : o.without [] = o := by
  simp [without, funext TypeOutline.without_nil]

theorem holds_nil (o : SourceOutline) : o.Holds [] :=
  fun _ _ => ⟨Metrics.holds_nil _ _, fun _ _ => Metrics.holds_nil _ _⟩

theorem without_congr {ids ids' : List String} (h : ∀ id, id ∈ ids ↔ id ∈ ids')
    (o : SourceOutline) : o.without ids = o.without ids' := by
  simp only [without, funext (TypeOutline.without_congr h)]

variable {ids : List String} {o o' : SourceOutline}

theorem Holds.mono {ids' : List String} (h : o.Holds ids) (hids : ∀ id ∈ ids', id ∈ ids) :
    o.Holds ids' :=
  fun t ht => ⟨(h t ht).metrics.mono hids, fun m hm => Metrics.Holds.mono ((h t ht).methods m hm) hids⟩

theorem typeValue_without (o : SourceOutline) (place : Nat) {id : String}
    (h : isAmong isTypeMetric ids id = false) :
    (o.without ids).typeValue place id = o.typeValue place id := by
  simp only [typeValue, without, List.getElem?_map]
  cases o.types[place]? with
  | none => rfl
  | some t => exact Metrics.get?_without t.metrics h

theorem methodValue_without (o : SourceOutline) (place methodPlace : Nat) {id : String}
    (h : isAmong isMethodMetric ids id = false) :
    (o.without ids).methodValue place methodPlace id = o.methodValue place methodPlace id := by
  simp only [methodValue, without, List.getElem?_map]
  cases o.types[place]? with
  | none => rfl
  | some t =>
    simp only [Option.map_some, Option.bind_some, TypeOutline.without, List.getElem?_map]
    cases t.methods[methodPlace]? with
    | none => rfl
    | some m => exact Metrics.get?_without m.metrics h

/-- What is stored for a metric of types: the value of the structure if it is among those that hold,
    and otherwise what is there without them. -/
theorem typeValue_eq (h : o.Holds ids) (place : Nat) (id : String) :
    o.typeValue place id =
      if isAmong isTypeMetric ids id then o.bare.types[place]?.bind fun t => t.reference id
      else (o.without ids).typeValue place id := by
  -- a metric that does not hold is among those that `without` keeps
  cases hdrop : isAmong isTypeMetric ids id with
  | false => rw [if_neg Bool.false_ne_true, typeValue_without o place hdrop]
  | true =>
    obtain ⟨hid, hmetric⟩ := isAmong_iff.1 hdrop
    simp only [if_true, typeValue, bare, List.getElem?_map]
    cases htype : o.types[place]? with
    | none => rfl
    | some t =>
      have ht : t.Holds ids := h t (List.mem_of_getElem? htype)
      obtain ⟨v, hv⟩ := (t.isTypeMetric_iff id).1 hmetric
      simp [ht.metrics id hid v hv, hv]

/-- The same for a metric of methods. -/
theorem methodValue_eq (h : o.Holds ids) (place methodPlace : Nat) (id : String) :
    o.methodValue place methodPlace id =
      if isAmong isMethodMetric ids id then
        o.bare.types[place]?.bind fun t => t.methods[methodPlace]?.bind fun m => m.reference id
      else (o.without ids).methodValue place methodPlace id := by
  cases hdrop : isAmong isMethodMetric ids id with
  | false => rw [if_neg Bool.false_ne_true, methodValue_without o place methodPlace hdrop]
  | true =>
    obtain ⟨hid, hmetric⟩ := isAmong_iff.1 hdrop
    simp only [if_true, methodValue, bare, List.getElem?_map]
    cases htype : o.types[place]? with
    | none => rfl
    | some t =>
      have ht : t.Holds ids := h t (List.mem_of_getElem? htype)
      simp only [Option.map_some, Option.bind_some, TypeOutline.bare, List.getElem?_map]
      cases hmethod : t.methods[methodPlace]? with
      | none => rfl
      | some m =>
        have hm : m.Holds ids := ht.methods m (List.mem_of_getElem? hmethod)
        obtain ⟨v, hv⟩ := (m.isMethodMetric_iff id).1 hmetric
        simp [hm id hid v hv, hv]

theorem bare_eq_of_without_eq (h : o.without ids = o'.without ids) : o.bare = o'.bare := by
  rw [← bare_without o ids, h, bare_without]

/-- **What holds and what is there without it determine what is stored.** -/
theorem sameValues_of_holds (ho : o.Holds ids) (ho' : o'.Holds ids)
    (h : o.without ids = o'.without ids) : o.SameValues o' where
  bare := bare_eq_of_without_eq h
  typeValue place id := by rw [typeValue_eq ho, typeValue_eq ho', h, bare_eq_of_without_eq h]
  methodValue place methodPlace id := by
    rw [methodValue_eq ho, methodValue_eq ho', h, bare_eq_of_without_eq h]

/-- **The values that hold depend on the structure only.** -/
theorem sameValuesFor_of_holds (ho : o.Holds ids) (ho' : o'.Holds ids) (h : o.bare = o'.bare) :
    o.SameValuesFor ids o' where
  bare := h
  typeValue place id hid hmetric := by
    have hdrop : isAmong isTypeMetric ids id = true := isAmong_iff.2 ⟨hid, hmetric⟩
    rw [typeValue_eq ho, typeValue_eq ho', if_pos hdrop, if_pos hdrop, h]
  methodValue place methodPlace id hid hmetric := by
    have hdrop : isAmong isMethodMetric ids id = true := isAmong_iff.2 ⟨hid, hmetric⟩
    rw [methodValue_eq ho, methodValue_eq ho', if_pos hdrop, if_pos hdrop, h]

end SourceOutline

end HistoryMetrics
