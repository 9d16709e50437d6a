import HistoryMetrics.Metric.Plugin

/-! # The catalogue of metrics and the order of its plug-ins

    - `Registry`: plug-ins by id, in the order of registration, one for each id
    - `Registry.closure`: the plug-ins that some targets need
    - `arranged`: plug-ins ordered so that each stands after its prerequisites
    - `Registry.resolve`: both, or the reason why there is no such order

    A plug-in is ready once all its prerequisites have been placed; ready plug-ins are placed in the
    order in which they became ready.
-/

namespace HistoryMetrics

-- Sums start at the zero of the core library, whatever other zeros are in scope.
attribute [local instance (high)] Zero.ofOfNat0

/-- **Plug-ins by id.** -/
structure Registry where
  plugins : List Plugin

namespace Registry

/-- No plug-ins. -/
def empty : Registry := ⟨[]⟩

/-- The ids in the order of registration. -/
def ids (r : Registry) : List String := r.plugins.map Plugin.id

/-- The plug-in with the given id. -/
def get? (r : Registry) (id : String) : Option Plugin := r.plugins.find? fun p => p.id == id

/-- Is a plug-in registered under the id? -/
def has (r : Registry) (id : String) : Bool := r.plugins.any fun p => p.id == id

/-- **Registers a plug-in.** An id can be taken once. -/
def register (r : Registry) (p : Plugin) : Except Problem Registry :=
  if r.has p.id then
    .error (.general .metricCatalogue ("Metric '" ++ p.id ++ "' registered twice")
      [("metric", .text p.id)])
  else .ok ⟨r.plugins ++ [p]⟩

/-- Registers plug-ins one after the other. -/
def registerAll (r : Registry) : List Plugin → Except Problem Registry
  | [] => .ok r
  | p :: ps =>
    match r.register p with
    | .ok r' => r'.registerAll ps
    | .error e => .error e

/-- The registry of the built-in metrics. -/
def standard : Registry := ⟨Plugin.builtins⟩

/-- The plug-in with the given id, or the problem that there is none. -/
def require (r : Registry) (id : String) : Except Problem Plugin :=
  match r.get? id with
  | some p => .ok p
  | none => .error (.unknownMetric id none)

end Registry

/-! ## What some targets need -/

/-- **A wish**: a metric, and the one that requires it, if any. -/
structure Wish where
  id : String
  requiredBy : Option String
deriving Repr, DecidableEq

/-- The wishes of a plug-in, the last of its prerequisites first. -/
def Plugin.wishes (p : Plugin) : List Wish := (p.requires.map fun r => ⟨r, some p.id⟩).reverse

/-- The plug-ins of a registry that are not among some others. -/
def Registry.outside (r : Registry) (found : List Plugin) : List Plugin :=
  r.plugins.filter fun p => !found.any fun q => q.id == p.id

/-- Does some plug-in have the id? -/
def holdsId (found : List Plugin) (id : String) : Bool := found.any fun p => p.id == id

/-- The metric that a complaint names as the one in need; an empty id does not count. -/
def Wish.complainant (w : Wish) : Option String := w.requiredBy.filter fun s => !s.isEmpty

/-- One plug-in of the registry fewer is outside once it has been found. -/
theorem Registry.outside_lt (r : Registry) (found : List Plugin) (p : Plugin) (id : String)
    (h : r.get? id = some p) (hn : holdsId found id = false) :
    (r.outside (found ++ [p])).length < (r.outside found).length := by
  have hid : p.id = id := by simpa using List.find?_some h
  have hmem : p ∈ r.plugins := List.mem_of_find?_eq_some h
  have hsub : r.outside (found ++ [p]) = (r.outside found).filter fun q => q.id != p.id := by
    simp only [Registry.outside, List.filter_filter]
    congr 1
    funext q
    simp only [List.any_append, List.any_cons, List.any_nil, Bool.or_false, Bool.not_or]
    rw [Bool.and_comm]
    congr 1
    rw [bne, Bool.beq_comm]
  rw [hsub]
  refine List.length_filter_lt_length_iff_exists.2 ⟨p, ?_, by simp⟩
  simp only [Registry.outside, List.mem_filter, hmem, true_and]
  rw [hid]
  simpa [holdsId] using hn

/-- **The plug-ins that wishes lead to**, in the order in which they are met: wishes are taken from
    the top, and those of a new plug-in go on top. -/
def Registry.closureFrom (r : Registry) (found : List Plugin) (wishes : List Wish) :
    Except Problem (List Plugin) :=
  match wishes with
  | [] => .ok found
  | w :: ws =>
    if _hf : holdsId found w.id then r.closureFrom found ws
    else
      match _hp : r.get? w.id with
      | none => .error (.unknownMetric w.id w.complainant)
      | some p => r.closureFrom (found ++ [p]) (p.wishes ++ ws)
termination_by ((r.outside found).length, wishes.length)
decreasing_by
  · exact Prod.Lex.right _ (by simp)
  · exact Prod.Lex.left _ _ (r.outside_lt found p w.id _hp (by simpa using _hf))

/-- The plug-ins that targets need; the last target is looked at first. -/
def Registry.closure (r : Registry) (targets : List String) : Except Problem (List Plugin) :=
  r.closureFrom [] (targets.map fun t => ⟨t, none⟩).reverse

/-! ## Order -/

/-- The plug-ins that wait for `id` and for nothing outside `placed`. -/
def released (ps : List Plugin) (placed : List String) (id : String) : List String :=
  (ps.filter fun p => p.requires.contains id && p.requires.all placed.contains).map Plugin.id

/-- Places the plug-ins that are ready, `fuel` of them at most, and those that become ready then. -/
def placeReady (ps : List Plugin) : (fuel : Nat) → (placed ready : List String) → List String
  | 0, placed, _ => placed
  | _ + 1, placed, [] => placed
  | fuel + 1, placed, id :: ready =>
    let placed' := placed ++ [id]
    placeReady ps fuel placed' (ready ++ released ps placed' id)

/-- All ids in the order in which they are first mentioned: a plug-in, then its prerequisites. -/
def mentioned (ps : List Plugin) : List String :=
  (ps.flatMap fun p => p.id :: p.requires).eraseDups

/-- The plug-ins without prerequisites, as they are first mentioned. -/
def readyAtOnce (ps : List Plugin) : List String :=
  (mentioned ps).filter fun id => ps.any fun p => p.id == id && p.requires.isEmpty

/-- **The ids of plug-ins in order**, as far as they can be placed. -/
def arranged (ps : List Plugin) : List String := placeReady ps ps.length [] (readyAtOnce ps)

/-! ## Cycles -/

/-- The plug-ins that require `id`, once for every time that they do. -/
def dependents (ps : List Plugin) (id : String) : List String :=
  ps.flatMap fun p => (p.requires.filter fun r => r == id).map fun _ => p.id

/-- **A search for a cycle**: the path to the plug-in under examination, innermost first, each with
    the dependents that are still to be followed; and the plug-ins met so far. -/
structure CycleSearch where
  path : List (String × List String)
  seen : List String

/-- Follows dependents depth first; `starts` are the plug-ins to start from. -/
def searchCycle (ps : List Plugin) :
    (fuel : Nat) → (starts : List String) → CycleSearch → List String
  | 0, _, _ => []
  | _ + 1, [], ⟨[], _⟩ => []
  | fuel + 1, id :: starts, ⟨[], seen⟩ =>
    if seen.contains id then searchCycle ps fuel starts ⟨[], seen⟩
    else searchCycle ps fuel starts ⟨[(id, dependents ps id)], id :: seen⟩
  | fuel + 1, starts, ⟨(_, []) :: path, seen⟩ => searchCycle ps fuel starts ⟨path, seen⟩
  | fuel + 1, starts, ⟨(top, id :: rest) :: path, seen⟩ =>
    let path' := (top, rest) :: path
    if seen.contains id then
      let ids := path'.map Prod.fst
      if ids.contains id then id :: (ids.takeWhile fun i => i != id).reverse ++ [id]
      else searchCycle ps fuel starts ⟨path', seen⟩
    else searchCycle ps fuel starts ⟨(id, dependents ps id) :: path', id :: seen⟩

/-- The first cycle that the search meets, with its first member at both ends. Every step of the
    search starts at a plug-in, follows a requirement or leaves a plug-in. -/
def cycleOf (ps : List Plugin) : List String :=
  let starts := mentioned ps
  let edges := (ps.map fun p => p.requires.length).sum
  searchCycle ps (3 * starts.length + 2 * edges + 3) starts ⟨[], []⟩

/-! ## Both together -/

/-- The plug-in with the given id among some. -/
def findPlugin? (ps : List Plugin) (id : String) : Option Plugin := ps.find? fun p => p.id == id

/-- Plug-ins in an order in which each stands after its prerequisites, or a cycle. -/
def inOrder (ps : List Plugin) : Except Problem (List Plugin) :=
  let ids := arranged ps
  if ids.length == ps.length then .ok (ids.filterMap (findPlugin? ps))
  else .error (.metricCycle (cycleOf ps))

/-- **The plug-ins that targets need**, in order; without targets, those of the whole registry. -/
def Registry.resolve (r : Registry) (targets : Option (List String)) :
    Except Problem (List Plugin) :=
  match r.closure (targets.getD r.ids) with
  | .ok ps => inOrder ps
  | .error e => .error e

end HistoryMetrics
