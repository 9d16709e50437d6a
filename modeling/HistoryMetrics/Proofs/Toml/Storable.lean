import HistoryMetrics.Proofs.Action.Returns
import HistoryMetrics.Proofs.Lookup
import HistoryMetrics.Toml.Document

/-! # What a settings file holds

    A file in the TOML notation never gives an empty value or thresholds, and in none of its tables does
    a name stand twice. Every reader of a part of such a file keeps to that, and so does every change of
    the table that is being built.

    - `Storable`: the values that a file can hold
    - `Table.KeepsStorable`: changes of tables that keep to them
    - `keeps_within`: changing a table inside others
    - `storable_value`: values of entries
    - `storable_ofLines`: the table of a file
-/

namespace HistoryMetrics.Toml

open HistoryMetrics.Action

/-- **What a settings file can hold.** -/
inductive Storable : Value → Prop where
  | bool (b : Bool) : Storable (.bool b)
  | number (n : Number) : Storable (.number n)
  | text (s : String) : Storable (.text s)
  | date (d : Date) : Storable (.date d)
  | time (t : TimeOfDay) : Storable (.time t)
  | moment (m : Moment) : Storable (.moment m)
  | list {items : List Value} (h : ∀ v ∈ items, Storable v) : Storable (.list items)
  | table {entries : Table} (names : (entries.map Prod.fst).Nodup)
      (values : ∀ e ∈ entries, Storable e.2) : Storable (.table entries)

namespace Table

/-- **A table that a file can hold.** -/
structure IsStorable (t : Table) : Prop where
  names : (t.map Prod.fst).Nodup
  values : ∀ e ∈ t, Storable e.2

variable {t u : Table} {name : String} {v w : Value}

theorem isStorable_nil : IsStorable [] := ⟨List.nodup_nil, fun _ h => absurd h List.not_mem_nil⟩

theorem IsStorable.toValue (h : t.IsStorable) : Storable (.table t) := .table h.names h.values

theorem IsStorable.ofValue (h : Storable (.table t)) : t.IsStorable := by
  cases h with
  | table names values => exact ⟨names, values⟩

theorem IsStorable.lookup (h : t.IsStorable) (hv : t.lookup name = some v) : Storable v :=
  h.values _ (Entries.mem_of_lookup hv)

/-! ## Changing a table -/

theorem mem_set {e : String × Value} (h : e ∈ set name v t) : e = (name, v) ∨ e ∈ t := by
  induction t with
  | nil => exact .inl (List.mem_singleton.1 h)
  | cons x rest ih =>
    rw [set] at h
    split at h
    · rcases List.mem_cons.1 h with h | h
      · exact .inl h
      · exact .inr (List.mem_cons_of_mem _ h)
    · rcases List.mem_cons.1 h with h | h
      · exact .inr (h ▸ List.mem_cons_self)
      · exact (ih h).imp_right (List.mem_cons_of_mem _)

/-- An entry that is replaced stays in its place, and a new one comes to the end. -/
theorem map_fst_set (t : Table) (name : String) (v : Value) :
    (set name v t).map Prod.fst =
      if name ∈ t.map Prod.fst then t.map Prod.fst else t.map Prod.fst ++ [name] := by
  induction t with
  | nil => rfl
  | cons x rest ih =>
    rw [set]
    by_cases hname : x.1 = name
    · simp [hname]
    · have hne : name ≠ x.1 := Ne.symm hname
      by_cases hmem : name ∈ rest.map Prod.fst
      · rw [if_neg (by simpa using hname), List.map_cons, ih, if_pos hmem, List.map_cons,
          if_pos (List.mem_cons_of_mem _ hmem)]
      · rw [if_neg (by simpa using hname), List.map_cons, ih, if_neg hmem, List.map_cons,
          if_neg (by simp only [List.mem_cons, hne, hmem, or_self, not_false_eq_true]), List.cons_append]

theorem IsStorable.add (h : t.IsStorable) (hv : Storable v) (hname : name ∉ t.map Prod.fst) :
    IsStorable (t ++ [(name, v)]) where
  names := by
    rw [List.map_append, List.nodup_append]
    refine ⟨h.names, by simp, ?_⟩
    intro old hold new hnew heq
    rw [List.map_singleton, List.mem_singleton] at hnew
    apply hname
    have hlast : old = name := heq.trans hnew
    rw [← hlast]
    exact hold
  values := by
    intro e he
    rcases List.mem_append.1 he with he | he
    · exact h.values e he
    · rw [List.mem_singleton.1 he]
      exact hv

theorem IsStorable.set (h : t.IsStorable) (hv : Storable v) : IsStorable (set name v t) where
  names := by
    rw [map_fst_set]
    split
    · exact h.names
    · next hname =>
      have hadd := (h.add hv hname).names
      rwa [List.map_append] at hadd
  values e he := by
    rcases mem_set he with rfl | he
    · exact hv
    · exact h.values e he

/-- **Changes that keep to what a file can hold.** -/
def KeepsStorable (f : Table → Option Table) : Prop :=
  ∀ t u, t.IsStorable → f t = some u → u.IsStorable

theorem keeps_some : KeepsStorable some := by
  intro t u ht h
  cases h
  exact ht

theorem keeps_put (name : String) (hv : Storable v) : KeepsStorable (put name v) := by
  intro t u ht h
  unfold put at h
  cases hlookup : t.lookup name with
  | some w =>
    rw [hlookup] at h
    cases h
  | none =>
    rw [hlookup] at h
    cases h
    exact ht.add hv (Entries.lookup_eq_none_iff_names.1 hlookup)

theorem keeps_appendTable (name : String) : KeepsStorable (appendTable name) := by
  have hempty : Storable (.table []) := isStorable_nil.toValue
  intro t u ht h
  unfold appendTable at h
  split at h
  · next hlookup =>
    cases h
    have hlist : Storable (.list [.table []]) := .list fun v hv => by
      rw [List.mem_singleton.1 hv]
      exact hempty
    exact ht.add hlist (Entries.lookup_eq_none_iff_names.1 hlookup)
  · next vs hlookup =>
    cases h
    refine ht.set (.list fun v hv => ?_)
    rcases List.mem_append.1 hv with hv | hv
    · cases ht.lookup hlookup with
      | list hvs => exact hvs v hv
    · rw [List.mem_singleton.1 hv]
      exact hempty
  · cases h

theorem storable_changeLast {f : Value → Option Value}
    (hf : ∀ v w, Storable v → f v = some w → Storable w) {vs ws : List Value}
    (hvs : ∀ v ∈ vs, Storable v) (h : changeLast f vs = some ws) : ∀ w ∈ ws, Storable w := by
  induction vs generalizing ws with
  | nil => cases h
  | cons v rest ih =>
    obtain ⟨hv, hrest⟩ := List.forall_mem_cons.1 hvs
    cases rest with
    | nil =>
      obtain ⟨w, hw, rfl⟩ := Option.map_eq_some_iff.1 h
      exact List.forall_mem_singleton.2 (hf v w hv hw)
    | cons v' rest =>
      obtain ⟨ws', hws, rfl⟩ := Option.map_eq_some_iff.1 h
      exact List.forall_mem_cons.2 ⟨hv, ih hrest hws⟩

theorem storable_asTable {f : Table → Option Table} (hf : KeepsStorable f) (hv : Storable v)
    (h : asTable f v = some w) : Storable w := by
  cases v with
  | table t =>
    obtain ⟨u, hu, rfl⟩ := Option.map_eq_some_iff.1 h
    exact (hf t u (.ofValue hv) hu).toValue
  | _ => cases h

/-- **A change of a table inside others** keeps to what the change itself keeps to. By induction on the
    path that leads there. -/
theorem keeps_within {f : Table → Option Table} (hf : KeepsStorable f) (intoLists : Bool)
    (path : List String) : KeepsStorable (within intoLists f path) := by
  induction path with
  | nil => exact hf
  | cons name path ih =>
    intro t u ht h
    rw [within] at h
    split at h
    · -- a new table
      obtain ⟨inner, hinner, rfl⟩ := Option.map_eq_some_iff.1 h
      exact ht.set (ih [] inner isStorable_nil hinner).toValue
    · next inside hlookup =>
      obtain ⟨inner, hinner, rfl⟩ := Option.map_eq_some_iff.1 h
      exact ht.set (ih inside inner (.ofValue (ht.lookup hlookup)) hinner).toValue
    · next vs hlookup =>
      split at h
      · obtain ⟨ws, hws, rfl⟩ := Option.map_eq_some_iff.1 h
        cases ht.lookup hlookup with
        | list hvs =>
          refine ht.set (.list ?_)
          exact storable_changeLast (fun v w hv hw => storable_asTable ih hv hw) hvs hws
      · cases h
    · cases h

end Table

/-! ## Literals -/

section literals

variable {cs rest : List Char} {v : Value}

theorem storable_dateOrMoment (h : dateOrMoment cs = some (.ok (v, rest))) : Storable v := by
  obtain ⟨⟨date, after⟩, -, h⟩ := Option.map_eq_some_iff.1 h
  dsimp only at h
  split at h
  · split at h
    · cases h
      exact .date date
    · cases h
  · split at h
    · next m hm =>
      cases h
      exact .moment m
    · cases h

theorem storable_timeAlone (h : timeAlone cs = some (v, rest)) : Storable v := by
  obtain ⟨⟨time, after⟩, -, h⟩ := Option.map_eq_some_iff.1 h
  cases h
  exact .time time

theorem storable_basedNumber (h : basedNumber cs = some (v, rest)) : Storable v := by
  unfold basedNumber at h
  split at h
  · obtain ⟨⟨base, isDigit⟩, -, h⟩ := Option.bind_eq_some_iff.1 h
    dsimp only at h
    split at h
    · cases h
    · cases h
      exact .number _
  · cases h

theorem storable_decimalNumber (h : decimalNumber cs = some (.ok (v, rest))) : Storable v := by
  obtain ⟨⟨whole, after⟩, -, h⟩ := Option.map_eq_some_iff.1 h
  dsimp only at h
  split at h
  · split at h
    · cases h
    · cases h
      exact .number _
  · cases h
    exact .number _

theorem storable_wordNumber (h : wordNumber cs = some (v, rest)) : Storable v := by
  unfold wordNumber at h
  dsimp only at h
  split at h
  · cases h
    exact .number _
  · split at h
    · cases h
      exact .number _
    · cases h

/-- **Numbers, dates and times.** -/
theorem storable_literalValue (h : literalValue cs = .ok (v, rest)) : Storable v := by
  unfold literalValue at h
  cases hdate : dateOrMoment cs with
  | some r =>
    simp only [hdate] at h
    exact storable_dateOrMoment (h ▸ hdate)
  | none =>
    cases htime : timeAlone cs with
    | some r =>
      simp only [hdate, htime, Except.ok.injEq] at h
      exact storable_timeAlone (h ▸ htime)
    | none =>
      cases hbased : basedNumber cs with
      | some r =>
        simp only [hdate, htime, hbased, Except.ok.injEq] at h
        exact storable_basedNumber (h ▸ hbased)
      | none =>
        cases hdecimal : decimalNumber cs with
        | some r =>
          simp only [hdate, htime, hbased, hdecimal] at h
          exact storable_decimalNumber (h ▸ hdecimal)
        | none =>
          cases hword : wordNumber cs with
          | some r =>
            simp only [hdate, htime, hbased, hdecimal, hword, Except.ok.injEq] at h
            exact storable_wordNumber (h ▸ hword)
          | none =>
            simp only [hdate, htime, hbased, hdecimal, hword] at h
            cases h

end literals

/-! ## Values -/

/-- One more entry of a table on one line. -/
theorem storable_placed {marks : Marks} {path : List String} {v : Value} {rest : List Char}
    {t u : Table} (ht : t.IsStorable) (hv : Storable v)
    (h : placed marks path v rest t = .ok u) : u.IsStorable := by
  unfold placed at h
  dsimp only at h
  split at h
  · cases h
  · split at h
    · cases h
    · split at h
      · next t' hput =>
        cases h
        exact Table.keeps_within (Table.keeps_put _ hv) false _ t u ht hput
      · cases h

/-- **Values, items of lists and entries of tables on one line**, by induction on the steps that are
    left. -/
theorem storable_parts (fuel : Nat) :
    (∀ cs v rest, value fuel cs = .ok (v, rest) → Storable v) ∧
      (∀ acc cs vs rest, (∀ v ∈ acc, Storable v) → items fuel acc cs = .ok (vs, rest) →
        ∀ v ∈ vs, Storable v) ∧
      (∀ t marks cs u rest, t.IsStorable → fields fuel t marks cs = .ok (u, rest) →
        Table.IsStorable u) := by
  induction fuel with
  | zero =>
    refine ⟨?_, ?_, ?_⟩
    · intro cs v rest h
      cases h
    · intro acc cs vs rest _ h
      cases h
    · intro t marks cs u rest _ h
      cases h
  | succ fuel ih =>
    obtain ⟨hvalue, hitems, hfields⟩ := ih
    refine ⟨?_, ?_, ?_⟩
    · intro cs v rest h
      unfold value at h
      split at h
      · obtain ⟨p, -, hp⟩ := except_map_ok_iff.1 h
        cases hp
        exact .text _
      · obtain ⟨p, -, hp⟩ := except_map_ok_iff.1 h
        cases hp
        exact .text _
      · obtain ⟨after, -, h⟩ := except_bind_ok_iff.1 h
        split at h
        · cases h
          exact .list fun v hv => absurd hv List.not_mem_nil
        · obtain ⟨p, hp, hv⟩ := except_map_ok_iff.1 h
          cases hv
          exact .list (hitems [] _ _ _ (fun v hv => absurd hv List.not_mem_nil) hp)
      · split at h
        · cases h
          exact Table.isStorable_nil.toValue
        · obtain ⟨p, hp, hv⟩ := except_map_ok_iff.1 h
          cases hv
          exact (hfields [] _ _ _ _ Table.isStorable_nil hp).toValue
      · split at h
        · cases h
          exact .bool true
        · split at h
          · cases h
            exact .bool false
          · exact storable_literalValue h
    · intro acc cs vs rest hacc h
      unfold items at h
      obtain ⟨⟨v, after⟩, hv, h⟩ := except_bind_ok_iff.1 h
      have hmore : ∀ w ∈ v :: acc, Storable w :=
        List.forall_mem_cons.2 ⟨hvalue _ _ _ hv, hacc⟩
      have hdone : ∀ w ∈ (v :: acc).reverse, Storable w := fun w hw =>
        hmore w (List.mem_reverse.1 hw)
      obtain ⟨after', -, h⟩ := except_bind_ok_iff.1 h
      split at h
      · cases h
        exact hdone
      · obtain ⟨after'', -, h⟩ := except_bind_ok_iff.1 h
        split at h
        · cases h
          exact hdone
        · exact hitems _ _ _ _ hmore h
      · cases h
    · intro t marks cs u rest ht h
      unfold fields at h
      obtain ⟨⟨path, after⟩, -, h⟩ := except_bind_ok_iff.1 h
      dsimp only at h
      split at h
      · obtain ⟨⟨v, after'⟩, hv, h⟩ := except_bind_ok_iff.1 h
        obtain ⟨t', hplaced, h⟩ := except_bind_ok_iff.1 h
        have ht' := storable_placed ht (hvalue _ _ _ hv) hplaced
        dsimp only at h
        split at h
        · cases h
          exact ht'
        · exact hfields _ _ _ _ _ ht' h
        · cases h
      · cases h

theorem storable_value {fuel : Nat} {cs rest : List Char} {v : Value}
    (h : value fuel cs = .ok (v, rest)) : Storable v :=
  (storable_parts fuel).1 cs v rest h

/-! ## Lines -/

namespace Document

variable {d d' : Document} {path : List String} {rest : List Char} {t : Table}

theorem storable_orOverwritten {f : Table → Option Table} (hf : Table.KeepsStorable f)
    (ht : t.IsStorable) {u : Table} (h : orOverwritten (f t) rest = .ok u) : u.IsStorable := by
  unfold orOverwritten at h
  split at h
  · next t' ht' =>
    cases h
    exact hf t u ht ht'
  · cases h

theorem storable_openTable (hd : d.table.IsStorable) (h : d.openTable path rest = .ok d') :
    d'.table.IsStorable := by
  unfold openTable at h
  split at h
  · cases h
  · obtain ⟨t, ht, rfl⟩ := except_map_ok_iff.1 h
    exact storable_orOverwritten (Table.keeps_within Table.keeps_some true path) hd ht

theorem storable_addTable (hd : d.table.IsStorable) (h : d.addTable path rest = .ok d') :
    d'.table.IsStorable := by
  unfold addTable at h
  split at h
  · cases h
  · obtain ⟨t, ht, rfl⟩ := except_map_ok_iff.1 h
    exact storable_orOverwritten
      (Table.keeps_within (Table.keeps_appendTable _) true path.dropLast) hd ht

theorem storable_addEntry {v : Value} (hd : d.table.IsStorable) (hv : Storable v)
    (h : d.addEntry path v rest = .ok d') : d'.table.IsStorable := by
  unfold addEntry at h
  dsimp only at h
  split at h
  · cases h
  · split at h
    · cases h
    · obtain ⟨t, ht, rfl⟩ := except_map_ok_iff.1 h
      exact storable_orOverwritten (Table.keeps_within (Table.keeps_put _ hv) true _) hd ht

/-- **One statement.** -/
theorem storable_statement {cs : List Char} (hd : d.table.IsStorable)
    (h : d.statement cs = .ok (d', rest)) : d'.table.IsStorable := by
  unfold statement at h
  split at h
  · obtain ⟨⟨path, after⟩, -, h⟩ := except_bind_ok_iff.1 h
    obtain ⟨d₁, hd₁, h⟩ := except_bind_ok_iff.1 h
    split at h
    · cases h
      exact storable_addTable (d := d.settled) hd hd₁
    · cases h
  · obtain ⟨⟨path, after⟩, -, h⟩ := except_bind_ok_iff.1 h
    obtain ⟨d₁, hd₁, h⟩ := except_bind_ok_iff.1 h
    split at h
    · cases h
      exact storable_openTable (d := d.settled) hd hd₁
    · cases h
  · split at h
    · obtain ⟨⟨path, after⟩, -, h⟩ := except_bind_ok_iff.1 h
      dsimp only at h
      split at h
      · obtain ⟨⟨v, after'⟩, hv, h⟩ := except_bind_ok_iff.1 h
        obtain ⟨d₁, hd₁, h⟩ := except_bind_ok_iff.1 h
        cases h
        exact storable_addEntry hd (storable_value hv) hd₁
      · cases h
    · split at h
      · cases h
        exact hd
      · cases h
  · cases h
    exact hd

/-- **All lines**, one after the other. -/
theorem storable_lines {fuel : Nat} {cs : List Char} (hd : d.table.IsStorable)
    (h : lines fuel d cs = .ok d') : d'.table.IsStorable := by
  induction fuel generalizing d cs with
  | zero => cases h
  | succ fuel ih =>
    unfold lines at h
    split at h
    · cases h
      exact hd
    · exact ih hd h
    · obtain ⟨⟨d₁, after⟩, hd₁, h⟩ := except_bind_ok_iff.1 h
      have hnext := storable_statement hd hd₁
      obtain ⟨after', -, h⟩ := except_bind_ok_iff.1 h
      split at h
      · cases h
        exact hnext
      · exact ih hnext h
      · cases h

/-- **The table of a file.** -/
theorem storable_ofLines {cs : List Char} {t : Table} (h : ofLines cs = .ok t) : t.IsStorable := by
  obtain ⟨d, hd, rfl⟩ := except_map_ok_iff.1 h
  exact storable_lines Table.isStorable_nil hd

end Document

end HistoryMetrics.Toml
