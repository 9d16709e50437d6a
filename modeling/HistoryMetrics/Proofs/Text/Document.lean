import HistoryMetrics.Document
import HistoryMetrics.Proofs.Text.Pieces

/-! # Documents stand on one line

    Texts are quoted with escapes, and numbers are written with digits, signs and letters. So no document
    holds a line feed, whatever the value is, and a document that is closed by a line feed is one line.

    - `Document.noLineFeed_text`: the statement
    - `Document.splitOn_lines`: documents in a file, each closed by a line feed
-/

namespace HistoryMetrics

/-- The text holds no line feed. -/
def NoLineFeed (s : String) : Prop := '\n' ∉ s.toList

namespace NoLineFeed

instance (s : String) : Decidable (NoLineFeed s) := inferInstanceAs (Decidable ('\n' ∉ s.toList))

theorem append {s t : String} (hs : NoLineFeed s) (ht : NoLineFeed t) : NoLineFeed (s ++ t) := by
  unfold NoLineFeed at *
  rw [String.toList_append, List.mem_append]
  intro h
  rcases h with h | h
  · exact hs h
  · exact ht h

theorem ofList {cs : List Char} (h : '\n' ∉ cs) : NoLineFeed (String.ofList cs) := by
  rwa [NoLineFeed, String.toList_ofList]

theorem ite {p : Prop} [Decidable p] {s t : String} (hs : NoLineFeed s) (ht : NoLineFeed t) :
    NoLineFeed (if p then s else t) := by
  split
  · exact hs
  · exact ht

/-- Texts with a separator between them. -/
theorem intercalate {sep : String} {pieces : List String} (hsep : NoLineFeed sep)
    (h : ∀ p ∈ pieces, NoLineFeed p) : NoLineFeed (sep.intercalate pieces) := by
  unfold NoLineFeed
  rw [String.toList_intercalate]
  intro hmem
  rcases Text.mem_intercalate hmem with hc | ⟨p, hp, hc⟩
  · exact hsep hc
  · obtain ⟨s, hs, rfl⟩ := List.mem_map.1 hp
    exact h s hs hc

end NoLineFeed

/-! ## Numbers -/

theorem noLineFeed_toDigits (n : Nat) : '\n' ∉ Nat.toDigits 10 n := by
  intro h
  have hdigit := Nat.isDigit_of_mem_toDigits (by decide) (by decide) h
  exact absurd hdigit (by decide)

theorem noLineFeed_nat (n : Nat) : NoLineFeed n.repr := by
  rw [Nat.repr_eq_ofList_toDigits]
  exact .ofList (noLineFeed_toDigits n)

theorem noLineFeed_int (i : Int) : NoLineFeed (toString i) := by
  rw [Int.toString_eq_repr]
  cases i with
  | ofNat n => exact noLineFeed_nat n
  | negSucc n => exact .append (by decide) (noLineFeed_nat (n + 1))

namespace Binary64

theorem noLineFeed_significantDigits (n : Nat) : '\n' ∉ significantDigits n := by
  intro h
  have hmem := (List.dropWhile_sublist _).mem (List.mem_reverse.1 h)
  exact noLineFeed_toDigits n (List.mem_reverse.1 hmem)

theorem noLineFeed_exponentText (e : Int) : NoLineFeed (exponentText e) := by
  have hdigits : NoLineFeed (String.ofList (Nat.toDigits 10 e.natAbs)) :=
    .ofList (noLineFeed_toDigits _)
  have hzero : NoLineFeed "0" := by decide
  exact .append (.ite (by decide) (by decide)) (.ite (hzero.append hdigits) hdigits)

theorem noLineFeed_decimal {form : Notation} (hmark : NoLineFeed form.integerMark) (d : Decimal) :
    NoLineFeed (d.text form) := by
  have hds := noLineFeed_significantDigits d.digits
  have hzeros : ∀ n, '\n' ∉ List.replicate n '0' := by
    intro n h
    exact absurd (List.eq_of_mem_replicate h) (by decide)
  unfold Decimal.text
  dsimp only
  split
  · -- positional notation, with the point before, after or between the digits
    split
    · have hall : '\n' ∉ List.replicate (-(↑(Nat.toDigits 10 d.digits).length + d.power)).toNat '0' ++
          significantDigits d.digits := by
        rw [List.mem_append]
        intro h
        exact h.elim (hzeros _) hds
      exact .append (by decide) (.ofList hall)
    · split
      · refine .append (.ofList ?_) hmark
        rw [List.mem_append]
        intro h
        exact h.elim hds (hzeros _)
      · have htake := fun h => hds ((List.take_sublist
          (↑(Nat.toDigits 10 d.digits).length + d.power).toNat (significantDigits d.digits)).mem h)
        have hdrop := fun h => hds ((List.drop_sublist
          (↑(Nat.toDigits 10 d.digits).length + d.power).toNat (significantDigits d.digits)).mem h)
        exact .append (.append (.ofList htake) (by decide)) (.ofList hdrop)
  · -- a mantissa and an exponent
    refine .append ?_ (noLineFeed_exponentText _)
    cases hcs : significantDigits d.digits with
    | nil => exact (by decide : NoLineFeed "0")
    | cons c rest =>
      rw [hcs, List.mem_cons, not_or] at hds
      cases rest with
      | nil => exact .ofList (by simpa using hds.1)
      | cons c' rest => exact .ofList (by simpa using hds)

end Binary64

namespace Document

theorem noLineFeed_number (n : Number) : NoLineFeed (number n) := by
  cases n with
  | whole i => exact noLineFeed_int i
  | real x =>
    have hsign : ∀ s : Bool, NoLineFeed (if s then "-" else "") := by decide
    cases x with
    | nan => exact (by decide : NoLineFeed "NaN")
    | infinite s => exact .append (hsign s) (by decide)
    | finite s m e =>
      have hmark : NoLineFeed Binary64.plain.integerMark := by decide
      have hzero : NoLineFeed "0" := by decide
      exact .append (hsign s) (.ite (hzero.append hmark) (Binary64.noLineFeed_decimal hmark _))

/-! ## Texts -/

theorem noLineFeed_hexDigits (n value : Nat) : '\n' ∉ Text.hexDigits n value := by
  have hdigit : ∀ k < 16, Nat.digitChar k ≠ '\n' := by decide
  induction n generalizing value with
  | zero => exact List.not_mem_nil
  | succ n ih =>
    rw [Text.hexDigits, List.mem_append, List.mem_singleton, not_or]
    exact ⟨ih _, (hdigit _ (Nat.mod_lt _ (by decide))).symm⟩

theorem noLineFeed_unitEscape (unit : Nat) : '\n' ∉ unitEscape unit := by
  simp [unitEscape, noLineFeed_hexDigits]

/-- **A line feed is escaped**, and no other escape holds one. -/
theorem noLineFeed_quotedChar (c : Char) : '\n' ∉ quotedChar c := by
  by_cases hc : c = '\n'
  · subst hc
    decide
  · have hesc := noLineFeed_unitEscape
    have hne : '\n' ≠ c := Ne.symm hc
    unfold quotedChar
    dsimp only
    repeat' split
    all_goals first
      | decide
      | exact hesc _
      | simpa using hne
      | simpa using ⟨hesc _, hesc _⟩

theorem noLineFeed_quoted (s : String) : NoLineFeed (quoted s) := by
  refine .ofList ?_
  simp only [List.cons_append, List.mem_cons, List.mem_append, List.mem_flatMap, List.not_mem_nil,
    or_false]
  intro h
  rcases h with h | ⟨c, -, h⟩ | h
  · exact absurd h (by decide)
  · exact noLineFeed_quotedChar c h
  · exact absurd h (by decide)

/-! ## Values -/

mutual

/-- **A document stands on one line.** -/
theorem noLineFeed_text : ∀ v : Value, NoLineFeed (text v)
  | .null => by decide
  | .bool b => .ite (by decide) (by decide)
  | .number n => noLineFeed_number n
  | .text s => noLineFeed_quoted s
  | .list items =>
    .append (.append (by decide) (.intercalate (by decide) (noLineFeed_itemTexts items))) (by decide)
  | .table entries =>
    .append (.append (by decide) (.intercalate (by decide) (noLineFeed_entryTexts entries)))
      (by decide)
  | .date _ => noLineFeed_quoted _
  | .time _ => noLineFeed_quoted _
  | .moment _ => noLineFeed_quoted _
  | .thresholds _ _ => noLineFeed_quoted _

theorem noLineFeed_itemTexts : ∀ items : List Value, ∀ s ∈ itemTexts items, NoLineFeed s
  | [], s, h => absurd h List.not_mem_nil
  | v :: vs, s, h => by
    rcases List.mem_cons.1 h with rfl | h
    · exact noLineFeed_text v
    · exact noLineFeed_itemTexts vs s h

theorem noLineFeed_entryTexts :
    ∀ entries : List (String × Value), ∀ s ∈ entryTexts entries, NoLineFeed s
  | [], s, h => absurd h List.not_mem_nil
  | (k, v) :: rest, s, h => by
    rcases List.mem_cons.1 h with rfl | h
    · have hcolon : NoLineFeed ": " := by decide
      exact ((noLineFeed_quoted k).append hcolon).append (noLineFeed_text v)
    · exact noLineFeed_entryTexts rest s h

end

/-- **Documents that are each closed by a line feed** are the lines of their text; nothing comes after
    the last line feed. -/
theorem splitOn_lines (values : List Value) :
    Text.splitOn '\n' (values.flatMap fun v => (text v ++ "\n").toList) =
      values.map (fun v => (text v).toList) ++ [[]] := by
  have hpieces : ∀ p ∈ values.map fun v => (text v).toList, '\n' ∉ p := by
    intro p hp
    obtain ⟨v, -, rfl⟩ := List.mem_map.1 hp
    exact noLineFeed_text v
  have hsplit := Text.splitOn_flatMap_sep hpieces
  have hfeed : "\n".toList = ['\n'] := rfl
  rw [List.flatMap_map] at hsplit
  simpa only [String.toList_append, hfeed] using hsplit

end Document

end HistoryMetrics
