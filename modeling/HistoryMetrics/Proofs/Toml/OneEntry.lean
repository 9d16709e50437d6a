import HistoryMetrics.Proofs.Action.Returns
import HistoryMetrics.Toml.Document

/-! # Files of one entry

    A name, an equals sign and a value: read part by part, this gives a table of one entry, as a whole
    file and inside braces.

    - `value_oneEntry`: inside braces
    - `Document.ofLines_entry`: a whole file
-/

namespace HistoryMetrics

open HistoryMetrics.Action

namespace Toml

/-- **A table of one entry on one line.** -/
theorem value_oneEntry {fuel : Nat} {c : Char} {cs rest after : List Char} {name : String} {v : Value}
    (hfirst : c ≠ ' ' ∧ c ≠ '\t' ∧ c ≠ '\x7d') (hkey : key (c :: cs) = .ok ([name], '=' :: rest))
    (hvalue : value fuel (skipBlanks rest) = .ok (v, '\x7d' :: after)) :
    value (fuel + 2) ('\x7b' :: c :: cs) = .ok (.table [(name, v)], after) := by
  obtain ⟨hspace, htab, hclose⟩ := hfirst
  have hskip : skipBlanks (c :: cs) = c :: cs := by
    have hblank : ¬ isBlank c = true := by simp [isBlank, hspace, htab]
    rw [skipBlanks, List.dropWhile_cons_of_neg hblank]
  have hfields : fields (fuel + 1) [] .none (c :: cs) = .ok ([(name, v)], after) := by
    unfold fields
    refine except_bind_ok_iff.2 ⟨_, hkey, ?_⟩
    exact except_bind_ok_iff.2 ⟨_, hvalue, except_bind_ok_iff.2 ⟨_, rfl, rfl⟩⟩
  unfold value
  simp only [hskip]
  split
  · next heq => exact absurd (List.cons.inj heq).1 hclose
  · rw [hfields]
    rfl

namespace Document

/-- **A file of one entry.** -/
theorem ofLines_entry {c : Char} {cs rest : List Char} {name : String} {v : Value}
    (hstart : startsKey c = true) (hfirst : c ≠ ' ' ∧ c ≠ '\t' ∧ c ≠ '\n' ∧ c ≠ '[')
    (hkey : key (c :: cs) = .ok ([name], '=' :: rest))
    (hvalue : value (2 * (skipBlanks rest).length + 2) (skipBlanks rest) = .ok (v, [])) :
    ofLines (c :: cs) = .ok [(name, v)] := by
  obtain ⟨hspace, htab, hfeed, hopen⟩ := hfirst
  have hskip : skipBlanks (c :: cs) = c :: cs := by
    have hblank : ¬ isBlank c = true := by simp [isBlank, hspace, htab]
    rw [skipBlanks, List.dropWhile_cons_of_neg hblank]
  have hentry : ∃ d, addEntry empty [name] v [] = .ok d ∧ d.table = [(name, v)] := ⟨_, rfl, rfl⟩
  obtain ⟨d, hentry, htable⟩ := hentry
  have hstatement : statement empty (c :: cs) = .ok (d, []) := by
    unfold statement
    split
    · next heq => exact absurd (List.cons.inj heq).1 hopen
    · next heq => exact absurd (List.cons.inj heq).1 hopen
    · next c' _ heq =>
      obtain ⟨rfl, rfl⟩ := List.cons.inj heq
      rw [if_pos hstart]
      refine except_bind_ok_iff.2 ⟨_, hkey, ?_⟩
      exact except_bind_ok_iff.2 ⟨_, hvalue, except_bind_ok_iff.2 ⟨d, hentry, rfl⟩⟩
    · next heq => cases heq
  have hlines : lines ((c :: cs).length + 1) empty (c :: cs) = .ok d := by
    rw [lines, hskip]
    split
    · next heq => cases heq
    · next heq => exact absurd (List.cons.inj heq).1 hfeed
    · rw [hstatement]
      rfl
  rw [ofLines, hlines, ← htable]
  rfl

end Document

end Toml

end HistoryMetrics
