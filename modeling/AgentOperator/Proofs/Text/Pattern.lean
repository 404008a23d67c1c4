import AgentOperator.Text.Pattern

/-!
# Matching a pattern

A pattern matches from a place in a text when each of its parts finds what it stands for,
one behind the other, with the ends of the text where it asks for them.  The rows answer
that question for every place, so nothing that a search with backtracking would find is
missed.
-/

namespace AgentOperator.Text.Pattern

variable {p : Pattern} {text before rest : List Char} {row : List Bool}

/-- The pattern matches from the place between what stands before and the rest. -/
def Fits : Pattern → List Char → List Char → Prop
  | [], _, _ => True
  | .literal c :: parts, before, rest =>
    ∃ after, rest = c :: after ∧ Fits parts (before ++ [c]) after
  | .anyRun :: parts, before, rest =>
    ∃ run after, rest = run ++ after ∧ '\n' ∉ run ∧ Fits parts (before ++ run) after
  | .textStart :: parts, before, rest => before = [] ∧ Fits parts before rest
  | .textEnd :: parts, before, rest => rest = [] ∧ Fits parts before rest

/-- The row says for each place behind what stands before whether a property holds
there. -/
inductive Answers (property : List Char → List Char → Prop) :
    List Char → List Char → List Bool → Prop
  | last {before : List Char} {answer : Bool} (heq : answer = true ↔ property before []) :
    Answers property before [] [answer]
  | place {before rest : List Char} {c : Char} {answer : Bool} {row : List Bool}
    (heq : answer = true ↔ property before (c :: rest))
    (hbehind : Answers property (before ++ [c]) rest row) :
    Answers property before (c :: rest) (answer :: row)

namespace Answers

variable {property : List Char → List Char → Prop}

theorem headD_iff (hrow : Answers property before rest row) :
    row.headD false = true ↔ property before rest := by
  cases hrow with
  | last heq => exact heq
  | place heq _ => exact heq

theorem any_iff (hrow : Answers property before rest row) :
    row.any id = true ↔
      ∃ front after, rest = front ++ after ∧ property (before ++ front) after := by
  induction hrow with
  | last heq =>
      simp only [List.any_cons, List.any_nil, id_eq, Bool.or_false, heq]
      constructor
      · intro hhere
        exact ⟨[], [], rfl, by simpa using hhere⟩
      · rintro ⟨front, after, hnil, hhere⟩
        obtain ⟨rfl, rfl⟩ := List.append_eq_nil_iff.mp hnil.symm
        simpa using hhere
  | @place before rest c _ _ heq _ ih =>
      simp only [List.any_cons, id_eq, Bool.or_eq_true, heq, ih]
      constructor
      · rintro (hhere | ⟨front, after, rfl, hlater⟩)
        · exact ⟨[], c :: rest, rfl, by simpa using hhere⟩
        · exact ⟨c :: front, after, rfl, by simpa using hlater⟩
      · rintro ⟨front, after, hcut, hproperty⟩
        cases front with
        | nil =>
            obtain rfl : after = c :: rest := hcut.symm
            exact .inl (by simpa using hproperty)
        | cons d front =>
            obtain ⟨rfl, rfl⟩ := List.cons.inj hcut
            exact .inr ⟨front, after, rfl, by simpa using hproperty⟩

/-! ## One part -/

theorem replicate (before rest : List Char) :
    Answers (fun _ _ => True) before rest (List.replicate (rest.length + 1) true) := by
  induction rest generalizing before with
  | nil => exact .last (by simp)
  | cons c rest ih => exact .place (by simp) (ih (before ++ [c]))

theorem literalRow (c : Char) (hrow : Answers property before rest row) :
    Answers (fun before rest => ∃ after, rest = c :: after ∧ property (before ++ [c]) after)
      before rest (Pattern.literalRow c rest row) := by
  induction hrow with
  | last => exact .last (by simp)
  | place _ hbehind ih =>
      refine .place ?_ ih
      rw [Bool.and_eq_true, beq_iff_eq, hbehind.headD_iff]
      constructor
      · rintro ⟨rfl, hafter⟩
        exact ⟨_, rfl, hafter⟩
      · rintro ⟨after, hcut, hafter⟩
        obtain ⟨rfl, rfl⟩ := List.cons.inj hcut
        exact ⟨rfl, hafter⟩

theorem runRow (hrow : Answers property before rest row) :
    Answers (fun before rest => ∃ run after, rest = run ++ after ∧ '\n' ∉ run ∧
        property (before ++ run) after)
      before rest (Pattern.runRow rest row) := by
  induction hrow with
  | last heq =>
      refine .last ?_
      rw [heq]
      constructor
      · intro hhere
        exact ⟨[], [], rfl, List.not_mem_nil, by simpa using hhere⟩
      · rintro ⟨run, after, hnil, -, hhere⟩
        obtain ⟨rfl, rfl⟩ := List.append_eq_nil_iff.mp hnil.symm
        simpa using hhere
  | @place before rest c _ _ heq _ ih =>
      refine .place ?_ ih
      simp only [Bool.or_eq_true, Bool.and_eq_true, bne_iff_ne, heq, ih.headD_iff]
      constructor
      · rintro (hhere | ⟨hline, run, after, rfl, hrun, hafter⟩)
        · exact ⟨[], c :: rest, rfl, List.not_mem_nil, by simpa using hhere⟩
        · refine ⟨c :: run, after, rfl, ?_, by simpa using hafter⟩
          simpa using ⟨hline.symm, hrun⟩
      · rintro ⟨run, after, hcut, hrun, hafter⟩
        cases run with
        | nil =>
            obtain rfl : after = c :: rest := hcut.symm
            exact .inl (by simpa using hafter)
        | cons d run =>
            obtain ⟨rfl, rfl⟩ := List.cons.inj hcut
            rw [List.mem_cons, not_or] at hrun
            exact .inr ⟨Ne.symm hrun.1, run, after, rfl, hrun.2, by simpa using hafter⟩

/-- Behind some character no place is the first one. -/
theorem map_false (hrow : Answers property before rest row) (hbefore : before ≠ []) :
    Answers (fun before rest => before = [] ∧ property before rest) before rest
      (row.map fun _ => false) := by
  induction hrow with
  | last => exact .last (by simp [hbefore])
  | place _ _ ih => exact .place (by simp [hbefore]) (ih (by simp))

theorem startRow (hrow : Answers property [] rest row) :
    Answers (fun before rest => before = [] ∧ property before rest) [] rest
      (Pattern.startRow row) := by
  cases hrow with
  | last heq => exact .last (by simpa using heq)
  | place heq hbehind => exact .place (by simpa using heq) (hbehind.map_false (by simp))

theorem endRow (hrow : Answers property before rest row) :
    Answers (fun before rest => rest = [] ∧ property before rest) before rest
      (Pattern.endRow row) := by
  induction hrow with
  | last heq => exact .last (by simpa using heq)
  | place _ hbehind ih =>
      cases hbehind with
      | last => exact .place (by simp) ih
      | place => exact .place (by simp) ih

end Answers

/-! ## A whole pattern -/

theorem answers_row (p : Pattern) (text : List Char) :
    Answers (Fits p) [] text (Pattern.row text p) := by
  induction p with
  | nil => exact .replicate [] text
  | cons part parts ih =>
      cases part with
      | literal c => exact ih.literalRow c
      | anyRun => exact ih.runRow
      | textStart => exact ih.startRow
      | textEnd => exact ih.endRow

/-- Matching finds a place from which the pattern fits just when there is one. -/
theorem isMatch_iff :
    p.isMatch text = true ↔ ∃ before rest, text = before ++ rest ∧ Fits p before rest := by
  unfold isMatch
  rw [(answers_row p text).any_iff]
  simp

end AgentOperator.Text.Pattern
