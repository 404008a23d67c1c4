import AgentOperator.Config
import AgentOperator.Proofs.Text.Pattern
import Mathlib.Data.List.Forall2
import Mathlib.Data.List.TakeWhile

/-!
# What globs stand for

A key is filtered when it is one of the globs with each star replaced by some text on one
line.  The pattern that is read for a glob is the glob, part by part, between the two ends
of the key.
-/

namespace AgentOperator

namespace Text

variable {glob before rest key : List Char} {c : Char}

/-! ## What a glob covers -/

/-- A star stands for any text on one line, every other character for itself. -/
def StandsFor (c : Char) (text : List Char) : Prop :=
  if c = '*' then '\n' ∉ text else text = [c]

/-- The key is the glob with each character replaced by a text that it stands for. -/
def Covers (glob key : List Char) : Prop :=
  ∃ texts, List.Forall₂ StandsFor glob texts ∧ key = texts.flatten

@[simp] theorem covers_nil : Covers [] key ↔ key = [] := by
  simp [Covers]

theorem covers_cons :
    Covers (c :: glob) key ↔
      ∃ text rest, key = text ++ rest ∧ StandsFor c text ∧ Covers glob rest := by
  unfold Covers
  constructor
  · rintro ⟨texts, htexts, rfl⟩
    obtain ⟨text, behind, htext, hbehind, rfl⟩ := List.forall₂_cons_left_iff.mp htexts
    exact ⟨text, behind.flatten, rfl, htext, behind, hbehind, rfl⟩
  · rintro ⟨text, rest, rfl, htext, behind, hbehind, rfl⟩
    exact ⟨text :: behind, .cons htext hbehind, rfl⟩

theorem covers_star :
    Covers ('*' :: glob) key ↔
      ∃ run rest, key = run ++ rest ∧ '\n' ∉ run ∧ Covers glob rest := by
  simp [covers_cons, StandsFor]

theorem covers_cons_of_ne (hc : c ≠ '*') :
    Covers (c :: glob) key ↔ ∃ rest, key = c :: rest ∧ Covers glob rest := by
  simp [covers_cons, StandsFor, hc]

/-! ## The pattern of a glob -/

theorem fits_glob :
    Pattern.Fits (glob.map partOf ++ [.textEnd]) before rest ↔ Covers glob rest := by
  induction glob generalizing before rest with
  | nil => simp [Pattern.Fits]
  | cons c glob ih =>
      by_cases hc : c = '*'
      · subst hc
        simp [partOf, Pattern.Fits, covers_star, ih]
      · simp [partOf, hc, Pattern.Fits, covers_cons_of_ne hc, ih]

/-- The pattern of a glob matches the keys that the glob covers as a whole. -/
theorem isMatch_globParts :
    Pattern.isMatch (globParts glob) key = true ↔ Covers glob key := by
  rw [globParts, Pattern.isMatch_iff]
  constructor
  · rintro ⟨before, rest, rfl, rfl, hfits⟩
    exact fits_glob.mp hfits
  · intro hcovers
    exact ⟨[], key, rfl, rfl, fits_glob.mpr hcovers⟩

/-! ## Stars in a row -/

theorem covers_append :
    Covers (before ++ glob) key ↔
      ∃ front rest, key = front ++ rest ∧ Covers before front ∧ Covers glob rest := by
  induction before generalizing key with
  | nil => simp
  | cons c before ih =>
      rw [List.cons_append, covers_cons]
      simp only [ih, covers_cons]
      constructor
      · rintro ⟨text, _, rfl, htext, front, rest, rfl, hfront, hrest⟩
        exact ⟨text ++ front, rest, by simp, ⟨text, front, rfl, htext, hfront⟩, hrest⟩
      · rintro ⟨_, rest, rfl, ⟨text, front, rfl, htext, hfront⟩, hrest⟩
        exact ⟨text, front ++ rest, by simp, htext, front, rest, rfl, hfront, hrest⟩

theorem covers_star_star : Covers ('*' :: '*' :: glob) key ↔ Covers ('*' :: glob) key := by
  simp only [covers_star]
  constructor
  · rintro ⟨run, _, rfl, hrun, more, rest, rfl, hmore, hrest⟩
    exact ⟨run ++ more, rest, by simp, by simp [hrun, hmore], hrest⟩
  · rintro ⟨run, rest, rfl, hrun, hrest⟩
    exact ⟨[], run ++ rest, rfl, List.not_mem_nil, run, rest, rfl, hrun, hrest⟩

theorem covers_stars (n : Nat) :
    Covers (List.replicate (n + 1) '*' ++ glob) key ↔ Covers ('*' :: glob) key := by
  induction n with
  | zero => rfl
  | succ n ih =>
      rw [List.replicate_succ, List.cons_append, List.replicate_succ, List.cons_append,
        covers_star_star, ← List.cons_append, ← List.replicate_succ, ih]

theorem covers_of_notMem_star (hglob : '*' ∉ glob) : Covers glob key ↔ key = glob := by
  induction glob generalizing key with
  | nil => exact covers_nil
  | cons c glob ih =>
      rw [List.mem_cons, not_or] at hglob
      rw [covers_cons_of_ne (Ne.symm hglob.1)]
      simp [ih hglob.2]

/-! ## Globs without the white space around them -/

theorem dropWhile_append_of_not_isBlank (hc : isBlank c = false) (before rest : List Char) :
    (before ++ c :: rest).dropWhile isBlank = before.dropWhile isBlank ++ c :: rest := by
  rw [List.dropWhile_append]
  split
  next hnone => simp [List.isEmpty_iff.mp hnone, hc]
  next => rfl

theorem trimEnd_append_of_not_isBlank (hc : isBlank c = false) (before rest : List Char) :
    trimEnd (before ++ c :: rest) = before ++ c :: trimEnd rest := by
  unfold trimEnd
  rw [List.reverse_append, List.reverse_cons, List.append_assoc, List.singleton_append,
    dropWhile_append_of_not_isBlank hc]
  simp

theorem trim_append_of_not_isBlank (hc : isBlank c = false) (before rest : List Char) :
    trim (before ++ c :: rest) = before.dropWhile isBlank ++ c :: trimEnd rest := by
  unfold trim
  rw [dropWhile_append_of_not_isBlank hc, trimEnd_append_of_not_isBlank hc]

theorem trimEnd_stars (n : Nat) (rest : List Char) :
    trimEnd (List.replicate n '*' ++ rest) = List.replicate n '*' ++ trimEnd rest := by
  induction n with
  | zero => rfl
  | succ n ih =>
      rw [List.replicate_succ, List.cons_append, List.cons_append, ← ih]
      exact trimEnd_append_of_not_isBlank (by decide) [] _

theorem mem_of_mem_trim {cs : List Char} (hmem : c ∈ trim cs) : c ∈ cs := by
  unfold trim trimEnd at hmem
  rw [List.mem_reverse] at hmem
  have hinner := List.mem_reverse.mp ((List.dropWhile_sublist _).subset hmem)
  exact (List.dropWhile_sublist _).subset hinner

theorem trim_eq_nil_iff {cs : List Char} : trim cs = [] ↔ cs.all isBlank = true := by
  constructor
  · intro htrim
    by_contra hblank
    obtain ⟨c, hmem, hc⟩ : ∃ c ∈ cs, isBlank c = false := by simpa using hblank
    obtain ⟨before, rest, rfl⟩ := List.append_of_mem hmem
    rw [trim_append_of_not_isBlank hc] at htrim
    simp at htrim
  · intro hblank
    have hnone := List.dropWhile_eq_nil_iff.mpr (List.all_eq_true.mp hblank)
    unfold trim
    rw [hnone]
    rfl

/-! ## Lists of globs -/

/-- One of the globs is not blank and covers the key, without the white space around
it. -/
def IsFiltered (globs : List String) (key : String) : Prop :=
  ∃ glob ∈ globs, isBlankText glob = false ∧ Covers (trim glob.toList) key.toList

theorem isEmpty_trim (glob : String) : (trim glob.toList).isEmpty = isBlankText glob := by
  rw [Bool.eq_iff_iff, List.isEmpty_iff, trim_eq_nil_iff]
  rfl

theorem anyMatches_readGlobs {globs : List String} {key : String} :
    anyMatches (readGlobs globs) key = true ↔ IsFiltered globs key := by
  unfold anyMatches IsFiltered
  rw [readGlobs_eq]
  simp only [List.any_eq_true, List.mem_map, List.mem_filter]
  constructor
  · rintro ⟨_, ⟨_, ⟨⟨glob, hglob, rfl⟩, hsome⟩, rfl⟩, hmatch⟩
    rw [isEmpty_trim, Bool.not_eq_true'] at hsome
    exact ⟨glob, hglob, hsome, isMatch_globParts.mp hmatch⟩
  · rintro ⟨glob, hglob, hblank, hcovers⟩
    refine ⟨_, ⟨_, ⟨⟨glob, hglob, rfl⟩, ?_⟩, rfl⟩, isMatch_globParts.mpr hcovers⟩
    rw [isEmpty_trim, hblank]
    rfl

theorem isFiltered_single {glob key : String} :
    IsFiltered [glob] key ↔
      isBlankText glob = false ∧ Covers (trim glob.toList) key.toList := by
  simp [IsFiltered]

/-- A run of stars in a glob. -/
def starRun (n : Nat) : String := String.ofList (List.replicate n '*')

theorem isFiltered_starRun (before after key : String) (n : Nat) :
    IsFiltered [before ++ starRun (n + 1) ++ after] key ↔
      IsFiltered [before ++ "*" ++ after] key := by
  have hstar : isBlank '*' = false := by decide
  have hblank (stars : List Char) :
      (before.toList ++ '*' :: stars).all isBlank = false := by simp [hstar]
  have hruns : (before ++ starRun (n + 1) ++ after).toList =
      before.toList ++ '*' :: (List.replicate n '*' ++ after.toList) := by
    simp [starRun, List.replicate_succ]
  have hsingle : (before ++ "*" ++ after).toList = before.toList ++ '*' :: after.toList := by
    simp
  rw [isFiltered_single, isFiltered_single]
  unfold isBlankText
  rw [hruns, hsingle, hblank, hblank, trim_append_of_not_isBlank hstar,
    trim_append_of_not_isBlank hstar, trimEnd_stars, covers_append, covers_append,
    ← List.cons_append, ← List.replicate_succ]
  simp only [covers_stars]

end Text

/-- Whatever the globs, a key is kept from being handed on just when one of them covers
it.  Stars in a row are as good as one, wherever they stand, and a glob without a star
is a key, whatever its characters. -/
theorem filters_mean_their_globs (image : Option String) (labels annotations : List String)
    (key : String) :
    ((OperatorConfig.ofSettings image labels annotations).filters.dropsLabel key = true ↔
      Text.IsFiltered labels key) ∧
    ((OperatorConfig.ofSettings image labels annotations).filters.dropsAnnotation key = true ↔
      Text.IsFiltered annotations key) ∧
    (∀ before after n,
      Text.anyMatches (Text.readGlobs [before ++ Text.starRun (n + 1) ++ after]) key =
        Text.anyMatches (Text.readGlobs [before ++ "*" ++ after]) key) ∧
    ∀ glob, '*' ∉ glob.toList →
      (Text.anyMatches (Text.readGlobs [glob]) key = true ↔
        Text.isBlankText glob = false ∧ key.toList = Text.trim glob.toList) := by
  refine ⟨Text.anyMatches_readGlobs, Text.anyMatches_readGlobs, ?_, ?_⟩
  · intro before after n
    rw [Bool.eq_iff_iff, Text.anyMatches_readGlobs, Text.anyMatches_readGlobs]
    exact Text.isFiltered_starRun before after key n
  · intro glob hglob
    rw [Text.anyMatches_readGlobs, Text.isFiltered_single,
      Text.covers_of_notMem_star fun hmem => hglob (Text.mem_of_mem_trim hmem)]

theorem filters_mean_their_globs_literal :
    '*' ∉ " a+b/(x)".toList ∧
      Text.anyMatches (Text.readGlobs [" a+b/(x)"]) "a+b/(x)" = true ∧
      Text.anyMatches (Text.readGlobs [" a+b/(x)"]) "aab/x" = false := by
  have hglob : '*' ∉ " a+b/(x)".toList := by decide
  have hself := (filters_mean_their_globs none [] [] "a+b/(x)").2.2.2 _ hglob
  have hother := (filters_mean_their_globs none [] [] "aab/x").2.2.2 _ hglob
  refine ⟨hglob, hself.mpr (by decide), ?_⟩
  rw [Bool.eq_false_iff, ne_eq, hother]
  decide

end AgentOperator
