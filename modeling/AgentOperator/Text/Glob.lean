import AgentOperator.Text.Blank
import AgentOperator.Text.Pattern

/-!
# Globs

A glob is a text in which a star stands for any run of characters on one line;
every other character stands for itself. A key is matched as a whole. Globs are read by
way of the text of a pattern, and that text can always be read.
-/

namespace AgentOperator.Text

/-- The text of the pattern for a glob, without the two ends: the parts between its
stars are taken as they are, and runs are put between them. -/
def globBody (glob : List Char) : List Char :=
  ['.', '*'].intercalate ((glob.splitOn '*').map Pattern.escape)

def globPattern (glob : List Char) : List Char := '^' :: (globBody glob ++ ['$'])

/-! ## Every glob can be read -/

variable {c : Char}

/-- The part of a pattern for a character of a glob. -/
def partOf (c : Char) : PatternPart := if c = '*' then .anyRun else .literal c

/-- The pattern that is read for a glob. -/
def globParts (glob : List Char) : Pattern :=
  .textStart :: (glob.map partOf ++ [.textEnd])

theorem globBody_star (glob : List Char) :
    globBody ('*' :: glob) = '.' :: '*' :: globBody glob := by
  unfold globBody
  rw [List.splitOn_cons_eq_if_modifyHead]
  obtain ⟨piece, pieces, hpieces⟩ := List.exists_cons_of_ne_nil (List.splitOn_ne_nil '*' glob)
  rw [hpieces]
  simp [Pattern.escape, List.intercalate_cons_cons]

theorem globBody_cons (hc : c ≠ '*') (glob : List Char) :
    globBody (c :: glob) = Pattern.escape [c] ++ globBody glob := by
  unfold globBody
  rw [List.splitOn_cons_eq_if_modifyHead]
  obtain ⟨piece, pieces, hpieces⟩ := List.exists_cons_of_ne_nil (List.splitOn_ne_nil '*' glob)
  rw [hpieces]
  cases pieces with
  | nil => simp [Pattern.escape, hc]
  | cons next pieces => simp [Pattern.escape, hc, List.intercalate_cons_cons]

theorem read?_of_not_isMeta (hc : Pattern.isMeta c = false) (cs : List Char) :
    Pattern.read? (c :: cs) = (Pattern.read? cs).map (.literal c :: ·) := by
  have hne {d : Char} (hd : Pattern.isMeta d = true) : c ≠ d := by
    rintro rfl
    exact absurd hd (by simp [hc])
  rw [Pattern.read?]
  · simp [hc]
  · exact fun _ _ heq => absurd heq (hne rfl)
  · exact fun _ heq => absurd heq (hne rfl)
  · exact hne rfl
  · exact hne rfl

theorem read?_escape (c : Char) (cs : List Char) :
    Pattern.read? (Pattern.escape [c] ++ cs) = (Pattern.read? cs).map (.literal c :: ·) := by
  by_cases hc : Pattern.isMeta c = true
  · simp [Pattern.escape, hc, Pattern.read?]
  · rw [Bool.not_eq_true] at hc
    simp [Pattern.escape, hc, read?_of_not_isMeta hc]

theorem read?_globBody (glob cs : List Char) :
    Pattern.read? (globBody glob ++ cs) = (Pattern.read? cs).map (glob.map partOf ++ ·) := by
  induction glob with
  | nil => simp [globBody, Pattern.escape]
  | cons c glob ih =>
      by_cases hc : c = '*'
      · subst hc
        rw [globBody_star, List.cons_append, List.cons_append, Pattern.read?, ih, Option.map_map]
        rfl
      · rw [globBody_cons hc, List.append_assoc, read?_escape, ih, Option.map_map]
        simp [Function.comp_def, partOf, hc]

/-- The pattern of a glob can be read, whatever characters the glob has. -/
theorem read?_globPattern (glob : List Char) :
    Pattern.read? (globPattern glob) = some (globParts glob) := by
  rw [globPattern, Pattern.read?, read?_globBody]
  rfl

/-! ## Lists of globs -/

/-- A list of globs as it is configured: each is trimmed and blank ones are left
out. There is no result if the pattern of one cannot be read. -/
def readGlobs? (globs : List String) : Option (List Pattern) :=
  ((globs.map fun glob => trim glob.toList).filter fun glob => !glob.isEmpty).mapM
    fun glob => Pattern.read? (globPattern glob)

theorem readGlobs?_eq (globs : List String) :
    readGlobs? globs =
      some (((globs.map fun glob => trim glob.toList).filter fun glob => !glob.isEmpty).map
        globParts) := by
  unfold readGlobs?
  simp only [read?_globPattern]
  exact List.mapM_pure

theorem isSome_readGlobs? (globs : List String) : (readGlobs? globs).isSome = true := by
  rw [readGlobs?_eq]
  rfl

/-- The patterns of a list of globs. -/
def readGlobs (globs : List String) : List Pattern :=
  (readGlobs? globs).get (isSome_readGlobs? globs)

theorem readGlobs_eq (globs : List String) :
    readGlobs globs =
      ((globs.map fun glob => trim glob.toList).filter fun glob => !glob.isEmpty).map
        globParts := by
  simp only [readGlobs, readGlobs?_eq, Option.get_some]

def anyMatches (patterns : List Pattern) (key : String) : Bool :=
  patterns.any fun pattern => pattern.isMatch key.toList

example : anyMatches (readGlobs ["a*b*"]) "axxbyy" = true := by decide +kernel
example : anyMatches (readGlobs ["*a"]) "b\na" = false := by decide +kernel
example : anyMatches (readGlobs ["a.b"]) "axb" = false := by decide +kernel

end AgentOperator.Text
