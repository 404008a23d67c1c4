import AgentOperator.Manifest.Labels

/-!
# Versions of images

A reference to an image is its name, with a registry and a path in front and a tag and a
digest behind.  The version is the tag, whatever else stands in the reference: a colon may
also come before the port of the registry or be part of the digest, and a slash may be part
of the digest.  Every text is such a reference, so the tag settles the version of each text.
-/

namespace AgentOperator

variable {front : List Char} {mark : Char}

/-! ## Parts behind a mark -/

/-- A part that may be left out, behind the mark that announces it. -/
def marked (mark : Char) : Option String → List Char
  | none => []
  | some part => mark :: part.toList

theorem decide_ne_of_notMem (hfront : mark ∉ front) :
    ∀ c ∈ front, decide (c ≠ mark) = true := by
  intro c hc
  have hne : c ≠ mark := fun heq => hfront (heq ▸ hc)
  simp [hne]

theorem takeWhile_append_marked (hfront : mark ∉ front) (part : Option String) :
    (front ++ marked mark part).takeWhile (fun c => c ≠ mark) = front := by
  rw [List.takeWhile_append_of_pos (decide_ne_of_notMem hfront)]
  cases part <;> simp [marked]

theorem dropWhile_append_marked (hfront : mark ∉ front) (part : Option String) :
    (front ++ marked mark part).dropWhile (fun c => c ≠ mark) = marked mark part := by
  rw [List.dropWhile_append_of_pos (decide_ne_of_notMem hfront)]
  cases part <;> simp [marked]

theorem exists_append_marked (mark : Char) (text : List Char) :
    ∃ front part, mark ∉ front ∧ text = front ++ marked mark part := by
  induction text with
  | nil => exact ⟨[], none, List.not_mem_nil, rfl⟩
  | cons c rest ih =>
      by_cases hmark : c = mark
      · subst hmark
        exact ⟨[], some (String.ofList rest), List.not_mem_nil, by simp [marked]⟩
      · obtain ⟨front, part, hfront, rfl⟩ := ih
        refine ⟨c :: front, part, ?_, rfl⟩
        simp [hfront, Ne.symm hmark]

/-! ## References to images -/

structure Registry where
  host : String
  port : Option String

def Registry.text (r : Registry) : String := r.host ++ String.ofList (marked ':' r.port)

/-- What stands in front of the name of an image. -/
structure ImageLocation where
  registry : Option Registry
  path : List String

namespace ImageLocation

variable (l : ImageLocation)

def steps : List String := (l.registry.map Registry.text).toList ++ l.path

/-- Each step with a slash behind it. -/
def text : String := String.join (l.steps.map fun step => step ++ "/")

/-- The text is empty or ends in a slash. -/
theorem exists_toList_text : ∃ before, l.text.toList = (marked '/' before).reverse := by
  rcases List.eq_nil_or_concat l.steps with hnone | ⟨init, last, hsteps⟩
  · exact ⟨none, by simp [text, hnone, marked]⟩
  · let before := String.join (init.map fun step => step ++ "/") ++ last
    refine ⟨some (String.ofList before.toList.reverse), ?_⟩
    simp [text, hsteps, marked, before]

/-- A location that is read backwards from its last slash. -/
def upTo (before : Option String) : ImageLocation :=
  { registry := none
    path := before.toList.map fun part => String.ofList part.toList.reverse }

theorem toList_text_upTo (before : Option String) :
    (upTo before).text.toList = (marked '/' before).reverse := by
  cases before with
  | none => simp [upTo, text, steps, marked]
  | some part => simp [upTo, text, steps, marked]

end ImageLocation

/-- A reference to an image.  The marks that end a part do not stand in it. -/
structure ImageReference where
  location : ImageLocation
  name : String
  tag : Option String
  digest : Option String
  location_plain : '@' ∉ location.text.toList
  name_plain : '/' ∉ name.toList ∧ ':' ∉ name.toList ∧ '@' ∉ name.toList
  tag_plain : ∀ text ∈ tag, '/' ∉ text.toList ∧ '@' ∉ text.toList

namespace ImageReference

variable (r : ImageReference)

def text : String :=
  r.location.text ++ r.name ++ String.ofList (marked ':' r.tag) ++
    String.ofList (marked '@' r.digest)

/-- The name with the tag. -/
def tagged : List Char := r.name.toList ++ marked ':' r.tag

theorem toList_text :
    r.text.toList = (r.location.text.toList ++ r.tagged) ++ marked '@' r.digest := by
  simp [text, tagged]

/-- The tag, if one is given that is not empty. -/
def version : String := (r.tag.filter fun tag => tag ≠ "").getD "latest"

theorem notMem_marked_tag {c : Char} (hcolon : c ≠ ':')
    (htag : ∀ text ∈ r.tag, c ∉ text.toList) : c ∉ marked ':' r.tag := by
  cases hgiven : r.tag with
  | none => simp [marked]
  | some tag => simp [marked, hcolon, htag tag hgiven]

theorem slash_notMem_tagged : '/' ∉ r.tagged := by
  have htag := r.notMem_marked_tag (c := '/') (by decide) fun text h => (r.tag_plain text h).1
  simp [tagged, r.name_plain.1, htag]

theorem at_notMem_tagged : '@' ∉ r.tagged := by
  have htag := r.notMem_marked_tag (c := '@') (by decide) fun text h => (r.tag_plain text h).2
  simp [tagged, r.name_plain.2.2, htag]

theorem takeWhile_text :
    r.text.toList.takeWhile (fun c => c ≠ '@') = r.location.text.toList ++ r.tagged := by
  have hplain : '@' ∉ r.location.text.toList ++ r.tagged := by
    simp [r.location_plain, r.at_notMem_tagged]
  rw [toList_text]
  exact takeWhile_append_marked hplain r.digest

theorem takeWhile_reverse_text :
    ((r.location.text.toList ++ r.tagged).reverse.takeWhile fun c => c ≠ '/').reverse =
      r.tagged := by
  obtain ⟨before, hbefore⟩ := r.location.exists_toList_text
  have hplain : '/' ∉ r.tagged.reverse := by simp [r.slash_notMem_tagged]
  rw [hbefore, List.reverse_append, List.reverse_reverse,
    takeWhile_append_marked hplain before, List.reverse_reverse]

theorem version_of_tag {tag : String} (htag : r.tag = some tag) (hsome : tag ≠ "") :
    r.version = tag := by
  simp [version, htag, Option.filter, hsome]

theorem version_of_no_tag (htag : ∀ tag ∈ r.tag, tag = "") : r.version = "latest" := by
  have hnone : r.tag.filter (fun tag => tag ≠ "") = none := by
    rw [Option.filter_eq_none_iff]
    intro tag hmem
    simp [htag tag hmem]
  rw [version, hnone, Option.getD_none]

theorem imageVersion_eq : imageVersion r.text = r.version := by
  simp only [imageVersion, r.takeWhile_text, r.takeWhile_reverse_text]
  rw [tagged, dropWhile_append_marked r.name_plain.2.1]
  cases htag : r.tag with
  | none =>
      have hversion := r.version_of_no_tag (by simp [htag])
      rw [hversion, marked]
  | some tag =>
      cases hchars : tag.toList with
      | nil =>
          have hempty : tag = "" := by simpa using hchars
          have hversion := r.version_of_no_tag (by simp [htag, hempty])
          rw [hversion, marked, hchars]
      | cons c rest =>
          have hsome : tag ≠ "" := by
            rintro rfl
            simp at hchars
          have htext : String.ofList (c :: rest) = tag := by
            rw [← hchars, String.ofList_toList]
          simp only [r.version_of_tag htag hsome, marked, hchars, htext]

/-- Every text is a reference to an image. -/
theorem exists_text_eq (image : String) : ∃ r : ImageReference, r.text = image := by
  -- Cut as the version is read off: at the first `@`, at the last slash before that, and
  -- behind it at the first colon.
  obtain ⟨reference, digest, hreference, himage⟩ := exists_append_marked '@' image.toList
  obtain ⟨back, before, hback, hcut⟩ := exists_append_marked '/' reference.reverse
  obtain ⟨name, tag, hname, htagged⟩ := exists_append_marked ':' back.reverse
  have hlocation := ImageLocation.toList_text_upTo before
  have hparts :
      reference = (ImageLocation.upTo before).text.toList ++ (name ++ marked ':' tag) := by
    rw [hlocation, ← htagged, ← List.reverse_append, ← hcut, List.reverse_reverse]
  have hslash : '/' ∉ name ++ marked ':' tag := by
    rw [← htagged, List.mem_reverse]
    exact hback
  rw [hparts] at hreference himage
  simp only [List.mem_append, not_or] at hreference hslash
  have htag : ∀ text ∈ tag, '/' ∉ text.toList ∧ '@' ∉ text.toList := by
    intro text hgiven
    obtain rfl : tag = some text := hgiven
    exact ⟨List.not_mem_of_not_mem_cons hslash.2, List.not_mem_of_not_mem_cons hreference.2.2⟩
  let r : ImageReference := {
    location := .upTo before
    name := String.ofList name
    tag
    digest
    location_plain := hreference.1
    name_plain := by simp [hslash.1, hname, hreference.2.1]
    tag_plain := htag }
  refine ⟨r, String.toList_inj.mp ?_⟩
  simp [himage, toList_text, tagged, r]

end ImageReference

/-- The version of an image is the tag that the reference gives, whatever stands in front of
the name and behind the tag, and that leaves out no text. -/
theorem imageVersion_is_the_tag :
    (∀ r : ImageReference,
      imageVersion r.text = (r.tag.filter fun tag => tag ≠ "").getD "latest") ∧
    ∀ image, ∃ r : ImageReference, r.text = image :=
  ⟨ImageReference.imageVersion_eq, ImageReference.exists_text_eq⟩

/-- Neither the port of the registry nor the digest is taken for a tag. -/
example : imageVersion "localhost:5000/agents/agent:1.2@sha256:ab/cd" = "1.2" := by
  decide +kernel

end AgentOperator
