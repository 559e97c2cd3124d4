import ComponentSupport.Analysis.Error
import Mathlib.Data.List.Basic

/-!
# The grammar of type names

A type name is a join of segments. `Convention.Spells` says so without any scan: the segments are not
empty, and the character that separators are made of occurs in none of them. The main theorem,
`Convention.split_eq_ok_iff_spells`, says that a text is read as a type name just when it is not blank
and spells some segments, and that it is then cut before the last of them.

Two scans have to agree on this. The first goes from the left and takes the segments apart
(`Convention.segments`); the second goes from the right and looks for the last separator only
(`cutLast`). Under `doubleColon` a separator can overlap itself, so in a run of colons the scans would
part. They meet where no colon is left inside a segment: a scan from the left then gives back the
segments of a join (`Convention.segments_intercalate`), and what follows the last separator found from
the right is the last of them (`cutLast_append_separator`).
-/

namespace ComponentSupport

/-! ### Joins -/

theorem intercalate_cons_of_ne_nil (separator s : List Char) {parts : List (List Char)}
    (h : parts ≠ []) :
    separator.intercalate (s :: parts) = s ++ (separator ++ separator.intercalate parts) := by
  cases parts with
  | nil => exact absurd rfl h
  | cons t rest => rw [List.intercalate_cons_cons, List.append_assoc]

/-- A join of two lists of segments has a separator between them. -/
theorem intercalate_append_of_ne_nil (separator : List Char) {parts more : List (List Char)}
    (hparts : parts ≠ []) (hmore : more ≠ []) :
    separator.intercalate (parts ++ more) =
      separator.intercalate parts ++ (separator ++ separator.intercalate more) := by
  induction parts with
  | nil => exact absurd rfl hparts
  | cons s rest ih =>
    rcases eq_or_ne rest [] with rfl | hrest
    · rw [List.singleton_append, intercalate_cons_of_ne_nil separator s hmore,
        List.intercalate_singleton]
    · have hrest' : rest ++ more ≠ [] := List.append_ne_nil_of_left_ne_nil hrest more
      rw [List.cons_append, intercalate_cons_of_ne_nil separator s hrest', ih hrest,
        intercalate_cons_of_ne_nil separator s hrest]
      simp only [List.append_assoc]

theorem intercalate_consToFirst (separator : List Char) (x : Char) {parts : List (List Char)}
    (h : parts ≠ []) :
    separator.intercalate (consToFirst x parts) = x :: separator.intercalate parts := by
  cases parts with
  | nil => exact absurd rfl h
  | cons s rest =>
    cases rest with
    | nil => rw [consToFirst, List.intercalate_singleton, List.intercalate_singleton]
    | cons t rest =>
      rw [consToFirst, List.intercalate_cons_cons, List.intercalate_cons_cons]
      rfl

namespace Convention

variable {c : Convention}

/-! ### The scan from the left -/

@[simp] theorem segments_nil (c : Convention) : c.segments [] = [[]] := by
  cases c <;> rfl

theorem segments_separator_append (c : Convention) (rest : List Char) :
    c.segments (c.separator ++ rest) = [] :: c.segments rest := by
  cases c <;> rfl

theorem segments_cons {x : Char} (hx : x ≠ c.reserved) (rest : List Char) :
    c.segments (x :: rest) = consToFirst x (c.segments rest) := by
  cases c with
  | dot => exact dotSegments.eq_3 x rest hx
  | doubleColon => exact doubleColonSegments.eq_3 x rest fun _ hcolon _ => hx hcolon

/-- A relation between texts and lists of segments holds of every text and its segments, if each step
of the scan keeps it. -/
@[elab_as_elim]
theorem segments_induction {motive : List Char → List (List Char) → Prop} (nil : motive [] [[]])
    (separator : ∀ rest, motive rest (c.segments rest) →
      motive (c.separator ++ rest) ([] :: c.segments rest))
    (cons : ∀ x rest, motive rest (c.segments rest) →
      motive (x :: rest) (consToFirst x (c.segments rest)))
    (text : List Char) : motive text (c.segments text) := by
  cases c with
  | dot =>
    show motive text (dotSegments text)
    fun_induction dotSegments text with
    | case1 => exact nil
    | case2 rest ih => exact separator rest ih
    | case3 x rest _ ih => exact cons x rest ih
  | doubleColon =>
    show motive text (doubleColonSegments text)
    fun_induction doubleColonSegments text with
    | case1 => exact nil
    | case2 rest ih => exact separator rest ih
    | case3 x rest _ ih => exact cons x rest ih

theorem segments_ne_nil (c : Convention) (text : List Char) : c.segments text ≠ [] := by
  induction text using c.segments_induction with
  | nil => exact List.cons_ne_nil _ _
  | separator rest _ => exact List.cons_ne_nil _ _
  | cons x rest _ => cases c.segments rest <;> exact List.cons_ne_nil _ _

/-- Joining the segments of a text gives the text back. -/
theorem intercalate_segments (c : Convention) (text : List Char) :
    c.separator.intercalate (c.segments text) = text := by
  induction text using c.segments_induction with
  | nil => exact List.intercalate_singleton
  | separator rest ih =>
    rw [intercalate_cons_of_ne_nil _ _ (c.segments_ne_nil rest), ih, List.nil_append]
  | cons x rest ih => rw [intercalate_consToFirst _ _ (c.segments_ne_nil rest), ih]

theorem segments_of_not_mem {s : List Char} (h : c.reserved ∉ s) : c.segments s = [s] := by
  induction s with
  | nil => exact c.segments_nil
  | cons x rest ih =>
    rw [List.mem_cons, not_or] at h
    rw [segments_cons (Ne.symm h.1), ih h.2]
    rfl

/-- A segment ends at the first separator after it. -/
theorem segments_append_separator {s : List Char} (h : c.reserved ∉ s) (rest : List Char) :
    c.segments (s ++ (c.separator ++ rest)) = s :: c.segments rest := by
  induction s with
  | nil => exact c.segments_separator_append rest
  | cons x s ih =>
    rw [List.mem_cons, not_or] at h
    rw [List.cons_append, segments_cons (Ne.symm h.1), ih h.2]
    rfl

/-- A scan of a join that goes on after a separator gives the segments, and goes on. -/
theorem segments_intercalate_append {parts : List (List Char)} (hne : parts ≠ [])
    (h : ∀ s ∈ parts, c.reserved ∉ s) (rest : List Char) :
    c.segments (c.separator.intercalate parts ++ (c.separator ++ rest)) =
      parts ++ c.segments rest := by
  induction parts with
  | nil => exact absurd rfl hne
  | cons s parts ih =>
    rw [List.forall_mem_cons] at h
    rcases eq_or_ne parts [] with rfl | hparts
    · rw [List.intercalate_singleton, segments_append_separator h.1, List.singleton_append]
    · rw [intercalate_cons_of_ne_nil _ _ hparts, List.append_assoc, List.append_assoc,
        segments_append_separator h.1, ih hparts h.2, List.cons_append]

/-- A scan of a join gives the segments back. -/
theorem segments_intercalate {parts : List (List Char)} (hne : parts ≠ [])
    (h : ∀ s ∈ parts, c.reserved ∉ s) : c.segments (c.separator.intercalate parts) = parts := by
  obtain ⟨init, last, rfl⟩ := (List.eq_nil_or_concat' parts).resolve_left hne
  have hlast : c.segments last = [last] := segments_of_not_mem (h last (by simp))
  rcases eq_or_ne init [] with rfl | hinit
  · exact List.intercalate_singleton.symm ▸ hlast
  · rw [intercalate_append_of_ne_nil _ hinit (List.cons_ne_nil _ _), List.intercalate_singleton,
      segments_intercalate_append hinit fun s hs => h s (List.mem_append_left _ hs), hlast]

end Convention

/-! ### The scan from the right -/

section CutLast

variable {c : Convention}

theorem not_separator_isPrefixOf {s : List Char} (h : c.reserved ∉ s) :
    ¬ c.separator.isPrefixOf s = true := by
  have hmem : c.reserved ∈ c.separator := by cases c <;> decide
  rw [List.isPrefixOf_iff_prefix]
  exact fun hseparator => h (hseparator.subset hmem)

theorem cutLast_of_not_mem {s : List Char} (h : c.reserved ∉ s) : cutLast c.separator s = none := by
  induction s with
  | nil => rfl
  | cons x rest ih =>
    rw [cutLast, ih (List.not_mem_of_not_mem_cons h)]
    exact if_neg (not_separator_isPrefixOf h)

/-- A separator is the last one if no part of a separator follows. -/
theorem cutLast_separator_append {s : List Char} (h : c.reserved ∉ s) :
    cutLast c.separator (c.separator ++ s) = some ([], s) := by
  have hnone : cutLast c.separator s = none := cutLast_of_not_mem h
  cases c with
  | dot =>
    show cutLast ['.'] ('.' :: s) = _
    rw [cutLast, show cutLast ['.'] s = none from hnone]
    rfl
  | doubleColon =>
    -- the second colon begins no separator, as the next character is no colon
    have hsecond : cutLast [':', ':'] (':' :: s) = none := by
      rw [cutLast, show cutLast [':', ':'] s = none from hnone]
      cases s with
      | nil => rfl
      | cons x rest =>
        have hx : ':' ≠ x := List.ne_of_not_mem_cons h
        simp [hx]
    show cutLast [':', ':'] (':' :: ':' :: s) = _
    rw [cutLast, hsecond]
    rfl

/-- What stands before the last separator does not matter for where it is found. -/
theorem cutLast_append_separator {s : List Char} (h : c.reserved ∉ s) (before : List Char) :
    cutLast c.separator (before ++ (c.separator ++ s)) = some (before, s) := by
  induction before with
  | nil => exact cutLast_separator_append h
  | cons x before ih => rw [List.cons_append, cutLast, ih]

/-- In a run of three colons the scans take different separators. -/
example :
    Convention.doubleColon.segments "a:::B".toList = ["a".toList, ":B".toList] ∧
      cutLast Convention.doubleColon.separator "a:::B".toList = some ("a:".toList, "B".toList) := by
  decide

end CutLast

namespace Convention

/-! ### Names -/

/-- A text is written as a list of segments with separators between them, and no segment is empty or
has a character of a separator in it. -/
structure Spells (c : Convention) (parts : List (List Char)) (name : String) : Prop where
  /-- There is a segment. -/
  ne_nil : parts ≠ []
  /-- Each segment is a text without separators. -/
  segment : ∀ s ∈ parts, s ≠ [] ∧ c.reserved ∉ s
  /-- The text is the join of the segments. -/
  join : name.toList = c.separator.intercalate parts

variable {c : Convention}

/-- The segments that a text spells are the ones that the scan from the left finds. -/
theorem Spells.segments_eq {parts : List (List Char)} {name : String} (h : c.Spells parts name) :
    c.segments name.toList = parts := by
  rw [h.join, segments_intercalate h.ne_nil fun s hs => (h.segment s hs).2]

theorem Spells.unique {parts parts' : List (List Char)} {name : String} (h : c.Spells parts name)
    (h' : c.Spells parts' name) : parts = parts' :=
  h.segments_eq.symm.trans h'.segments_eq

/-- A text has no fault as a type name when it is not blank and spells some segments. -/
theorem fault?_eq_none_iff (c : Convention) (name : String) :
    c.fault? name = none ↔ Text.isBlank name = false ∧ ∃ parts, c.Spells parts name := by
  have hsegments : (∃ parts, c.Spells parts name) ↔
      ∀ s ∈ c.segments name.toList, s ≠ [] ∧ c.reserved ∉ s := by
    constructor
    · rintro ⟨parts, h⟩
      exact h.segments_eq.symm ▸ h.segment
    · exact fun h => ⟨_, c.segments_ne_nil _, h, (c.intercalate_segments _).symm⟩
  rw [hsegments]
  unfold fault?
  split
  · next hblank => simp [hblank]
  · next hblank =>
    split
    · next hempty =>
      exact iff_of_false nofun fun h => (h.2 [] hempty).1 rfl
    · next hempty =>
      split
      · next hstray =>
        obtain ⟨s, hs, hmem⟩ := List.any_eq_true.1 hstray
        exact iff_of_false nofun fun h => (h.2 s hs).2 (List.contains_iff_mem.1 hmem)
      · next hstray =>
        refine iff_of_true rfl ⟨by simpa using hblank, fun s hs => ⟨?_, fun hmem => hstray ?_⟩⟩
        · rintro rfl
          exact hempty hs
        · exact List.any_eq_true.2 ⟨s, hs, List.contains_iff_mem.2 hmem⟩

/-- A name of one segment is that segment. -/
theorem Spells.toList_of_singleton {last : List Char} {name : String} (h : c.Spells [last] name) :
    name.toList = last :=
  h.join.trans List.intercalate_singleton

/-- A name of several segments is its package, a separator and the last segment. -/
theorem Spells.toList_of_concat {init : List (List Char)} {last : List Char} {name : String}
    (h : c.Spells (init ++ [last]) name) (hinit : init ≠ []) :
    name.toList = c.separator.intercalate init ++ (c.separator ++ last) := by
  rw [h.join, intercalate_append_of_ne_nil _ hinit (List.cons_ne_nil _ _),
    List.intercalate_singleton]

/-- A name is cut before its last segment. -/
theorem Spells.cut_eq {init : List (List Char)} {last : List Char} {name : String}
    (h : c.Spells (init ++ [last]) name) :
    c.cut name = (String.ofList (c.separator.intercalate init), String.ofList last) := by
  have hlast : c.reserved ∉ last := (h.segment last (by simp)).2
  unfold cut
  rcases eq_or_ne init [] with rfl | hinit
  · have hname : name.toList = last := h.toList_of_singleton
    rw [hname, cutLast_of_not_mem hlast, ← hname, String.ofList_toList]
    rfl
  · rw [h.toList_of_concat hinit, cutLast_append_separator hlast]

/-- A name that is accepted spells segments, and its package and its simple name are those of the
segments before the last and of the last. -/
theorem split_eq_ok_iff {name : String} {pair : String × String} :
    c.split name = .ok pair ↔ Text.isBlank name = false ∧ ∃ init last,
      c.Spells (init ++ [last]) name ∧
        pair = (String.ofList (c.separator.intercalate init), String.ofList last) := by
  have hfault := c.fault?_eq_none_iff name
  unfold split
  cases h : c.fault? name with
  | some fault =>
    refine iff_of_false nofun ?_
    rintro ⟨hblank, init, last, hspells, -⟩
    cases h.symm.trans (hfault.2 ⟨hblank, _, hspells⟩)
  | none =>
    obtain ⟨hblank, parts, hspells⟩ := hfault.1 h
    obtain ⟨init, last, rfl⟩ := (List.eq_nil_or_concat' parts).resolve_left hspells.ne_nil
    show Except.ok (c.cut name) = .ok pair ↔ _
    rw [hspells.cut_eq]
    constructor
    · exact fun heq => ⟨hblank, init, last, hspells, (Except.ok.inj heq).symm⟩
    · rintro ⟨-, init', last', hspells', rfl⟩
      obtain ⟨rfl, hlast⟩ := List.append_inj' (hspells.unique hspells') rfl
      obtain rfl := List.singleton_inj.1 hlast
      rfl

/-- **Type names**: a text is accepted just when it is not blank and spells some segments, which are
then the only ones. Its package is the join of the segments before the last and its simple name is the
last, which is not empty and holds no part of a separator; so the two give the name back. Any other
text is refused as malformed, and the failure is about that text. -/
theorem split_eq_ok_iff_spells (c : Convention) (name : String) :
    ((∃ pair, c.split name = .ok pair) ↔
      Text.isBlank name = false ∧ ∃ parts, c.Spells parts name) ∧
    (∀ parts parts', c.Spells parts name → c.Spells parts' name → parts = parts') ∧
    (∀ package simple parts, c.split name = .ok (package, simple) → c.Spells parts name →
      package = String.ofList (c.separator.intercalate parts.dropLast) ∧
      parts.getLast? = some simple.toList ∧
      simple ≠ "" ∧ c.reserved ∉ simple.toList ∧
      (parts.length = 1 → name = simple) ∧
      (2 ≤ parts.length → name = package ++ String.ofList c.separator ++ simple)) ∧
    (¬ (Text.isBlank name = false ∧ ∃ parts, c.Spells parts name) →
      ∃ m, c.split name = .error m ∧
        (AnalysisError.ofMalformedName m).kind = .malformedTypeName ∧
        (AnalysisError.ofMalformedName m).subject = some name) := by
  have hfault := c.fault?_eq_none_iff name
  refine ⟨⟨?_, ?_⟩, fun _ _ h h' => h.unique h', ?_, fun hnot => ?_⟩
  · rintro ⟨pair, hsplit⟩
    obtain ⟨hblank, init, last, hspells, -⟩ := split_eq_ok_iff.1 hsplit
    exact ⟨hblank, _, hspells⟩
  · intro h
    refine ⟨c.cut name, ?_⟩
    rw [split, hfault.2 h]
  · intro package simple parts hsplit hspells
    obtain ⟨-, init, last, hspells', hpair⟩ := split_eq_ok_iff.1 hsplit
    obtain rfl := hspells.unique hspells'
    obtain ⟨rfl, rfl⟩ := Prod.mk.inj hpair
    obtain ⟨hne, hreserved⟩ := hspells.segment last (by simp)
    refine ⟨by rw [List.dropLast_concat], by simp, ?_, by simpa using hreserved, ?_, ?_⟩
    · exact fun hempty => hne (by simpa using congrArg String.toList hempty)
    · intro hlength
      have hinit : init = [] := by simpa using hlength
      subst hinit
      rw [← hspells.toList_of_singleton, String.ofList_toList]
    · intro hlength
      have hinit : init ≠ [] := by
        rintro rfl
        simp at hlength
      rw [← String.ofList_toList (s := name), hspells.toList_of_concat hinit, String.ofList_append,
        String.ofList_append, String.append_assoc]
  · cases h : c.fault? name with
    | none => exact absurd (hfault.1 h) hnot
    | some fault =>
      refine ⟨⟨name, fault⟩, ?_, rfl, rfl⟩
      rw [split, h]

end Convention

end ComponentSupport
