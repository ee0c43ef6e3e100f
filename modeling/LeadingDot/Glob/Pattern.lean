import LeadingDot.Glob.Part

/-!
# Reading glob patterns

A pattern is read from its text in one pass. What a double star means depends on what
stands around it: alone in its component it stands for directories, everywhere else for
two stars.
-/

namespace LeadingDot.Glob

/-- A group of alternatives that is still open. -/
structure OpenGroup where
  /-- The branches that are finished, the last one first. -/
  branches : List (List Part)
  /-- The parts before the group, the last one first. -/
  before : List Part

/-- A pattern that is being read: the parts of the branch at hand, the last one first,
and the groups around it, the innermost one first. -/
structure Draft where
  parts : List Part
  groups : List OpenGroup

namespace Draft

/-- The draft before anything is read. -/
def empty : Draft := ⟨[], []⟩

/-- Adds a part. -/
def push (draft : Draft) (part : Part) : Draft :=
  { draft with parts := part :: draft.parts }

/-- Opens a group. -/
def openGroup (draft : Draft) : Draft :=
  ⟨[], ⟨[], draft.parts⟩ :: draft.groups⟩

/-- Ends a branch: outside of groups, a comma is itself. -/
def nextBranch (draft : Draft) : Draft :=
  match draft.groups with
  | [] => draft.push (.literal ',')
  | group :: outer =>
    ⟨[], { group with branches := draft.parts.reverse :: group.branches } :: outer⟩

/-- Closes the innermost group. Branches that stand for the empty text are left out. -/
def closeGroup (draft : Draft) : Except Fault Draft :=
  match draft.groups with
  | [] => .error .unopenedAlternatives
  | group :: outer =>
    let branches := (draft.parts.reverse :: group.branches).reverse
    .ok ⟨.alternatives (branches.filter (!·.all Part.isEmptyGroup)) :: group.before, outer⟩

/-- The parts of a draft all of whose groups are closed. -/
def finish (draft : Draft) : Except Fault (List Part) :=
  if draft.groups.isEmpty then .ok draft.parts.reverse else .error .unclosedAlternatives

end Draft

/-- Reads the ranges of a class up to its closing bracket. The ranges seen so far are
given last one first; `dash` says that a dash after them waits for the end of a range.
A bracket or dash that comes first is itself, and so is a dash that comes last. -/
def readRanges (ranges : List (Char × Char)) (dash : Bool) :
    List Char → Except Fault (List (Char × Char) × List Char)
  | [] => .error .unclosedClass
  | c :: rest =>
    match ranges with
    | [] => readRanges [(c, c)] false rest
    | (low, high) :: earlier =>
      if c = ']' then
        .ok ((if dash then ('-', '-') :: ranges else ranges).reverse, rest)
      else if dash then
        if c < low then .error (.invalidRange low c)
        else readRanges ((low, c) :: earlier) false rest
      else if c = '-' then readRanges ((low, high) :: earlier) true rest
      else readRanges ((c, c) :: (low, high) :: earlier) false rest

theorem readRanges_length_lt {ranges : List (Char × Char)} {dash : Bool} {cs : List Char}
    {found : List (Char × Char) × List Char} (h : readRanges ranges dash cs = .ok found) :
    found.2.length < cs.length := by
  fun_induction readRanges ranges dash cs with
  | case1 => simp at h
  | case2 _ _ _ ih => exact Nat.lt_succ_of_lt (ih h)
  | case3 => cases h; simp
  | case4 => simp at h
  | case5 _ _ _ _ _ _ _ ih => exact Nat.lt_succ_of_lt (ih h)
  | case6 => exact Nat.lt_succ_of_lt (by simp_all)
  | case7 => exact Nat.lt_succ_of_lt (by simp_all)

/-- Reads a class after its opening bracket. -/
def readClass (cs : List Char) : Except Fault (Part × List Char) :=
  match cs with
  | '!' :: rest => (readRanges [] false rest).map fun found => (.oneOf true found.1, found.2)
  | '^' :: rest => (readRanges [] false rest).map fun found => (.oneOf true found.1, found.2)
  | rest => (readRanges [] false rest).map fun found => (.oneOf false found.1, found.2)

theorem readClass_length_lt {cs rest : List Char} {part : Part}
    (h : readClass cs = .ok (part, rest)) : rest.length < cs.length := by
  have shorter {negated : Bool} {text : List Char}
      (h : (readRanges [] false text).map (fun found => (Part.oneOf negated found.1, found.2)) =
        .ok (part, rest)) : rest.length < text.length := by
    match hr : readRanges [] false text with
    | .error _ => simp [hr, Except.map] at h
    | .ok found =>
      simp only [hr, Except.map, Except.ok.injEq, Prod.mk.injEq] at h
      exact h.2 ▸ readRanges_length_lt hr
  unfold readClass at h
  split at h
  · exact Nat.lt_succ_of_lt (shorter h)
  · exact Nat.lt_succ_of_lt (shorter h)
  · exact shorter h

/-- The part that takes the place of the slash before a double star. Directories at the
start of a pattern, and everything below a directory, already hold it. -/
def absorb (last added : Part) : Part :=
  match last with
  | .leadingDirectories => .leadingDirectories
  | .beneath => .beneath
  | _ => added

/-- Whether a double star after a character starts a component. -/
def startsComponent (draft : Draft) (before : Option Char) : Bool :=
  before == some '/' || (!draft.groups.isEmpty && (before == some ',' || before == some '\x7b'))

/-- Whether a branch ends before a text. -/
def endsBranch (draft : Draft) : List Char → Bool
  | [] => true
  | c :: _ => !draft.groups.isEmpty && (c == ',' || c == '\x7d')

/-- Adds a double star that stands after the character `before` and ahead of `rest`;
says whether it takes the slash that `rest` starts with. -/
def Draft.pushDoubleStar (draft : Draft) (before : Option Char) (rest : List Char) :
    Draft × Bool :=
  let twoStars := ((draft.push .anyText).push .anyText, false)
  match draft.parts with
  | [] =>
    if rest.head? == some '/' then (draft.push .leadingDirectories, true)
    else if rest.isEmpty then (draft.push .leadingDirectories, false)
    else twoStars
  | last :: earlier =>
    if !startsComponent draft before then twoStars
    else if rest.head? == some '/' then
      ({ draft with parts := absorb last .innerDirectories :: earlier }, true)
    else if endsBranch draft rest then
      ({ draft with parts := absorb last .beneath :: earlier }, false)
    else twoStars

/-- Reads a pattern on from a draft; `before` is the character before the text. -/
def read (before : Option Char) (draft : Draft) (cs : List Char) : Except Fault Draft :=
  match cs with
  | [] => .ok draft
  | '?' :: rest => read (some '?') (draft.push .anyByte) rest
  | '*' :: '*' :: rest =>
    match draft.pushDoubleStar before rest with
    | (draft, true) => read (some '/') draft (rest.drop 1)
    | (draft, false) => read (some '*') draft rest
  | '*' :: rest => read (some '*') (draft.push .anyText) rest
  | '[' :: rest =>
    match h : readClass rest with
    | .error fault => .error fault
    | .ok (part, after) =>
      have := readClass_length_lt h
      read (some ']') (draft.push part) after
  | '\x7b' :: rest => read (some '\x7b') draft.openGroup rest
  | '\x7d' :: rest =>
    match draft.closeGroup with
    | .error fault => .error fault
    | .ok draft => read (some '\x7d') draft rest
  | ',' :: rest => read (some ',') draft.nextBranch rest
  | ['\\'] => .error .danglingEscape
  | '\\' :: c :: rest => read (some c) (draft.push (.literal c)) rest
  | c :: rest => read (some c) (draft.push (.literal c)) rest
termination_by cs.length
decreasing_by all_goals simp_wf <;> omega

/-- The parts of a pattern. -/
def parse (pattern : List Char) : Except Fault (List Part) :=
  match read none .empty pattern with
  | .error fault => .error fault
  | .ok draft => draft.finish

end LeadingDot.Glob
