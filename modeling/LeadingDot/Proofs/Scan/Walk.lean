import LeadingDot.Proofs.Tree.Address
import LeadingDot.Scan
import Mathlib.Data.List.Basic

/-!
# What a walk finds

What a frame will give is known before it is visited: the reports at the addresses below
its node, in pre-order. The violations found so far and the reports of all frames that
wait do not change while the walk goes on, so a walk finds the reports at all addresses of
the tree.
-/

namespace LeadingDot.Scan

/-- The frame of the child with the number `i`, when the scope below the node is `checked`
or not. -/
def Frame.child (node : Node) (checked : Bool) (child : Node) (i : Nat) : Frame :=
  ⟨child, ⟨some node, node.fieldIndex? "name" == some i⟩, checked⟩

theorem framesBelow_eq (node : Node) (checked : Bool) :
    framesBelow node checked =
      (node.children.zipIdx.filter fun child => !Scope.hides node child.1).map fun child =>
        Frame.child node checked child.1 child.2 := rfl

namespace Frame

/-- The violation that a walk from a frame reports at an address below its node. -/
def report? (context : Context) (frame : Frame) : Address → Option Violation
  | [] =>
    if enter frame.checked (Scope.classify context.source frame.node) = some true ∧
        isReported context frame.site frame.node then
      some (violation context frame.node)
    else none
  | i :: address =>
    (enter frame.checked (Scope.classify context.source frame.node)).bind fun checked =>
      (frame.node.children[i]?).bind fun child =>
        if Scope.hides frame.node child then none
        else (Frame.child frame.node checked child i).report? context address

/-- The violations that a walk from a frame reports, in pre-order. -/
def reports (context : Context) (frame : Frame) : List Violation :=
  frame.node.addresses.filterMap (frame.report? context)

variable {context : Context} {frame : Frame}

/-- Nothing is reported of a node that is left out, or of what is below it. -/
theorem reports_of_pruned
    (h : enter frame.checked (Scope.classify context.source frame.node) = none) :
    frame.reports context = [] := by
  rw [reports, List.filterMap_eq_nil_iff]
  intro address _
  cases address <;> simp [report?, h]

/-- A frame reports its own node, if it is to be reported, and what the visible children
report. -/
theorem reports_of_entered {checked : Bool}
    (h : enter frame.checked (Scope.classify context.source frame.node) = some checked) :
    frame.reports context =
      (if checked && isReported context frame.site frame.node then
        [violation context frame.node] else []) ++
      (framesBelow frame.node checked).flatMap (reports context) := by
  have hself : (frame.report? context []).toList =
      if checked && isReported context frame.site frame.node then
        [violation context frame.node] else [] := by
    simp only [report?, h, Option.some.injEq, Bool.and_eq_true]
    split <;> rfl
  have hbelow : ∀ child ∈ frame.node.children.zipIdx,
      (child.1.addresses.filterMap fun address => frame.report? context (child.2 :: address)) =
        if Scope.hides frame.node child.1 then []
        else (Frame.child frame.node checked child.1 child.2).reports context := by
    rintro ⟨child, i⟩ hchild
    have hi : frame.node.children[i]? = some child := List.mem_zipIdx_iff_getElem?.mp hchild
    simp only [report?, h, hi, Option.bind_some]
    split
    · simp
    · rfl
  rw [reports, Node.filterMap_addresses, hself, List.flatMap_congr hbelow, framesBelow_eq,
    List.flatMap_map]
  congr 1
  induction frame.node.children.zipIdx with
  | nil => rfl
  | cons child children ih => cases hhides : Scope.hides frame.node child.1 <;> simp [hhides, ih]

end Frame

namespace Walk

/-- The violations that are there when all nodes have been visited. -/
def total (context : Context) (walk : Walk) : List Violation :=
  walk.found.toList ++ walk.stack.flatMap (Frame.reports context)

variable {context : Context} {walk next : Walk}

/-- A visit turns reports of the frame on top into violations found and reports of the
frames that take its place. -/
theorem total_step? (h : walk.step? context = some next) :
    next.total context = walk.total context := by
  unfold step? at h
  split at h
  · cases h
  · next node site around stack heq =>
    split at h
    · next hpruned =>
      cases h
      have hreports : Frame.reports context ⟨node, site, around⟩ = [] :=
        Frame.reports_of_pruned hpruned
      simp [total, heq, hreports]
    · next checked hentered =>
      cases h
      have hreports : Frame.reports context ⟨node, site, around⟩ =
          (if checked && isReported context site node then [violation context node] else []) ++
            (framesBelow node checked).flatMap (Frame.reports context) :=
        Frame.reports_of_entered hentered
      rw [total, total, heq, List.flatMap_cons, hreports, List.flatMap_append]
      split <;> simp

/-- When no node waits, all violations have been found. -/
theorem total_of_step?_eq_none (h : walk.step? context = none) :
    walk.total context = walk.found.toList := by
  unfold step? at h
  split at h
  · next heq => simp [total, heq]
  · split at h <;> cases h

/-- A walk finds what its frames report. -/
theorem toList_run (context : Context) (walk : Walk) :
    (walk.run context).toList = walk.total context := by
  fun_induction run context walk with
  | case1 walk hstep => rw [total_of_step?_eq_none hstep]
  | case2 walk next hstep ih => rw [ih, total_step? hstep]

end Walk

/-- A scan finds the reports at the addresses of the tree, in pre-order. -/
theorem scan_eq_reports (parsed : ParsedSource) (config : RuleConfig) :
    scan parsed config =
      (Frame.ofRoot parsed.root).reports (Context.ofParsed parsed config) := by
  simp [scan, Walk.toList_run, Walk.total, Walk.ofRoot]

end LeadingDot.Scan
