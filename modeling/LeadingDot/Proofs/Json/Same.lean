import LeadingDot.Proofs.Json.Recovery

/-!
# JSON values whatever the order of their members

Who looks up the members of an object by their keys does not see in which order they stand. Two
values are therefore the same if that is all that they differ in. A writer tells its values apart
if what it writes for different values is not even the same in this sense.
-/

namespace LeadingDot.Json

/-- Two values are the same: they agree, item by item in arrays and key by key in objects. -/
inductive Same : Json → Json → Prop
  | null : Same .null .null
  | bool (value : Bool) : Same (.bool value) (.bool value)
  | number (value : Number) : Same (.number value) (.number value)
  | text (value : String) : Same (.text value) (.text value)
  | array {items others : List Json} (hitems : List.Forall₂ Same items others) :
      Same (.array items) (.array others)
  | object {members others : List (String × Json)}
      (hmembers : ∀ key, Option.Rel Same (lookup? members key) (lookup? others key)) :
      Same (.object members) (.object others)

theorem sizeOf_lt_of_lookup? {members : List (String × Json)} {key : String} {value : Json}
    (h : lookup? members key = some value) : sizeOf value < sizeOf members := by
  obtain ⟨⟨name, value⟩, hmember, rfl⟩ := Option.map_eq_some_iff.mp h
  have hsize := List.sizeOf_lt_of_mem (List.mem_of_find?_eq_some hmember)
  rw [Prod.mk.sizeOf_spec] at hsize
  dsimp only
  omega

/-- Every value is the same as itself. -/
theorem Same.refl (value : Json) : Same value value := by
  match value with
  | .null => exact .null
  | .bool value => exact .bool value
  | .number value => exact .number value
  | .text value => exact .text value
  | .array items => exact .array (List.forall₂_same.mpr fun item hitem => Same.refl item)
  | .object members =>
    refine .object fun key => ?_
    cases hmember : lookup? members key with
    | none => exact .none
    | some value => exact .some (Same.refl value)
termination_by sizeOf value
decreasing_by
  · have hsize := List.sizeOf_lt_of_mem hitem
    rw [array.sizeOf_spec]
    omega
  · have hsize := sizeOf_lt_of_lookup? hmember
    rw [object.sizeOf_spec]
    omega

/-- What is written for different values is not the same. -/
def TellsApart {α : Type} (write : α → Json) : Prop :=
  ∀ a b, Same (write a) (write b) → a = b

namespace TellsApart

variable {α : Type} {write : α → Json} {members others : List (String × Json)} {x y : α}

theorem text : TellsApart .text := by
  intro a b h
  cases h
  rfl

theorem nat : TellsApart .nat := by
  intro a b h
  rw [Json.nat, Json.nat] at h
  generalize hvalue : Number.integer b = value at h
  cases h
  exact (Int.ofNat.inj (Number.integer.inj hvalue)).symm

/-- Lists are told apart item by item. -/
theorem list (h : TellsApart write) :
    TellsApart fun values : List α => .array (values.map write) := by
  intro xs ys hsame
  cases hsame with
  | array hitems =>
    induction xs generalizing ys with
    | nil =>
      cases ys with
      | nil => rfl
      | cons y ys => cases hitems
    | cons x xs ih =>
      cases ys with
      | nil => cases hitems
      | cons y ys =>
        rw [List.map_cons, List.map_cons] at hitems
        cases hitems with
        | cons hitem hrest => rw [h x y hitem, ih ys hrest]

theorem texts : TellsApart Json.texts :=
  list text

/-- A field that is left out when there is none of it is the same only for the same value. -/
theorem fieldOption (h : TellsApart write) {x y : Option α}
    (hsame : Same (.object members) (.object others)) (key : String)
    (hx : lookup? members key = x.map write) (hy : lookup? others key = y.map write) : x = y := by
  cases hsame with
  | object hmembers =>
    have hvalues := hmembers key
    rw [hx, hy] at hvalues
    cases x with
    | none =>
      cases y with
      | none => rfl
      | some y => cases hvalues
    | some x =>
      cases y with
      | none => cases hvalues
      | some y =>
        cases hvalues with
        | some hvalue => rw [h x y hvalue]

/-- So is a field that is always written. -/
theorem field (h : TellsApart write) (hsame : Same (.object members) (.object others))
    (key : String) (hx : lookup? members key = some (write x))
    (hy : lookup? others key = some (write y)) : x = y :=
  Option.some.inj (h.fieldOption hsame key hx hy)

/-- So is a field that is left out for one value alone. -/
theorem fieldUnless (h : TellsApart write) {default : α} {isDefault : α → Bool}
    (hdefault : ∀ value, isDefault value = true → value = default)
    (hsame : Same (.object members) (.object others)) (key : String)
    (hx : lookup? members key = if isDefault x then none else some (write x))
    (hy : lookup? others key = if isDefault y then none else some (write y)) : x = y := by
  have hwritten : ∀ value, (if isDefault value then none else some (write value)) =
      (if isDefault value then none else some value : Option α).map write := by
    intro value
    split <;> rfl
  rw [hwritten] at hx hy
  have hvalues := h.fieldOption hsame key hx hy
  cases hxdefault : isDefault x <;> cases hydefault : isDefault y
  · simpa [hxdefault, hydefault] using hvalues
  · simp [hxdefault, hydefault] at hvalues
  · simp [hxdefault, hydefault] at hvalues
  · rw [hdefault x hxdefault, hdefault y hydefault]

end TellsApart

end LeadingDot.Json
