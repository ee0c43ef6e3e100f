import LeadingDot.Json.Decode
import Mathlib.Data.List.Forall2

/-!
# Recovering a value from its JSON value

A decoder recovers what a writer wrote if it reads every written value as the value it was
written for. Readers of a later version meet objects with members they do not know: the
recovery is therefore stated for every value that comes from the written one by adding
members with foreign keys, to any of the objects in it.

A record is recovered field by field, in the order of its definition: each field needs the
recovery of its own type and the member that the writer left under its key.
-/

namespace LeadingDot.Json

/-! ## Foreign members -/

/-- Which objects a value is made of: a value that is none and holds none, an array of such
values, or an object with a field for each of some keys. -/
inductive Shape where
  | leaf
  | list (item : Shape)
  | record (fields : List (String × Shape))

/-- A value of a shape grows into another one by members with keys that are no fields of
their object, added one by one at any place of any object. -/
inductive Grows : Shape → Json → Json → Prop
  | refl {shape : Shape} (value : Json) : Grows shape value value
  | member {fields : List (String × Shape)} {key : String} (before after : List (String × Json))
      (value : Json) (hforeign : fields.lookup key = none) :
      Grows (.record fields) (.object (before ++ after))
        (.object (before ++ (key, value) :: after))
  | inside {fields : List (String × Shape)} {key : String} {shape : Shape} {a b : Json}
      (before after : List (String × Json)) (hfield : fields.lookup key = some shape)
      (hvalue : Grows shape a b) :
      Grows (.record fields) (.object (before ++ (key, a) :: after))
        (.object (before ++ (key, b) :: after))
  | item {shape : Shape} {a b : Json} (before after : List Json) (hitem : Grows shape a b) :
      Grows (.list shape) (.array (before ++ a :: after)) (.array (before ++ b :: after))
  | trans {shape : Shape} {a b c : Json} (hfirst : Grows shape a b) (hsecond : Grows shape b c) :
      Grows shape a c

@[simp] theorem lookup?_nil (key : String) : lookup? [] key = none := rfl

@[simp] theorem lookup?_cons (member : String × Json) (members : List (String × Json))
    (key : String) : lookup? (member :: members) key =
      if member.1 = key then some member.2 else lookup? members key := by
  rw [lookup?, List.find?_cons]
  by_cases h : member.1 = key
  · simp [h]
  · have hbeq : (member.1 == key) = false := beq_eq_false_iff_ne.mpr h
    rw [hbeq, if_neg h]
    rfl

@[simp] theorem lookup?_append (before after : List (String × Json)) (key : String) :
    lookup? (before ++ after) key = (lookup? before key).or (lookup? after key) := by
  induction before with
  | nil => rfl
  | cons member before ih =>
      rw [List.cons_append, lookup?_cons, lookup?_cons, ih]
      by_cases h : member.1 = key
      · simp [h]
      · simp [h]

/-- Two lists of members agree on the fields of a record: each is in both or in neither,
with a value that has grown at most. -/
def AgreeOn (fields : List (String × Shape)) (members grown : List (String × Json)) : Prop :=
  ∀ key shape, fields.lookup key = some shape →
    Option.Rel (Grows shape) (lookup? members key) (lookup? grown key)

namespace AgreeOn

variable {fields : List (String × Shape)} {a b c : List (String × Json)}

theorem refl (members : List (String × Json)) : AgreeOn fields members members := by
  intro key shape _
  cases lookup? members key with
  | none => exact .none
  | some value => exact .some (.refl value)

theorem trans (hab : AgreeOn fields a b) (hbc : AgreeOn fields b c) : AgreeOn fields a c := by
  intro key shape hkey
  have hfirst := hab key shape hkey
  have hsecond := hbc key shape hkey
  revert hfirst hsecond
  generalize lookup? a key = x, lookup? b key = y, lookup? c key = z
  intro hfirst hsecond
  cases hfirst with
  | none => exact hsecond
  | some hxy =>
      cases hsecond with
      | some hyz => exact .some (hxy.trans hyz)

/-- A member that is no field leaves all fields as they are. -/
theorem member {key : String} (before after : List (String × Json)) (value : Json)
    (hforeign : fields.lookup key = none) :
    AgreeOn fields (before ++ after) (before ++ (key, value) :: after) := by
  intro key' shape hkey
  have hne : key ≠ key' := by
    rintro rfl
    rw [hforeign] at hkey
    cases hkey
  rw [lookup?_append, lookup?_append, lookup?_cons, if_neg hne, ← lookup?_append]
  exact refl (before ++ after) key' shape hkey

/-- A field whose value grows is the only one that changes. -/
theorem inside {key : String} {shape : Shape} {x y : Json} (before after : List (String × Json))
    (hfield : fields.lookup key = some shape) (hvalue : Grows shape x y) :
    AgreeOn fields (before ++ (key, x) :: after) (before ++ (key, y) :: after) := by
  intro key' shape' hkey
  rw [lookup?_append, lookup?_append, lookup?_cons, lookup?_cons]
  cases lookup? before key' with
  | some value => exact .some (.refl value)
  | none =>
      by_cases hsame : key = key'
      · subst hsame
        obtain rfl : shape = shape' := Option.some.inj (hfield.symm.trans hkey)
        rw [if_pos rfl, if_pos rfl]
        exact .some hvalue
      · rw [if_neg hsame, if_neg hsame]
        exact refl after key' shape' hkey

end AgreeOn

namespace Grows

variable {shape : Shape} {fields : List (String × Shape)} {a b : Json}

/-- Nothing can be added to a value without objects. -/
theorem eq_of_leaf (h : Grows .leaf a b) : b = a := by
  generalize hshape : Shape.leaf = shape at h
  induction h with
  | refl value => rfl
  | member | inside | item => cases hshape
  | trans _ _ ihfirst ihsecond => rw [ihsecond hshape, ihfirst hshape]

/-- Items that grow twice have grown. -/
theorem forall₂_trans {as bs cs : List Json} (hab : List.Forall₂ (Grows shape) as bs)
    (hbc : List.Forall₂ (Grows shape) bs cs) : List.Forall₂ (Grows shape) as cs := by
  induction hab generalizing cs with
  | nil => exact hbc
  | cons hfirst _ ih =>
      cases hbc with
      | cons hsecond hrest => exact .cons (hfirst.trans hsecond) (ih hrest)

/-- An array stays an array, of items that have grown. -/
theorem exists_array {items : List Json} (h : Grows (.list shape) (.array items) b) :
    ∃ grown, b = .array grown ∧ List.Forall₂ (Grows shape) items grown := by
  generalize hlist : Shape.list shape = whole at h
  generalize ha : Json.array items = a at h
  induction h generalizing items with
  | refl value => exact ⟨items, ha.symm, List.forall₂_same.mpr fun item _ => .refl item⟩
  | member | inside => cases hlist
  | item before after hitem _ =>
      cases hlist
      cases ha
      have hbefore : List.Forall₂ (Grows shape) before before :=
        List.forall₂_same.mpr fun item _ => .refl item
      have hafter : List.Forall₂ (Grows shape) after after :=
        List.forall₂_same.mpr fun item _ => .refl item
      exact ⟨_, rfl, List.rel_append hbefore (.cons hitem hafter)⟩
  | trans _ _ ihfirst ihsecond =>
      obtain ⟨middle, hmiddle, hfirst⟩ := ihfirst hlist ha
      obtain ⟨grown, hgrown, hsecond⟩ := ihsecond hlist hmiddle.symm
      exact ⟨grown, hgrown, forall₂_trans hfirst hsecond⟩

/-- An object stays an object, with the same fields. -/
theorem exists_object {members : List (String × Json)}
    (h : Grows (.record fields) (.object members) b) :
    ∃ grown, b = .object grown ∧ AgreeOn fields members grown := by
  generalize hrecord : Shape.record fields = whole at h
  generalize ha : Json.object members = a at h
  induction h generalizing members with
  | refl value => exact ⟨members, ha.symm, .refl members⟩
  | member before after value hforeign =>
      cases hrecord
      cases ha
      exact ⟨_, rfl, .member before after value hforeign⟩
  | inside before after hfield hvalue _ =>
      cases hrecord
      cases ha
      exact ⟨_, rfl, .inside before after hfield hvalue⟩
  | item => cases hrecord
  | trans _ _ ihfirst ihsecond =>
      obtain ⟨middle, hmiddle, hfirst⟩ := ihfirst hrecord ha
      obtain ⟨grown, hgrown, hsecond⟩ := ihsecond hrecord hmiddle.symm
      exact ⟨grown, hgrown, hfirst.trans hsecond⟩

/-- What is there does not become null. -/
theorem ne_null (h : Grows shape a b) (ha : a ≠ .null) : b ≠ .null := by
  induction h with
  | refl => exact ha
  | member | inside | item => exact nofun
  | trans _ _ ihfirst ihsecond => exact ihsecond (ihfirst ha)

end Grows

/-! ## Recovery -/

/-- Reading undoes writing, also from values to which foreign members were added. -/
structure Recovers {α : Type} (write : α → Json) (read : Decoder α) (shape : Shape) : Prop where
  /-- The value written for a value is read as that value. -/
  read_write : ∀ value, read (write value) = .ok value
  /-- So is every value that the written one grows into. -/
  read_grown : ∀ value grown, Grows shape (write value) grown → read grown = .ok value

namespace Recovers

variable {α : Type} {write : α → Json} {read : Decoder α} {shape : Shape}

/-- A value grows into itself, so that only the second part is to be shown. -/
theorem of_grown (h : ∀ value grown, Grows shape (write value) grown → read grown = .ok value) :
    Recovers write read shape :=
  ⟨fun value => h value (write value) (.refl _), h⟩

theorem of_leaf (h : ∀ value, read (write value) = .ok value) : Recovers write read .leaf := by
  refine of_grown fun value grown hgrown => ?_
  rw [hgrown.eq_of_leaf]
  exact h value

theorem text : Recovers .text Decoder.text .leaf :=
  of_leaf fun _ => rfl

theorem bool : Recovers .bool Decoder.bool .leaf :=
  of_leaf fun _ => rfl

theorem nat : Recovers .nat Decoder.nat .leaf := by
  refine of_leaf fun value => ?_
  simp [Json.nat, Decoder.nat]

/-- What is recovered was written for one value alone. -/
theorem injective (h : Recovers write read shape) : Function.Injective write := by
  intro a b hab
  have ha := h.read_write a
  rw [hab, h.read_write b] at ha
  exact (Except.ok.inj ha).symm

/-- A list is recovered item by item. -/
theorem list (h : Recovers write read shape) :
    Recovers (fun values => .array (values.map write)) (Decoder.list read) (.list shape) := by
  refine of_grown fun values json hgrown => ?_
  obtain ⟨items, rfl, hitems⟩ := hgrown.exists_array
  clear hgrown
  change items.mapM read = .ok values
  induction values generalizing items with
  | nil =>
      cases hitems
      rfl
  | cons value values ih =>
      rw [List.map_cons] at hitems
      cases hitems with
      | cons hitem hrest =>
          rw [List.mapM_cons, h.read_grown value _ hitem, ih _ hrest]
          rfl

theorem texts : Recovers Json.texts (Decoder.list Decoder.text) (.list .leaf) :=
  list text

/-- What is not null is read as a value that is there. -/
theorem option_of_ne_null (read : Decoder α) {json : Json} (h : json ≠ .null) :
    Decoder.option read json = (read json).map some := by
  cases json with
  | null => exact absurd rfl h
  | bool | number | text | array | object => rfl

/-- A value that may be missing is recovered if null stands for a missing one alone. -/
theorem orNull (h : Recovers write read .leaf) (hnull : ∀ value, write value ≠ .null) :
    Recovers (fun value : Option α => value.elim .null write) (Decoder.option read) .leaf := by
  refine of_leaf fun value => ?_
  cases value with
  | none => rfl
  | some value =>
      rw [Option.elim_some, option_of_ne_null read (hnull value), h.read_write]
      rfl

end Recovers

/-! ## Records -/

namespace Fields

variable {α β : Type} {shapes : List (String × Shape)} {members : List (String × Json)}

/-- The fields are read as a value from the members that were written, and from whatever
agrees with these on the fields. -/
def Reads (fields : Fields α) (shapes : List (String × Shape)) (members : List (String × Json))
    (value : α) : Prop :=
  ∀ grown, AgreeOn shapes members grown → fields.ofMembers grown = .ok value

namespace Reads

theorem done (value : α) : (Fields.done value).Reads shapes members value := by
  intro grown _
  rfl

/-- One field more: its member is read as the value, or stands for it by being absent. -/
theorem next {fields : Fields (α → β)} {build : α → β} {key : String} {read : Decoder α}
    {absent omitted : Option α} {shape : Shape} {value : α}
    (h : fields.Reads shapes members build) (hkey : shapes.lookup key = some shape)
    (hmember : ∀ written, lookup? members key = some written →
      ∀ grown, Grows shape written grown → read grown = .ok value)
    (habsent : lookup? members key = none → absent = some value) :
    (fields.next key read absent omitted).Reads shapes members (build value) := by
  intro grown hgrown
  have hlookup := hgrown key shape hkey
  simp only [Fields.next, h grown hgrown]
  revert hlookup hmember habsent
  generalize lookup? members key = x, lookup? grown key = y
  intro hmember habsent hlookup
  cases hlookup with
  | none =>
      rw [habsent rfl]
      rfl
  | some hvalue =>
      simp only [hmember _ rfl _ hvalue]
      rfl

variable {fields : Fields (α → β)} {build : α → β} {key : String} {read : Decoder α}
  {absent omitted : Option α} {shape : Shape} {value : α} {write : α → Json}

/-- A field that is always written. -/
theorem written (h : fields.Reads shapes members build) (hvalue : Recovers write read shape)
    (hkey : shapes.lookup key = some shape)
    (hmember : lookup? members key = some (write value)) :
    (fields.next key read absent omitted).Reads shapes members (build value) := by
  refine h.next hkey ?_ ?_
  · intro json hjson grown hgrown
    rw [hmember] at hjson
    cases hjson
    exact hvalue.read_grown value grown hgrown
  · intro hnone
    rw [hmember] at hnone
    cases hnone

/-- A field that is left out when it has its default. -/
theorem unlessDefault {default : α} {isDefault : Bool} (h : fields.Reads shapes members build)
    (hvalue : Recovers write read shape) (hdefault : isDefault = true → value = default)
    (hkey : shapes.lookup key = some shape)
    (hmember : lookup? members key = if isDefault then none else some (write value)) :
    (fields.next key read (some default) omitted).Reads shapes members (build value) := by
  cases isDefault with
  | true =>
      refine h.next hkey ?_ ?_
      · intro json hjson
        rw [hmember] at hjson
        cases hjson
      · intro _
        rw [hdefault rfl]
  | false => exact h.written hvalue hkey hmember

/-- A field that is left out when there is none of it. -/
theorem unlessNone {fields : Fields (Option α → β)} {build : Option α → β} {value : Option α}
    {omitted : Option (Option α)} (h : fields.Reads shapes members build)
    (hvalue : Recovers write read shape) (hnull : ∀ value, write value ≠ .null)
    (hkey : shapes.lookup key = some shape) (hmember : lookup? members key = value.map write) :
    (fields.next key read.option (some none) omitted).Reads shapes members (build value) := by
  refine h.next hkey ?_ ?_
  · intro json hjson grown hgrown
    rw [hmember] at hjson
    obtain ⟨x, rfl, rfl⟩ := Option.map_eq_some_iff.mp hjson
    have hgrownNull : grown ≠ .null := hgrown.ne_null (hnull x)
    rw [Recovers.option_of_ne_null read hgrownNull, hvalue.read_grown x grown hgrown]
    rfl
  · intro hnone
    rw [hmember] at hnone
    rw [Option.map_eq_none_iff.mp hnone]

end Reads

/-- A record is recovered when all its fields are. -/
theorem recovers {fields : Fields α} {write : α → List (String × Json)} {name : String}
    (h : ∀ value, fields.Reads shapes (write value) value) :
    Recovers (fun value => .object (write value)) (fields.decoder name) (.record shapes) := by
  refine Recovers.of_grown fun value json hgrown => ?_
  obtain ⟨grown, rfl, hagree⟩ := hgrown.exists_object
  change (fields.ofMembers grown).mapError Fault.error = .ok value
  rw [h value grown hagree]
  rfl

end Fields

end LeadingDot.Json
