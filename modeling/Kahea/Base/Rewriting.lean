import Kahea.Base.Json

/-!
# Rewriting Values

Values with the members of an object or the items of an array rewritten, and
what an accessor sees of them afterwards.

A rewriting keeps the shape of a value. A member is read out of the rewritten
object as the rewritten member (`get_onMembers`), a member that is left alone is
read as before (`get_onMember_ne`), and whatever is no object or no array is not
touched, so that the accessors of the other kinds see no difference.

## Main definitions

* `Value.onMembers`, `Value.onMember`: The members of an object rewritten.
* `Value.onItems`: The items of an array rewritten.

## Theorems

* `get_onMembers`, `get_onMember_self`, `get_onMember_ne`: What is read of members.
* `asArray_onItems`: What is read of items.
* `onMembers_onMembers`, `onItems_onItems`: One rewriting after another.
* `pointer_two`: A pointer of two plain names.
-/

namespace Kahea

namespace Value

/-- The members of an object rewritten, each by what its name says. -/
def onMembers (f : Str → Value → Value) : Value → Value
  | .object members => .object (members.map (fun e => (e.1, f e.1 e.2)))
  | value => value

/-- The members of one name rewritten. -/
def onMember (key : Str) (f : Value → Value) : Value → Value :=
  onMembers (fun name value => if name = key then f value else value)

/-- The items of an array rewritten. -/
def onItems (f : Value → Value) : Value → Value
  | .array items => .array (items.map f)
  | value => value

end Value

/-- A lookup among rewritten members finds the rewritten value. -/
theorem lookup_map_members {β γ : Type} (f : Str → β → γ) (key : Str) (members : List (Str × β)) :
    lookup key (members.map (fun e => (e.1, f e.1 e.2))) = (lookup key members).map (f key) := by
  induction members with
  | nil => rfl
  | cons e rest ih =>
      rw [List.map_cons, lookup, lookup]
      by_cases hkey : e.1 = key
      · rw [if_pos hkey, if_pos hkey, hkey]
        rfl
      · rw [if_neg hkey, if_neg hkey, ih]

namespace Value

variable (f : Str → Value → Value) (g : Value → Value) (value : Value)

@[simp] theorem asObject_onMembers : (value.onMembers f).asObject =
    value.asObject.map (fun members => members.map (fun e => (e.1, f e.1 e.2))) := by
  cases value <;> rfl

@[simp] theorem asArray_onMembers : (value.onMembers f).asArray = value.asArray := by
  cases value <;> rfl

@[simp] theorem asStr_onMembers : (value.onMembers f).asStr = value.asStr := by
  cases value <;> rfl

@[simp] theorem asBool_onMembers : (value.onMembers f).asBool = value.asBool := by
  cases value <;> rfl

@[simp] theorem asArray_onItems : (value.onItems g).asArray =
    value.asArray.map (fun items => items.map g) := by
  cases value <;> rfl

@[simp] theorem asObject_onItems : (value.onItems g).asObject = value.asObject := by
  cases value <;> rfl

@[simp] theorem asStr_onItems : (value.onItems g).asStr = value.asStr := by
  cases value <;> rfl

/-- A member of a rewritten object is the rewritten member. -/
theorem get_onMembers (key : Str) : (value.onMembers f).get key = (value.get key).map (f key) := by
  unfold get
  rw [asObject_onMembers]
  cases value.asObject with
  | none => rfl
  | some members => exact lookup_map_members f key members

/-- The member rewritten. -/
theorem get_onMember_self (key : Str) :
    (value.onMember key g).get key = (value.get key).map g := by
  unfold onMember
  rw [get_onMembers]
  simp only [if_pos]

/-- Every other member is left as it was. -/
theorem get_onMember_ne {key name : Str} (h : name ≠ key) :
    (value.onMember key g).get name = value.get name := by
  unfold onMember
  rw [get_onMembers]
  simp only [if_neg h]
  exact Option.map_id'

/-! ### Two rewritings -/

/-- Two rewritings of the members are one. -/
theorem onMembers_onMembers (h : Str → Value → Value) : (value.onMembers f).onMembers h =
    value.onMembers (fun name v => h name (f name v)) := by
  cases value with
  | object members =>
      change Value.object ((members.map _).map _) = .object (members.map _)
      rw [List.map_map]
      rfl
  | _ => rfl

/-- Two rewritings of the items are one. -/
theorem onItems_onItems (h : Value → Value) : (value.onItems g).onItems h =
    value.onItems (fun v => h (g v)) := by
  cases value with
  | array items =>
      change Value.array ((items.map g).map h) = .array (items.map _)
      rw [List.map_map]
      rfl
  | _ => rfl

/-- A value has items or members, so the order does not matter. -/
theorem onItems_onMembers : (value.onMembers f).onItems g = (value.onItems g).onMembers f := by
  cases value <;> rfl

/-- Two rewritings of one member are one. -/
theorem onMember_onMember (key : Str) (h : Value → Value) : (value.onMember key g).onMember key h =
    value.onMember key (fun v => h (g v)) := by
  unfold onMember
  rw [onMembers_onMembers]
  congr 1
  funext name v
  by_cases hname : name = key
  · rw [if_pos hname, if_pos hname, if_pos hname]
  · rw [if_neg hname, if_neg hname, if_neg hname]

/-! ### Pointers -/

/-- A name that is no array index is a step to a member. -/
theorem child_eq_get {token : Str} (h : parseIndex token = none) : value.child token =
    value.get token := by
  cases value with
  | array items =>
      unfold child
      rw [h]
      rfl
  | object members => rfl
  | _ => rfl

/-- Two tokens that are no indices select member after member. -/
theorem descend_two {first second : Str} (hfirst : parseIndex first = none)
    (hsecond : parseIndex second = none) :
    value.descend [first, second] = (value.get first).bind (fun v => v.get second) := by
  unfold descend
  rw [List.foldlM_cons, child_eq_get value hfirst]
  cases value.get first with
  | none => rfl
  | some inner =>
      change ([second].foldlM child inner) = inner.get second
      rw [List.foldlM_cons, child_eq_get inner hsecond]
      cases inner.get second with
      | none => rfl
      | some last => rfl

/-- A pointer of two names without escapes. -/
theorem pointer_two {pointer first second : Str} (htokens : pointerTokens pointer =
    some [first, second]) (hfirst : parseIndex first = none) (hsecond : parseIndex second = none) :
    value.pointer pointer = (value.get first).bind (fun v => v.get second) := by
  unfold Value.pointer
  rw [htokens]
  exact descend_two value hfirst hsecond

end Value

end Kahea
