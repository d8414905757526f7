/-!
# Named values

Values under names, in the order in which the names came first.  Putting a value under a name that
is there already replaces the old value.
-/

namespace Cashbook

/-- Values under names, which are texts unless said otherwise. -/
abbrev Named (Value : Type) (Name : Type := String) := List (Name × Value)

namespace Named

variable {Value Name : Type} [DecidableEq Name]

/-- The value under a name. -/
def get? (values : Named Value Name) (name : Name) : Option Value :=
  values.lookup name

/-- The values with one more; a name that is already there keeps its place. -/
def put (values : Named Value Name) (name : Name) (value : Value) : Named Value Name :=
  match values with
  | [] => [(name, value)]
  | (other, old) :: rest =>
      if other = name then (name, value) :: rest else (other, old) :: put rest name value

@[simp]
theorem get?_nil (name : Name) : get? ([] : Named Value Name) name = none :=
  rfl

/-- The value under a name is the one put there last. -/
@[simp]
theorem get?_put (values : Named Value Name) (name other : Name) (value : Value) :
    (values.put name value).get? other =
      if other = name then some value else values.get? other := by
  unfold get?
  induction values with
  | nil => grind [put]
  | cons entry rest ih =>
      obtain ⟨head, old⟩ := entry
      grind [put]

end Named

end Cashbook
