import StakePool.Layout
/-!
# Optional fields of the token program

The token program stores an optional value as a tag word, 0 or 1, followed by room for the value. Any
other tag makes the account unreadable. Writing an absent value clears the tag and leaves the room as
it was.
-/

namespace StakePool

structure OptionField (α : Type) where
  tag : UInt32
  room : α

namespace OptionField

variable {α : Type}

def layout (value : Layout α) : Layout (OptionField α) :=
  (Layout.word32.pair value).map (fun field => ⟨field.1, field.2⟩) (fun field => (field.tag, field.room))
    (fun _ => rfl) (fun _ => rfl)

def read? (field : OptionField α) : Option (Option α) :=
  if field.tag = 0 then some none
  else if field.tag = 1 then some (some field.room)
  else none

def write (value : Option α) (field : OptionField α) : OptionField α :=
  match value with
  | none => ⟨0, field.room⟩
  | some a => ⟨1, a⟩

@[simp] theorem read?_write (value : Option α) (field : OptionField α) :
    (field.write value).read? = some value := by
  cases value <;> simp [write, read?]

end OptionField

end StakePool
