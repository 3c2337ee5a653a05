import SqlBoundary.Text.Quoted

/-! # Variables

A finite map from names to values. A value may be absent: the name is then known and not listed.
-/

namespace SqlBoundary

inductive Value
  | text (t : Text)
  | flag (b : Bool)
deriving DecidableEq

/-- How a switch and its setting are spelled. -/
def onOff (b : Bool) : Text := if b then "on".toList else "off".toList

def Value.shown : Value → Text
  | text t => Quoted.encode t
  | flag b => Quoted.encode (onOff b)

/-- A list of names, each of them once, with what they stand for. -/
abbrev Dictionary (α : Type) := List (Text × α)

namespace Dictionary

variable {α : Type}

def get? (name : Text) : Dictionary α → Option α
  | [] => none
  | entry :: rest => if entry.1 = name then some entry.2 else get? name rest

/-- Puts a value in the place of the old one, or at the end. -/
def insert (name : Text) (value : α) : Dictionary α → Dictionary α
  | [] => [(name, value)]
  | entry :: rest =>
    if entry.1 = name then (name, value) :: rest else entry :: insert name value rest

def erase (name : Text) (d : Dictionary α) : Dictionary α := d.filter (·.1 ≠ name)

theorem get?_insert (d : Dictionary α) (name other : Text) (value : α) :
    get? other (d.insert name value) = if name = other then some value else d.get? other := by
  induction d with
  | nil => simp [insert, get?]
  | cons entry rest ih => grind [insert, get?]

theorem get?_erase (d : Dictionary α) (name other : Text) :
    get? other (d.erase name) = if name = other then none else d.get? other := by
  induction d with
  | nil => simp [erase, get?]
  | cons entry rest ih =>
    simp only [erase] at ih
    simp only [erase, List.filter_cons, get?]
    grind [get?]

end Dictionary

abbrev Variables := Dictionary (Option Value)

end SqlBoundary
