import UserDirectory.Text.LowerCase

/-!
# UserDirectory — entries

An entry is a distinguished name with a list of named, many-valued attributes. Attribute names are
compared without regard to letter case, so several records of the list may belong to one logical
attribute; `Entry.values` collects it. The distinguished name answers for the attribute `dn`, as
long as no attribute of that name is stored.

`SearchEntry` is the form in which an entry is sent to a client: the records of one logical
attribute are gathered under the spelling that came first.
-/

namespace UserDirectory

open Text

/-- Whether two attribute names are the same but for letter case. -/
def sameName (a b : String) : Bool := lowerCase a == lowerCase b

/-- One record of a named attribute. -/
structure Attribute where
  /-- The name, in the spelling it was loaded with. -/
  name : String
  /-- The values, in the order they were loaded. -/
  values : List String
  deriving DecidableEq, Repr

/-- A distinguished name and its attributes. -/
structure Entry where
  dn : String
  attributes : List Attribute
  deriving DecidableEq, Repr

namespace Entry

/-- Whether an attribute of that name is stored. -/
def stores (e : Entry) (name : String) : Bool :=
  e.attributes.any fun a => sameName a.name name

/-- The values of the logical attribute `name`, in storage order. -/
def values (e : Entry) (name : String) : List String :=
  (e.attributes.filter fun a => sameName a.name name).flatMap (·.values) ++
    if !e.stores name && sameName name "dn" then [e.dn] else []

/-- The first value of the logical attribute `name`. -/
def first? (e : Entry) (name : String) : Option String := (e.values name).head?

end Entry

-- ---------------------------------------------------------------------------
-- The form for clients
-- ---------------------------------------------------------------------------

/-- An entry with one record for each logical attribute. -/
structure SearchEntry where
  dn : String
  attributes : List Attribute
  deriving DecidableEq, Repr

/-- Add the values of `a` to the record of that name, or `a` at the end if there is none. -/
def gather (a : Attribute) : List Attribute → List Attribute
  | [] => [a]
  | b :: bs =>
    if sameName b.name a.name then ⟨b.name, b.values ++ a.values⟩ :: bs else b :: gather a bs

/-- The entry with the records of each logical attribute gathered under its first spelling. -/
def Entry.toSearchEntry (e : Entry) : SearchEntry :=
  ⟨e.dn, e.attributes.foldl (fun gathered a => gather a gathered) []⟩

/-- The gathered records in the order of their names. -/
def SearchEntry.sorted (e : SearchEntry) : List Attribute :=
  e.attributes.mergeSort fun a b => decide (a.name ≤ b.name)

end UserDirectory
