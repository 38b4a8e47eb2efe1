import QueryGate.Contract.Basic
import QueryGate.Text.LowerCase
import QueryGate.Text.Normal
/-!
The index of resource names. A name is looked up in a normal form in which spelling, marks of separation and plural
endings matter less; every canonical name, its plural and every synonym lead to their resource.
-/
set_option autoImplicit false

namespace QueryGate.Plan

/-- The characters that the normal form of a name keeps: letters and digits of ASCII, and Latin letters with
diacritics. -/
def isKept (c : Char) : Bool :=
  let n := c.toNat
  (0x61 ≤ n && n ≤ 0x7a) || (0x30 ≤ n && n ≤ 0x39) || (0xc0 ≤ n && n ≤ 0x24f) || (0x1e00 ≤ n && n ≤ 0x1eff)

/-- The normal form of the characters of a name. -/
def normalizeChars (cs : List Char) : List Char := ((Text.normalFormKC cs).flatMap Text.lowerChar).filter isKept

/-- The normal form of a name: normalisation form KC in lower case, without the characters that are not kept. -/
def normalize (name : String) : String := String.ofList (normalizeChars name.toList)

/-- The name without one `s` at its end. -/
def singularize (name : String) : String :=
  let cs := name.toList
  if cs.getLast? = some 's' then String.ofList cs.dropLast else name

/-- Canonical names under the normal forms that lead to them. -/
structure Index where
  entries : NameTable String

namespace Index

/-- Enters a key; the last entry of a key counts, and the empty key is not entered. -/
def insert (index : Index) (key canonical : String) : Index :=
  if key = "" then index else ⟨index.entries.assign key canonical⟩

/-- Enters a name in its singular form and as it is. -/
def insertName (canonical : String) (index : Index) (name : String) : Index :=
  let key := normalize name
  (index.insert (singularize key) canonical).insert key canonical

/-- The names under which a resource is entered, in this order. -/
def namesOf (canonical : String) (info : Contract.ResourceInfo) : List String :=
  canonical :: info.synonyms ++ [canonical ++ "s"]

/-- Enters a resource. -/
def insertResource (index : Index) (resource : String × Contract.ResourceInfo) : Index :=
  (namesOf resource.1 resource.2).foldl (insertName resource.1) index

/-- The index of a contract. -/
def ofContract (c : Contract) : Index := c.resources.entries.foldl insertResource ⟨.empty⟩

/-- The canonical name that a name leads to: by its normal form, or else by the singular of that. -/
def resolve (index : Index) (name : String) : Option String :=
  let key := normalize name
  (index.entries.get? key).or (index.entries.get? (singularize key))

/-- The number of keys. -/
def size (index : Index) : Nat := index.entries.entries.length

/-- Whether there is no key. -/
def isEmpty (index : Index) : Bool := index.entries.isEmpty

end Index

end QueryGate.Plan
