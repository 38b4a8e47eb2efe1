import QueryGate.Statement.Builder
/-!
Rows as objects: the columns of a statement get distinct names, and the statement is wrapped so that each row comes
back as one object under these names.
-/
set_option autoImplicit false

namespace QueryGate.Guard

/-- A name with a number after it. -/
def numbered (name : String) (k : Nat) : String := name ++ "_" ++ toString k

/-- The first of `name_k`, `name_(k+1)`, ... that is not taken, among so many candidates. -/
def firstFree (taken : List String) (name : String) : Nat → Nat → String
  | 0, k => numbered name k
  | tries + 1, k => if numbered name k ∈ taken then firstFree taken name tries (k + 1) else numbered name k

/-- A name that is not taken: the name itself if possible, otherwise the name with the least number from two on. At
most as many candidates are taken as there are taken names. -/
def freeName (taken : List String) (name : String) : String :=
  if name ∈ taken then firstFree taken name taken.length 2 else name

/-- Names in place of names; `taken` holds those given out already. -/
def distinctFrom (taken : List String) : List String → List String
  | [] => []
  | name :: rest =>
    let free := freeName taken name
    free :: distinctFrom (free :: taken) rest

/-- Distinct names for columns: a name that is taken gets a number. -/
def distinctColumns (names : List String) : List String := distinctFrom [] names

/-- A statement whose rows are the rows of another one as objects. -/
def rowsAsObjects (text : String) (columns : List String) : String :=
  let wrapped := "SELECT row_to_json(\"rows\") FROM (" ++ text ++ ") AS \"rows\""
  match columns with
  | [] => wrapped
  | c :: cs =>
    wrapped ++ "("
      ++ String.intercalate ", " ((c :: cs).map fun name => String.ofList (Statement.quotedChars name))
      ++ ")"

end QueryGate.Guard
