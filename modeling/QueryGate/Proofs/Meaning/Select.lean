import QueryGate.Proofs.Meaning.Database
import QueryGate.Proofs.Statement.ColumnRefs
/-!
What a statement means on a database. Its tables are joined from left to right, each row being known under its alias;
the rows on which the condition is true are ordered, cut off at the limit, and read. A statement in which an alias is
given twice, or a column refers to an alias that is not known where it stands, has no meaning: a database refuses it.
-/
set_option autoImplicit false

namespace QueryGate.Meaning

open Statement

variable {V : Type}

/-- The rows under their aliases. -/
abbrev Env (V : Type) : Type := List (String × Row V)

/-! ## Expressions -/

mutual

/-- What an expression comes to among some rows. -/
def value (db : Database V) (env : Env V) : Expression → Datum V
  | .column table name => .single ((env.lookup table).bind fun row => row name)
  | .boolean b => .truth (.ofBool b)
  | .parameter v => db.received v
  | .and left right => .truth ((db.truthOf (value db env left)).and (db.truthOf (value db env right)))
  | .binary left operator right => .truth (db.compareWith operator (db.scalar (value db env left)) (value db env right))
  | .between subject low high =>
    .truth ((db.compareValues .greaterOrEqual (db.scalar (value db env subject)) (db.scalar (value db env low))).and
      (db.compareValues .lessOrEqual (db.scalar (value db env subject)) (db.scalar (value db env high))))
  | .any arguments => .anyOf (itemsOfAll db env arguments)
  | .cast subject type => db.castTo type (value db env subject)

/-- The items of what some expressions come to. -/
def itemsOfAll (db : Database V) (env : Env V) : List Expression → List (Option V)
  | [] => []
  | e :: rest => db.itemsOf (value db env e) ++ itemsOfAll db env rest

end

/-- Whether a condition is true among some rows. -/
def isTrueOn (db : Database V) (e : Expression) (env : Env V) : Bool := db.truthOf (value db env e) = .yes

/-- How two rows compare by a key of an order. -/
def keyOrder (db : Database V) (k : OrderKey) (a b : Env V) : Ordering :=
  let ascending := db.rank (db.scalar (value db a k.subject)) (db.scalar (value db b k.subject))
  match k.direction with
  | .ascending => ascending
  | .descending => ascending.swap

/-! ## Statements -/

/-- Rows with one more table joined to each. -/
def joinTable (db : Database V) (envs : List (Env V)) (j : Join) : List (Env V) :=
  envs.flatMap fun env =>
    let joined := fun row => env ++ [(j.tableAlias, row)]
    (partners j.kind (db.rows j.table) fun row => isTrueOn db j.condition (joined row)).map joined

/-- The rows that a statement reads, before its condition. -/
def joinedRows (db : Database V) (q : Select) : List (Env V) :=
  q.joins.foldl (joinTable db) ((db.rows q.table).map fun row => [(q.tableAlias, row)])

/-- The first rows, if there is a limit. -/
def limited {α : Type} (rows : List α) : Option Nat → List α
  | none => rows
  | some n => rows.take n

/-- The rows of a statement. -/
def selectedRows (db : Database V) (q : Select) : List (List (Option V)) :=
  let kept := (joinedRows db q).filter (isTrueOn db q.condition)
  (limited (sortBy (q.order.map (keyOrder db)) kept) q.limit).map fun env =>
    q.columns.map fun e => db.scalar (value db env e)

/-- Whether joins can be read from left to right: each has a new alias, and its condition refers to the aliases that are
known by then and to its own. -/
def joinsScoped (known : List String) : List Join → Bool
  | [] => true
  | j :: rest =>
    !known.contains j.tableAlias && (j.condition.columnRefs.all fun r => (known ++ [j.tableAlias]).contains r.1)
      && joinsScoped (known ++ [j.tableAlias]) rest

/-- Whether every alias of a statement is given once, and every column refers to one that is known. -/
def isScoped (q : Select) : Bool :=
  joinsScoped [q.tableAlias] q.joins && q.columnRefs.all fun r => q.aliases.contains r.1

/-- What a database answers to a statement, unless it refuses it. -/
def answer (db : Database V) (q : Select) : Option (List (List (Option V))) :=
  if isScoped q then some (selectedRows db q) else none

/-! ## Conjunctions -/

theorem isTrueOn_iff (db : Database V) (e : Expression) (env : Env V) :
    isTrueOn db e env = true ↔ db.truthOf (value db env e) = .yes := by
  rw [isTrueOn, decide_eq_true_iff]

theorem isTrueOn_and (db : Database V) (env : Env V) (left right : Expression) :
    isTrueOn db (.and left right) env = true ↔ isTrueOn db left env = true ∧ isTrueOn db right env = true := by
  rw [isTrueOn_iff, isTrueOn_iff, isTrueOn_iff, value, Database.truthOf, Truth.and_eq_yes_iff]

/-- A conjunction is true exactly if each of its parts is; without any it is true everywhere. -/
theorem isTrueOn_conjunction (db : Database V) (env : Env V) (es : List Expression) :
    isTrueOn db (.conjunction es) env = true ↔ ∀ e ∈ es, isTrueOn db e env = true := by
  have htrue : isTrueOn db (.boolean true) env = true := by
    simp [isTrueOn, value, Database.truthOf, Truth.ofBool]
  exact forall_conjunction_iff (P := fun e => isTrueOn db e env = true) htrue (isTrueOn_and db env) es

end QueryGate.Meaning
