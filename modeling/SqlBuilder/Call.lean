import SqlBuilder.Edit

/-!
# Calls

A call is one edit of a query as it is written down, and `Call.run` carries it out. In a written
call another query stands by its name; `Call.resolve` puts the query itself there.

Calls that say the same under another name are definitions, not constructors.
-/

namespace SqlBuilder

/-- An edit of a query, with `Q` in the places of other queries. -/
inductive Call (Q : Type) where
  | act (a : Action)
  | insertInto (mode : InsertMode)
  | insertFields (mode : InsertMode) (f : Fields)
  | table (name : String) (aliasName : Option String)
  | tableOf (database name : String) (aliasName : Option String)
  | actOn (a : Action) (table : String) (aliasName : Option String)
  | deleteFromTables (names : List String) (aliasName : Option String)
  | database (name : String)
  | asName (name : String)
  | fromSubquery (q : Q) (aliasName : Option String)
  | columns (cs : List (Column Q))
  | selectColumns (cs : List (Column Q))
  | addColumn (c : Column Q) (unique : Bool)
  | setRaw (statement : String)
  | set (column : String) (v : Operand) (modifier : Option String)
  | setFields (f : Fields) (modifier : Option String)
  | addRow (f : Fields)
  | addRowValues (vs : List Operand)
  | clearConditions
  | addCondition (c : Condition Q) (v : Option Operand) (operator modifier : Option String)
  | between (field : String) (low high : Value) (modifier : Option String)
  | inRange (field : String) (low high : Value)
  | connective (c : Connective)
  /-- A word that asks for a connective; any other word changes nothing. -/
  | comparisonMethod (word : String)
  | join (kind : Option JoinKind) (j : Join Q)
  | orderBy (columns : List String)
  | groupBy (columns : List String)
  | distinct (enable : Bool)
  | limit (most offset : Nat)
  | boundParameters (enable : Bool)
  | debug (enable : Bool)
  | insertBinding (name : String) (v : Value)
  | createBinding (v : Value) (modifier : Option String)

namespace Call

/-- The change that a call makes. -/
def edit : Call Query → Edit Unit
  | act a => Edit.act a
  | insertInto mode => Edit.insertInto mode
  | insertFields mode f => Edit.insertFields mode f
  | table name aliasName => Edit.table name aliasName
  | tableOf db name aliasName => do
    Edit.database db
    Edit.table name aliasName
  | actOn a name aliasName => do
    Edit.act a
    Edit.table name aliasName
  | deleteFromTables names aliasName => Edit.deleteFromTables names aliasName
  | database name => Edit.database name
  | asName name => Edit.asName name
  | fromSubquery q aliasName => Edit.fromSubquery q aliasName
  | columns cs => Edit.columns cs
  | selectColumns cs => Edit.selectColumns cs
  | addColumn c unique => Edit.addColumn c unique
  | setRaw statement => Edit.setRaw statement
  | set column v modifier => Edit.set column v modifier
  | setFields f modifier => Edit.setFields f modifier
  | addRow f => Edit.addRow f
  | addRowValues vs => Edit.addRowValues vs
  | clearConditions => Edit.clearConditions
  | addCondition c v operator modifier => Edit.addCondition c v operator modifier
  | between field low high modifier => Edit.between field low high modifier
  | inRange field low high => Edit.inRange field low high
  | connective c => Edit.connective c
  | comparisonMethod word => Edit.connective (Edit.connectiveOf? word)
  | join kind j => Edit.join kind j
  | orderBy names => Edit.orderBy names
  | groupBy names => Edit.groupBy names
  | distinct enable => Edit.distinct enable
  | limit most offset => Edit.limit most offset
  | boundParameters enable => Edit.boundParameters enable
  | debug enable => Edit.debug enable
  | insertBinding name v => Edit.insertBinding name v
  | createBinding v modifier => discard (Edit.createBinding v modifier)

/-- Carry out a call. Only the creation of a binding has a text to hand out. -/
def run : Call Query → Edit (Option String)
  | createBinding v modifier => do return some (← Edit.createBinding v modifier)
  | c => do
    c.edit
    return none

/-! ## Calls by other names -/

section Names

variable {Q : Type}

def whereClause (c : Condition Q) : Call Q := addCondition c none none none

def whereEq (c : Condition Q) (v : Operand) : Call Q := addCondition c (some v) none none

def whereOp (c : Condition Q) (v : Operand) (operator : String) : Call Q :=
  addCondition c (some v) (some operator) none

/-- Without a condition every condition is removed. -/
def whereWith (c : Option (Condition Q)) (v : Option Operand)
    (operator modifier : Option String) : Call Q :=
  match c with
  | some c => addCondition c v operator modifier
  | none => clearConditions

def whereLike (c : Condition Q) (v : Operand) : Call Q := whereOp c v "LIKE"

def whereNot (c : Condition Q) (v : Operand) : Call Q := whereOp c v "!="

def whereNotLike (c : Condition Q) (v : Operand) : Call Q := whereOp c v "NOT LIKE"

/-- Compare every field of an object under an operator. -/
def whereObject (f : Fields) (operator : String) : Call Q :=
  addCondition (.fields f) none (some operator) none

def whereLikeObject (f : Fields) : Call Q := whereObject f "LIKE"

def whereNotObject (f : Fields) : Call Q := whereObject f "!="

def whereNotLikeObject (f : Fields) : Call Q := whereObject f "NOT LIKE"

/-- Join under all conditions, or under any of them. -/
def matchAll (all : Bool) : Call Q := connective (if all then .and else .or)

/-- A join against a target, which goes before one in the options. -/
def joinWith (kind : Option JoinKind) (target : JoinTarget Q) (o : JoinOptions Q) : Call Q :=
  join kind (.options { o with target := some target })

end Names

/-! ## Names of queries -/

section Resolve

variable {Q R : Type} (find? : Q → Option R)

mutual

/-- A condition with the queries in place of their names, if there are such queries. -/
def resolveCondition : Condition Q → Option (Condition R)
  | .raw sql => some (.raw sql)
  | .list items => (resolveItems items).map .list
  | .fields f => some (.fields f)
  | .query q => (find? q).map .query
  | .value v => some (.value v)

def resolveItems : List (Condition Q) → Option (List (Condition R))
  | [] => some []
  | c :: cs => do return (← resolveCondition c) :: (← resolveItems cs)

end

def resolveColumn : Column Q → Option (Column R)
  | .name s => some (.name s)
  | .value v => some (.value v)
  | .data v modifier => some (.data v modifier)
  | .query q => (find? q).map .query

def resolveTarget : JoinTarget Q → Option (JoinTarget R)
  | .table name => some (.table name)
  | .query q => (find? q).map .query

def resolveOptions (o : JoinOptions Q) : Option (JoinOptions R) :=
  let rest (target : Option (JoinTarget R)) : JoinOptions R :=
    { target
      aliasName := o.aliasName
      on := o.on
      onConnective := o.onConnective
      usingColumns := o.usingColumns
      kind := o.kind }
  match o.target with
  | none => some (rest none)
  | some target => (resolveTarget find? target).map fun t => rest (some t)

def resolveJoin : Join Q → Option (Join R)
  | .raw sql => some (.raw sql)
  | .query q => (find? q).map .query
  | .options o => (resolveOptions find? o).map .options

/-- A call with the queries in place of their names, if there are such queries. -/
def resolve : Call Q → Option (Call R)
  | act a => some (act a)
  | insertInto mode => some (insertInto mode)
  | insertFields mode f => some (insertFields mode f)
  | table name aliasName => some (table name aliasName)
  | tableOf db name aliasName => some (tableOf db name aliasName)
  | actOn a name aliasName => some (actOn a name aliasName)
  | deleteFromTables names aliasName => some (deleteFromTables names aliasName)
  | database name => some (database name)
  | asName name => some (asName name)
  | fromSubquery q aliasName => (find? q).map (fromSubquery · aliasName)
  | columns cs => (cs.mapM (resolveColumn find?)).map columns
  | selectColumns cs => (cs.mapM (resolveColumn find?)).map selectColumns
  | addColumn c unique => (resolveColumn find? c).map (addColumn · unique)
  | setRaw statement => some (setRaw statement)
  | set column v modifier => some (set column v modifier)
  | setFields f modifier => some (setFields f modifier)
  | addRow f => some (addRow f)
  | addRowValues vs => some (addRowValues vs)
  | clearConditions => some clearConditions
  | addCondition c v operator modifier =>
    (resolveCondition find? c).map (addCondition · v operator modifier)
  | between field low high modifier => some (between field low high modifier)
  | inRange field low high => some (inRange field low high)
  | connective c => some (connective c)
  | comparisonMethod word => some (comparisonMethod word)
  | join kind j => (resolveJoin find? j).map (join kind)
  | orderBy names => some (orderBy names)
  | groupBy names => some (groupBy names)
  | distinct enable => some (distinct enable)
  | limit most offset => some (limit most offset)
  | boundParameters enable => some (boundParameters enable)
  | debug enable => some (debug enable)
  | insertBinding name v => some (insertBinding name v)
  | createBinding v modifier => some (createBinding v modifier)

end Resolve

end Call
end SqlBuilder
