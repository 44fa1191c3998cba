import SqlBuilder.Dict
import SqlBuilder.Placeholder
import SqlBuilder.Value

/-!
# Bindings

The values that stand behind the placeholders of a statement, each stored under the full text of
its placeholder. A key may be given with or without its braces; what is stored is never a
timestamp but its text.
-/

namespace SqlBuilder

/-- The values behind placeholders. -/
abbrev Bindings := Dict Value

namespace Bindings

/-- The key for a name: anything that begins with two braces is one already. -/
def key (name : String) : String :=
  if Placeholder.openBraces.isPrefixOf name.toList then name
  else .ofList (Placeholder.token name.toList)

/-- Store a value under a name. -/
def put (b : Bindings) (name : String) (v : Value) : Bindings := b.insert (key name) v.stored

/-- The value stored under a name. -/
def find? (b : Bindings) (name : String) : Option Value := b.get? (key name)

/-- The bindings whose placeholders occur in a text. -/
def referenced (b : Bindings) (sql : String) : Bindings :=
  b.restrict (Placeholder.tokens (Placeholder.template sql))

@[simp] theorem get?_referenced (b : Bindings) (sql key : String) :
    (b.referenced sql).get? key =
      if key ∈ Placeholder.tokens (Placeholder.template sql) then b.get? key else none :=
  Dict.get?_restrict b _ key

end Bindings
end SqlBuilder
