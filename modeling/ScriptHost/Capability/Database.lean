/-
ScriptHost.Capability.Database — SQL statements, asked of the database
service.

The first argument is the statement, all others are its parameters.
-/
import ScriptHost.Script.Action

namespace ScriptHost

/-- The functions of `db`. -/
inductive DatabaseFunction where
  | query
  | singleQuery
  | execute
  deriving DecidableEq, Repr

namespace DatabaseFunction

variable {F : Type}

def named : List (String × DatabaseFunction) :=
  [("query", query), ("singleQuery", singleQuery), ("execute", execute)]

/-- The statement and its parameters. -/
def statement : List Value → Action F (String × List Json)
  | .str s :: rest => do
    let sql ← Action.ofExcept (Argument.utf8 "&str" s)
    let parameters ← rest.mapM Action.toJson
    pure (sql, parameters)
  | _ => Action.complain .sqlExpected

/-- Where there are no rows, or is no number of a row, nil is returned. -/
def run : DatabaseFunction → List Value → Action F (List Value)
  | query, args => do
    let (sql, parameters) ← statement args
    let rows ← Action.serve (.query sql parameters)
    if rows.isEmpty then pure [.nil]
    else pure [← Action.ofJson (.arr (rows.map Json.ofMap))]
  | singleQuery, args => do
    let (sql, parameters) ← statement args
    let rows ← Action.serve (.query sql parameters)
    pure [← Action.ofJson? (rows.head?.map Json.ofMap)]
  | execute, args => do
    let (sql, parameters) ← statement args
    let result ← Action.serve (.execute sql parameters)
    pure [.ofInt result.rowsAffected, .ofInt? result.lastInsertId]

end DatabaseFunction

end ScriptHost
