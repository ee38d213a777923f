import ListScript.Session
import ListScript.Text.Quoted

/-!
# Descriptions

The description of a value or of a part of a session shows its structure, for the host and not for
programs. Where the shown form of a value is bare, its description names the kind of every value in
it. A lambda is described by its parameters and its body, and its frame is left out.
-/

namespace ListScript

namespace Value

mutual

/-- The description of a value. -/
def describe : Value → String
  | .atom .symbol text => "Symbol(" ++ text ++ ")"
  | .atom .integer text => "Integer(" ++ text ++ ")"
  | .atom .double text => "Double(" ++ text ++ ")"
  | .atom .string text => "String(\"" ++ text ++ "\")"
  | .list items => "List(" ++ ", ".intercalate (describeEach items) ++ ")"
  | .native name _ => "NativeProcedure(" ++ name ++ ")"
  | .lambda params body _ =>
    "Lambda(params=" ++ quoteList params ++ ", body=" ++ describe body ++ ")"

/-- The description of each value. -/
def describeEach : List Value → List String
  | [] => []
  | v :: rest => describe v :: describeEach rest

end

end Value

/-- The word for a truth value of the host. -/
def flagText (flag : Bool) : String :=
  if flag then "true" else "false"

/-- A record with its fields. With `more`, it says that there are others. -/
def describeRecord (name : String) (fields : List (String × String)) (more : Bool) : String :=
  let shown := fields.map fun (field, text) => field ++ ": " ++ text
  let shown := if more then shown ++ [".."] else shown
  name ++ " \x7b " ++ ", ".intercalate shown ++ " \x7d"

/-- A frame is described by the number of its own bindings and whether it has a parent. -/
def Scopes.describeFrame (s : Scopes) (id : FrameId) : String :=
  describeRecord "Environment"
    [("bindings", Nat.repr (s.bindings id).size),
      ("has_parent", flagText (s.parent? id).isSome)] false

/-- A draft is described by its text and by what keeps it from being complete. -/
def Draft.describe (draft : Draft) : String :=
  describeRecord "Feeder"
    [("buffer", quote draft.text), ("depth", integerText draft.depth),
      ("in_string", flagText draft.quoted)] true

namespace Setting

/-- The parts of a setting that a host chooses. -/
def describe (setting : Setting) : String :=
  describeRecord "Config"
    [("include_dirs", quoteList setting.includeDirs),
      ("max_eval_depth", Nat.repr setting.depthLimit)] false

/-- The evaluation that a setting leads to. -/
def describeEvaluation (setting : Setting) : String :=
  describeRecord "Evaluator"
    [("special_forms", quoteList (SpecialForm.all.map SpecialForm.name)),
      ("max_depth", Nat.repr setting.depthLimit)] false

end Setting

namespace Session

/-- The description of the root frame. -/
def describeRoot (s : Session) : String :=
  s.store.scopes.describeFrame rootFrame

/-- The description of the whole session. -/
def describe (s : Session) : String :=
  describeRecord "Interpreter"
    [("env", s.describeRoot), ("feeder", s.draft.describe), ("config", s.setting.describe)] true

end Session

end ListScript
