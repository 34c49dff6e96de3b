import ServiceStubs.Code.Description
import ServiceStubs.StubModule

/-!
# The tidy layout of a stub module

A tidied module has its expressions and descriptions laid out anew. A module that cannot be read
is not tidied: the texts in it may hold quotes, so what stands in a value is only known after
reading it, and a class name may not start with a digit.
-/

namespace ServiceStubs.Layout

/-- The lines of a statement in a tidied module, if its code can be read. -/
def lines? : Statement → Option (List String)
  | .line text => some [text]
  | .description indent code =>
    (Code.Expression.ofCode? code).map fun expression => expression.description indent
  | .assignment indent target value =>
    (Code.Expression.ofCode? value).map fun expression => expression.assignment indent target

/-- Whether a class name is a name. -/
def isClassName (name : String) : Bool :=
  match name.toList with
  | [] => true
  | first :: _ => !first.isDigit

/-- The tidied text of a module, if it can be tidied. -/
def tidy (module : StubModule) : Option String :=
  if module.model.services.all fun service => isClassName service.className then do
    let lines ← module.statements.mapM lines?
    some (StubModule.ofLines lines.flatten)
  else none

end ServiceStubs.Layout
