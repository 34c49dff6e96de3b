/-!
# Line endings

Files may end their lines in three ways. Text that is read from a file has one way only.
-/

namespace ServiceStubs.Text

/-- Every carriage return, with the line feed after it if there is one, becomes a line feed. -/
def unifyNewlines : List Char → List Char
  | '\r' :: '\n' :: rest => '\n' :: unifyNewlines rest
  | '\r' :: rest => '\n' :: unifyNewlines rest
  | character :: rest => character :: unifyNewlines rest
  | [] => []

end ServiceStubs.Text
